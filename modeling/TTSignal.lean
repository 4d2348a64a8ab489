import TTSignal.Runs
import TTSignal.Loops
import TTSignal.Traces
import TTSignal.Bytes
import TTSignal.Blocks
import TTSignal.Framing
import TTSignal.Staged
import TTSignal.BC.Buffer
import TTSignal.BC.Content
import TTSignal.BC.Shared
import TTSignal.BC.Extract
import TTSignal.BC.EventQueue
import TTSignal.Smp.Parser
import TTSignal.Smp.Decoding
import TTSignal.Smp.RoundTrip
import TTSignal.Smp.Packet
import TTSignal.Smp.SendQueue
import TTSignal.Smp.SendOrder
import TTSignal.Smp.OnRead
import TTSignal.Smp.ServerSend
import TTSignal.Tls.SSLayer
import TTSignal.Tls.Session
import TTSignal.Tls.ReadLoop
import TTSignal.Tls.Termination
import TTSignal.Tls.Delivery
import TTSignal.Cert.Verify
import TTSignal.Cert.FailClosed
import TTSignal.Tcp.Channel
import TTSignal.Tcp.Steps
import TTSignal.Tcp.Quiet
import TTSignal.Tcp.Sound
import TTSignal.Tcp.Lifecycle
import TTSignal.Tcp.Verified
import TTSignal.Tcp.Connecting
import TTSignal.Tcp.Physical
import TTSignal.Http.Steps
import TTSignal.Conn.Connection
import TTSignal.Conn.Connector
import TTSignal.Conn.Closing
import TTSignal.Conn.Updates
import TTSignal.Conn.NotStuck
import TTSignal.Conn.Tunnel
import TTSignal.Conn.Ownership
import TTSignal.Conn.Results
import TTSignal.Ws.Turns
import TTSignal.Ws.Chunks
import TTSignal.Ws.Handshake
import TTSignal.Ws.Limits
import TTSignal.Ws.Broken
import TTSignal.Ws.Frames
import TTSignal.Ws.Connection
import TTSignal.Ws.Protocol
import TTSignal.Ws.Discipline
import TTSignal.Ws.Connector
import TTSignal.Ws.Accounting
import TTSignal.Ws.Shutdown
import TTSignal.Ws.Reassembly
import TTSignal.Ws.BuildFrame
import TTSignal.Ws.Fidelity
import TTSignal.Http.Connector
import TTSignal.Http.Stages
import TTSignal.Http.Calls
import TTSignal.Http.Pool
import TTSignal.Http.Channels
import TTSignal.Http.Updates
import TTSignal.Http.Changes
import TTSignal.Http.Handover
import TTSignal.Http.Deletion
import TTSignal.Server.Server
import TTSignal.Server.Accounting
import TTSignal.Server.Initial
import TTSignal.Server.Streams
import TTSignal.Tcp.RawSend
import TTSignal.Masque.Framing
import TTSignal.Masque.Datagrams
import TTSignal.Reading
import TTSignal.Dns.Message
import TTSignal.Dns.Parse
import TTSignal.Dns.Resolver
import TTSignal.Dns.Lookups
import TTSignal.Dns.Caching
import TTSignal.Smp.Packers
import TTSignal.Smp.Reset
import TTSignal.Http.Url
import TTSignal.Http.PoolKey
import TTSignal.Guarded
import TTSignal.Http.Response
import TTSignal.Http.Assembling
import TTSignal.Conn.PathChange
import TTSignal.Conn.Streams
import TTSignal.Json.Value
import TTSignal.Smp.Commands
import TTSignal.Tcp.AfterCleanup
import TTSignal.Conn.Truthful
import TTSignal.Conn.Serving
import TTSignal.Conn.Served
import TTSignal.Http.Sound
import TTSignal.Conn.ProxyUrl
import TTSignal.Http.Threads
import TTSignal.Base64
import TTSignal.Cert.SpkiPin
import TTSignal.Dns.Encoding
import TTSignal.Ws.Request
import TTSignal.Ws.Check
import TTSignal.Ws.Acceptance
import TTSignal.Udp.Sender
import TTSignal.Udp.Serving
import TTSignal.Percent
import TTSignal.Masque.Path
import TTSignal.Uri
import TTSignal.Buckets
import TTSignal.Http.IdleMap
import TTSignal.Http.Filed
import TTSignal.Udp.Ladder
import TTSignal.Udp.Group
import TTSignal.Tcp.Firm
import TTSignal.Tcp.Reported
import TTSignal.Udp.Phases
import TTSignal.Udp.Queue
import TTSignal.Http.Tasks
import TTSignal.Http.Drained
import TTSignal.Dispatches
import TTSignal.Http.Owned
import TTSignal.Http.Parked
import TTSignal.Http.Guards
import TTSignal.Http.Notice
import TTSignal.Http.Pending
import TTSignal.Http.Destroyed
import TTSignal.Http.Settled
import TTSignal.Heaps
import TTSignal.BC.Heap
import TTSignal.BC.Time
import TTSignal.BC.Timer
import TTSignal.BC.Dispatch
import TTSignal.BC.Wakeups
import TTSignal.BC.Alarm
import TTSignal.BC.Alone
import TTSignal.BC.TimerRuns
