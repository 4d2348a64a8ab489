import TTSignal.Conn.Connection
import TTSignal.Json.Reader
import TTSignal.Smp.Parser
import TTSignal.Text

/-!
# Command packets

A command packet carries a JSON document. `ProcessPacket` of the client and of the server
reads it into a value and looks up its members without asking what the value is, and when
the handshake is finished the client enters members into the properties it was given as
JSON text. The reader leaves a value of any type, so every one of these accesses asserts
that the peer, or the caller, sent an object or null.
-/

namespace SMP

open Json Text

/-- What is used of the JSON library and of the build. -/
structure CommandLib where
  /-- What the reader relies on. -/
  reader : ReaderLib
  /-- `Json::FastWriter::write`. -/
  write : Value → List UInt8
  /-- `GetSDKVersion`. -/
  sdkVersion : List UInt8

/-- What a document leaves in a value. Whether the reader reports an error is not asked. -/
def CommandLib.parse (lib : CommandLib) (document : List UInt8) (root : Value) : Value :=
  (Reader.parse lib.reader document root).1

/-- What the handler of a connection is told, and what is sent. -/
inductive CommandNotice where
  | onExecDone (result : Conn.BCRESULT) (msg : List UInt8)
  | onStreamCreated (nStreamId : UInt32)
  | onRecvCmd (header : SMPHeader) (msg : List UInt8)
  | onRecvData (header : SMPHeader) (msg : List UInt8)
  | onHandshakeFinished
  | onConnect (props : List UInt8)
  | sendPacket (data : List UInt8)
  deriving DecidableEq

/-- `SMP_TYPE_COMMAND`. -/
def smpTypeCommand : UInt8 := 1

/-- `SMP_TYPE_MESSAGE`. -/
def smpTypeMessage : UInt8 := 2

/-- A client connection as far as it deals with commands. Its handler is set. -/
structure CommandClient where
  /-- The rest of the connection. -/
  conn : Conn.SMPConnection
  /-- `scheme_`. -/
  scheme : List UInt8
  /-- `host_`. -/
  host : List UInt8
  /-- `port_`. -/
  port : UInt16
  /-- `path_`. -/
  path : List UInt8
  /-- `query_`. -/
  query : List UInt8
  /-- `props_`. -/
  props : Value
  /-- `total_succeed_connections` of the connector. -/
  totalSucceedConnections : ℕ
  /-- The notices so far. -/
  told : List CommandNotice

/-- A server connection as far as it deals with commands. Its handler is set. -/
structure CommandServer where
  /-- `state_ == CONN_STATE_CONNECTED`. -/
  connected : Bool
  /-- `total_succeed_connections` of the server. -/
  totalSucceedConnections : ℕ
  /-- The notices so far. -/
  told : List CommandNotice
  deriving DecidableEq

/-- A command as the rest of a client connection looks at it. -/
def commandOf (root : Value) : Conn.Command where
  transId :=
    match root.member (ofString "transId") with
    | .int n => some n
    | _ => none
  name :=
    if (root.member (ofString "name")).eqString (ofString "_result") then .result
    else if (root.member (ofString "name")).eqString (ofString "_error") then .error
    else .other

variable (lib : CommandLib)

namespace CommandClient

variable (c : CommandClient)

/-- The handler is told something, or something is sent. -/
def tell (notice : CommandNotice) : CommandClient := { c with told := c.told ++ [notice] }

/-- The properties of a `Connect` call: the text is read into `props_`, without one they are
an empty object. -/
def setProps (text : Option (List UInt8)) : CommandClient :=
  { c with props := text.elim (.object []) fun text => lib.parse text c.props }

/-- The text that a positive answer is reported with. -/
def resultText (msg : List UInt8) (root : Value) : Except Fault (List UInt8) := do
  let root ← root.resolveReference (ofString "props")
  if (root.member (ofString "props")).isObject then
    let root ← root.resolveReference (ofString "props")
    let props ← (root.member (ofString "props")).assign (ofString "sdkVersion")
      (.string lib.sdkVersion)
    .ok (lib.write (root.overwrite (ofString "props") props))
  else .ok msg

/-- The peer has accepted the connect. -/
def onResult (header : SMPHeader) (text : List UInt8) : CommandClient :=
  { (c.tell (.onExecDone .success text)).tell (.onStreamCreated header.nStreamId) with
    conn := c.conn.acceptConnect
    totalSucceedConnections := c.totalSucceedConnections + 1 }

/-- The peer has refused the connect. -/
def onError (msg : List UInt8) : CommandClient :=
  { c.tell (.onExecDone .failure
      (msg ++ ofString "(sdkVersion=" ++ lib.sdkVersion ++ ofString ")")) with
    conn := c.conn.refuseConnect }

/-- The answer to the pending connect. -/
def onAnswer (header : SMPHeader) (msg : List UInt8) (root : Value) :
    Except Fault CommandClient := do
  let root ← root.resolveReference (ofString "name")
  if (root.member (ofString "name")).eqString (ofString "_result") then
    let text ← resultText lib msg root
    .ok (c.onResult header text)
  else
    let root ← root.resolveReference (ofString "name")
    if (root.member (ofString "name")).eqString (ofString "_error") then .ok (c.onError lib msg)
    else .ok c

/-- A command is noted as received. -/
def received (root : Value) : CommandClient :=
  { c with conn := c.conn.note (.received (commandOf root)) }

/-- `ProcessPacket` for a command packet, with the value that the reader has left. -/
def onCommand (header : SMPHeader) (msg : List UInt8) (root : Value) :
    Except Fault CommandClient := do
  let root ← root.resolveReference (ofString "transId")
  if (root.member (ofString "transId")).eqInt 1 && c.conn.connectRpc.isSome then
    (c.received root).onAnswer lib header msg root
  else .ok ((c.received root).tell (.onRecvCmd header msg))

/-- `SMPConnection::ProcessPacket`. -/
def processPacket (header : SMPHeader) (msg : List UInt8) : Except Fault CommandClient :=
  if header.eDataType = smpTypeCommand then c.onCommand lib header msg (lib.parse msg .null)
  else if header.eDataType = smpTypeMessage then .ok (c.tell (.onRecvData header msg))
  else .ok c

/-- The connect command and the properties after it was built. -/
def connectCommand : Except Fault (Value × Value) := do
  let root ← (Value.object []).assign (ofString "name") (.string (ofString "connect"))
  let root ← root.assign (ofString "transId") (.int 1)
  let props ← c.props.assign (ofString "scheme") (.string c.scheme)
  let props ← props.assign (ofString "host") (.string c.host)
  let props ← props.assign (ofString "port") (.int c.port.toNat)
  let props ← props.assign (ofString "path") (.string c.path)
  let props ← props.assign (ofString "query") (.string c.query)
  let root ← root.assign (ofString "props") props
  .ok (root, props)

/-- The handler is told that the handshake is finished. -/
def tellHandshake : CommandClient :=
  { c.tell .onHandshakeFinished with conn := c.conn.withState .connecting }

/-- The connect command is sent. -/
def sendConnect (command : Value × Value) : CommandClient :=
  { c.tell (.sendPacket (lib.write command.1)) with
    props := command.2
    conn := c.conn.note .sendConnect }

/-- `OnHandshakeFinished`, when the stream could be created or not. -/
def onHandshakeFinished (created : Bool) : Except Fault CommandClient :=
  if c.conn.webtransport then .ok c.tellHandshake
  else if ¬ created then .ok c.tellHandshake
  else if c.conn.connectRpc.isSome then
    c.connectCommand.map fun command => c.tellHandshake.sendConnect lib command
  else .ok c.tellHandshake

end CommandClient

namespace CommandServer

variable (s : CommandServer)

/-- The handler is told something. -/
def tell (notice : CommandNotice) : CommandServer := { s with told := s.told ++ [notice] }

/-- The client asks to connect. -/
def onConnect (props : List UInt8) : CommandServer :=
  { s.tell (.onConnect props) with
    connected := true
    totalSucceedConnections := s.totalSucceedConnections + 1 }

/-- The part of `ProcessPacket` for a command with transaction 1. -/
def onFirst (header : SMPHeader) (msg : List UInt8) (root : Value) :
    Except Fault CommandServer := do
  let root ← root.resolveReference (ofString "name")
  if (root.member (ofString "name")).eqString (ofString "connect") then
    let root ← root.resolveReference (ofString "props")
    .ok (s.onConnect (lib.write (root.member (ofString "props"))))
  else .ok (s.tell (.onRecvCmd header msg))

/-- `ProcessPacket` of the server for a command packet, with the value that the reader has left. -/
def onCommand (header : SMPHeader) (msg : List UInt8) (root : Value) :
    Except Fault CommandServer := do
  let root ← root.resolveReference (ofString "transId")
  if (root.member (ofString "transId")).eqInt 1 then s.onFirst lib header msg root
  else .ok (s.tell (.onRecvCmd header msg))

/-- `SMPServerConnection::ProcessPacket`. -/
def processPacket (header : SMPHeader) (msg : List UInt8) : Except Fault CommandServer :=
  if header.eDataType = smpTypeCommand then s.onCommand lib header msg (lib.parse msg .null)
  else if header.eDataType = smpTypeMessage then .ok (s.tell (.onRecvData header msg))
  else .ok s

end CommandServer

variable {lib}

/-- A bind after a result. -/
theorem bind_of_ok {ε α β : Type} {x : Except ε α} {a : α} (h : x = .ok a) (f : α → Except ε β) :
    (x >>= f) = f a := by
  rw [h]
  rfl

/-- A bind after an error. -/
theorem bind_of_error {ε α β : Type} {x : Except ε α} {e : ε} (h : x = .error e)
    (f : α → Except ε β) : (x >>= f) = .error e := by
  rw [h]
  rfl

namespace CommandClient

variable {c : CommandClient} {header : SMPHeader} {msg : List UInt8} {root : Value}

/-- The result of an object has a text. -/
theorem exists_resultText (hroot : root.isObject = true) :
    ∃ text, resultText lib msg root = .ok text := by
  obtain ⟨root', hroot', hobject⟩ := Value.exists_resolveReference hroot (ofString "props")
  rw [resultText, bind_of_ok hroot']
  split
  case isTrue hprops =>
    obtain ⟨root'', hroot'', -⟩ := Value.exists_resolveReference hobject (ofString "props")
    have hmember := Value.member_of_resolveReference hroot'' (ofString "props")
    obtain ⟨props, hassign, -⟩ := Value.exists_assign (hmember ▸ hprops) (ofString "sdkVersion")
      (.string lib.sdkVersion)
    rw [bind_of_ok hroot'', bind_of_ok hassign]
    exact ⟨_, rfl⟩
  case isFalse => exact ⟨msg, rfl⟩

/-- An answer that is an object is handled. -/
theorem exists_onAnswer (hroot : root.isObject = true) :
    ∃ c', c.onAnswer lib header msg root = .ok c' := by
  obtain ⟨root', hroot', hobject⟩ := Value.exists_resolveReference hroot (ofString "name")
  rw [onAnswer, bind_of_ok hroot']
  split
  case isTrue =>
    obtain ⟨text, htext⟩ : ∃ text, resultText lib msg root' = .ok text :=
      exists_resultText hobject
    rw [bind_of_ok htext]
    exact ⟨_, rfl⟩
  case isFalse =>
    obtain ⟨root'', hroot'', -⟩ := Value.exists_resolveReference hobject (ofString "name")
    rw [bind_of_ok hroot'']
    split <;> exact ⟨_, rfl⟩

/-- A command is handled exactly when the reader has left null or an object. -/
theorem onCommand_ok_iff :
    (∃ c', c.onCommand lib header msg root = .ok c') ↔ root.isObject = true := by
  constructor
  · rintro ⟨c', hc'⟩
    by_contra hroot
    rw [onCommand, bind_of_error (Value.resolveReference_error hroot _)] at hc'
    exact absurd hc' (by simp)
  · intro hroot
    obtain ⟨root', hroot', hobject⟩ := Value.exists_resolveReference hroot (ofString "transId")
    rw [onCommand, bind_of_ok hroot']
    split
    · exact exists_onAnswer hobject
    · exact ⟨_, rfl⟩

/-- A packet is handled exactly when it is no command or the reader has left null or an
object. -/
theorem processPacket_ok_iff :
    (∃ c', c.processPacket lib header msg = .ok c') ↔
      (header.eDataType = smpTypeCommand → (lib.parse msg .null).isObject = true) := by
  unfold processPacket
  split
  case isTrue hcommand =>
    rw [onCommand_ok_iff]
    simp [hcommand]
  case isFalse hcommand =>
    simp only [hcommand, false_implies, iff_true]
    split <;> exact ⟨_, rfl⟩

/-- The connect command is built exactly when the properties are null or an object. -/
theorem connectCommand_ok_iff :
    (∃ command, c.connectCommand = .ok command) ↔ c.props.isObject = true := by
  obtain ⟨named, hnamed, hnamed'⟩ := Value.exists_assign (v := .object []) rfl (ofString "name")
    (.string (ofString "connect"))
  obtain ⟨root, hroot, hroot'⟩ := Value.exists_assign hnamed' (ofString "transId") (.int 1)
  rw [connectCommand, bind_of_ok hnamed, bind_of_ok hroot]
  constructor
  · rintro ⟨command, hcommand⟩
    by_contra hprops
    rw [bind_of_error (Value.assign_error hprops _ _)] at hcommand
    exact absurd hcommand (by simp)
  · intro hprops
    obtain ⟨_, hscheme, h⟩ := Value.exists_assign hprops (ofString "scheme") (.string c.scheme)
    obtain ⟨_, hhost, h⟩ := Value.exists_assign h (ofString "host") (.string c.host)
    obtain ⟨_, hport, h⟩ := Value.exists_assign h (ofString "port") (.int c.port.toNat)
    obtain ⟨_, hpath, h⟩ := Value.exists_assign h (ofString "path") (.string c.path)
    obtain ⟨props, hquery, -⟩ := Value.exists_assign h (ofString "query") (.string c.query)
    obtain ⟨_, hassign, -⟩ := Value.exists_assign hroot' (ofString "props") props
    rw [bind_of_ok hscheme, bind_of_ok hhost, bind_of_ok hport, bind_of_ok hpath,
      bind_of_ok hquery, bind_of_ok hassign]
    exact ⟨_, rfl⟩

/-- The end of the handshake is handled exactly when no connect command is built or the
properties are null or an object. -/
theorem onHandshakeFinished_ok_iff {created : Bool} :
    (∃ c', c.onHandshakeFinished lib created = .ok c') ↔
      (c.conn.webtransport = false → created = true → c.conn.connectRpc.isSome = true →
        c.props.isObject = true) := by
  unfold onHandshakeFinished
  split
  case isTrue hweb => simp [hweb]
  case isFalse hweb =>
    split
    case isTrue hcreated => simp_all
    case isFalse hcreated =>
      split
      case isTrue hrpc =>
        rw [← connectCommand_ok_iff]
        simp only [hrpc, Bool.not_eq_true] at hweb hcreated ⊢
        cases hcommand : c.connectCommand <;> simp_all [Except.map]
      case isFalse hrpc => simp [hrpc]

end CommandClient

namespace CommandServer

variable {s : CommandServer} {header : SMPHeader} {msg : List UInt8} {root : Value}

/-- A command of the server is handled exactly when the reader has left null or an object. -/
theorem onCommand_ok_iff :
    (∃ s', s.onCommand lib header msg root = .ok s') ↔ root.isObject = true := by
  constructor
  · rintro ⟨s', hs'⟩
    by_contra hroot
    rw [onCommand, bind_of_error (Value.resolveReference_error hroot _)] at hs'
    exact absurd hs' (by simp)
  · intro hroot
    obtain ⟨root', hroot', hobject⟩ := Value.exists_resolveReference hroot (ofString "transId")
    rw [onCommand, bind_of_ok hroot']
    split
    case isTrue =>
      obtain ⟨named, hnamed, hobject⟩ := Value.exists_resolveReference hobject (ofString "name")
      rw [onFirst, bind_of_ok hnamed]
      split
      case isTrue =>
        obtain ⟨_, hprops, -⟩ := Value.exists_resolveReference hobject (ofString "props")
        rw [bind_of_ok hprops]
        exact ⟨_, rfl⟩
      case isFalse => exact ⟨_, rfl⟩
    case isFalse => exact ⟨_, rfl⟩

/-- A packet of the server is handled exactly when it is no command or the reader has left null or
an object. -/
theorem processPacket_ok_iff :
    (∃ s', s.processPacket lib header msg = .ok s') ↔
      (header.eDataType = smpTypeCommand → (lib.parse msg .null).isObject = true) := by
  unfold processPacket
  split
  case isTrue hcommand =>
    rw [onCommand_ok_iff]
    simp [hcommand]
  case isFalse hcommand =>
    simp only [hcommand, false_implies, iff_true]
    split <;> exact ⟨_, rfl⟩

end CommandServer

section Conn

variable {c c' : CommandClient} {header : SMPHeader} {msg : List UInt8} {root : Value}

/-- The packet as the rest of a client connection looks at it. -/
def packetOf (lib : CommandLib) (header : SMPHeader) (msg : List UInt8) : Conn.Packet :=
  if header.eDataType = smpTypeCommand then .command (commandOf (lib.parse msg .null)) else .other

/-- An access does not change the command. -/
theorem commandOf_of_resolveReference {root' : Value} {key : List UInt8}
    (h : root.resolveReference key = .ok root') : commandOf root' = commandOf root := by
  simp only [commandOf, Value.member_of_resolveReference h]

/-- The transaction of a command is the first when its number equals 1. -/
theorem transId_commandOf :
    (commandOf root).transId = some 1 ↔ (root.member (ofString "transId")).eqInt 1 = true := by
  unfold commandOf
  cases root.member (ofString "transId") <;> simp [Value.eqInt]

/-- What the answer to the connect does to the rest of the connection. -/
theorem conn_onAnswer (h : c.onAnswer lib header msg root = .ok c') :
    c'.conn = c.conn.onConnectAnswer (commandOf root).name := by
  cases hnamed : root.resolveReference (ofString "name") with
  | error e =>
    rw [CommandClient.onAnswer, bind_of_error hnamed] at h
    exact absurd h (by simp)
  | ok root' =>
    rw [CommandClient.onAnswer, bind_of_ok hnamed] at h
    rw [← commandOf_of_resolveReference hnamed]
    simp only [commandOf]
    split at h
    case isTrue hresult =>
      rw [if_pos hresult]
      cases htext : CommandClient.resultText lib msg root' with
      | error e =>
        rw [bind_of_error htext] at h
        exact absurd h (by simp)
      | ok text =>
        rw [bind_of_ok htext] at h
        rw [← Except.ok.inj h]
        rfl
    case isFalse hresult =>
      rw [if_neg hresult]
      cases hagain : root'.resolveReference (ofString "name") with
      | error e =>
        rw [bind_of_error hagain] at h
        exact absurd h (by simp)
      | ok root'' =>
        rw [bind_of_ok hagain, Value.member_of_resolveReference hagain] at h
        split at h
        case isTrue herror =>
          rw [if_pos herror, ← Except.ok.inj h]
          rfl
        case isFalse herror =>
          rw [if_neg herror, ← Except.ok.inj h]
          rfl

/-- A packet that is handled does to the rest of the connection what the connection without
its documents does. -/
theorem conn_processPacket (h : c.processPacket lib header msg = .ok c') :
    c'.conn = c.conn.processPacket (packetOf lib header msg) := by
  unfold CommandClient.processPacket at h
  unfold packetOf
  split at h
  case isTrue hcommand =>
    rw [if_pos hcommand]
    cases htrans : (lib.parse msg .null).resolveReference (ofString "transId") with
    | error e =>
      rw [CommandClient.onCommand, bind_of_error htrans] at h
      exact absurd h (by simp)
    | ok root =>
      rw [CommandClient.onCommand, bind_of_ok htrans] at h
      rw [← commandOf_of_resolveReference htrans]
      simp only [Conn.SMPConnection.processPacket, transId_commandOf]
      split at h
      case isTrue hanswer =>
        rw [if_pos (by simpa using hanswer)]
        exact conn_onAnswer h
      case isFalse hother =>
        rw [if_neg (by simpa using hother), ← Except.ok.inj h]
        rfl
  case isFalse hcommand =>
    rw [if_neg hcommand]
    split at h <;> rw [← Except.ok.inj h] <;> rfl

/-- So does the end of the handshake. -/
theorem conn_onHandshakeFinished {created : Bool}
    (h : c.onHandshakeFinished lib created = .ok c') :
    c'.conn = c.conn.onHandshakeFinished created := by
  unfold CommandClient.onHandshakeFinished at h
  unfold Conn.SMPConnection.onHandshakeFinished
  split at h
  case isTrue hweb =>
    rw [if_neg (by simp [hweb]), ← Except.ok.inj h]
    rfl
  case isFalse hweb =>
    split at h
    case isTrue hcreated =>
      rw [if_neg (by simp_all), ← Except.ok.inj h]
      rfl
    case isFalse hcreated =>
      split at h
      case isTrue hrpc =>
        rw [if_pos (by simp_all)]
        cases hcommand : c.connectCommand with
        | error e => simp [hcommand, Except.map] at h
        | ok command =>
          rw [hcommand] at h
          rw [← Except.ok.inj h]
          rfl
      case isFalse hrpc =>
        rw [if_neg (by simp_all), ← Except.ok.inj h]
        rfl

end Conn

/-- Every keyed access of the command handlers is to null or an object exactly when the
document of a command packet, and the text of the properties where a connect command is
built, begin with a token that leaves null or an object. -/
theorem commands_handled_iff (lib : CommandLib) (c : CommandClient) (s : CommandServer)
    (header : SMPHeader) (msg : List UInt8) (text : Option (List UInt8)) (created : Bool) :
    ((∃ c', c.processPacket lib header msg = .ok c') ↔
      (header.eDataType = smpTypeCommand →
        Reader.leavesObject lib.reader msg .null = true)) ∧
    ((∃ s', s.processPacket lib header msg = .ok s') ↔
      (header.eDataType = smpTypeCommand →
        Reader.leavesObject lib.reader msg .null = true)) ∧
    ((∃ c', (c.setProps lib text).onHandshakeFinished lib created = .ok c') ↔
      (c.conn.webtransport = false → created = true → c.conn.connectRpc.isSome = true →
        ∀ t ∈ text, Reader.leavesObject lib.reader t c.props = true)) := by
  have hparse (document : List UInt8) (root : Value) :
      (lib.parse document root).isObject = Reader.leavesObject lib.reader document root :=
    Reader.isObject_parse document root
  rw [CommandClient.processPacket_ok_iff, CommandServer.processPacket_ok_iff, hparse,
    CommandClient.onHandshakeFinished_ok_iff]
  refine ⟨Iff.rfl, Iff.rfl, ?_⟩
  cases text with
  | none => simp [CommandClient.setProps, Value.isObject]
  | some t => simp [CommandClient.setProps, hparse]

/-- A command packet and properties that consist of an empty array. -/
theorem not_commands_handled_array :
    ∃ (lib : CommandLib) (c : CommandClient) (s : CommandServer) (header : SMPHeader),
      c.processPacket lib header (ofString "[]") = .error .typeAssertion ∧
      s.processPacket lib header (ofString "[]") = .error .typeAssertion ∧
      (c.setProps lib (some (ofString "[]"))).onHandshakeFinished lib true =
        .error .typeAssertion := by
  let lib : CommandLib :=
    { reader := ⟨fun _ => none, 0⟩
      write := fun _ => []
      sdkVersion := [] }
  let config : Conn.Config := ⟨'B', ['r', 'a', 'w'], false, false, 0⟩
  let c : CommandClient :=
    { conn := { Conn.SMPConnection.create config false with connectRpc := some 0 }
      scheme := [], host := [], port := 0, path := [], query := [], props := .null
      totalSucceedConnections := 0, told := [] }
  have hread : Reader.skipCommentTokens (ofString "[]") = Reader.readToken (ofString "[]") := by
    rw [Reader.skipCommentTokens, if_neg (by decide)]
  have hparse : lib.parse (ofString "[]") .null = .array [] := by
    rw [CommandLib.parse, Reader.parse, Reader.readValue, hread]
    rfl
  refine ⟨lib, c, ⟨true, 0, []⟩, ⟨smpTypeCommand, 2, 0, 0, 0⟩, ?_, ?_, ?_⟩
  · change c.onCommand lib _ _ (lib.parse (ofString "[]") .null) = _
    rw [hparse]
    rfl
  · change CommandServer.onCommand lib ⟨true, 0, []⟩ _ _ (lib.parse (ofString "[]") .null) = _
    rw [hparse]
    rfl
  · have hprops : (c.setProps lib (some (ofString "[]"))).props = .array [] := hparse
    have hcommand : (c.setProps lib (some (ofString "[]"))).connectCommand =
        .error .typeAssertion := by
      rw [CommandClient.connectCommand, hprops]
      rfl
    change ((c.setProps lib (some (ofString "[]"))).connectCommand.map _) = _
    rw [hcommand]
    rfl

end SMP
