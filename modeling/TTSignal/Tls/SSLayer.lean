import Mathlib.Data.List.Basic
import Mathlib.Tactic.Common

/-!
# The TLS layer `SSLayer`

`SSLayer` stands between a TCP channel and a TLS session. `ReadFromSSL` puts received
ciphertext into `buffer_`, lets the session take it through `buffer_read`, collects
plaintext in the block buffer `data_` and hands it to `OnRecvDataFromSSL`. The session is
a parameter: a state with the two calls the layer makes. Both buffers are byte strings
here; of the block structure of `data_` only the room left in the last block matters.
-/

namespace Tls

/-- The outcome of `SSL_connect` or `SSL_accept`. -/
inductive HandshakeResult where
  /-- The call returned 1. -/
  | done
  /-- The call returned 0. -/
  | shutdown
  /-- The call returned a negative value; `reported` if the error queue holds a text. -/
  | failed (reported : Bool)
  deriving DecidableEq

/-- The outcome of `SSL_read`. -/
inductive ReadResult where
  /-- A positive count, with the bytes written to the buffer. -/
  | received (bytes : List UInt8)
  /-- A negative value; `reported` if the error queue holds a text. -/
  | failed (reported : Bool)
  /-- Zero: the peer has sent `close_notify`. -/
  | closed
  deriving DecidableEq

/-- A TLS session: its calls work on its state and on the ciphertext in `buffer_`, which
is `none` after `buffer_.reset()`. -/
structure SslOps (σ : Type*) where
  /-- `SSL_connect` or `SSL_accept`. -/
  handshake : σ → Option (List UInt8) → HandshakeResult × σ × Option (List UInt8)
  /-- `SSL_read` with a buffer of the given size. -/
  read : σ → Option (List UInt8) → ℕ → ReadResult × σ × Option (List UInt8)

/-- The calls `SSLayer` makes to its handler. -/
inductive SslOutput where
  /-- `OnSSLReady`. -/
  | ready
  /-- `OnRecvDataFromSSL`. -/
  | recvData (bytes : List UInt8)
  /-- `OnSSLFinished`. -/
  | finished
  /-- `OnSSLError`. -/
  | error
  deriving DecidableEq

/-- `SSLayer` with its session. -/
structure SSLayer (σ : Type*) where
  /-- `ssl_`. -/
  ssl : σ
  /-- `ssl_state_ == SSL_STATE_RW`. -/
  isReady : Bool
  /-- `buffer_`: the ciphertext not read yet, `none` for the null pointer. -/
  buffer : Option (List UInt8)
  /-- `data_`: the plaintext collected. -/
  data : List UInt8
  /-- The calls made so far. -/
  outputs : List SslOutput

/-- `SSLayer::buffer_read`: the bytes read, none when it would block, and the buffer after
the call. A drained buffer is released. -/
def bufferRead (buffer : Option (List UInt8)) (size : ℕ) : List UInt8 × Option (List UInt8) :=
  match buffer with
  | none => ([], none)
  | some bytes =>
    if bytes = [] then ([], some bytes)
    else (bytes.take size, if bytes.drop size = [] then none else some (bytes.drop size))

/-- The size `GetWritableBlock(INFINITE)` offers: the room in the last block. -/
def writableSize (used : ℕ) : ℕ := 8192 - used % 8192

/-- The pieces `ReadBlock` cuts collected data into. -/
def readBlocks : ℕ → List UInt8 → List (List UInt8)
  | 0, _ => []
  | fuel + 1, bytes =>
    if bytes = [] then [] else bytes.take 8192 :: readBlocks fuel (bytes.drop 8192)

namespace SSLayer

variable {σ : Type*} (ops : SslOps σ)

/-- `ConnectSSL` or `AcceptSSL`. -/
def connectSSL (s : SSLayer σ) : SSLayer σ :=
  if s.isReady ∨ s.buffer = none then s
  else
    let r := ops.handshake s.ssl s.buffer
    match r.1 with
    | .done =>
      { s with
        ssl := r.2.1, buffer := r.2.2, isReady := true, outputs := s.outputs ++ [.ready] }
    | .shutdown => { s with ssl := r.2.1, buffer := r.2.2 }
    | .failed reported =>
      { s with
        ssl := r.2.1, buffer := r.2.2
        outputs := if reported then s.outputs ++ [.error] else s.outputs }

/-- The read loop of `ReadFromSSL`, which runs while ciphertext is left, and whether it
ended because the session was finished. -/
def readLoop : ℕ → SSLayer σ → Bool × SSLayer σ
  | 0, s => (false, s)
  | fuel + 1, s =>
    if s.buffer.getD [] = [] then (false, s)
    else
      let r := ops.read s.ssl s.buffer (writableSize s.data.length)
      match r.1 with
      | .received bytes =>
        readLoop fuel { s with ssl := r.2.1, buffer := r.2.2, data := s.data ++ bytes }
      | .failed reported =>
        readLoop fuel
          { s with
            ssl := r.2.1, buffer := r.2.2
            outputs := if reported then s.outputs ++ [.error] else s.outputs }
      | .closed => (true, { s with ssl := r.2.1, buffer := r.2.2 })

/-- Hand the collected plaintext over and empty `data_`. -/
def deliver (s : SSLayer σ) : SSLayer σ :=
  { s with
    data := []
    outputs := s.outputs ++ (readBlocks s.data.length s.data).map .recvData }

/-- Put received ciphertext behind what is left in the buffer. -/
def receive (s : SSLayer σ) (chunk : List UInt8) : SSLayer σ :=
  { s with buffer := some (s.buffer.getD [] ++ chunk) }

/-- `SSLayer::ReadFromSSL`; the fuel bounds the turns of the read loop. -/
def readFromSSL (fuel : ℕ) (s : SSLayer σ) (chunk : List UInt8) : SSLayer σ :=
  let s := (s.receive chunk).connectSSL ops
  if s.isReady then
    let r := s.readLoop ops fuel
    let s := r.2.deliver
    if r.1 then { s with outputs := s.outputs ++ [.finished] } else s
  else s

/-- The plaintext handed to `OnRecvDataFromSSL` so far. -/
def delivered (s : SSLayer σ) : List UInt8 :=
  s.outputs.flatMap fun
    | .recvData bytes => bytes
    | .ready => []
    | .finished => []
    | .error => []

end SSLayer

/-- The blocks put together are the data. -/
theorem flatten_readBlocks {fuel : ℕ} {bytes : List UInt8} (hfuel : bytes.length ≤ fuel) :
    (readBlocks fuel bytes).flatten = bytes := by
  induction fuel generalizing bytes with
  | zero =>
    have hnil : bytes = [] := List.length_eq_zero_iff.mp (by omega)
    rw [hnil]
    rfl
  | succ fuel ih =>
    rw [readBlocks]
    split
    · rename_i hnil
      rw [hnil]
      rfl
    · rename_i hne
      have hpos := List.length_pos_iff.mpr hne
      rw [List.flatten_cons, ih (by rw [List.length_drop]; omega), List.take_append_drop]

/-- Delivering hands over exactly the collected plaintext. -/
theorem SSLayer.delivered_deliver {σ : Type*} (s : SSLayer σ) :
    s.deliver.delivered = s.delivered ++ s.data := by
  have hflat (blocks : List (List UInt8)) :
      ((blocks.map SslOutput.recvData).flatMap fun
        | .recvData bytes => bytes
        | .ready => []
        | .finished => []
        | .error => []) = blocks.flatten := by
    rw [List.flatMap_map]
    simp [List.flatMap_def]
  simp only [delivered, deliver, List.flatMap_append, hflat, flatten_readBlocks (Nat.le_refl _)]

end Tls
