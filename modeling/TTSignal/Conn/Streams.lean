import TTSignal.Conn.Updates
import TTSignal.Runs
import Mathlib.Algebra.Group.Nat.Defs
import Mathlib.Data.List.AList
import Mathlib.Data.List.Count

/-!
# The streams of a client connection

The engine tells a client connection which raw or WebTransport streams it opens and closes.
The connection keeps an `SMPStream` for each of them in `stream_map_`, and tells its handler
which streams come and go, by their ids as 32-bit numbers. A stream is announced when it is
opened or, if it is stream 0 of a raw connection, by the answer to the connect. Its end is
reported by the stream object, and for every stream but stream 0 of a raw connection once
more by the callback that closes it.
-/

namespace Conn

open Runs

/-- An `SMPStream` object. -/
structure SMPStream where
  /-- `stream_id_`. -/
  streamId : UInt64
  /-- Where the object is. -/
  address : ℕ
  deriving DecidableEq, Repr

/-- The streams that the engine opens, and what the handler is told. -/
inductive StreamNotice where
  | opened (id : UInt64)
  | onStreamCreated (nStreamId : UInt32)
  | onStreamClosed (nStreamId : UInt32)
  deriving DecidableEq, Repr

/-- A client connection with its streams. Its handler is set. -/
structure StreamsConnection where
  /-- The rest of the connection. -/
  conn : SMPConnection
  /-- `stream_map_`. -/
  streamMap : AList fun _ : UInt64 => SMPStream
  /-- The open streams of the engine with their user data. -/
  userData : UInt64 → Option SMPStream
  /-- The address of the next object. -/
  next : ℕ
  /-- The streams and the notifications so far, the last one first. -/
  notices : List StreamNotice

/-- Whether a packet is the positive answer to the pending connect. -/
def SMPConnection.acceptedBy (s : SMPConnection) : Packet → Bool
  | .command c => c.transId = some 1 && s.connectRpc.isSome && c.name = .result
  | .other => false

namespace StreamsConnection

/-- A connection without streams. -/
def create (conn : SMPConnection) : StreamsConnection where
  conn := conn
  streamMap := ∅
  userData := fun _ => none
  next := 0
  notices := []

variable (s : StreamsConnection)

/-- Something is noted. -/
def note (notice : StreamNotice) : StreamsConnection := { s with notices := notice :: s.notices }

/-- `OnStreamCreate`: a new object is the user data of the stream and is entered. -/
def onStreamCreate (id : UInt64) : StreamsConnection :=
  { s with
    userData := Function.update s.userData id (some ⟨id, s.next⟩)
    next := s.next + 1
    streamMap := s.streamMap.insert id ⟨id, s.next⟩ }

/-- The test by which the callbacks of the engine tell the handler about a stream. -/
def tells (id : UInt32) : Bool := s.conn.webtransport || (!s.conn.webtransport && 0 < id)

/-- `on_raw_stream_create_notify`. -/
def onRawStreamCreateNotify (id : UInt64) : StreamsConnection :=
  if s.tells id.toUInt32 then (s.onStreamCreate id).note (.onStreamCreated id.toUInt32)
  else s.onStreamCreate id

/-- `SMPStream::OnClose`. The destructor takes the object out of the map. -/
def onClose (stream : SMPStream) : StreamsConnection :=
  { s.note (.onStreamClosed stream.streamId.toUInt32) with
    streamMap := s.streamMap.erase stream.streamId }

/-- `on_raw_stream_close_notify`, for a stream with an object. -/
def onRawStreamCloseNotify (id : UInt64) (stream : SMPStream) : StreamsConnection :=
  if s.tells id.toUInt32 then (s.onClose stream).note (.onStreamClosed id.toUInt32)
  else s.onClose stream

/-- `ProcessPacket`, for a packet of a stream. The parser of the stream gives the packet the
number of the stream. -/
def processPacket (stream : SMPStream) (packet : Packet) : StreamsConnection :=
  if s.conn.acceptedBy packet then
    { s with conn := s.conn.processPacket packet }.note (.onStreamCreated stream.streamId.toUInt32)
  else { s with conn := s.conn.processPacket packet }

/-- `SMPStream::OnRead`, with the packets that the parser of the stream completes. -/
def onRead (stream : SMPStream) (packets : List Packet) : StreamsConnection :=
  if s.conn.closeCheck.2 then { s with conn := s.conn.closeCheck.1 }
  else packets.foldl (fun s packet => s.processPacket stream packet)
    { s with conn := s.conn.closeCheck.1 }

/-- The engine opens a stream. -/
def openStream (id : UInt64) : StreamsConnection :=
  (s.note (.opened id)).onRawStreamCreateNotify id

/-- The engine closes a stream and forgets it. -/
def closeStream (id : UInt64) (stream : SMPStream) : StreamsConnection :=
  { s.onRawStreamCloseNotify id stream with userData := Function.update s.userData id none }

end StreamsConnection

/-- What can happen to a connection with its streams. Packets come through their streams. -/
inductive StreamsEvent where
  | streamCreate (id : UInt64)
  | streamClose (id : UInt64)
  | streamRead (id : UInt64) (packets : List Packet)
  | other (e : SMPConnection.Event)
  deriving DecidableEq, Repr

namespace StreamsConnection

/-- One event. The engine opens a stream once and closes and reads open streams only. -/
def step (s : StreamsConnection) : StreamsEvent → StreamsConnection
  | .streamCreate id => if (s.userData id).isSome then s else s.openStream id
  | .streamClose id =>
    match s.userData id with
    | none => s
    | some stream => s.closeStream id stream
  | .streamRead id packets =>
    match s.userData id, s.conn.phase with
    | some stream, .inEngine _ => s.onRead stream packets
    | _, _ => s
  | .other (.callback (.streamRead _)) => s
  | .other e => { s with conn := s.conn.step e }

end StreamsConnection

/-- Whether a packet of a read is the positive answer to the pending connect. -/
def SMPConnection.readsAnswer : SMPConnection → List Packet → Bool
  | _, [] => false
  | s, packet :: packets => s.acceptedBy packet || (s.processPacket packet).readsAnswer packets

namespace StreamsConnection

/-- Whether a read of the stream brings the positive answer to the pending connect. -/
def receivesAnswer (s : StreamsConnection) (id : UInt64) (packets : List Packet) : Bool :=
  match s.userData id, s.conn.phase with
  | some _, .inEngine _ => !s.conn.closeCheck.2 && s.conn.closeCheck.1.readsAnswer packets
  | _, _ => false

/-- A stream that the create callback announces has a 32-bit id. Only stream 0 of a raw
connection is closed, and the positive answer to the connect comes on it. -/
def SpeaksOnce (s : StreamsConnection) : StreamsEvent → Prop
  | .streamCreate id => s.userData id = none → s.tells id.toUInt32 = true → id.toNat < 2 ^ 32
  | .streamClose id => (s.userData id).isSome = true → s.conn.webtransport = false ∧ id = 0
  | .streamRead id packets =>
    s.receivesAnswer id packets = true → s.conn.webtransport = false ∧ id = 0
  | .other _ => True

/-- The engine opens streams with 32-bit ids, and only when it is decided whether the connection
is a raw one. -/
def OpensInTime (s : StreamsConnection) : StreamsEvent → Prop
  | .streamCreate id => s.userData id = none →
      id.toNat < 2 ^ 32 ∧ s.conn.webtransport = s.conn.config.isH3
  | _ => True

end StreamsConnection

/-- The notice is `OnStreamCreated` for the stream. -/
def StreamNotice.isCreated (id : UInt64) : StreamNotice → Bool
  | .onStreamCreated n => n.toUInt64 = id
  | _ => false

/-- The notice is `OnStreamClosed` for the stream. -/
def StreamNotice.isClosed (id : UInt64) : StreamNotice → Bool
  | .onStreamClosed n => n.toUInt64 = id
  | _ => false

namespace StreamsConnection

/-- The notices since the stream was opened last. -/
def life (s : StreamsConnection) (id : UInt64) : List StreamNotice :=
  s.notices.takeWhile fun notice => notice ≠ .opened id

/-- How often the stream was announced in its last life. -/
def created (s : StreamsConnection) (id : UInt64) : ℕ := (s.life id).countP (·.isCreated id)

/-- How often the end of the stream was reported in its last life. -/
def closed (s : StreamsConnection) (id : UInt64) : ℕ := (s.life id).countP (·.isClosed id)

/-- The stream has been opened. -/
def WasOpened (s : StreamsConnection) (id : UInt64) : Prop := .opened id ∈ s.notices

instance (s : StreamsConnection) (id : UInt64) : Decidable (s.WasOpened id) :=
  inferInstanceAs (Decidable (StreamNotice.opened id ∈ s.notices))

/-- What the handler is meant to be told: a stream is announced at most once in its life, and
its end is reported once when it is closed. The map holds exactly the open streams. -/
structure Notified (s : StreamsConnection) : Prop where
  /-- A stream is announced once at most, and only when it has been opened. -/
  created : ∀ id, s.created id ≤ if s.WasOpened id then 1 else 0
  /-- A stream that was opened and has gone is reported closed once, and no other is. -/
  closed : ∀ id, s.closed id = if s.WasOpened id ∧ s.userData id = none then 1 else 0
  /-- The map holds the streams that the engine holds. -/
  streamMap : ∀ id stream, s.streamMap.lookup id = some stream ↔ s.userData id = some stream

/-- The number is that of a stream that has been opened and was not announced since. -/
def Announceable (s : StreamsConnection) (n : UInt32) : Prop :=
  s.WasOpened n.toUInt64 ∧ s.created n.toUInt64 = 0

/-- The positive answer to the connect announces a stream that can be announced. -/
def AnswersOnce (stream : SMPStream) (s : StreamsConnection) (packet : Packet) : Prop :=
  s.conn.acceptedBy packet = true → s.Announceable stream.streamId.toUInt32

/-- Only streams that can be announced are, and no stream is closed but stream 0 of a raw
connection. -/
def TellsOnce (s : StreamsConnection) : StreamsEvent → Prop
  | .streamCreate id => s.userData id = none → s.tells id.toUInt32 = true →
      (s.note (.opened id)).Announceable id.toUInt32
  | .streamClose id => (s.userData id).isSome = true → s.conn.webtransport = false ∧ id = 0
  | .streamRead id packets => ∀ stream ∈ s.userData id, ∀ unchecked,
      s.conn.phase = .inEngine unchecked → s.conn.closeCheck.2 = false →
        Meets (fun s packet => s.processPacket stream packet) (AnswersOnce stream)
          { s with conn := s.conn.closeCheck.1 } packets
  | .other _ => True

section Counts

variable (s : StreamsConnection) (id : UInt64)

/-- A stream that is opened begins its life unannounced. -/
theorem created_note_opened (j : UInt64) :
    (s.note (.opened j)).created id = if j = id then 0 else s.created id := by
  by_cases h : j = id <;> simp [created, life, note, h, StreamNotice.isCreated]

/-- It begins its life without a report of its end. -/
theorem closed_note_opened (j : UInt64) :
    (s.note (.opened j)).closed id = if j = id then 0 else s.closed id := by
  by_cases h : j = id <;> simp [closed, life, note, h, StreamNotice.isClosed]

/-- An announcement counts for the stream of its number. -/
@[simp] theorem created_note_onStreamCreated (n : UInt32) :
    (s.note (.onStreamCreated n)).created id =
      s.created id + if n.toUInt64 = id then 1 else 0 := by
  simp [created, life, note, StreamNotice.isCreated, List.countP_cons]

/-- It is no report of an end. -/
@[simp] theorem closed_note_onStreamCreated (n : UInt32) :
    (s.note (.onStreamCreated n)).closed id = s.closed id := by
  simp [closed, life, note, StreamNotice.isClosed]

/-- A report of an end is no announcement. -/
@[simp] theorem created_note_onStreamClosed (n : UInt32) :
    (s.note (.onStreamClosed n)).created id = s.created id := by
  simp [created, life, note, StreamNotice.isCreated]

/-- It counts for the stream of its number. -/
@[simp] theorem closed_note_onStreamClosed (n : UInt32) :
    (s.note (.onStreamClosed n)).closed id =
      s.closed id + if n.toUInt64 = id then 1 else 0 := by
  simp [closed, life, note, StreamNotice.isClosed, List.countP_cons]

/-- The streams that were opened are this one and those before. -/
theorem wasOpened_note_opened (j : UInt64) :
    (s.note (.opened j)).WasOpened id ↔ id = j ∨ s.WasOpened id := by
  simp [WasOpened, note]

/-- An announcement opens nothing. -/
@[simp] theorem wasOpened_note_onStreamCreated (n : UInt32) :
    (s.note (.onStreamCreated n)).WasOpened id ↔ s.WasOpened id := by
  simp [WasOpened, note]

/-- Nor does a report of an end. -/
@[simp] theorem wasOpened_note_onStreamClosed (n : UInt32) :
    (s.note (.onStreamClosed n)).WasOpened id ↔ s.WasOpened id := by
  simp [WasOpened, note]

end Counts

/-- The invariant: the handler was told what it is meant to be told, and every open stream
has its object. -/
structure Kept (s : StreamsConnection) : Prop extends Notified s where
  /-- What the engine holds was opened. -/
  opened : ∀ id, (s.userData id).isSome = true → s.WasOpened id
  /-- It is held under its own number. -/
  streamId : ∀ id stream, s.userData id = some stream → stream.streamId = id

variable {s t : StreamsConnection}

/-- Before the first stream nothing has been opened. -/
theorem Kept.create (conn : SMPConnection) : Kept (StreamsConnection.create conn) where
  created := by
    intro id
    exact Nat.zero_le _
  closed := by
    intro id
    have hnever : ¬ (StreamsConnection.create conn).WasOpened id := List.not_mem_nil
    rw [if_neg fun h => hnever h.1]
    rfl
  streamMap := by simp [StreamsConnection.create]
  opened := by simp [StreamsConnection.create]
  streamId := by simp [StreamsConnection.create]

/-- The invariant speaks of the streams only. -/
theorem Kept.withConn (h : Kept s) (conn : SMPConnection) : Kept { s with conn := conn } :=
  ⟨⟨h.created, h.closed, h.streamMap⟩, h.opened, h.streamId⟩

/-- A stream that can be announced is announced. -/
theorem Kept.announce (h : Kept s) {n : UInt32} (hn : s.Announceable n) :
    Kept (s.note (.onStreamCreated n)) where
  created := by
    intro id
    rw [created_note_onStreamCreated]
    simp only [wasOpened_note_onStreamCreated]
    by_cases hid : n.toUInt64 = id
    · subst hid
      simp [hn.1, hn.2]
    · simpa [hid] using h.created id
  closed := by
    intro id
    rw [closed_note_onStreamCreated]
    simp only [wasOpened_note_onStreamCreated]
    exact h.closed id
  streamMap := h.streamMap
  opened := fun id hid => (wasOpened_note_onStreamCreated s id n).mpr (h.opened id hid)
  streamId := h.streamId

/-- An announcement of any other stream is one too many. -/
theorem not_notified_announce {n : UInt32} (hn : ¬ s.Announceable n) :
    ¬ Notified (s.note (.onStreamCreated n)) := by
  intro h
  have hcreated := h.created n.toUInt64
  rw [created_note_onStreamCreated, if_pos rfl] at hcreated
  simp only [wasOpened_note_onStreamCreated] at hcreated
  split at hcreated
  case isTrue hopened => exact hn ⟨hopened, by omega⟩
  case isFalse => omega

/-- The engine opens a stream, and its object is entered. -/
theorem Kept.onStreamCreate (h : Kept s) {id : UInt64} (hid : s.userData id = none) :
    Kept ((s.note (.opened id)).onStreamCreate id) where
  created := by
    intro j
    change (s.note (.opened id)).created j ≤ if (s.note (.opened id)).WasOpened j then 1 else 0
    rw [created_note_opened]
    simp only [wasOpened_note_opened]
    by_cases hj : id = j
    · simp [hj]
    · simpa [hj, Ne.symm hj] using h.created j
  closed := by
    intro j
    change (s.note (.opened id)).closed j =
      if (s.note (.opened id)).WasOpened j ∧
        Function.update s.userData id (some ⟨id, s.next⟩) j = none then 1 else 0
    rw [closed_note_opened]
    simp only [wasOpened_note_opened]
    by_cases hj : id = j
    · simp [hj]
    · simpa [hj, Ne.symm hj] using h.closed j
  streamMap := by
    intro j stream
    change (s.streamMap.insert id ⟨id, s.next⟩).lookup j = some stream ↔
      Function.update s.userData id (some ⟨id, s.next⟩) j = some stream
    by_cases hj : j = id
    · subst hj
      simp
    · rw [AList.lookup_insert_ne hj, Function.update_of_ne hj, h.streamMap]
  opened := by
    intro j hj
    refine (wasOpened_note_opened s j id).mpr ?_
    by_cases hid : j = id
    · exact Or.inl hid
    · have hsome : (Function.update s.userData id (some ⟨id, s.next⟩) j).isSome = true := hj
      rw [Function.update_of_ne hid] at hsome
      exact Or.inr (h.opened j hsome)
  streamId := by
    intro j stream hstream
    have hupdate : Function.update s.userData id (some ⟨id, s.next⟩) j = some stream := hstream
    by_cases hid : j = id
    · rw [hid, Function.update_self] at hupdate
      rw [hid, ← Option.some.inj hupdate]
    · rw [Function.update_of_ne hid] at hupdate
      exact h.streamId j stream hupdate

/-- Opening a stream. -/
theorem Kept.openStream (h : Kept s) {id : UInt64} (hid : s.userData id = none)
    (htells : s.tells id.toUInt32 = true → (s.note (.opened id)).Announceable id.toUInt32) :
    Kept (s.openStream id) := by
  have hcreate := h.onStreamCreate hid
  unfold StreamsConnection.openStream onRawStreamCreateNotify
  split
  case isTrue hid' => exact hcreate.announce (htells hid')
  case isFalse => exact hcreate

/-- A stream that is announced when its number is not announceable breaks the rules. -/
theorem not_notified_openStream {id : UInt64} (htells : s.tells id.toUInt32 = true)
    (hid : ¬ (s.note (.opened id)).Announceable id.toUInt32) : ¬ Notified (s.openStream id) := by
  have hopen : s.openStream id =
      ((s.note (.opened id)).onStreamCreate id).note (.onStreamCreated id.toUInt32) :=
    if_pos htells
  rw [hopen]
  exact not_notified_announce hid

/-- The end of a stream is reported as often as the stream object and the callback do. -/
theorem closed_closeStream (h : Kept s) {id : UInt64} {stream : SMPStream}
    (hstream : s.userData id = some stream) (j : UInt64) :
    (s.closeStream id stream).closed j = s.closed j +
      (if id.toUInt32.toUInt64 = j then 1 else 0) +
      if s.tells id.toUInt32 = true ∧ id.toUInt32.toUInt64 = j then 1 else 0 := by
  have hid := h.streamId id stream hstream
  have honce : (s.onClose stream).closed j =
      s.closed j + if id.toUInt32.toUInt64 = j then 1 else 0 := by
    change (s.note (.onStreamClosed stream.streamId.toUInt32)).closed j = _
    rw [hid, closed_note_onStreamClosed]
  change (s.onRawStreamCloseNotify id stream).closed j = _
  unfold onRawStreamCloseNotify
  split
  case isTrue htells =>
    rw [closed_note_onStreamClosed, honce]
    simp [htells]
  case isFalse htells => simpa [htells] using honce

/-- The end of a stream announces nothing. -/
theorem created_closeStream (id : UInt64) (stream : SMPStream) (j : UInt64) :
    (s.closeStream id stream).created j = s.created j := by
  have honce : (s.onClose stream).created j = s.created j :=
    created_note_onStreamClosed s j stream.streamId.toUInt32
  change (s.onRawStreamCloseNotify id stream).created j = _
  unfold onRawStreamCloseNotify
  split
  case isTrue => rw [created_note_onStreamClosed, honce]
  case isFalse => exact honce

/-- It opens nothing. -/
theorem wasOpened_closeStream (id : UInt64) (stream : SMPStream) (j : UInt64) :
    (s.closeStream id stream).WasOpened j ↔ s.WasOpened j := by
  have honce : (s.onClose stream).WasOpened j ↔ s.WasOpened j :=
    wasOpened_note_onStreamClosed s j stream.streamId.toUInt32
  change (s.onRawStreamCloseNotify id stream).WasOpened j ↔ _
  unfold onRawStreamCloseNotify
  split
  case isTrue => rw [wasOpened_note_onStreamClosed, honce]
  case isFalse => exact honce

/-- It takes the stream off the map. -/
theorem streamMap_closeStream (id : UInt64) (stream : SMPStream) :
    (s.closeStream id stream).streamMap = s.streamMap.erase stream.streamId := by
  change (s.onRawStreamCloseNotify id stream).streamMap = _
  unfold onRawStreamCloseNotify
  split <;> rfl

/-- It leaves the connection as it is. -/
theorem conn_closeStream (id : UInt64) (stream : SMPStream) :
    (s.closeStream id stream).conn = s.conn := by
  change (s.onRawStreamCloseNotify id stream).conn = s.conn
  unfold onRawStreamCloseNotify
  split <;> rfl

/-- An open stream has been opened, and its end was not reported. -/
theorem Kept.of_userData (h : Kept s) {id : UInt64} {stream : SMPStream}
    (hstream : s.userData id = some stream) : s.WasOpened id ∧ s.closed id = 0 := by
  refine ⟨h.opened id (by rw [hstream]; rfl), ?_⟩
  rw [h.closed, if_neg fun hnone => by simp [hstream] at hnone]

/-- Closing stream 0 of a raw connection. -/
theorem Kept.closeStream (h : Kept s) {stream : SMPStream} (hstream : s.userData 0 = some stream)
    (hraw : s.conn.webtransport = false) : Kept (s.closeStream 0 stream) where
  created := by
    intro j
    rw [created_closeStream]
    simp only [wasOpened_closeStream]
    exact h.created j
  closed := by
    intro j
    have hsilent : s.tells (0 : UInt64).toUInt32 = false := by simp [tells, hraw]
    have hzero : (0 : UInt64).toUInt32.toUInt64 = 0 := rfl
    rw [closed_closeStream h hstream, hsilent, hzero]
    simp only [wasOpened_closeStream, Bool.false_eq_true, false_and, if_false, Nat.add_zero]
    change _ = if s.WasOpened j ∧ Function.update s.userData 0 none j = none then 1 else 0
    by_cases hj : 0 = j
    · subst hj
      simp [h.of_userData hstream]
    · simpa [hj, Ne.symm hj] using h.closed j
  streamMap := by
    intro j other
    rw [streamMap_closeStream, h.streamId 0 stream hstream]
    change _ ↔ Function.update s.userData 0 none j = some other
    by_cases hj : j = 0
    · subst hj
      simp
    · rw [AList.lookup_erase_ne hj, Function.update_of_ne hj, h.streamMap]
  opened := by
    intro j hj
    rw [wasOpened_closeStream]
    have hsome : (Function.update s.userData 0 none j).isSome = true := hj
    by_cases hzero : j = 0
    · simp [hzero] at hsome
    · rw [Function.update_of_ne hzero] at hsome
      exact h.opened j hsome
  streamId := by
    intro j other hother
    have hupdate : Function.update s.userData 0 none j = some other := hother
    by_cases hzero : j = 0
    · simp [hzero] at hupdate
    · rw [Function.update_of_ne hzero] at hupdate
      exact h.streamId j other hupdate

/-- The end of any other stream is reported twice, or for another stream. -/
theorem not_notified_closeStream (h : Kept s) {id : UInt64} {stream : SMPStream}
    (hstream : s.userData id = some stream) (hid : ¬ (s.conn.webtransport = false ∧ id = 0)) :
    ¬ Notified (s.closeStream id stream) := by
  intro hnotified
  have hclosed := hnotified.closed id
  have hgone : (s.closeStream id stream).userData id = none := Function.update_self _ _ _
  rw [if_pos ⟨(wasOpened_closeStream id stream id).mpr (h.of_userData hstream).1, hgone⟩,
    closed_closeStream h hstream, (h.of_userData hstream).2] at hclosed
  by_cases hnumber : id.toUInt32.toUInt64 = id
  · have hsilent : ¬ s.tells id.toUInt32 = true := by
      intro htells
      simp [hnumber, htells] at hclosed
    refine hid ?_
    cases hraw : s.conn.webtransport with
    | true => simp [tells, hraw] at hsilent
    | false =>
      refine ⟨rfl, ?_⟩
      have hzero : id.toUInt32 = 0 := by
        simp only [tells, hraw, Bool.false_or, Bool.not_false, Bool.true_and,
          decide_eq_true_eq, UInt32.not_lt] at hsilent
        exact UInt32.le_zero_iff.mp hsilent
      rw [← hnumber, hzero]
      rfl
  · simp only [hnumber, and_false, if_false] at hclosed
    omega

/-- A packet is processed by the connection. -/
theorem conn_processPacket (stream : SMPStream) (packet : Packet) :
    (s.processPacket stream packet).conn = s.conn.processPacket packet := by
  unfold StreamsConnection.processPacket
  split <;> rfl

/-- It opens no stream. -/
theorem wasOpened_processPacket (stream : SMPStream) (packet : Packet) (id : UInt64) :
    (s.processPacket stream packet).WasOpened id ↔ s.WasOpened id := by
  unfold StreamsConnection.processPacket
  split
  · exact wasOpened_note_onStreamCreated _ _ _
  · exact Iff.rfl

/-- A packet. -/
theorem Kept.processPacket (h : Kept s) {stream : SMPStream} {packet : Packet}
    (hpacket : AnswersOnce stream s packet) : Kept (s.processPacket stream packet) := by
  unfold StreamsConnection.processPacket
  split
  case isTrue haccepted =>
    exact (h.withConn (s.conn.processPacket packet)).announce (hpacket haccepted)
  case isFalse => exact h.withConn _

/-- A read. -/
theorem Kept.processPackets (h : Kept s) {stream : SMPStream} {packets : List Packet}
    (hpackets : Meets (fun s packet => s.processPacket stream packet) (AnswersOnce stream) s
      packets) : Kept (run (fun s packet => s.processPacket stream packet) s packets) :=
  Runs.invariant_of_meets (C := AnswersOnce stream) (fun _ _ h hC => h.processPacket hC) h hpackets

/-- Once no connect is pending, packets announce nothing. -/
theorem run_processPacket_of_none (stream : SMPStream) (packets : List Packet)
    (hrpc : s.conn.connectRpc = none) :
    ∃ conn, run (fun s packet => s.processPacket stream packet) s packets =
      { s with conn := conn } := by
  induction packets generalizing s with
  | nil => exact ⟨s.conn, rfl⟩
  | cons packet packets ih =>
    have hnot : ¬ s.conn.acceptedBy packet = true := by
      cases packet <;> simp [SMPConnection.acceptedBy, hrpc]
    have hstep : s.processPacket stream packet =
        { s with conn := s.conn.processPacket packet } := if_neg hnot
    have hnone : (s.conn.processPacket packet).connectRpc = none := by
      cases packet <;> simp [SMPConnection.processPacket, SMPConnection.note, hrpc]
    obtain ⟨conn, hconn⟩ := ih (s := { s with conn := s.conn.processPacket packet }) hnone
    refine ⟨conn, ?_⟩
    rw [run_cons, hstep, hconn]

/-- The answer ends the pending connect. -/
theorem connectRpc_of_accepted {conn : SMPConnection} {packet : Packet}
    (h : conn.acceptedBy packet = true) : (conn.processPacket packet).connectRpc = none := by
  cases packet with
  | other => simp [SMPConnection.acceptedBy] at h
  | command c =>
    simp only [SMPConnection.acceptedBy, Bool.and_eq_true, decide_eq_true_eq] at h
    obtain ⟨⟨htrans, hrpc⟩, hname⟩ := h
    simp [SMPConnection.processPacket, htrans, hrpc, hname, SMPConnection.onConnectAnswer,
      SMPConnection.acceptConnect, SMPConnection.notifyConnectResult, SMPConnection.completes,
      SMPConnection.reported, SMPConnection.withState, SMPConnection.note]

/-- A read in which the answer announces a stream that cannot be announced. -/
theorem not_notified_processPackets (h : Kept s) {stream : SMPStream} {packets : List Packet}
    (hpackets : ¬ Meets (fun s packet => s.processPacket stream packet) (AnswersOnce stream) s
      packets) : ¬ Notified (run (fun s packet => s.processPacket stream packet) s packets) := by
  induction packets generalizing s with
  | nil => exact absurd trivial hpackets
  | cons packet packets ih =>
    by_cases hpacket : AnswersOnce stream s packet
    · exact ih (h.processPacket hpacket) fun hrest => hpackets ⟨hpacket, hrest⟩
    · obtain ⟨haccepted, hstream⟩ := Classical.not_imp.mp hpacket
      have hstep : s.processPacket stream packet =
          { s with conn := s.conn.processPacket packet }.note
            (.onStreamCreated stream.streamId.toUInt32) := if_pos haccepted
      obtain ⟨conn, hconn⟩ := run_processPacket_of_none
        (s := s.processPacket stream packet) stream packets
        (by rw [hstep]; exact connectRpc_of_accepted haccepted)
      rw [run_cons, hconn]
      intro hnotified
      refine not_notified_announce hstream
        (s := { s with conn := s.conn.processPacket packet }) ?_
      rw [hstep] at hnotified
      exact ⟨hnotified.created, hnotified.closed, hnotified.streamMap⟩

/-- One event. -/
theorem Kept.step (h : Kept s) {e : StreamsEvent} (he : s.TellsOnce e) : Kept (s.step e) := by
  cases e with
  | streamCreate id =>
    simp only [StreamsConnection.step]
    split
    case isTrue => exact h
    case isFalse hid =>
      have hnone : s.userData id = none := by simpa using hid
      exact h.openStream hnone (he hnone)
  | streamClose id =>
    simp only [StreamsConnection.step]
    split
    case h_1 => exact h
    case h_2 stream hstream =>
      obtain ⟨hraw, rfl⟩ := he (by rw [hstream]; rfl)
      exact h.closeStream hstream hraw
  | streamRead id packets =>
    simp only [StreamsConnection.step]
    split
    case h_1 stream unchecked hstream hphase =>
      unfold onRead
      split
      case isTrue => exact h.withConn _
      case isFalse hcheck =>
        exact (h.withConn _).processPackets
          (he stream hstream unchecked hphase (by simpa using hcheck))
    case h_2 => exact h
  | other e =>
    unfold StreamsConnection.step
    split <;> first | exact h | exact h.withConn _ | contradiction

/-- An event that tells the handler too much. -/
theorem Kept.not_notified_step (h : Kept s) {e : StreamsEvent} (he : ¬ s.TellsOnce e) :
    ¬ Notified (s.step e) := by
  cases e with
  | streamCreate id =>
    simp only [TellsOnce, Classical.not_imp] at he
    obtain ⟨hnone, htells, hid⟩ := he
    have hstep : s.step (.streamCreate id) = s.openStream id := by
      simp [StreamsConnection.step, hnone]
    rw [hstep]
    exact not_notified_openStream htells hid
  | streamClose id =>
    obtain ⟨hsome, hid⟩ := Classical.not_imp.mp he
    obtain ⟨stream, hstream⟩ := Option.isSome_iff_exists.mp hsome
    have hstep : s.step (.streamClose id) = s.closeStream id stream := by
      simp only [StreamsConnection.step, hstream]
    rw [hstep]
    exact not_notified_closeStream h hstream hid
  | streamRead id packets =>
    simp only [TellsOnce, not_forall] at he
    obtain ⟨stream, hstream, unchecked, hphase, hcheck, hpackets⟩ := he
    have hstep : s.step (.streamRead id packets) =
        run (fun s packet => s.processPacket stream packet) { s with conn := s.conn.closeCheck.1 }
          packets := by
      simp only [StreamsConnection.step, Option.mem_def.mp hstream, hphase, onRead, hcheck,
        Bool.false_eq_true, if_false]
      rfl
    rw [hstep]
    exact not_notified_processPackets (h.withConn _) hpackets
  | other e => exact absurd trivial he

/-- The handler is told what it is meant to be told in every state of a run exactly when only
streams are announced that can be, and only stream 0 of a raw connection is closed. -/
theorem always_notified_iff (conn : SMPConnection) (events : List StreamsEvent) :
    (∀ first, first <+: events → Notified (run StreamsConnection.step (create conn) first)) ↔
      Meets StreamsConnection.step TellsOnce (create conn) events :=
  Runs.always_iff_meets (fun _ h => h.toNotified) (fun _ _ h he => h.step he)
    (fun _ _ h he => h.not_notified_step he) (Kept.create conn) events

end StreamsConnection

/-! ## The answer to the connect -/

namespace SMPConnection

variable {a : Allowed} {s t u : SMPConnection}

/-- The configuration stays, the connection becomes an HTTP/3 one only where it is configured so,
and a close that is requested stays requested. -/
structure Steady (s t : SMPConnection) : Prop where
  /-- The configuration. -/
  config : t.config = s.config
  /-- WebTransport is as before, or decided by the configuration. -/
  webtransport : t.webtransport = s.webtransport ∨
    t.webtransport = (s.webtransport || s.config.isH3)
  /-- The aim is as before, or the end. -/
  newState : t.newState = s.newState ∨ t.newState = .freed

/-- What leaves the three alone is steady. -/
theorem Steady.of_same (hconfig : t.config = s.config) (hweb : t.webtransport = s.webtransport)
    (hnew : t.newState = s.newState) : Steady s t := ⟨hconfig, Or.inl hweb, Or.inl hnew⟩

/-- A connection is steady towards itself. -/
theorem Steady.refl (s : SMPConnection) : Steady s s := .of_same rfl rfl rfl

/-- Two steady parts are steady together. -/
theorem Steady.trans (h : Steady s t) (h' : Steady t u) : Steady s u := by
  refine ⟨h'.config.trans h.config, ?_, ?_⟩
  · have hconfig := h.config
    rcases h.webtransport with hst | hst <;> rcases h'.webtransport with htu | htu <;>
      simp [htu, hst, hconfig]
  · rcases h'.newState with htu | htu
    · rw [htu]
      exact h.newState
    · exact Or.inr htu

/-- Every small change is steady. -/
theorem steady_update (h : Update a s t) : Steady s t := by
  cases h with
  | aside phase h3Conn webtransport certVerifyError masqueTunnelReady hset =>
    exact ⟨rfl, hset, Or.inl rfl⟩
  | request status h => exact ⟨rfl, Or.inl rfl, Or.inr rfl⟩
  | closeTunnel => unfold closeTunnel; split <;> exact .of_same rfl rfl rfl
  | tunnelAnswer => unfold masqueOnConnectUdpResponse; split <;> exact .of_same rfl rfl rfl
  | tunnelFailed => unfold masqueOnConnectUdpResponse; split <;> exact .of_same rfl rfl rfl
  | onEngineTimeout => unfold onEngineTimeout; split <;> exact .of_same rfl rfl rfl
  | onTimer call =>
    unfold onTimer
    split
    · exact .of_same rfl rfl rfl
    · split <;> exact .of_same rfl rfl rfl
    · split <;> exact .of_same rfl rfl rfl
    · exact .of_same rfl rfl rfl
  | beginClosing => unfold SMPConnection.beginClosing; split <;> exact .of_same rfl rfl rfl
  | closeQuic => unfold SMPConnection.closeQuic; split <;> exact .of_same rfl rfl rfl
  | _ => exact .of_same rfl rfl rfl

/-- So are several of them. -/
theorem steady_updates (h : Updates a s t) : Steady s t :=
  h.relates Steady.refl (fun _ _ _ => Steady.trans) fun _ _ => steady_update

/-- So is every step. -/
theorem steady_step (s : SMPConnection) (e : Event) : Steady s (s.step e) := by
  by_cases hconnect : e = .connect
  · subst hconnect
    simp only [step, connect]
    split
    · exact .of_same rfl rfl rfl
    · exact .refl s
  by_cases hclosed : e = .tunnelClosed
  · subst hclosed
    exact .of_same rfl rfl rfl
  exact steady_updates (updates_step hconnect hclosed)

/-- A close is requested or not, and only a connection that is configured for HTTP/3 is one. -/
structure Regular (s : SMPConnection) : Prop where
  /-- Nothing but the whole life or the end is asked for. -/
  newState : s.newState = .max ∨ s.newState = .freed
  /-- WebTransport is negotiated over HTTP/3 only. -/
  webtransport : s.webtransport = true → s.config.isH3 = true

/-- A connection before its life is regular. -/
theorem regular_create (config : Config) (tunnel : Bool) : (create config tunnel).Regular :=
  ⟨Or.inl rfl, fun h => absurd h Bool.false_ne_true⟩

/-- A steady part keeps it regular. -/
theorem Regular.steady (h : s.Regular) (hsteady : Steady s t) : t.Regular := by
  refine ⟨?_, fun hweb => ?_⟩
  · rcases hsteady.newState with hsame | hfreed
    · rw [hsame]
      exact h.newState
    · exact Or.inr hfreed
  · rw [hsteady.config]
    rcases hsteady.webtransport with hsame | hset
    · exact h.webtransport (hsame ▸ hweb)
    · rw [hset, Bool.or_eq_true] at hweb
      exact hweb.elim h.webtransport id

/-- An HTTP/3 connection stays one. -/
theorem Steady.webtransport_of (h : Steady s t) (hweb : s.webtransport = true) :
    t.webtransport = true := by
  rcases h.webtransport with hsame | hset
  · rw [hsame, hweb]
  · rw [hset, hweb, Bool.true_or]

/-- No connect is pending, and none will be. -/
def Answered (s : SMPConnection) : Prop :=
  s.connectRpc = none ∧ (ConnState.init.val < s.state.val ∨ s.newState = .freed)

/-- Telling the result of the connect leaves it answered. -/
theorem Answered.notify (h : s.Answered) (stub : Option ℕ) (result : BCRESULT) :
    (s.notifyConnectResult stub result).Answered := by
  refine ⟨?_, h.2⟩
  simp only [notifyConnectResult, h.1]
  split <;> rfl

/-- An answered connection stays answered under every small change. -/
theorem answered_update (h : Update a s t) (hregular : s.Regular) (hs : s.Answered) :
    t.Answered := by
  have hfreed : s.newState ≠ .max → s.newState = .freed := fun hmax =>
    hregular.newState.resolve_left hmax
  cases h with
  | withState state h =>
    rcases h with rfl | rfl
    · exact ⟨hs.1, Or.inl (Nat.le_of_ble_eq_true rfl)⟩
    · exact ⟨hs.1, Or.inl (Nat.le_of_ble_eq_true rfl)⟩
  | request status h => exact ⟨hs.1, Or.inr rfl⟩
  | report result h => exact hs.notify none result
  | reject n result hstub h => exact hs.notify (some n) result
  | await n hstub hopen hstate =>
    exact absurd hstate (Nat.not_le.mpr (hs.2.resolve_right hopen))
  | acceptCommand c hid hname =>
    have hnoted : ((s.note (.received c)).withState .connected).Answered :=
      ⟨hs.1, Or.inl (Nat.le_of_ble_eq_true rfl)⟩
    exact hnoted.notify none .success
  | acceptHeaders headers h =>
    have hnoted : ((s.note (.receivedHeaders (some headers))).withState .connected).Answered :=
      ⟨hs.1, Or.inl (Nat.le_of_ble_eq_true rfl)⟩
    exact hnoted.notify none .success
  | refuse hpending => rw [hs.1] at hpending; cases hpending
  | closeTunnel => unfold closeTunnel; split <;> exact hs
  | tunnelAnswer => unfold masqueOnConnectUdpResponse; split <;> exact hs
  | tunnelFailed => unfold masqueOnConnectUdpResponse; split <;> exact hs
  | onEngineTimeout => unfold onEngineTimeout; split <;> exact hs
  | onTimer call =>
    unfold onTimer
    split
    · exact hs
    · split <;> exact hs
    · split <;> exact hs
    · exact hs
  | beginClosing h =>
    unfold SMPConnection.beginClosing
    split
    · exact ⟨hs.1, Or.inr (hfreed h)⟩
    · exact hs
  | closeQuic h =>
    unfold SMPConnection.closeQuic
    split
    · exact ⟨hs.1, Or.inr (hfreed h)⟩
    · exact hs
  | conclude h hstate hsocket htunnel =>
    exact ⟨(hs.notify none s.closeStatus).1, Or.inr (hfreed h)⟩
  | _ => exact hs

/-- It does under several of them. -/
theorem answered_updates (h : Updates a s t) (hregular : s.Regular) (hs : s.Answered) :
    t.Answered :=
  (h.keeps (P := fun s => s.Regular ∧ s.Answered) (fun _ _ hupdate hs =>
    ⟨hs.1.steady (steady_update hupdate), answered_update hupdate hs.1 hs.2⟩) ⟨hregular, hs⟩).2

/-- It does in every step. -/
theorem answered_step (hregular : s.Regular) (hs : s.Answered) (e : Event) :
    (s.step e).Answered := by
  by_cases hconnect : e = .connect
  · subst hconnect
    simp only [step, connect]
    split
    · exact hs
    · exact hs
  by_cases hclosed : e = .tunnelClosed
  · subst hclosed
    exact hs
  exact answered_updates (updates_step hconnect hclosed) hregular hs

/-- The positive answer leaves nothing pending. -/
theorem answered_of_accepted {packet : Packet} (h : s.acceptedBy packet = true) :
    (s.processPacket packet).Answered := by
  refine ⟨StreamsConnection.connectRpc_of_accepted h, Or.inl ?_⟩
  cases packet with
  | other => simp [acceptedBy] at h
  | command c =>
    simp only [acceptedBy, Bool.and_eq_true, decide_eq_true_eq] at h
    obtain ⟨⟨htrans, hrpc⟩, hname⟩ := h
    simp [processPacket, htrans, hrpc, hname, onConnectAnswer, acceptConnect, notifyConnectResult,
      withState, note, ConnState.val]

/-- A packet does not decide about the transport. -/
theorem webtransport_processPacket (packet : Packet) :
    (s.processPacket packet).webtransport = s.webtransport := by
  cases packet with
  | other => rfl
  | command c =>
    simp only [processPacket]
    split
    · cases c.name with
      | result => rfl
      | error =>
        simp only [onConnectAnswer, refuseConnect, close]
        split <;> rfl
      | other => rfl
    · rfl

end SMPConnection

namespace StreamsConnection

variable {s t : StreamsConnection}

/-- What a read does to the rest of the connection. -/
theorem conn_onRead (stream : SMPStream) (packets : List Packet) :
    (s.onRead stream packets).conn = s.conn.onStreamRead packets := by
  have hfold (t : StreamsConnection) :
      (packets.foldl (fun s packet => s.processPacket stream packet) t).conn =
        packets.foldl SMPConnection.processPacket t.conn := by
    induction packets generalizing t with
    | nil => rfl
    | cons packet packets ih => rw [List.foldl_cons, List.foldl_cons, ih, conn_processPacket]
  unfold onRead SMPConnection.onStreamRead SMPConnection.guarded
  split
  case isTrue => rfl
  case isFalse => exact hfold _

/-- The connection with its streams runs as the connection does without them. -/
theorem conn_run (s : StreamsConnection) (events : List StreamsEvent) :
    ∃ connEvents, (run StreamsConnection.step s events).conn =
      run SMPConnection.step s.conn connEvents := by
  induction events generalizing s with
  | nil => exact ⟨[], rfl⟩
  | cons e events ih =>
    obtain ⟨connEvents, hrun⟩ := ih (s.step e)
    suffices hstep : (s.step e).conn = s.conn ∨ ∃ e', (s.step e).conn = s.conn.step e' by
      rcases hstep with hstay | ⟨e', hstep⟩
      · exact ⟨connEvents, by rw [run_cons, hrun, hstay]⟩
      · exact ⟨e' :: connEvents, by rw [run_cons, hrun, hstep, run_cons]⟩
    cases e with
    | streamCreate id =>
      left
      simp only [StreamsConnection.step, StreamsConnection.openStream, onRawStreamCreateNotify]
      split
      · rfl
      · split <;> rfl
    | streamClose id =>
      left
      simp only [StreamsConnection.step, StreamsConnection.closeStream, onRawStreamCloseNotify]
      split
      · rfl
      · dsimp only
        split <;> rfl
    | streamRead id packets =>
      simp only [StreamsConnection.step]
      split
      case h_1 stream unchecked hstream hphase =>
        right
        refine ⟨.callback (.streamRead packets), ?_⟩
        rw [conn_onRead]
        simp only [SMPConnection.step, hphase, SMPConnection.onCallback]
      case h_2 => exact Or.inl rfl
    | other e =>
      unfold StreamsConnection.step
      split
      case h_4 => exact Or.inl rfl
      all_goals first | contradiction | exact Or.inr ⟨_, rfl⟩

/-! ## Runs in which every stream is announced once -/

/-- The invariant of these runs: once stream 0 of a raw connection has been announced in its
life, no answer is to come. -/
structure Once (s : StreamsConnection) : Prop extends Kept s where
  /-- The connection is regular. -/
  regular : s.conn.Regular
  /-- Stream 0 of a raw connection has been announced because the connect was answered. -/
  answered : 0 < s.created 0 → s.conn.webtransport = false → s.conn.Answered

/-- A connection without streams has announced none. -/
theorem Once.create (config : Config) (tunnel : Bool) :
    Once (StreamsConnection.create (SMPConnection.create config tunnel)) where
  toKept := Kept.create _
  regular := SMPConnection.regular_create config tunnel
  answered := fun hcreated => absurd hcreated (Nat.lt_irrefl 0)

/-- What the connection does besides keeps the invariant. -/
theorem Once.withConn (h : Once s) {conn : SMPConnection} (hsteady : s.conn.Steady conn)
    (hanswered : s.conn.Answered → conn.Answered) : Once { s with conn := conn } where
  toKept := h.toKept.withConn conn
  regular := h.regular.steady hsteady
  answered := by
    intro hcreated hraw
    refine hanswered (h.answered hcreated ?_)
    by_contra hweb
    have htrue := hsteady.webtransport_of (by simpa using hweb)
    rw [show conn.webtransport = false from hraw] at htrue
    cases htrue

/-- Stream 0 of a raw connection can be announced by the answer. -/
theorem Once.announceable (h : Once s) (hopened : s.WasOpened 0)
    (hraw : s.conn.webtransport = false) {packet : Packet}
    (haccepted : s.conn.acceptedBy packet = true) : s.Announceable 0 := by
  refine ⟨hopened, Nat.eq_zero_of_not_pos fun hcreated => ?_⟩
  have hnone := (h.answered hcreated hraw).1
  cases packet with
  | other => simp [SMPConnection.acceptedBy] at haccepted
  | command c => simp [SMPConnection.acceptedBy, hnone] at haccepted

/-- The answer comes on stream 0 of a raw connection. -/
theorem Once.answersOnce (h : Once s) {stream : SMPStream} {packet : Packet}
    (hopened : s.WasOpened stream.streamId)
    (hzero : s.conn.acceptedBy packet = true →
      s.conn.webtransport = false ∧ stream.streamId = 0) : AnswersOnce stream s packet := by
  intro haccepted
  obtain ⟨hraw, hid⟩ := hzero haccepted
  rw [hid] at hopened ⊢
  exact h.announceable hopened hraw haccepted

/-- A packet that is answered once keeps the rules. -/
theorem Once.processPacket (h : Once s) {stream : SMPStream} {packet : Packet}
    (hpacket : AnswersOnce stream s packet) : Once (s.processPacket stream packet) := by
  have hupdates : SMPConnection.Updates ⟨fun _ => True, fun _ => True, True, fun _ => True, True⟩
      s.conn (s.conn.processPacket packet) := SMPConnection.updates_processPacket packet
  have hsteady := SMPConnection.steady_updates hupdates
  refine ⟨h.toKept.processPacket hpacket, ?_, ?_⟩
  · unfold StreamsConnection.processPacket
    split
    · exact h.regular.steady hsteady
    · exact h.regular.steady hsteady
  · have hother := h.withConn hsteady (SMPConnection.answered_updates hupdates h.regular)
    unfold StreamsConnection.processPacket
    split
    · rename_i haccepted
      exact fun _ _ => SMPConnection.answered_of_accepted haccepted
    · exact hother.answered

/-- Packets of a read, of which the answer comes on stream 0 of a raw connection. -/
theorem Once.processPackets (h : Once s) {stream : SMPStream} {packets : List Packet}
    (hopened : s.WasOpened stream.streamId)
    (hzero : s.conn.readsAnswer packets = true →
      s.conn.webtransport = false ∧ stream.streamId = 0) :
    Meets (fun s packet => s.processPacket stream packet) (AnswersOnce stream) s packets := by
  induction packets generalizing s with
  | nil => trivial
  | cons packet packets ih =>
    have hanswer : AnswersOnce stream s packet := by
      refine h.answersOnce hopened fun haccepted => hzero ?_
      rw [SMPConnection.readsAnswer, haccepted, Bool.true_or]
    refine ⟨hanswer, ih (h.processPacket hanswer) ?_ ?_⟩
    · exact (wasOpened_processPacket stream packet _).mpr hopened
    · intro hrest
      rw [conn_processPacket] at hrest ⊢
      rw [SMPConnection.webtransport_processPacket]
      refine hzero ?_
      rw [SMPConnection.readsAnswer, hrest, Bool.or_true]

/-- Any run of packets that are answered once. -/
theorem Once.run_processPacket (h : Once s) {stream : SMPStream} {packets : List Packet}
    (hpackets : Meets (fun s packet => s.processPacket stream packet) (AnswersOnce stream) s
      packets) : Once (run (fun s packet => s.processPacket stream packet) s packets) :=
  Runs.invariant_of_meets (C := AnswersOnce stream) (fun _ _ h hC => h.processPacket hC) h hpackets

/-- An id below 2^32 is the id of its 32-bit number. -/
theorem toUInt64_toUInt32 {id : UInt64} (hid : id.toNat < 2 ^ 32) : id.toUInt32.toUInt64 = id := by
  apply UInt64.toNat.inj
  simp only [UInt32.toNat_toUInt64, UInt64.toNat_toUInt32]
  exact Nat.mod_eq_of_lt hid

/-- An event that announces streams once tells the handler what it is meant to be told. -/
theorem Once.tellsOnce (h : Once s) {e : StreamsEvent} (he : s.SpeaksOnce e) : s.TellsOnce e := by
  cases e with
  | streamCreate id =>
    intro hnone htells
    have hid := toUInt64_toUInt32 (he hnone htells)
    refine ⟨?_, ?_⟩
    · rw [hid]
      exact (wasOpened_note_opened s id id).mpr (Or.inl rfl)
    · rw [hid, created_note_opened, if_pos rfl]
  | streamClose id => exact he
  | streamRead id packets =>
    intro stream hstream unchecked hphase hcheck
    have hsome := Option.mem_def.mp hstream
    have hid := h.streamId id stream hsome
    have hupdates : SMPConnection.Updates ⟨fun _ => True, fun _ => True, True, fun _ => True, True⟩
        s.conn s.conn.closeCheck.1 := SMPConnection.updates_closeCheck
    have hchecked := h.withConn (SMPConnection.steady_updates hupdates)
      (SMPConnection.answered_updates hupdates h.regular)
    refine hchecked.processPackets ?_ fun hanswer => ?_
    · rw [hid]
      exact h.opened id (by rw [hsome]; rfl)
    · obtain ⟨hraw, hzero⟩ := he (by simp [receivesAnswer, hsome, hphase, hcheck, hanswer])
      refine ⟨?_, hid.trans hzero⟩
      rw [(SMPConnection.open_of_closeCheck hcheck).1]
      exact hraw
  | other e => exact trivial

/-- A stream that is opened is announced once. -/
theorem Once.openStream (h : Once s) {id : UInt64} (hid : s.userData id = none)
    (htells : s.tells id.toUInt32 = true → id.toNat < 2 ^ 32) : Once (s.openStream id) := by
  have htold : s.TellsOnce (.streamCreate id) :=
    h.tellsOnce (e := .streamCreate id) fun _ => htells
  refine ⟨h.toKept.openStream hid (htold hid), ?_, ?_⟩
  · unfold StreamsConnection.openStream onRawStreamCreateNotify
    split
    · exact h.regular
    · exact h.regular
  have hlife : 0 < ((s.note (.opened id)).onStreamCreate id).created 0 → 0 < s.created 0 := by
    change 0 < (s.note (.opened id)).created 0 → _
    rw [created_note_opened]
    split
    · exact fun hzero => absurd hzero (Nat.lt_irrefl 0)
    · exact fun hzero => hzero
  unfold StreamsConnection.openStream onRawStreamCreateNotify
  split
  case isFalse => exact fun hcreated hraw => h.answered (hlife hcreated) hraw
  case isTrue htells' =>
    intro hcreated hraw
    rw [created_note_onStreamCreated] at hcreated
    have hne : ¬ id.toUInt32.toUInt64 = 0 := by
      intro hzero
      have hsilent : id.toUInt32 = 0 := by
        apply UInt32.toNat.inj
        simpa using congrArg UInt64.toNat hzero
      have hconn : s.conn.webtransport = false := hraw
      have htrue : s.tells id.toUInt32 = true := htells'
      simp [tells, hconn, hsilent] at htrue
    rw [if_neg hne, Nat.add_zero] at hcreated
    exact h.answered (hlife hcreated) hraw

/-- So does the end of stream 0 of a raw connection. -/
theorem Once.closeStream (h : Once s) {stream : SMPStream} (hstream : s.userData 0 = some stream)
    (hraw : s.conn.webtransport = false) : Once (s.closeStream 0 stream) := by
  refine ⟨h.toKept.closeStream hstream hraw, ?_, ?_⟩
  · rw [conn_closeStream]
    exact h.regular
  · rw [created_closeStream, conn_closeStream]
    exact h.answered

/-- An event of streams that speak once keeps this. -/
theorem Once.step (h : Once s) {e : StreamsEvent} (he : s.SpeaksOnce e) : Once (s.step e) := by
  have htells := h.tellsOnce he
  cases e with
  | streamCreate id =>
    simp only [StreamsConnection.step]
    split
    case isTrue => exact h
    case isFalse hid =>
      have hnone : s.userData id = none := by simpa using hid
      exact h.openStream hnone (he hnone)
  | streamClose id =>
    simp only [StreamsConnection.step]
    split
    case h_1 => exact h
    case h_2 stream hstream =>
      obtain ⟨hraw, rfl⟩ := he (by rw [hstream]; rfl)
      exact h.closeStream hstream hraw
  | streamRead id packets =>
    have hupdates : SMPConnection.Updates ⟨fun _ => True, fun _ => True, True, fun _ => True, True⟩
        s.conn s.conn.closeCheck.1 := SMPConnection.updates_closeCheck
    have hchecked := h.withConn (SMPConnection.steady_updates hupdates)
      (SMPConnection.answered_updates hupdates h.regular)
    simp only [StreamsConnection.step]
    split
    case h_1 stream unchecked hstream hphase =>
      unfold onRead
      split
      case isTrue => exact hchecked
      case isFalse hcheck =>
        exact hchecked.run_processPacket
          (htells stream hstream unchecked hphase (by simpa using hcheck))
    case h_2 => exact h
  | other e =>
    have hother (e : SMPConnection.Event) : Once { s with conn := s.conn.step e } :=
      h.withConn (s.conn.steady_step e) fun hs => SMPConnection.answered_step h.regular hs e
    unfold StreamsConnection.step
    split <;> first | exact h | exact hother _ | contradiction

/-! ## The condition is needed -/

/-- The streams that were opened have 32-bit ids, were opened when the transport was decided, and
have been announced where the create callback does so. -/
structure Announced (s : StreamsConnection) : Prop extends Kept s where
  /-- What was opened has a 32-bit id. -/
  small : ∀ id, s.WasOpened id → id.toUInt32.toUInt64 = id
  /-- When it was opened, it was decided whether the connection is a raw one. -/
  decided : ∀ id, s.WasOpened id → s.conn.webtransport = s.conn.config.isH3
  /-- It has been announced, if it is to be announced. -/
  told : ∀ id, s.WasOpened id → s.tells id.toUInt32 = true → 0 < s.created id

/-- Before the first stream nothing is left to be announced. -/
theorem Announced.create (conn : SMPConnection) : Announced (StreamsConnection.create conn) where
  toKept := Kept.create conn
  small := fun _ hopened => absurd hopened List.not_mem_nil
  decided := fun _ hopened => absurd hopened List.not_mem_nil
  told := fun _ hopened => absurd hopened List.not_mem_nil

/-- A steady part of the connection leaves nothing to be announced. -/
theorem Announced.withConn (h : Announced s) {conn : SMPConnection}
    (hsteady : s.conn.Steady conn) : Announced { s with conn := conn } := by
  have hsame (id : UInt64) (hopened : s.WasOpened id) :
      conn.webtransport = s.conn.webtransport := by
    rcases hsteady.webtransport with hsame | hset
    · exact hsame
    · rw [hset, ← h.decided id hopened, Bool.or_self]
  refine ⟨h.toKept.withConn conn, h.small, fun id hopened => ?_, fun id hopened htells => ?_⟩
  · refine (hsame id hopened).trans ((h.decided id hopened).trans ?_)
    rw [hsteady.config]
  · refine h.told id hopened ?_
    rw [tells, ← hsame id hopened]
    exact htells

/-- Nor does a packet that is answered once. -/
theorem Announced.processPacket (h : Announced s) {stream : SMPStream} {packet : Packet}
    (hpacket : AnswersOnce stream s packet) : Announced (s.processPacket stream packet) := by
  have hupdates : SMPConnection.Updates ⟨fun _ => True, fun _ => True, True, fun _ => True, True⟩
      s.conn (s.conn.processPacket packet) := SMPConnection.updates_processPacket packet
  have hother := h.withConn (SMPConnection.steady_updates hupdates)
  have hsame (id : UInt64) := wasOpened_processPacket (s := s) stream packet id
  refine ⟨h.toKept.processPacket hpacket, fun id hopened => ?_, fun id hopened => ?_,
    fun id hopened htells => ?_⟩
  · exact h.small id ((hsame id).mp hopened)
  · rw [conn_processPacket]
    exact hother.decided id ((hsame id).mp hopened)
  · have htold := hother.told id ((hsame id).mp hopened)
    rw [tells, conn_processPacket] at htells
    unfold StreamsConnection.processPacket
    split
    · rw [created_note_onStreamCreated]
      exact Nat.lt_of_lt_of_le (htold htells) (Nat.le_add_right _ _)
    · exact htold htells

/-- An answer that announces a stream once comes on stream 0 of a raw connection. -/
theorem Announced.answer (h : Announced s) {stream : SMPStream} {packets : List Packet}
    (hopened : s.WasOpened stream.streamId)
    (hpackets : Meets (fun s packet => s.processPacket stream packet) (AnswersOnce stream) s
      packets) (hanswer : s.conn.readsAnswer packets = true) :
    s.conn.webtransport = false ∧ stream.streamId = 0 := by
  induction packets generalizing s with
  | nil => cases hanswer
  | cons packet packets ih =>
    rw [SMPConnection.readsAnswer, Bool.or_eq_true] at hanswer
    rcases hanswer with haccepted | hrest
    · have hcreated := (hpackets.1 haccepted).2
      rw [h.small _ hopened] at hcreated
      have hsilent : ¬ s.tells stream.streamId.toUInt32 = true := fun htells => by
        have hpos := h.told _ hopened htells
        omega
      cases hraw : s.conn.webtransport with
      | true => simp [tells, hraw] at hsilent
      | false =>
        refine ⟨rfl, ?_⟩
        simp only [tells, hraw, Bool.false_or, Bool.not_false, Bool.true_and,
          decide_eq_true_eq, UInt32.not_lt] at hsilent
        rw [← h.small _ hopened, UInt32.le_zero_iff.mp hsilent]
        rfl
    · have hnext := ih (h.processPacket hpackets.1)
        ((wasOpened_processPacket stream packet _).mpr hopened) hpackets.2
      rw [conn_processPacket, SMPConnection.webtransport_processPacket] at hnext
      exact hnext hrest

/-- An event that tells the handler what it is meant to be told announces streams once. -/
theorem Announced.speaksOnce (h : Announced s) {e : StreamsEvent} (he : s.TellsOnce e)
    (htime : s.OpensInTime e) : s.SpeaksOnce e := by
  cases e with
  | streamCreate id => exact fun hnone _ => (htime hnone).1
  | streamClose id => exact he
  | streamRead id packets =>
    intro hanswer
    simp only [receivesAnswer] at hanswer
    split at hanswer
    case h_1 stream unchecked hstream hphase =>
      simp only [Bool.and_eq_true, Bool.not_eq_true'] at hanswer
      obtain ⟨hcheck, hanswer⟩ := hanswer
      have hupdates : SMPConnection.Updates
          ⟨fun _ => True, fun _ => True, True, fun _ => True, True⟩ s.conn s.conn.closeCheck.1 :=
        SMPConnection.updates_closeCheck
      have hid := h.streamId id stream hstream
      have hopened : s.WasOpened stream.streamId := by
        rw [hid]
        exact h.opened id (by rw [hstream]; rfl)
      obtain ⟨hraw, hzero⟩ := (h.withConn (SMPConnection.steady_updates hupdates)).answer hopened
        (he stream hstream unchecked hphase hcheck) hanswer
      refine ⟨?_, hid.symm.trans hzero⟩
      rw [← (SMPConnection.open_of_closeCheck hcheck).1]
      exact hraw
    case h_2 => cases hanswer
  | other e => exact trivial

/-- Opening a stream in time. -/
theorem Announced.openStream (h : Announced s) {id : UInt64} (hid : s.userData id = none)
    (htells : s.tells id.toUInt32 = true → (s.note (.opened id)).Announceable id.toUInt32)
    (hsmall : id.toNat < 2 ^ 32) (hdecided : s.conn.webtransport = s.conn.config.isH3) :
    Announced (s.openStream id) := by
  have hnumber := toUInt64_toUInt32 hsmall
  have hconn : (s.openStream id).conn = s.conn := by
    unfold StreamsConnection.openStream onRawStreamCreateNotify
    split <;> rfl
  have hopened (j : UInt64) (hj : (s.openStream id).WasOpened j) : j = id ∨ s.WasOpened j := by
    refine (wasOpened_note_opened s j id).mp ?_
    unfold StreamsConnection.openStream onRawStreamCreateNotify at hj
    split at hj
    · exact (wasOpened_note_onStreamCreated _ _ _).mp hj
    · exact hj
  refine ⟨h.toKept.openStream hid htells, fun j hj => ?_, fun j hj => ?_, fun j hj htold => ?_⟩
  · rcases hopened j hj with rfl | hold
    · exact hnumber
    · exact h.small j hold
  · rw [hconn]
    exact hdecided
  · rw [tells, hconn] at htold
    by_cases hj' : j = id
    · subst hj'
      unfold StreamsConnection.openStream onRawStreamCreateNotify
      split
      · rw [created_note_onStreamCreated, if_pos hnumber]
        exact Nat.succ_pos _
      · rename_i hsilent
        exact absurd htold hsilent
    · have hold := (hopened j hj).resolve_left hj'
      have hcreated : (s.note (.opened id)).created j = s.created j := by
        rw [created_note_opened, if_neg (Ne.symm hj')]
      have hpos : 0 < (s.note (.opened id)).created j := by
        rw [hcreated]
        exact h.told j hold htold
      unfold StreamsConnection.openStream onRawStreamCreateNotify
      split
      · rw [created_note_onStreamCreated]
        exact Nat.lt_of_lt_of_le hpos (Nat.le_add_right _ _)
      · exact hpos

/-- Nor does the end of stream 0 of a raw connection. -/
theorem Announced.closeStream (h : Announced s) {stream : SMPStream}
    (hstream : s.userData 0 = some stream) (hraw : s.conn.webtransport = false) :
    Announced (s.closeStream 0 stream) := by
  have hopened (j : UInt64) := wasOpened_closeStream (s := s) 0 stream j
  refine ⟨h.toKept.closeStream hstream hraw, fun j hj => ?_, fun j hj => ?_, fun j hj htold => ?_⟩
  · exact h.small j ((hopened j).mp hj)
  · rw [conn_closeStream]
    exact h.decided j ((hopened j).mp hj)
  · rw [created_closeStream]
    rw [tells, conn_closeStream] at htold
    exact h.told j ((hopened j).mp hj) htold

/-- An event leaves nothing to be announced. -/
theorem Announced.step (h : Announced s) {e : StreamsEvent} (he : s.TellsOnce e)
    (htime : s.OpensInTime e) : Announced (s.step e) := by
  cases e with
  | streamCreate id =>
    simp only [StreamsConnection.step]
    split
    case isTrue => exact h
    case isFalse hid =>
      have hnone : s.userData id = none := by simpa using hid
      exact h.openStream hnone (he hnone) (htime hnone).1 (htime hnone).2
  | streamClose id =>
    simp only [StreamsConnection.step]
    split
    case h_1 => exact h
    case h_2 stream hstream =>
      obtain ⟨hraw, rfl⟩ := he (by rw [hstream]; rfl)
      exact h.closeStream hstream hraw
  | streamRead id packets =>
    have hupdates : SMPConnection.Updates ⟨fun _ => True, fun _ => True, True, fun _ => True, True⟩
        s.conn s.conn.closeCheck.1 := SMPConnection.updates_closeCheck
    have hchecked := h.withConn (SMPConnection.steady_updates hupdates)
    simp only [StreamsConnection.step]
    split
    case h_1 stream unchecked hstream hphase =>
      unfold onRead
      split
      case isTrue => exact hchecked
      case isFalse hcheck =>
        exact Runs.invariant_of_meets (C := AnswersOnce stream)
          (fun _ _ h hC => h.processPacket hC) hchecked
          (he stream hstream unchecked hphase (by simpa using hcheck))
    case h_2 => exact h
  | other e =>
    have hother (e : SMPConnection.Event) : Announced { s with conn := s.conn.step e } :=
      h.withConn (s.conn.steady_step e)
    unfold StreamsConnection.step
    split <;> first | exact h | exact hother _ | contradiction

/-- In a run in which every stream that the create callback announces has a 32-bit id, only
stream 0 of a raw connection is closed and the positive answer to the connect comes on it, the
handler is told what it is meant to be told in every state. Conversely, when it is told so in a
run in which streams have 32-bit ids and are opened once the transport is decided, the run is
such a run. -/
theorem notified_iff_speaksOnce (config : Config) (tunnel : Bool) (events : List StreamsEvent) :
    (Meets StreamsConnection.step SpeaksOnce (create (.create config tunnel)) events →
      ∀ first, first <+: events →
        Notified (run StreamsConnection.step (create (.create config tunnel)) first)) ∧
    (Meets StreamsConnection.step OpensInTime (create (.create config tunnel)) events →
      (∀ first, first <+: events →
        Notified (run StreamsConnection.step (create (.create config tunnel)) first)) →
      Meets StreamsConnection.step SpeaksOnce (create (.create config tunnel)) events) := by
  constructor
  · intro hmeets
    refine (always_notified_iff (.create config tunnel) events).mpr ?_
    exact Runs.Meets.of_invariant (I := Once) (fun _ _ h he => ⟨h.tellsOnce he, h.step he⟩)
      (Once.create config tunnel) hmeets
  · intro htime hnotified
    have htells := (always_notified_iff (.create config tunnel) events).mp hnotified
    exact Runs.Meets.of_invariant (I := Announced)
      (fun _ _ h he => ⟨h.speaksOnce he.1 he.2, h.step he.1 he.2⟩)
      (Announced.create (.create config tunnel)) (htells.and htime)

/-- A raw connection whose connect is answered on its first stream, which is then closed while
another one stays open. -/
def firstStreamAnswered : List StreamsEvent :=
  [.other .connect, .other (.runTask ⟨1, false, 0, .success, some [], .success⟩), .other .recvData,
    .streamCreate 0, .other (.callback (.handshakeFinished true)),
    .streamRead 0 [.command ⟨some 1, .result⟩], .streamCreate 4, .streamClose 0]

/-- The positive answer to the connect comes on stream 0, which is announced and closed as it is
meant to be. -/
theorem notified_firstStreamAnswered :
    Notified (run StreamsConnection.step
      (create (.create ⟨'b', ['s', 'm', 'p'], false, false, 0⟩ false)) firstStreamAnswered) ∧
    (run StreamsConnection.step
      (create (.create ⟨'b', ['s', 'm', 'p'], false, false, 0⟩ false))
        firstStreamAnswered).notices =
      [.onStreamClosed 0, .onStreamCreated 4, .opened 4, .onStreamCreated 0, .opened 0] := by
  refine ⟨(notified_iff_speaksOnce _ _ _).1 ?_ _ List.prefix_rfl, by decide⟩
  exact ⟨trivial, trivial, trivial, fun _ _ => by decide, trivial, fun _ => by decide,
    fun _ _ => by decide, fun _ => by decide, trivial⟩

/-- Two raw streams are opened, and the second one is closed. -/
def secondStreamCloses : List StreamsEvent := [.streamCreate 0, .streamCreate 4, .streamClose 4]

/-- A raw connection whose second stream closes: its end is reported twice. -/
theorem not_notified_secondStreamCloses :
    (run StreamsConnection.step (create (SMPConnection.create
        ⟨'b', ['s', 'm', 'p'], false, false, 0⟩ false)) secondStreamCloses).notices =
      [.onStreamClosed 4, .onStreamClosed 4, .onStreamCreated 4, .opened 4, .opened 0] ∧
    ¬ Notified (run StreamsConnection.step (create (SMPConnection.create
        ⟨'b', ['s', 'm', 'p'], false, false, 0⟩ false)) secondStreamCloses) := by
  refine ⟨by decide, fun h => ?_⟩
  have hclosed := h.closed 4
  have htwo : (run StreamsConnection.step (create (SMPConnection.create
      ⟨'b', ['s', 'm', 'p'], false, false, 0⟩ false)) secondStreamCloses).closed 4 = 2 := by
    decide
  rw [htwo] at hclosed
  split at hclosed <;> omega

end StreamsConnection

end Conn
