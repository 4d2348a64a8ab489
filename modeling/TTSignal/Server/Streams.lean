import TTSignal.Runs
import Mathlib.Data.List.AList

/-!
# The stream table of a server connection

`SMPServerConnection` keeps raw pointers to its `SMPServerStream` objects in `stream_map_`,
by stream id. A stream object deletes itself when the engine reports the close of its
stream and leaves the table as it is, and `SendPacket_Internal` indexes the table with the
id 0, which enters a NULL pointer when that id is missing. The table is right and only live
objects are called in every state of a run exactly when no stream is closed and every
packet is sent while stream 0 is entered.
-/

namespace Server

/-- A method call on a stream object through the table: the pointer, which may be NULL, and
whether it stood for a live object. -/
structure StreamCall where
  /-- The object that the call is made on. -/
  target : Option ℕ
  /-- Whether that object is alive. -/
  live : Bool
  deriving DecidableEq

/-- The part of `SMPServerConnection` that deals with streams, with the streams of the
engine and the stream objects on the heap. -/
structure StreamTable where
  /-- `conn_` is not NULL. -/
  conn : Bool
  /-- `stream_map_`: the pointers by stream id. -/
  streamMap : AList fun _ : ℕ => Option ℕ
  /-- The open streams of the engine and the user data that was set for them. -/
  userData : ℕ → Option ℕ
  /-- The objects that have not been deleted, by address. -/
  live : ℕ → Bool
  /-- The address of the next object. -/
  next : ℕ
  /-- The calls through the table so far. -/
  calls : List StreamCall

namespace StreamTable

/-- The table of a new connection. -/
def create : StreamTable where
  conn := false
  streamMap := ∅
  userData := fun _ => none
  live := fun _ => false
  next := 0
  calls := []

variable (s : StreamTable)

/-- A method is called through a pointer. -/
def call (target : Option ℕ) : StreamTable :=
  { s with calls := s.calls ++ [⟨target, target.elim false s.live⟩] }

/-- `OnStreamCreate`: a new object is the user data of the stream and is entered. The engine
opens a stream once. -/
def onStreamCreate (streamId : ℕ) : StreamTable :=
  if (s.userData streamId).isSome then s
  else
    { s with
      userData := Function.update s.userData streamId (some s.next)
      live := Function.update s.live s.next true
      next := s.next + 1
      streamMap := s.streamMap.insert streamId (some s.next) }

/-- `on_stream_close_notify`: the object of the stream deletes itself. -/
def onStreamClose (streamId : ℕ) : StreamTable :=
  match s.userData streamId with
  | none => s
  | some object =>
    { s with
      userData := Function.update s.userData streamId none
      live := Function.update s.live object false }

/-- `OnPacketAcked`. -/
def onPacketAcked (streamId : ℕ) : StreamTable :=
  match s.streamMap.lookup streamId with
  | none => s
  | some target => s.call target

/-- `stream_map_[streamId]`: a missing id is entered with a NULL pointer. -/
def index (streamId : ℕ) : StreamTable × Option ℕ :=
  match s.streamMap.lookup streamId with
  | none => ({ s with streamMap := s.streamMap.insert streamId none }, none)
  | some target => (s, target)

/-- `SendPacket_Internal`. -/
def sendPacketInternal : StreamTable :=
  if 0 < s.streamMap.entries.length ∧ s.conn = true then (s.index 0).1.call (s.index 0).2
  else s

end StreamTable

/-- What can happen to the stream table. -/
inductive StreamEvent where
  /-- `conn_` is assigned a connection or NULL. -/
  | assignConn (conn : Bool)
  | streamCreate (streamId : ℕ)
  | streamClose (streamId : ℕ)
  | packetAcked (streamId : ℕ)
  | sendPacket
  deriving DecidableEq

namespace StreamTable

/-- How the connection handles an event. -/
def step (s : StreamTable) : StreamEvent → StreamTable
  | .assignConn conn => { s with conn := conn }
  | .streamCreate streamId => s.onStreamCreate streamId
  | .streamClose streamId => s.onStreamClose streamId
  | .packetAcked streamId => s.onPacketAcked streamId
  | .sendPacket => s.sendPacketInternal

/-- What the table is meant to keep: it maps exactly the ids of the streams that were
created and not closed to their live objects, and only live objects are called. -/
structure Exact (s : StreamTable) : Prop where
  /-- The map holds the live objects under the numbers that the engine knows them by. -/
  maps : ∀ streamId target, s.streamMap.lookup streamId = some target ↔
    ∃ object, target = some object ∧ s.userData streamId = some object ∧ s.live object = true
  /-- No call is made on a dead object. -/
  calls : ∀ call ∈ s.calls, call.live = true

/-- No open stream is closed, and packets are sent while stream 0 is entered. -/
def KeepsStreams (s : StreamTable) : StreamEvent → Prop
  | .streamClose streamId => s.userData streamId = none
  | .sendPacket => 0 < s.streamMap.entries.length → s.conn = true →
      (s.streamMap.lookup 0).isSome = true
  | _ => True

/-- What holds in every state of a run that keeps its streams. -/
structure Owned (s : StreamTable) : Prop extends Exact s where
  /-- What the engine holds is alive. -/
  owned : ∀ streamId object, s.userData streamId = some object → s.live object = true
  /-- Numbers of live objects were given out. -/
  fresh : ∀ object, s.live object = true → object < s.next

namespace Owned

variable {s : StreamTable}

/-- In the beginning there are no streams. -/
theorem create : Owned StreamTable.create where
  maps := by
    intro streamId target
    simp [StreamTable.create]
  calls := by simp [StreamTable.create]
  owned := by simp [StreamTable.create]
  fresh := by simp [StreamTable.create]

/-- An entered pointer stands for a live object. -/
theorem live_of_lookup (hs : Owned s) {streamId : ℕ} {target : Option ℕ}
    (h : s.streamMap.lookup streamId = some target) : target.elim false s.live = true := by
  obtain ⟨object, rfl, -, hlive⟩ := (hs.maps streamId target).mp h
  exact hlive

/-- A call on a live object. -/
theorem call (hs : Owned s) {target : Option ℕ} (h : target.elim false s.live = true) :
    Owned (s.call target) where
  maps := hs.maps
  calls := by
    intro call hcall
    obtain hcall | hcall := List.mem_append.mp hcall
    · exact hs.calls call hcall
    · rw [List.mem_singleton.mp hcall]
      exact h
  owned := hs.owned
  fresh := hs.fresh

/-- A stream that is created is held. -/
theorem onStreamCreate (hs : Owned s) (streamId : ℕ) : Owned (s.onStreamCreate streamId) := by
  unfold StreamTable.onStreamCreate
  split
  case isTrue => exact hs
  case isFalse hclosed =>
    have hdead : s.live s.next = false := by
      by_contra h
      have := hs.fresh s.next (by simpa using h)
      omega
    constructor
    · constructor
      · intro id target
        by_cases hid : id = streamId
        · subst hid
          rw [AList.lookup_insert]
          simp only [Function.update_self, Option.some.injEq]
          constructor
          · rintro rfl
            exact ⟨s.next, rfl, rfl, Function.update_self _ _ _⟩
          · rintro ⟨object, rfl, rfl, -⟩
            rfl
        · rw [AList.lookup_insert_ne hid, hs.maps id target]
          simp only [Function.update_of_ne hid]
          constructor
          · rintro ⟨object, rfl, hopen, hlive⟩
            refine ⟨object, rfl, hopen, ?_⟩
            rw [Function.update_of_ne (by rintro rfl; simp [hdead] at hlive)]
            exact hlive
          · rintro ⟨object, rfl, hopen, -⟩
            exact ⟨object, rfl, hopen, hs.owned id object hopen⟩
      · exact hs.calls
    · intro id object hopen
      by_cases hobject : object = s.next
      · rw [hobject]
        exact Function.update_self _ _ _
      · have hid : id ≠ streamId := by
          rintro rfl
          simp [Ne.symm hobject] at hopen
        simp only [Function.update_of_ne hid] at hopen
        simp only [Function.update_of_ne hobject]
        exact hs.owned id object hopen
    · intro object hlive
      change object < s.next + 1
      by_cases hobject : object = s.next
      · omega
      · simp only [Function.update_of_ne hobject] at hlive
        have := hs.fresh object hlive
        omega

/-- An event that keeps the streams keeps them owned. -/
theorem step (hs : Owned s) (e : StreamEvent) (he : s.KeepsStreams e) : Owned (s.step e) := by
  cases e with
  | assignConn conn => exact ⟨⟨hs.maps, hs.calls⟩, hs.owned, hs.fresh⟩
  | streamCreate streamId => exact hs.onStreamCreate streamId
  | streamClose streamId =>
    have hclosed : s.userData streamId = none := he
    have hstep : s.step (.streamClose streamId) = s := by
      simp only [StreamTable.step, StreamTable.onStreamClose, hclosed]
    rw [hstep]
    exact hs
  | packetAcked streamId =>
    simp only [StreamTable.step, StreamTable.onPacketAcked]
    split
    case h_1 => exact hs
    case h_2 target htarget => exact hs.call (hs.live_of_lookup htarget)
  | sendPacket =>
    simp only [StreamTable.step, StreamTable.sendPacketInternal]
    split
    case isTrue hsends =>
      obtain ⟨target, htarget⟩ := Option.isSome_iff_exists.mp (he hsends.1 hsends.2)
      have hindex : s.index 0 = (s, target) := by simp only [StreamTable.index, htarget]
      rw [hindex]
      exact hs.call (hs.live_of_lookup htarget)
    case isFalse => exact hs

/-- A closed stream stays in the table, and a packet that is sent without stream 0 is given
to a NULL pointer. -/
theorem not_exact (hs : Owned s) {e : StreamEvent} (he : ¬ s.KeepsStreams e) :
    ¬ Exact (s.step e) := by
  intro h
  cases e with
  | streamClose streamId =>
    obtain ⟨object, hopen⟩ := Option.ne_none_iff_exists'.mp he
    have hentered : s.streamMap.lookup streamId = some (some object) :=
      (hs.maps streamId _).mpr ⟨object, rfl, hopen, hs.owned streamId object hopen⟩
    have hstays : (s.step (.streamClose streamId)).streamMap.lookup streamId =
        some (some object) := by
      simp only [StreamTable.step, StreamTable.onStreamClose, hopen]
      exact hentered
    obtain ⟨_, -, hopen', -⟩ := (h.maps streamId _).mp hstays
    simp [StreamTable.step, StreamTable.onStreamClose, hopen] at hopen'
  | sendPacket =>
    simp only [KeepsStreams, Classical.not_imp, Bool.not_eq_true, Option.isSome_eq_false_iff,
      Option.isNone_iff_eq_none] at he
    obtain ⟨hentries, hconn, hmissing⟩ := he
    have hcall : (⟨none, false⟩ : StreamCall) ∈ (s.step .sendPacket).calls := by
      simp [StreamTable.step, StreamTable.sendPacketInternal, hentries, hconn, StreamTable.index,
        hmissing, StreamTable.call]
    exact absurd (h.calls _ hcall) (by simp)
  | _ => exact he trivial

end Owned

/-- The table is right and only live objects are called in every state of a run exactly when
no stream is closed and every packet is sent while stream 0 is entered. -/
theorem exact_iff_keepsStreams (events : List StreamEvent) :
    (∀ first, first <+: events → Exact (Runs.run step create first)) ↔
      Runs.Meets step KeepsStreams create events :=
  Runs.always_iff_meets (C := KeepsStreams) (I := Owned) (P := Exact) (fun _ h => h.toExact)
    (fun _ e h he => h.step e he) (fun _ _ h he => h.not_exact he) Owned.create events

/-- Two streams are opened, stream 0 is closed, and a packet is acknowledged and one sent. -/
def closedStreamRun : List StreamEvent :=
  [.assignConn true, .streamCreate 0, .streamCreate 4, .streamClose 0, .packetAcked 0, .sendPacket]

/-- Both calls go to the deleted object. -/
theorem closedStreamRun_not_exact :
    (Runs.run step create closedStreamRun).calls = [⟨some 0, false⟩, ⟨some 0, false⟩] ∧
      ¬ Exact (Runs.run step create closedStreamRun) := by
  have hcalls : (Runs.run step create closedStreamRun).calls =
      [⟨some 0, false⟩, ⟨some 0, false⟩] := by decide
  refine ⟨hcalls, fun h => ?_⟩
  have := h.calls ⟨some 0, false⟩ (by rw [hcalls]; simp)
  simp at this

end StreamTable

end Server
