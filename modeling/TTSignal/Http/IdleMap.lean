import TTSignal.Buckets
import TTSignal.Http.Changes

/-!
# The map of idle channels

`idle` is a map from the keys to vectors of pooled channels. The state of the connector has all
of them in one list. Here the map is kept beside the connector, and changed by the sections
that change it, as they do: `_TakeFromPool` takes the last channel of a key,
`_RemoveFromPoolLocked` removes a closed one, `_FinishAndReturnChannelToPool` adds one where
there is room.
-/

namespace Http

open Tcp (BCResult)

/-- A section of the code that uses `idle`. -/
inductive IdleUse where
  /-- None. -/
  | none
  /-- `_TakeFromPool` for a key. -/
  | take (key : String)
  /-- `_RemoveFromPoolLocked` of a pooled channel. -/
  | remove (p : PooledId)
  /-- `_FinishAndReturnChannelToPool` of a connection. -/
  | file (c : ConnectionId)

namespace HttpConnector

/-- The section of an event that uses `idle`. -/
def idleUse (s : HttpConnector) (e : Thread × Event) : IdleUse :=
  if s.destructor.thread = some e.1 ∧ ofDestructor e.2 = false then .none
  else
    match e.2 with
    | .proceed r _ =>
      match (s.request r).phase with
      | .take => if s.maxIdlePerKey = 0 then .none else .take (s.request r).key
      | _ => .none
    | .closed ch _ _ =>
      if (s.channel ch).inside = none ∧ (s.channel ch).state = .closing ∧
          (s.channel ch).adopts = [] then
        match (s.channel ch).handler with
        | some (.pooled p) => .remove p
        | _ => .none
      else .none
    | .resume c _ =>
      match s.activity c with
      | .park _ => .file c
      | _ => .none
    | _ => .none

end HttpConnector

/-- A connector with its map of idle channels. -/
structure Filing where
  /-- The connector. -/
  connector : HttpConnector
  /-- `idle`. -/
  idle : Buckets String PooledId
  /-- What `_TakeFromPool` has returned. -/
  taken : List PooledId
  /-- What has reported `OnChannelClosed`. -/
  closed : List PooledId

namespace Filing

/-- The test for room in the pool. -/
def HasRoom (f : Filing) (key : String) : Prop :=
  f.connector.closing = false ∧ f.connector.abandoned = false ∧ 0 < f.connector.maxIdlePerKey ∧
    (f.idle.bucket key).length < f.connector.maxIdlePerKey

instance (f : Filing) (key : String) : Decidable (f.HasRoom key) :=
  inferInstanceAs (Decidable (_ ∧ _))

/-- A section uses the map. -/
def use (f : Filing) : IdleUse → Filing
  | .none => f
  | .take key =>
    { f with
      idle := (f.idle.pop key).2
      taken := f.taken ++ (f.idle.pop key).1.toList }
  | .remove p =>
    { f with
      idle := f.idle.remove (f.connector.pooled p).key p
      closed := f.closed ++ [p] }
  | .file c =>
    if f.HasRoom (f.connector.connection c).poolKey then
      { f with
        idle := f.idle.push (f.connector.connection c).poolKey f.connector.nextPooled }
    else f

/-- A thread does something. -/
def step (f : Filing) (e : Thread × Event) : Filing :=
  { f.use (f.connector.idleUse e) with connector := f.connector.step e }

/-- A connector as `Create` leaves it. -/
def create (maxIdlePerKey : ℕ) (handler logSink : Bool) : Filing where
  connector := HttpConnector.create maxIdlePerKey handler logSink
  idle := fun _ => none
  taken := []
  closed := []

end Filing

namespace HttpConnector

variable {s s' m : HttpConnector}

/-- Two connectors differ in nothing that concerns the idle channels; no channel has got a
pooled channel for its handler. -/
structure Aside (s s' : HttpConnector) : Prop where
  /-- The idle channels. -/
  idle : s'.idle = s.idle
  /-- How many there may be. -/
  maxIdlePerKey : s'.maxIdlePerKey = s.maxIdlePerKey
  /-- The next one. -/
  nextPooled : s'.nextPooled = s.nextPooled
  /-- Their keys. -/
  key : ∀ p, (s'.pooled p).key = (s.pooled p).key
  /-- Their channels. -/
  handler : ∀ ch p, (s'.channel ch).handler = some (.pooled p) →
    (s.channel ch).handler = some (.pooled p)

/-- Nothing is changed by doing nothing. -/
theorem Aside.refl (s : HttpConnector) : s.Aside s := ⟨rfl, rfl, rfl, fun _ => rfl, fun _ _ h => h⟩

/-- One operation after the other. -/
theorem Aside.trans (h : s.Aside m) (h' : m.Aside s') : s.Aside s' :=
  ⟨h'.idle.trans h.idle, h'.maxIdlePerKey.trans h.maxIdlePerKey, h'.nextPooled.trans h.nextPooled,
    fun p => (h'.key p).trans (h.key p), fun ch p hp => h.handler ch p (h'.handler ch p hp)⟩

/-- A channel changes and keeps its handler, or gets a connection. -/
theorem aside_setChannel (s : HttpConnector) (ch : ChannelId) {x : Channel}
    (hx : ∀ p, x.handler = some (.pooled p) → (s.channel ch).handler = some (.pooled p)) :
    s.Aside (s.setChannel ch x) := by
  refine ⟨rfl, rfl, rfl, fun _ => rfl, fun ch' p hp => ?_⟩
  simp only [setChannel, Function.update_apply] at hp
  split at hp
  · rename_i heq
    rw [heq]
    exact hx p hp
  · exact hp

/-- A pooled channel changes and keeps its key. -/
theorem aside_setPooled (s : HttpConnector) (p : PooledId) {x : PooledChannel}
    (hx : x.key = (s.pooled p).key) : s.Aside (s.setPooled p x) := by
  refine ⟨rfl, rfl, rfl, fun q => ?_, fun _ _ h => h⟩
  simp only [setPooled, Function.update_apply]
  split
  · rename_i heq
    rw [heq]
    exact hx
  · rfl

/-- A channel is asked to close. -/
theorem aside_closeChannel (s : HttpConnector) (ch : ChannelId) : s.Aside (s.closeChannel ch) :=
  aside_setChannel s ch fun p hp => by rwa [(close_eq (s.channel ch)).1] at hp

/-- `new TcpChannel`. -/
theorem aside_newChannel (s : HttpConnector) (owner : ConnectionId) :
    s.Aside (s.newChannel owner) := by
  refine ⟨rfl, rfl, rfl, fun _ => rfl, fun ch p hp => ?_⟩
  simp only [newChannel, Function.update_apply] at hp
  split at hp
  · cases hp
  · exact hp

/-- `Close`. -/
theorem aside_closeAll (s : HttpConnector) : s.Aside s.closeAll := by
  refine ⟨rfl, rfl, rfl, fun _ => rfl, fun ch p hp => ?_⟩
  simp only [closeAll, note] at hp
  split at hp
  · rwa [(close_eq (s.channel ch)).1] at hp
  · exact hp

/-- What changes neither the pool nor anything else about the idle channels. -/
theorem aside_of_eq (h : s'.surface = s.surface) : s.Aside s' := by
  simp only [surface, Prod.mk.injEq] at h
  obtain ⟨hchannel, -, hidle, hmax, hnext, hpooled, -⟩ := h
  exact ⟨hidle, hmax, hnext, fun p => by rw [hpooled], fun ch p hp => by rwa [← hchannel]⟩

/-- Nothing but changes of the pool concerns the idle channels. -/
theorem Changes.aside {q : Prop} (h : Changes False q s s') : s.Aside s' := by
  refine h.within (Aside.refl s) Aside.trans fun hchange => ?_
  cases hchange with
  | beside s' heq => exact aside_of_eq heq
  | channel ch x hhandler => exact aside_setChannel _ ch hhandler
  | pooled p x hkey => exact aside_setPooled _ p hkey
  | newChannel owner => exact aside_newChannel _ owner
  | newConnection | forget | leave | notified | abandon =>
    exact ⟨rfl, rfl, rfl, fun _ => rfl, fun _ _ h => h⟩
  | park hp | idle hp => exact hp.elim
  | closeAll => exact aside_closeAll _

end HttpConnector

end Http
