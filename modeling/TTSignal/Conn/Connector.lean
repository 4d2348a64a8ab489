import TTSignal.Runs
import TTSignal.Traces
import Mathlib.Data.Finset.Card

/-!
# The drain of the client connector

`SMPConnector` creates connections until it is closed. `_CloseCheck` is both the test
whether a close has been requested and the transition that a requested close takes: the
connections are asked to close, and once all have reported their end the engine is
destroyed and `OnClosed` is posted. It runs in the calls of the application, in the posted
tasks and after the end of every connection.
-/

namespace Conn

/-- The states of the connector (`ConnectorState`). -/
inductive ConnectorState where
  | freed
  | init
  | working
  | max
  deriving DecidableEq, Repr

/-- The number of a state. -/
def ConnectorState.val : ConnectorState → ℕ
  | .freed => 0
  | .init => 1
  | .working => 2
  | .max => 9

/-- The tasks that the connector posts to the runtime. -/
inductive ConnectorTask where
  | closeCheck
  | close
  | onClosed
  deriving DecidableEq, Repr

/-- What the connector is told and what it does, as far as the outside sees it. -/
inductive ConnectorEntry where
  /-- `CreateConnection` has returned a connection. -/
  | created (id : ℕ)
  /-- `CreateConnection` has returned NULL. -/
  | refused
  /-- A connection has reported its end (`NotifyConnClosed`). -/
  | notified (id : ℕ)
  /-- `Close` was called. -/
  | closeCalled
  /-- The connections of the map were asked to close. -/
  | connsClose (ids : Finset ℕ)
  /-- The engine was destroyed. -/
  | engineDestroy
  /-- The report of the end to the application was posted. -/
  | postClosed
  /-- The application was told of the end (`OnClosed`). -/
  | closed
  deriving DecidableEq

/-- The connector. The map is given by the ids of its connections. -/
structure SMPConnector where
  /-- `state_`. -/
  state : ConnectorState
  /-- `new_state_`: `freed` once a close is requested. -/
  newState : ConnectorState
  /-- The ids in `conns_map_`. -/
  connsMap : Finset ℕ
  /-- `next_conn_id_`. -/
  nextConnId : ℕ
  /-- `total_allocated_conns_`. -/
  totalAllocatedConns : ℕ
  /-- `total_freed_conns_`. -/
  totalFreedConns : ℕ
  /-- The posted tasks, oldest first. -/
  tasks : List ConnectorTask
  /-- What happened so far. -/
  trace : List ConnectorEntry

namespace SMPConnector

/-- The connector after `Create`. -/
def create : SMPConnector where
  state := .working
  newState := .max
  connsMap := ∅
  nextConnId := 1
  totalAllocatedConns := 0
  totalFreedConns := 0
  tasks := []
  trace := []

variable (s : SMPConnector)

/-- Record what happens. -/
def note (entries : List ConnectorEntry) : SMPConnector := { s with trace := s.trace ++ entries }

/-- The value that `_CloseCheck` returns. -/
def closing : Bool :=
  !(decide (s.state.val ≤ s.newState.val) && decide (ConnectorState.freed.val < s.state.val))

/-- The first part of `_CloseCheck`: all connections are asked to close. -/
def beginDrain : SMPConnector :=
  if s.state = .working then
    { s with trace := s.trace ++ [.connsClose s.connsMap], state := .init }
  else s

/-- The second part of `_CloseCheck`: without connections the engine is destroyed. -/
def endDrain : SMPConnector :=
  if s.state = .init ∧ s.connsMap.card = 0 then
    { s with
      trace := s.trace ++ [.engineDestroy, .postClosed]
      tasks := s.tasks ++ [.onClosed]
      state := .freed }
  else s

/-- `_CloseCheck`. -/
def closeCheck : SMPConnector := if s.closing then s.beginDrain.endDrain else s

/-- The task of `Close`. -/
def requestClose : SMPConnector :=
  if s.closing then s.closeCheck else { s with newState := .freed }.closeCheck

/-- `CreateConnection`, with whether `SMPConnection::Create` succeeds. -/
def createConnection (created : Bool) : SMPConnector × Option ℕ :=
  if s.closing then (s.closeCheck.note [.refused], none)
  else if created then
    ({ s with
        connsMap := insert s.nextConnId s.connsMap
        nextConnId := s.nextConnId + 1
        totalAllocatedConns := s.totalAllocatedConns + 1
        trace := s.trace ++ [.created s.nextConnId] }, some s.nextConnId)
  else (s.note [.refused], none)

/-- `CreateMasqueTunnel` takes a number, and the tunnel stays outside the map. -/
def createMasqueTunnel : SMPConnector := { s with nextConnId := s.nextConnId + 1 }

/-- `NotifyConnClosed`. -/
def notifyConnClosed (id : ℕ) : SMPConnector :=
  { s with
    connsMap := s.connsMap.erase id
    totalFreedConns := s.totalFreedConns + 1
    tasks := s.tasks ++ [.closeCheck]
    trace := s.trace ++ [.notified id] }

/-- `Close`. -/
def close : SMPConnector :=
  { s with tasks := s.tasks ++ [.close], trace := s.trace ++ [.closeCalled] }

/-- A task is run. -/
def runTask : ConnectorTask → SMPConnector
  | .closeCheck => s.closeCheck
  | .close => s.requestClose
  | .onClosed => s.note [.closed]

end SMPConnector

/-- What can happen to the connector. -/
inductive ConnectorEvent where
  | createConnection (created : Bool)
  | createMasqueTunnel
  | close
  | notifyConnClosed (id : ℕ)
  /-- The runtime runs the oldest task. -/
  | run
  deriving DecidableEq

/-- How the connector handles an event. A connection that was created reports its end at
most once. -/
def SMPConnector.step (s : SMPConnector) : ConnectorEvent → SMPConnector
  | .createConnection created => (s.createConnection created).1
  | .createMasqueTunnel => s.createMasqueTunnel
  | .close => s.close
  | .notifyConnClosed id =>
    if .created id ∈ s.trace ∧ .notified id ∉ s.trace then s.notifyConnClosed id else s
  | .run =>
    match s.tasks with
    | [] => s
    | t :: ts => { s with tasks := ts }.runTask t

/-- The engine is destroyed or the report of the end is posted. -/
def ConnectorEntry.Ends : ConnectorEntry → Prop
  | .engineDestroy | .postClosed => True
  | _ => False

/-- The end needs a call of `Close` before it, and that all connections created before it
have reported their end before it. -/
def endNeeds (before : List ConnectorEntry) (e : ConnectorEntry) : Prop :=
  e.Ends → .closeCalled ∈ before ∧ ∀ id, .created id ∈ before → .notified id ∈ before

namespace SMPConnector

/-- What the connector keeps: the map holds exactly the connections that were created and
have not reported their end, the counters count them, the end happens at most once and only
after a close when all connections have ended, and a connector that has begun to drain
creates no connection. -/
structure Drains (s : SMPConnector) : Prop where
  /-- What has been allocated has been freed or is in the map. -/
  counted : s.totalAllocatedConns = s.totalFreedConns + s.connsMap.card
  /-- The map holds the connections that were created and have not notified their end. -/
  live : ∀ id, id ∈ s.connsMap ↔ .created id ∈ s.trace ∧ .notified id ∉ s.trace
  /-- The engine is destroyed once at most. -/
  destroyed : s.trace.count .engineDestroy ≤ 1
  /-- The end is posted once at most. -/
  posted : s.trace.count .postClosed ≤ 1
  /-- Nothing comes to an end without need. -/
  ended : Traces.Justified endNeeds s.trace
  /-- A connector that works no longer creates no connections. -/
  refuses : s.state ≠ .working → ∀ created, (s.createConnection created).2 = none ∧
    (s.createConnection created).1.connsMap = s.connsMap

/-- The invariant of the connector: its counters and its map, and where it stands on the
way from the call of `Close` to the end. -/
structure Sound (s : SMPConnector) : Prop where
  /-- The books are balanced. -/
  counted : s.totalAllocatedConns = s.totalFreedConns + s.connsMap.card
  /-- The map holds what was created and has not notified. -/
  live : ∀ id, id ∈ s.connsMap ↔ .created id ∈ s.trace ∧ .notified id ∉ s.trace
  /-- Numbers that have been noted were given out. -/
  numbered : ∀ id, .created id ∈ s.trace → id < s.nextConnId
  /-- Only what was created notifies. -/
  reported : ∀ id, .notified id ∈ s.trace → .created id ∈ s.trace
  /-- A connector that is not to end works. -/
  unrequested : s.newState = .max → s.state = .working
  /-- A connector is to end only after `Close`. -/
  requested : s.newState = .max ∨ s.newState = .freed ∧ .closeCalled ∈ s.trace
  /-- It is not beyond its last state. -/
  bounded : s.state ≠ .max
  /-- The task of `Close` comes from a call. -/
  called : .close ∈ s.tasks → .closeCalled ∈ s.trace
  /-- Before the end nothing has ended. -/
  running : s.state ≠ .freed → ∀ e ∈ s.trace, ¬ e.Ends
  /-- The engine has been destroyed once at most. -/
  destroyed : s.trace.count .engineDestroy ≤ 1
  /-- The end has been posted once at most. -/
  posted : s.trace.count .postClosed ≤ 1
  /-- Whatever has ended had need to. -/
  ended : Traces.Justified endNeeds s.trace

namespace Sound

variable {s : SMPConnector}

/-- A new connector is sound. -/
theorem create : Sound SMPConnector.create where
  counted := rfl
  live := by simp [SMPConnector.create]
  numbered := by simp [SMPConnector.create]
  reported := by simp [SMPConnector.create]
  unrequested := fun _ => rfl
  requested := Or.inl rfl
  bounded := by simp [SMPConnector.create]
  called := by simp [SMPConnector.create]
  running := by simp [SMPConnector.create]
  destroyed := by simp [SMPConnector.create]
  posted := by simp [SMPConnector.create]
  ended := Traces.justified_nil

/-- A close is requested exactly when the connector is closing. -/
theorem closing_iff (hs : Sound s) : s.closing = true ↔ s.newState = .freed := by
  unfold closing
  have hunrequested := hs.unrequested
  have hbounded := hs.bounded
  obtain hnew | ⟨hnew, -⟩ := hs.requested <;> rw [hnew] <;>
    cases hstate : s.state <;> simp_all [ConnectorState.val]

/-- Entries that neither end the connector nor are about connections may be recorded. -/
theorem note (hs : Sound s) {e : ConnectorEntry} (hend : ¬ e.Ends)
    (hcreated : ∀ id, e ≠ .created id) (hnotified : ∀ id, e ≠ .notified id) :
    Sound (s.note [e]) where
  counted := hs.counted
  live := by
    intro id
    have hid := hs.live id
    simp only [SMPConnector.note, List.mem_append, List.mem_singleton]
    have := hcreated id
    have := hnotified id
    grind
  numbered := by
    intro id hid
    simp only [SMPConnector.note, List.mem_append, List.mem_singleton] at hid
    exact hs.numbered id (hid.resolve_right (Ne.symm (hcreated id)))
  reported := by
    intro id hid
    simp only [SMPConnector.note, List.mem_append, List.mem_singleton] at hid ⊢
    exact Or.inl (hs.reported id (hid.resolve_right (Ne.symm (hnotified id))))
  unrequested := hs.unrequested
  requested := hs.requested.imp id fun h => ⟨h.1, List.mem_append_left _ h.2⟩
  bounded := hs.bounded
  called := fun h => List.mem_append_left _ (hs.called h)
  running := by
    intro hstate e' he'
    obtain he' | he' := List.mem_append.mp he'
    · exact hs.running hstate e' he'
    · rw [List.mem_singleton.mp he']
      exact hend
  destroyed := by
    have hne : e ≠ .engineDestroy := by
      rintro rfl
      exact hend trivial
    simpa [SMPConnector.note, List.count_append, List.count_singleton, hne] using hs.destroyed
  posted := by
    have hne : e ≠ .postClosed := by
      rintro rfl
      exact hend trivial
    simpa [SMPConnector.note, List.count_append, List.count_singleton, hne] using hs.posted
  ended := hs.ended.concat fun h => absurd h hend

/-- The drain begins. -/
theorem beginDrain (hs : Sound s) (hclosing : s.closing = true) :
    Sound s.beginDrain ∧ s.beginDrain.state ≠ .working := by
  unfold SMPConnector.beginDrain
  split
  case isTrue hworking =>
    have hnew := hs.closing_iff.mp hclosing
    have hnote := hs.note (e := .connsClose s.connsMap) (by simp [ConnectorEntry.Ends])
      (by simp) (by simp)
    refine ⟨?_, by simp⟩
    exact
      { hnote with
        unrequested := by simp [hnew]
        bounded := by simp
        running := fun _ => hnote.running (by simp [SMPConnector.note, hworking]) }
  case isFalse hworking => exact ⟨hs, hworking⟩

/-- The drain ends when all connections have reported their end. -/
theorem endDrain (hs : Sound s) (hclosing : s.newState = .freed) : Sound s.endDrain := by
  unfold SMPConnector.endDrain
  split
  case isFalse => exact hs
  case isTrue h =>
    obtain ⟨hinit, hempty⟩ := h
    have hcalled : .closeCalled ∈ s.trace := by
      obtain hnew | ⟨-, hcalled⟩ := hs.requested
      · rw [hnew] at hclosing
        exact absurd hclosing (by simp)
      · exact hcalled
    have hrunning := hs.running (by simp [hinit])
    have hdestroyed : .engineDestroy ∉ s.trace := fun h => hrunning _ h trivial
    have hposted : .postClosed ∉ s.trace := fun h => hrunning _ h trivial
    have hreported : ∀ id, .created id ∈ s.trace → .notified id ∈ s.trace := by
      intro id hid
      by_contra hnot
      have hmem := (hs.live id).mpr ⟨hid, hnot⟩
      rw [Finset.card_eq_zero.mp hempty] at hmem
      exact absurd hmem (Finset.notMem_empty id)
    constructor
    · exact hs.counted
    · simpa using hs.live
    · simpa using hs.numbered
    · simpa using hs.reported
    · simp [hclosing]
    · exact Or.inr ⟨hclosing, List.mem_append_left _ hcalled⟩
    · simp
    · simpa using fun h => hs.called h
    · simp
    · simp [List.count_append, List.count_eq_zero.mpr hdestroyed]
    · simp [List.count_append, List.count_eq_zero.mpr hposted]
    · have hfirst : Traces.Justified endNeeds (s.trace ++ [.engineDestroy]) :=
        hs.ended.concat fun _ => ⟨hcalled, hreported⟩
      have hboth := hfirst.concat (a := .postClosed) fun _ =>
        ⟨List.mem_append_left _ hcalled, by simpa using hreported⟩
      rwa [List.append_assoc] at hboth

/-- `_CloseCheck` keeps it sound. -/
theorem closeCheck (hs : Sound s) : Sound s.closeCheck := by
  unfold SMPConnector.closeCheck
  split
  case isTrue hclosing =>
    refine (hs.beginDrain hclosing).1.endDrain ?_
    unfold SMPConnector.beginDrain
    split <;> exact hs.closing_iff.mp hclosing
  case isFalse => exact hs

/-- A close is requested after a call of `Close`. -/
theorem requestClose (hs : Sound s) (hcalled : .closeCalled ∈ s.trace) :
    Sound s.requestClose := by
  unfold SMPConnector.requestClose
  split
  case isTrue => exact hs.closeCheck
  case isFalse hclosing =>
    have hfreed : Sound { s with newState := .freed } :=
      { hs with unrequested := by simp, requested := Or.inr ⟨rfl, hcalled⟩ }
    exact hfreed.closeCheck

/-- A new connection is entered under a new number. -/
theorem enter (hs : Sound s) (hunclosed : s.closing = false) :
    Sound (s.createConnection true).1 := by
  have hnumber : .created s.nextConnId ∉ s.trace := by
    intro h
    have := hs.numbered _ h
    omega
  have hnotified : .notified s.nextConnId ∉ s.trace := fun h => hnumber (hs.reported _ h)
  have hmap : s.nextConnId ∉ s.connsMap := fun h => hnumber ((hs.live _).mp h).1
  have hworking : s.newState = .max := by
    refine hs.requested.resolve_right fun h => ?_
    rw [hs.closing_iff.mpr h.1] at hunclosed
    exact absurd hunclosed (by simp)
  simp only [createConnection, hunclosed, Bool.false_eq_true, if_false, if_true]
  constructor
  · have := hs.counted
    simp only [Finset.card_insert_of_notMem hmap]
    omega
  · intro id
    have hid := hs.live id
    simp only [Finset.mem_insert, List.mem_append, List.mem_singleton,
      ConnectorEntry.created.injEq, reduceCtorEq, or_false]
    grind
  · intro id hid
    change id < s.nextConnId + 1
    obtain hid | hid := List.mem_append.mp hid
    · have := hs.numbered id hid
      omega
    · simp only [List.mem_singleton, ConnectorEntry.created.injEq] at hid
      omega
  · intro id hid
    simp only [List.mem_append, List.mem_singleton, reduceCtorEq, or_false] at hid
    exact List.mem_append_left _ (hs.reported id hid)
  · exact hs.unrequested
  · exact Or.inl hworking
  · exact hs.bounded
  · exact fun h => List.mem_append_left _ (hs.called h)
  · intro hstate e he
    obtain he | he := List.mem_append.mp he
    · exact hs.running hstate e he
    · simp [List.mem_singleton.mp he, ConnectorEntry.Ends]
  · simpa [List.count_append] using hs.destroyed
  · simpa [List.count_append] using hs.posted
  · exact hs.ended.concat fun h => absurd h (by simp [ConnectorEntry.Ends])

/-- A connection that is created, or refused, keeps it sound. -/
theorem createConnection (hs : Sound s) (created : Bool) :
    Sound (s.createConnection created).1 := by
  by_cases hclosing : s.closing = true
  · simp only [SMPConnector.createConnection, hclosing, if_true]
    exact hs.closeCheck.note (by simp [ConnectorEntry.Ends]) (by simp) (by simp)
  · cases created with
    | true => exact hs.enter (by simpa using hclosing)
    | false =>
      simp only [SMPConnector.createConnection, hclosing, if_false, Bool.false_eq_true]
      exact hs.note (by simp [ConnectorEntry.Ends]) (by simp) (by simp)

/-- A connection that has not reported its end leaves the map. -/
theorem notifyConnClosed (hs : Sound s) {id : ℕ} (hcreated : .created id ∈ s.trace)
    (hlive : .notified id ∉ s.trace) : Sound (s.notifyConnClosed id) := by
  have hmem : id ∈ s.connsMap := (hs.live id).mpr ⟨hcreated, hlive⟩
  constructor
  · have hcounted := hs.counted
    have hcard := Finset.card_erase_add_one hmem
    simp only [SMPConnector.notifyConnClosed]
    omega
  · intro id'
    have hid := hs.live id'
    simp only [SMPConnector.notifyConnClosed, Finset.mem_erase, List.mem_append,
      List.mem_singleton, ConnectorEntry.notified.injEq, reduceCtorEq, or_false]
    grind
  · intro id' hid
    simp only [SMPConnector.notifyConnClosed, List.mem_append, List.mem_singleton, reduceCtorEq,
      or_false] at hid
    exact hs.numbered id' hid
  · intro id' hid
    simp only [SMPConnector.notifyConnClosed, List.mem_append, List.mem_singleton,
      ConnectorEntry.notified.injEq] at hid
    refine List.mem_append_left _ ?_
    obtain hid | rfl := hid
    · exact hs.reported id' hid
    · exact hcreated
  · exact hs.unrequested
  · exact hs.requested.imp (fun h => h) fun h => ⟨h.1, List.mem_append_left _ h.2⟩
  · exact hs.bounded
  · intro h
    simp only [SMPConnector.notifyConnClosed, List.mem_append, List.mem_singleton, reduceCtorEq,
      or_false] at h
    exact List.mem_append_left _ (hs.called h)
  · intro hstate e he
    obtain he | he := List.mem_append.mp he
    · exact hs.running hstate e he
    · simp [List.mem_singleton.mp he, ConnectorEntry.Ends]
  · simpa [SMPConnector.notifyConnClosed, List.count_append] using hs.destroyed
  · simpa [SMPConnector.notifyConnClosed, List.count_append] using hs.posted
  · exact hs.ended.concat fun h => absurd h (by simp [ConnectorEntry.Ends])

/-- `Close` keeps it sound. -/
theorem close (hs : Sound s) : Sound s.close := by
  have hnote := hs.note (e := .closeCalled) (by simp [ConnectorEntry.Ends]) (by simp) (by simp)
  exact { hnote with called := fun _ => List.mem_append_right _ (by simp) }

/-- A task keeps it sound. -/
theorem run (hs : Sound s) : Sound (s.step .run) := by
  simp only [SMPConnector.step]
  split
  case h_1 => exact hs
  case h_2 t ts htasks =>
    have hpopped : Sound { s with tasks := ts } :=
      { hs with called := fun h => hs.called (by rw [htasks]; exact List.mem_cons_of_mem _ h) }
    cases t with
    | closeCheck => exact hpopped.closeCheck
    | close => exact hpopped.requestClose (hs.called (by rw [htasks]; exact List.mem_cons_self))
    | onClosed => exact hpopped.note (by simp [ConnectorEntry.Ends]) (by simp) (by simp)

/-- Every event keeps it sound. -/
theorem step (hs : Sound s) (e : ConnectorEvent) : Sound (s.step e) := by
  cases e with
  | createConnection created => exact hs.createConnection created
  | createMasqueTunnel =>
    exact { hs with numbered := fun id h => Nat.lt_succ_of_lt (hs.numbered id h) }
  | close => exact hs.close
  | notifyConnClosed id =>
    simp only [SMPConnector.step]
    split
    case isTrue h => exact hs.notifyConnClosed h.1 h.2
    case isFalse => exact hs
  | run => exact hs.run

/-- A connector that has begun to drain is closing. -/
theorem closing_of_draining (hs : Sound s) (h : s.state ≠ .working) : s.closing = true := by
  refine hs.closing_iff.mpr ?_
  obtain hnew | ⟨hnew, -⟩ := hs.requested
  · exact absurd (hs.unrequested hnew) h
  · exact hnew

/-- A sound connector drains. -/
theorem drains (hs : Sound s) : Drains s where
  counted := hs.counted
  live := hs.live
  destroyed := hs.destroyed
  posted := hs.posted
  ended := hs.ended
  refuses := by
    intro hstate created
    have hclosing := hs.closing_of_draining hstate
    simp only [SMPConnector.createConnection, hclosing, if_true, true_and]
    unfold SMPConnector.closeCheck SMPConnector.endDrain SMPConnector.beginDrain
    split_ifs <;> rfl

end Sound

/-- A close check does not lead back to work. -/
theorem closeCheck_draining {s : SMPConnector} (h : s.state ≠ .working) :
    s.closeCheck.state ≠ .working := by
  unfold closeCheck endDrain beginDrain
  split_ifs <;> simp_all

/-- A drain that has begun is not taken back. -/
theorem step_draining {s : SMPConnector} (h : s.state ≠ .working) (e : ConnectorEvent) :
    (s.step e).state ≠ .working := by
  cases e with
  | createConnection created =>
    simp only [step, createConnection]
    split_ifs
    · exact closeCheck_draining h
    · exact h
    · exact h
  | createMasqueTunnel => exact h
  | close => exact h
  | notifyConnClosed id =>
    simp only [step]
    split <;> exact h
  | run =>
    simp only [step]
    split
    case h_1 => exact h
    case h_2 t ts _ =>
      cases t with
      | closeCheck => exact closeCheck_draining h
      | close =>
        simp only [runTask, requestClose]
        split
        · exact closeCheck_draining h
        · exact closeCheck_draining h
      | onClosed => exact h

/-- In every run the map and the counters of the connector agree with the connections that
are created and end, the engine is destroyed and the end reported at most once, after a
close and the end of all connections, and no connection is created once a drain has begun. -/
theorem run_drains (events : List ConnectorEvent) :
    Drains (Runs.run step create events) ∧
      ∀ first, first <+: events → (Runs.run step create first).state ≠ .working →
        ∀ created, ((Runs.run step create events).createConnection created).2 = none ∧
          ((Runs.run step create events).createConnection created).1.connsMap =
            (Runs.run step create events).connsMap := by
  have hsound : Sound (Runs.run step create events) :=
    Runs.invariant (I := Sound) (fun _ e h => h.step e) Sound.create events
  refine ⟨hsound.drains, ?_⟩
  rintro first ⟨rest, rfl⟩ hdrain
  refine hsound.drains.refuses ?_
  rw [Runs.run_append]
  exact Runs.invariant (I := fun s : SMPConnector => s.state ≠ .working)
    (fun _ e h => step_draining h e) hdrain rest

end SMPConnector

end Conn
