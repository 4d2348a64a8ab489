import TTSignal.Udp.Phases
import Mathlib.Data.Int.Notation

/-!
# The event queue of a sender

`Restart`, `Start`, `StartRecv` and `Close` post an event. The queue wakes its task with one
control, and the task takes out one event after the other until there is none. A sender that
waits for cancelled operations on its way down drops what it takes out, so that a `Close` behind
a `Restart` is lost; a `Restart` behind another one is only counted, and one that finds the
sender at rest is never taken up.
-/

namespace Udp

/-- `BCEventItemS`. -/
structure EventItem where
  /-- `eType`, with `wParam`. -/
  eType : Sender.Event
  /-- `lParam`. -/
  lParam : ℤ
  deriving DecidableEq

/-- The network handle of `SNDRM_RESTART_WORK`. -/
def EventItem.restart? (e : EventItem) : Option ℤ :=
  match e.eType with
  | .restartWork _ => some e.lParam
  | _ => none

/-- The network handles of the restarts. -/
def restartsOf (items : List EventItem) : List ℤ := items.filterMap EventItem.restart?

/-- A `Close` is among the events. -/
def HasStop (items : List EventItem) : Prop := ∃ e ∈ items, e.eType = .stopWork

instance (items : List EventItem) : Decidable (HasStop items) :=
  inferInstanceAs (Decidable (∃ e ∈ items, e.eType = .stopWork))

/-- `UDPSender` with its `BCEventQueue`, whose `m_nCtrls` is a field of the sender. -/
structure Queue where
  /-- The sender. -/
  sender : Sender
  /-- `m_lstEvents`. -/
  events : List EventItem
  /-- `m_nEventState` is `EVENT_STATE_RUNNING`. -/
  running : Bool
  /-- `m_nNetworkHandle`. -/
  networkHandle : ℤ
  /-- All events that have been posted. -/
  posted : List EventItem
  /-- The events that have been taken out. -/
  taken : List EventItem
  /-- The last `_InitSocket`: the network handles of the restarts taken out before, and the one
  it used. -/
  initialized : List ℤ × ℤ
  /-- An operation has failed for good, or the handler has thrown. -/
  failed : Bool
  deriving DecidableEq

namespace Queue

variable (sys : System) (q : Queue)

/-- Note the initialization of a socket since a sender. -/
def record (before : Sender) : Queue :=
  if before.restarts < q.sender.restarts then
    { q with initialized := (restartsOf q.taken, q.networkHandle) }
  else q

/-- `QueueEvent`. -/
def post (e : EventItem) : Queue :=
  { q with
    events := q.events ++ [e]
    posted := q.posted ++ [e]
    sender.ctrls :=
      if q.sender.detached = false ∧ q.sender.ctrls = 0 ∧ q.running = false then
        q.sender.ctrls + 1
      else q.sender.ctrls }

/-- `_EventCallback` begins. -/
def callback : Queue :=
  if q.sender.outside ∨ q.sender.closed ∨ q.running ∨ q.sender.ctrls = 0 then q
  else { q with running := true, sender.ctrls := q.sender.ctrls - 1 }

/-- The test in front of an event. -/
def test : Queue := { q with sender := (q.sender.exitCheck sys).2 }.record q.sender

/-- An event is taken out. -/
def take (e : EventItem) (events : List EventItem) : Queue :=
  { q with events := events, taken := q.taken ++ [e] }

/-- An event behind its test. -/
def handle (e : EventItem) : Queue :=
  { q with
    networkHandle := e.restart?.getD q.networkHandle
    sender := ((q.sender.onEvent sys e.eType).exitCheck sys).2 }.record q.sender

/-- `OnEventProcess` for an event that is taken out. -/
def process (e : EventItem) (events : List EventItem) : Queue :=
  if (q.sender.exitCheck sys).1 then (q.test sys).take e events
  else ((q.test sys).take e events).handle sys e

/-- The loop of `_EventCallback`. -/
def next : Queue :=
  if q.running then
    match q.events with
    | [] => { q with running := false }
    | e :: events => q.process sys e events
  else q

/-- `OnEventProcShutdown`, which flushes the events. -/
def shutdown : Queue :=
  if q.running ∨ q.sender.outside ∨ ¬ q.sender.detached ∨ q.sender.closed then q
  else { q with sender := q.sender.onEventProcShutdown, events := [] }

/-- The steps of the sender's task, which does one thing at a time. -/
def OnTask : Step → Bool
  | .send _ => false
  | .sendMMsg _ _ => false
  | .connect => false
  | _ => true

/-- The steps that are no events of the queue. -/
def IsOther : Step → Bool
  | .event _ => false
  | .ctrl _ => false
  | .shutdown => false
  | _ => true

/-- Another step of the sender. -/
def other (e : Step) : Queue :=
  if IsOther e ∧ ¬ (q.running ∧ OnTask e) then
    { q with
      sender := q.sender.step sys e
      failed := q.failed || decide (q.sender.Fails e) }.record q.sender
  else q

/-- What happens to a sender and its queue. -/
inductive Action where
  /-- An event is posted. -/
  | post (e : EventItem)
  /-- The task of the queue is woken. -/
  | callback
  /-- It takes the next event out. -/
  | next
  /-- The shutdown event of the task. -/
  | shutdown
  /-- Anything else that happens to the sender. -/
  | other (e : Step)
  deriving DecidableEq

/-- What happens to a sender and its queue, if it can happen now. -/
def step (sys : System) (q : Queue) : Action → Queue
  | .post e => q.post e
  | .callback => q.callback
  | .next => q.next sys
  | .shutdown => q.shutdown
  | .other e => q.other sys e

/-- `Create`, with what the system answers to `_InitSocket` and the first network handle. -/
def create (a : Setup) (networkHandle : ℤ) : Option Queue :=
  (Sender.create a).map fun s => ⟨s, [], false, networkHandle, [], [], ([], networkHandle), false⟩

/-- Everything that has been posted and everything that is to be completed has been processed. -/
structure Settled : Prop where
  /-- There are no events. -/
  events_eq : q.sender.closed = false → q.events = []
  /-- The operations of a sender that is to come down have completed. -/
  operations : q.sender.newState < q.sender.state →
    q.sender.pendingRecv = 0 ∧ q.sender.pendingSend = 0
  /-- The availability check is over. -/
  timer : q.sender.checkTimer = false
  /-- The shutdown event has been processed. -/
  shutdown : q.sender.detached = true → q.sender.closed = true

/-- No control is lost. -/
structure KeepsControl : Prop where
  /-- A sender that has been closed has been detached, and has told so once. -/
  close : HasStop q.posted → q.sender.detached = true ∧
    q.sender.trace.count (.calls .onUdpClosed) = 1
  /-- The last restart has initialized the socket with its network handle, and no restart waits,
  unless a failure has freed the sender; a sender that reads has its socket. -/
  restart : ¬ HasStop q.posted → restartsOf q.posted ≠ [] → q.failed = false →
    q.sender.pendingRestart = 0 ∧ (q.sender.state = sndrStateReading → q.sender.KeepsSocket sys) ∧
      ∃ handles handle, restartsOf q.posted = handles ++ [handle] ∧
        q.initialized = (restartsOf q.posted, handle)

/-- A control that is taken out finds a sender that is not busy, and a restart finds one that
takes it up or is to be shut down. -/
def Handled (sys : System) (q : Queue) (a : Action) : Prop :=
  ∀ e events, a = .next → q.running = true → q.events = e :: events →
    (e.eType = .stopWork ∨ e.restart? ≠ none → ¬ q.sender.Busy) ∧
      (e.restart? ≠ none → q.sender.newState = sndrStateFreed ∨ q.sender.TakesUp sys)

instance (sys : System) (q : Queue) (a : Action) : Decidable (Handled sys q a) :=
  decidable_of_iff (a = .next → q.running = true → ∀ e ∈ q.events.head?,
    (e.eType = .stopWork ∨ e.restart? ≠ none → ¬ q.sender.Busy) ∧
      (e.restart? ≠ none → q.sender.newState = sndrStateFreed ∨ q.sender.TakesUp sys)) <| by
    constructor
    · intro h e events hnext hrunning hevents
      exact h hnext hrunning e (by rw [hevents]; rfl)
    · intro h hnext hrunning e he
      cases hevents : q.events with
      | nil =>
        rw [hevents] at he
        cases he
      | cons first events =>
        rw [hevents, List.head?_cons, Option.mem_some_iff] at he
        subst he
        exact h first events hnext hrunning hevents

/-! ### What holds between two steps -/

/-- The last initialization came behind the last restart that has been taken out. -/
def UpToDate (q : Queue) : Prop :=
  ∃ handle, q.initialized = (restartsOf q.taken, handle) ∧
    ∀ handles last, restartsOf q.taken = handles ++ [last] → handle = last

/-- What has come to pass. -/
def past (q : Queue) : Sender.Past := ⟨q.UpToDate, q.failed = true, HasStop q.taken⟩

/-- What holds between two steps in a run whose controls are handled. -/
structure Sound (sys : System) (q : Queue) : Prop where
  /-- The sender is on the ladder. -/
  steady : q.sender.Steady False
  /-- It is in a phase. -/
  phase : q.sender.Phase sys q.past
  /-- If it is to come down, it waits for something, or the queue goes on. -/
  waiting : q.sender.newState < q.sender.state →
    q.sender.Waits ∨ q.running = true ∧ q.events ≠ []
  /-- There is one control at most, and then an event. -/
  ctrls : q.sender.ctrls ≤ 1 ∧ (0 < q.sender.ctrls → q.sender.closed = true ∨ q.events ≠ [])
  /-- A running queue has no control, and its sender is not closed. -/
  busy : q.running = true → q.sender.ctrls = 0 ∧ q.sender.closed = false
  /-- The events that have been posted are taken out in order. -/
  posted : ∃ rest, q.posted = q.taken ++ rest ∧ (q.sender.closed = false → rest = q.events)
  /-- The network handle is that of the last restart. -/
  handle : q.sender.newState ≠ sndrStateFreed →
    ∀ handles last, restartsOf q.taken = handles ++ [last] → q.networkHandle = last
  /-- The sender tells once that it is closed. -/
  told : q.sender.trace.count (.calls .onUdpClosed) = if q.sender.closed then 1 else 0

variable {sys : System} {q : Queue}

/-- Recording an initialization changes nothing else. -/
theorem record_eq (q : Queue) (before : Sender) :
    ∃ initialized, q.record before = { q with initialized := initialized } := by
  unfold record
  split
  · exact ⟨_, rfl⟩
  · exact ⟨q.initialized, rfl⟩

/-- A recorded initialization is the last one. -/
theorem upToDate_record {before : Sender}
    (hfresh : q.UpToDate ∨ before.restarts < q.sender.restarts)
    (hhandle : ∀ handles last, restartsOf q.taken = handles ++ [last] → q.networkHandle = last) :
    (q.record before).UpToDate := by
  unfold record
  split
  · exact ⟨q.networkHandle, rfl, hhandle⟩
  · rename_i hsame
    exact hfresh.resolve_right hsame

/-- The phase of a sender whose initialization has been recorded. -/
theorem phase_record (sys : System) (q : Queue) (before : Sender)
    (hphase : q.sender.Phase sys (q.past.after (before.restarts < q.sender.restarts)))
    (hhandle : q.sender.newState ≠ sndrStateFreed →
      ∀ handles last, restartsOf q.taken = handles ++ [last] → q.networkHandle = last) :
    (q.record before).sender.Phase sys (q.record before).past := by
  obtain ⟨initialized, hrecord⟩ := record_eq q before
  by_cases hfreed : q.sender.newState = sndrStateFreed
  · rw [hrecord]
    exact hphase.of_freed hfreed id
  · have hfresh (h : q.UpToDate ∨ before.restarts < q.sender.restarts) :
        (q.record before).UpToDate := upToDate_record h (hhandle hfreed)
    rw [hrecord] at hfresh ⊢
    exact hphase.mono hfresh id Iff.rfl

/-- What has happened holds no shutdown but that of the shutdown event. -/
theorem count_closed {P : Callback → Prop} {s t : Sender} (h : Sender.Grows P s t)
    (hP : ∀ c, P c → c ≠ .onUdpClosed) :
    t.trace.count (.calls .onUdpClosed) = s.trace.count (.calls .onUdpClosed) := by
  obtain ⟨notes, htrace, hnotes⟩ := h.trace
  have hnone : Note.calls .onUdpClosed ∉ notes := fun hmem => hP _ (hnotes _ hmem) rfl
  rw [htrace, List.count_append, List.count_eq_zero.mpr hnone, Nat.add_zero]

/-- The callbacks of a restart tell of no shutdown. -/
theorem ofRestart_ne {c : Callback} (hc : c.OfRestart) : c ≠ .onUdpClosed := by
  rcases hc with rfl | ⟨result, rfl⟩
  · nofun
  · nofun

/-- An event that is posted keeps it sound. -/
theorem Sound.post (h : Sound sys q) (e : EventItem) : Sound sys (q.post e) where
  steady := h.steady.of_eq rfl rfl rfl (fun _ hzero => hzero) rfl rfl rfl rfl h.steady.served
  phase := h.phase.of_eq rfl rfl rfl rfl rfl rfl
  waiting hlt := by
    rcases h.waiting hlt with (hdetached | hrecv | hsend | hctrls) | ⟨hrunning, -⟩
    · exact .inl (.inl hdetached)
    · exact .inl (.inr (.inl hrecv))
    · exact .inl (.inr (.inr (.inl hsend)))
    · refine .inl (.inr (.inr (.inr ?_)))
      unfold Queue.post
      dsimp only
      split
      · omega
      · exact hctrls
    · exact .inr ⟨hrunning, List.append_ne_nil_of_right_ne_nil _ (List.cons_ne_nil _ _)⟩
  ctrls := by
    have hle := h.ctrls.1
    refine ⟨?_, fun _ => .inr (List.append_ne_nil_of_right_ne_nil _ (List.cons_ne_nil _ _))⟩
    unfold Queue.post
    dsimp only
    split
    · omega
    · exact hle
  busy hrunning := by
    have hrunning' : q.running = true := hrunning
    obtain ⟨hctrls, hclosed⟩ := h.busy hrunning'
    refine ⟨?_, hclosed⟩
    unfold Queue.post
    rw [if_neg (by simp [hrunning'])]
    exact hctrls
  posted := by
    obtain ⟨rest, hposted, hrest⟩ := h.posted
    refine ⟨rest ++ [e], ?_, fun hclosed => congrArg (· ++ [e]) (hrest hclosed)⟩
    change q.posted ++ [e] = q.taken ++ (rest ++ [e])
    rw [hposted, List.append_assoc]
  handle := h.handle
  told := h.told

/-- The task that is woken keeps it sound. -/
theorem Sound.callback (h : Sound sys q) : Sound sys q.callback := by
  unfold Queue.callback
  split
  · exact h
  · rename_i hwakes
    simp only [not_or] at hwakes
    obtain ⟨-, hclosed, -, hctrls⟩ := hwakes
    have hevents : q.events ≠ [] := by
      rcases h.ctrls.2 (Nat.pos_of_ne_zero hctrls) with hdone | hevents
      · exact absurd hdone hclosed
      · exact hevents
    have hone := h.ctrls.1
    have hzero : q.sender.ctrls - 1 = 0 := by omega
    exact
      { steady := h.steady.of_eq rfl rfl rfl (fun _ hzero => hzero) rfl rfl rfl rfl h.steady.served
        phase := h.phase.of_eq rfl rfl rfl rfl rfl rfl
        waiting := fun _ => .inr ⟨rfl, hevents⟩
        ctrls := ⟨by change q.sender.ctrls - 1 ≤ 1; omega, fun _ => .inr hevents⟩
        busy := fun _ => ⟨hzero, by simpa using hclosed⟩
        posted := h.posted
        handle := h.handle
        told := h.told }

/-- The shutdown event. -/
theorem Sound.shutdown (h : Sound sys q) : Sound sys q.shutdown := by
  unfold Queue.shutdown
  split
  · exact h
  · rename_i hdoes
    simp only [not_or, not_not] at hdoes
    obtain ⟨hrunning, -, hdown, hclosed⟩ := hdoes
    exact
      { steady := h.steady.onEventProcShutdown hdown
        phase := h.phase.shutdown (h.steady.down hdown).2
        waiting := fun _ => .inl (.inl hdown)
        ctrls := ⟨h.ctrls.1, fun _ => .inl rfl⟩
        busy := fun hgoes => absurd hgoes hrunning
        posted := by
          obtain ⟨rest, hposted, -⟩ := h.posted
          exact ⟨rest, hposted, nofun⟩
        handle := h.handle
        told := by
          have htold := h.told
          rw [if_neg hclosed] at htold
          change (q.sender.trace ++ [Note.calls .onUdpClosed]).count _ = 1
          rw [List.count_append, htold]
          rfl }

/-- A step that is no shutdown event tells of no shutdown. -/
theorem calls_ne {e : Step} {c : Callback} (hc : e.Calls c) : c ≠ .onUdpClosed := by
  cases e with
  | recvDone => exact hc.elim ofRestart_ne fun heq => by rw [heq]; nofun
  | sendDone => exact hc.elim ofRestart_ne fun heq => by rw [heq]; nofun
  | _ => exact ofRestart_ne hc

/-- Another step of the sender keeps it sound. -/
theorem Sound.other (h : Sound sys q) (e : Step) : Sound sys (q.other sys e) := by
  unfold Queue.other
  split
  · rename_i hdoes
    have hne : e ≠ .shutdown := by
      rintro rfl
      cases hdoes.1
    have hother : Sender.IsOther e := by
      cases e with
      | event => cases hdoes.1
      | ctrl => cases hdoes.1
      | _ => trivial
    have hgrows := Sender.grows_step sys q.sender hne
    obtain ⟨hkept, hwaits⟩ := h.phase.other h.steady hother
    obtain ⟨initialized, hrecord⟩ := record_eq { q with
      sender := q.sender.step sys e
      failed := q.failed || decide (q.sender.Fails e) } q.sender
    have hhandle : (q.sender.step sys e).newState ≠ sndrStateFreed →
        ∀ handles last, restartsOf q.taken = handles ++ [last] → q.networkHandle = last :=
      fun hopen => h.handle (mt hkept.freed_kept hopen)
    have hphase := phase_record sys { q with
      sender := q.sender.step sys e
      failed := q.failed || decide (q.sender.Fails e) } q.sender
      (hkept.phase.mono id (by simp [past, Sender.Past.fails, Sender.Past.after]) Iff.rfl) hhandle
    rw [hrecord] at hphase ⊢
    exact
      { steady := h.steady.step nofun
        phase := hphase
        waiting := fun hlt => by
          by_cases hwaiting : q.sender.Waiting
          · exact .inl (hwaits hwaiting hlt)
          · right
            obtain ⟨hlower, hnone⟩ := Classical.not_imp.mp hwaiting
            exact (h.waiting hlower).resolve_left hnone
        ctrls := by
          change (q.sender.step sys e).ctrls ≤ 1 ∧ _
          rw [hkept.ctrls_eq, hgrows.closed]
          exact h.ctrls
        busy := fun hrunning => by
          change (q.sender.step sys e).ctrls = 0 ∧ (q.sender.step sys e).closed = false
          rw [hkept.ctrls_eq, hgrows.closed]
          exact h.busy hrunning
        posted := by
          obtain ⟨rest, hposted, hrest⟩ := h.posted
          exact ⟨rest, hposted, fun hclosed => hrest (hgrows.closed.symm.trans hclosed)⟩
        handle := hhandle
        told := by
          change (q.sender.step sys e).trace.count _ = if (q.sender.step sys e).closed then 1 else 0
          rw [count_closed hgrows fun c hc => calls_ne hc, hgrows.closed]
          exact h.told }
  · exact h

/-- Restarts and stops among the events with one more. -/
theorem restartsOf_concat (items : List EventItem) (e : EventItem) :
    restartsOf (items ++ [e]) = restartsOf items ++ e.restart?.toList := by
  unfold restartsOf
  rw [List.filterMap_append]
  cases hrestart : e.restart? with
  | none => rw [List.filterMap_cons_none hrestart]; rfl
  | some handle => rw [List.filterMap_cons_some hrestart]; rfl

/-- A `Close` among the events with one more. -/
theorem hasStop_concat (items : List EventItem) (e : EventItem) :
    HasStop (items ++ [e]) ↔ HasStop items ∨ e.eType = .stopWork := by
  unfold HasStop
  simp [or_and_right, exists_or]

/-- An event has been taken out and processed. -/
theorem Sound.processed (h : Sound sys q) {e : EventItem} {events : List EventItem}
    (hrunning : q.running = true) (hevents : q.events = e :: events) {v : Sender} {handle : ℤ}
    {initialized : List ℤ × ℤ} (hsteady : v.Steady False) (hctrls : v.ctrls = q.sender.ctrls)
    (hgrows : Sender.Grows Callback.OfRestart q.sender v) (hwaiting : v.Waiting)
    (hphase : v.Phase sys (Queue.past { q with
      sender := v, events := events, taken := q.taken ++ [e], networkHandle := handle,
      initialized := initialized }))
    (hhandle : v.newState ≠ sndrStateFreed →
      ∀ handles last, restartsOf (q.taken ++ [e]) = handles ++ [last] → handle = last) :
    Sound sys { q with
      sender := v, events := events, taken := q.taken ++ [e], networkHandle := handle,
      initialized := initialized } := by
  obtain ⟨hzero, hclosed⟩ := h.busy hrunning
  have hnone : v.ctrls = 0 := hctrls.trans hzero
  exact
    { steady := hsteady
      phase := hphase
      waiting := fun hlt => .inl (hwaiting hlt)
      ctrls := by
        refine ⟨?_, fun hpos => ?_⟩
        · change v.ctrls ≤ 1
          omega
        · have hsome : 0 < v.ctrls := hpos
          omega
      busy := fun _ => ⟨hnone, hgrows.closed.trans hclosed⟩
      posted := by
        obtain ⟨rest, hposted, hrest⟩ := h.posted
        refine ⟨events, ?_, fun _ => rfl⟩
        change q.posted = q.taken ++ [e] ++ events
        rw [hposted, hrest hclosed, hevents, List.append_assoc]
        rfl
      handle := hhandle
      told := by
        change v.trace.count _ = if v.closed then 1 else 0
        rw [count_closed hgrows fun c hc => ofRestart_ne hc, hgrows.closed]
        exact h.told }

/-- The test in front of an event keeps the run sound. -/
theorem Sound.test (h : Sound sys q) :
    (q.sender.exitCheck sys).2.Phase sys (q.test sys).past ∧
      ∃ initialized, q.test sys =
        { q with sender := (q.sender.exitCheck sys).2, initialized := initialized } := by
  have hkept := Sender.keeps_exitCheck sys _ _ h.phase
  have hhandle : (q.sender.exitCheck sys).2.newState ≠ sndrStateFreed →
      ∀ handles last, restartsOf q.taken = handles ++ [last] → q.networkHandle = last :=
    fun hopen => h.handle (mt hkept.freed_kept hopen)
  obtain ⟨initialized, htest⟩ := record_eq { q with sender := (q.sender.exitCheck sys).2 } q.sender
  have hphase := phase_record sys { q with sender := (q.sender.exitCheck sys).2 } q.sender
    hkept.phase hhandle
  have hsame : q.test sys =
      { q with sender := (q.sender.exitCheck sys).2, initialized := initialized } := htest
  refine ⟨?_, initialized, hsame⟩
  change (q.test sys).sender.Phase sys (q.test sys).past at hphase
  rw [hsame] at hphase ⊢
  exact hphase

/-- An event that is dropped: the sender is to be shut down, or it is no control. -/
theorem Sound.dropped (h : Sound sys q) {e : EventItem} {events : List EventItem}
    (hrunning : q.running = true) (hevents : q.events = e :: events)
    (hhandled : Handled sys q .next) (hleave : (q.sender.exitCheck sys).1 = true) :
    Sound sys ((q.test sys).take e events) := by
  obtain ⟨hctrls, -⟩ := h.busy hrunning
  obtain ⟨hcontrol, -⟩ := hhandled e events rfl hrunning hevents
  obtain ⟨hphase, initialized, htest⟩ := h.test
  have hnone (hfreed : q.sender.newState ≠ sndrStateFreed) :
      e.eType ≠ .stopWork ∧ e.restart? = none := by
    have hbusy : q.sender.Busy := by
      by_contra hidle
      rw [h.phase.hears hctrls hidle hfreed] at hleave
      cases hleave
    constructor
    · exact fun hstop => hcontrol (.inl hstop) hbusy
    · by_contra hrestart
      exact hcontrol (.inr hrestart) hbusy
  rw [htest] at hphase ⊢
  refine h.processed hrunning hevents (h.steady.exitCheck nofun).1 (Sender.ctrls_exitCheck sys _)
    (Sender.grows_exitCheck sys _) (Sender.waiting_exitCheck h.phase.ladder) ?_ ?_
  · by_cases hfreed : q.sender.newState = sndrStateFreed
    · refine hphase.of_freed (Sender.freed_exitCheck hfreed) (Or.imp_left fun hstop => ?_)
      exact (hasStop_concat _ _).mpr (.inl hstop)
    · obtain ⟨hstop, hrestart⟩ := hnone hfreed
      refine hphase.mono ?_ id ?_
      · rintro ⟨handle, hinitialized, hlast⟩
        refine ⟨handle, ?_, ?_⟩
        · change initialized = (restartsOf (q.taken ++ [e]), handle)
          rw [restartsOf_concat, hrestart, Option.toList_none, List.append_nil]
          exact hinitialized
        · change ∀ handles last, restartsOf (q.taken ++ [e]) = handles ++ [last] → handle = last
          rw [restartsOf_concat, hrestart, Option.toList_none, List.append_nil]
          exact hlast
      · exact (hasStop_concat _ _).trans (or_iff_left hstop)
  · intro hopen
    have hfreed : q.sender.newState ≠ sndrStateFreed := mt Sender.freed_exitCheck hopen
    rw [restartsOf_concat, (hnone hfreed).2, Option.toList_none, List.append_nil]
    exact h.handle hfreed

/-- What an event asks of a sender that the test has let go on. -/
theorem kept_onEvent {past later : Sender.Past} {t : Sender} {e : EventItem}
    (h : t.Phase sys past)
    (hup : e.restart? ≠ none → t.newState = sndrStateMax ∧ t.pendingRestart = 0)
    (hfresh : e.restart? = none → past.fresh → later.fresh)
    (hfailed : past.failed → later.failed)
    (hstopped : later.stopped ↔ past.stopped ∨ e.eType = .stopWork) :
    Sender.Kept sys later t (t.onEvent sys e.eType) := by
  by_cases hstop : e.eType = .stopWork
  · have hkept := h.stopWork
    rw [hstop]
    refine ⟨Nat.le_refl _, rfl, fun _ => rfl, hkept.phase.of_freed rfl fun _ => .inl ?_⟩
    exact hstopped.mpr (.inr hstop)
  · have hsame : later.stopped ↔ past.stopped := hstopped.trans (or_iff_left hstop)
    by_cases hrestart : e.restart? = none
    · have hphase : t.Phase sys later := h.mono (hfresh hrestart) hfailed hsame
      refine Sender.keeps_onEvent sys hstop (fun checkAvailable heq => ?_) later t hphase
      simp [EventItem.restart?, heq] at hrestart
    · obtain ⟨checkAvailable, heq⟩ : ∃ checkAvailable, e.eType = .restartWork checkAvailable := by
        cases htype : e.eType with
        | restartWork checkAvailable => exact ⟨checkAvailable, rfl⟩
        | _ => simp [EventItem.restart?, htype] at hrestart
      obtain ⟨hnew, hpending⟩ := hup hrestart
      have hkept := h.restartWork hnew hpending checkAvailable later.fresh
      rw [heq]
      exact ⟨hkept.restarts_le, hkept.ctrls_eq, hkept.freed_kept,
        hkept.phase.mono id hfailed hsame⟩

/-- An event that is handled. -/
theorem Sound.handled (h : Sound sys q) {e : EventItem} {events : List EventItem}
    (hrunning : q.running = true) (hevents : q.events = e :: events)
    (hhandled : Handled sys q .next) (hgo : (q.sender.exitCheck sys).1 = false) :
    Sound sys (((q.test sys).take e events).handle sys e) := by
  obtain ⟨-, htakes⟩ := hhandled e events rfl hrunning hevents
  obtain ⟨hphase, initialized, htest⟩ := h.test
  have hfreed : q.sender.newState ≠ sndrStateFreed := by
    intro hfreed
    rw [h.phase.leaves hfreed] at hgo
    cases hgo
  obtain ⟨hsteady, hpass⟩ := @Sender.Steady.exitCheck sys _ _ h.steady nofun
  obtain ⟨hattached, -⟩ := hpass hgo
  have htested := Sender.keeps_exitCheck sys _ _ h.phase
  have hup (hrestart : e.restart? ≠ none) := h.phase.takesUp ((htakes hrestart).resolve_left hfreed)
    hgo
  have hgrows := Sender.grows_exitCheck sys q.sender
  have hctrls := Sender.ctrls_exitCheck sys q.sender
  rw [htest] at hphase ⊢
  generalize (q.sender.exitCheck sys).2 = t at *
  -- the past behind the event, before the initialization that it may lead to
  let later : Sender.Past := Queue.past { q with
    taken := q.taken ++ [e], initialized := initialized }
  have hfresh (hrestart : e.restart? = none)
      (h : Queue.UpToDate { q with sender := t, initialized := initialized }) : later.fresh := by
    obtain ⟨handle, hinitialized, hlast⟩ := h
    refine ⟨handle, ?_, ?_⟩
    · change initialized = (restartsOf (q.taken ++ [e]), handle)
      rw [restartsOf_concat, hrestart, Option.toList_none, List.append_nil]
      exact hinitialized
    · change ∀ handles last, restartsOf (q.taken ++ [e]) = handles ++ [last] → handle = last
      rw [restartsOf_concat, hrestart, Option.toList_none, List.append_nil]
      exact hlast
  have hevent : Sender.Kept sys later t (t.onEvent sys e.eType) :=
    kept_onEvent hphase hup hfresh id (hasStop_concat _ _)
  have hkept := hevent.trans (Sender.keeps_exitCheck sys _ _ hevent.phase)
  have hhandle : ∀ handles last, restartsOf (q.taken ++ [e]) = handles ++ [last] →
      e.restart?.getD q.networkHandle = last := by
    intro handles last heq
    rw [restartsOf_concat] at heq
    cases hrestart : e.restart? with
    | none =>
      rw [hrestart, Option.toList_none, List.append_nil] at heq
      exact h.handle hfreed handles last heq
    | some handle =>
      rw [hrestart] at heq
      exact List.singleton_inj.mp (List.append_inj' heq rfl).2
  obtain ⟨initialized', hrecord⟩ := record_eq { q with
    events := events, taken := q.taken ++ [e], initialized := initialized,
    networkHandle := e.restart?.getD q.networkHandle,
    sender := ((t.onEvent sys e.eType).exitCheck sys).2 } t
  have hrecorded := phase_record sys { q with
    events := events, taken := q.taken ++ [e], initialized := initialized,
    networkHandle := e.restart?.getD q.networkHandle,
    sender := ((t.onEvent sys e.eType).exitCheck sys).2 } t hkept.phase fun _ => hhandle
  rw [hrecord] at hrecorded
  have hsame : Queue.handle sys (Queue.take { q with sender := t, initialized := initialized } e
      events) e = { q with
        sender := ((t.onEvent sys e.eType).exitCheck sys).2, events := events,
        taken := q.taken ++ [e], networkHandle := e.restart?.getD q.networkHandle,
        initialized := initialized' } := hrecord
  rw [hsame]
  refine h.processed hrunning hevents
    ((hsteady.onEvent hattached nofun e.eType nofun).exitCheck nofun).1
    (hkept.ctrls_eq.trans hctrls)
    ((hgrows.trans (Sender.grows_onEvent sys t e.eType)).trans (Sender.grows_exitCheck sys _))
    (Sender.waiting_exitCheck hevent.phase.ladder) hrecorded fun _ => hhandle

/-- The task of the queue takes the next event out. -/
theorem Sound.next (h : Sound sys q) (hhandled : Handled sys q .next) : Sound sys (q.next sys) := by
  unfold Queue.next
  split
  · rename_i hrunning
    split
    · rename_i hnone
      exact
        { h with
          phase := h.phase
          waiting := fun hlt => by
            rcases h.waiting hlt with hwaits | ⟨-, hsome⟩
            · exact .inl hwaits
            · exact absurd hnone hsome
          busy := nofun }
    · rename_i e events hevents
      unfold process
      split
      · rename_i hleave
        exact h.dropped hrunning hevents hhandled hleave
      · rename_i hleave
        exact h.handled hrunning hevents hhandled (by simpa using hleave)
  · exact h

/-- A step. -/
theorem Sound.step (h : Sound sys q) {a : Action} (hhandled : Handled sys q a) :
    Sound sys (Queue.step sys q a) := by
  cases a with
  | post e => exact h.post e
  | callback => exact h.callback
  | next => exact h.next hhandled
  | shutdown => exact h.shutdown
  | other e => exact h.other e

/-- A sender is created sound. -/
theorem sound_create {a : Setup} {networkHandle : ℤ} (hq : create a networkHandle = some q) :
    Sound sys q := by
  obtain ⟨s, hs, rfl⟩ := Option.map_eq_some_iff.mp hq
  have hsteady : s.Steady False := Sender.steady_create hs
  have hnone {handles : List ℤ} {last : ℤ} (heq : restartsOf [] = handles ++ [last]) : False := by
    have hlength := congrArg List.length heq
    simp [restartsOf] at hlength
  have hblank : s.state = sndrStateReading ∧ s.newState = sndrStateMax ∧ s.restarts = 0 ∧
      s.pendingRestart = 0 ∧ s.checkTimer = false ∧ s.ctrls = 0 ∧ s.closed = false ∧
        s.trace = [] := by
    unfold Sender.create at hs
    split at hs
    · obtain ⟨socket, hsocket⟩ := Sender.initSocket_eq Sender.blank a
      rw [hsocket] at hs
      cases hs
      exact ⟨rfl, rfl, rfl, rfl, rfl, rfl, rfl, rfl⟩
    · cases hs
  obtain ⟨hstate, hnew, hrestarts, hpending, htimer, hctrls, hclosed, htrace⟩ := hblank
  exact
    { steady := hsteady
      phase := by
        refine .reading ?_ hstate hnew ⟨networkHandle, rfl, fun _ _ heq => (hnone heq).elim⟩ ?_
          (.inl ⟨hpending, htimer⟩)
        · rintro ⟨e, hmem, -⟩
          cases hmem
        · intro hsome
          have hsome' : 0 < s.restarts := hsome
          omega
      waiting := fun hlt => by
        have hlt' : s.newState < s.state := hlt
        rw [hstate, hnew] at hlt'
        exact absurd hlt' (by decide)
      ctrls := by
        refine ⟨?_, fun hsome => ?_⟩
        · change s.ctrls ≤ 1
          omega
        · have hsome' : 0 < s.ctrls := hsome
          omega
      busy := nofun
      posted := ⟨[], rfl, fun _ => rfl⟩
      handle := fun _ _ _ heq => (hnone heq).elim
      told := by
        change s.trace.count _ = if s.closed then 1 else 0
        rw [htrace, hclosed]
        rfl }

/-- In a settled state no sender is still to come down. -/
theorem Sound.detached (h : Sound sys q) (hsettled : q.Settled)
    (hlt : q.sender.newState < q.sender.state) : q.sender.detached = true := by
  by_contra hattached
  have hopen : q.sender.closed = false := by
    by_contra hdone
    exact hattached (h.steady.closed (by simpa using hdone))
  have hnone := hsettled.events_eq hopen
  obtain ⟨hrecv, hsend⟩ := hsettled.operations hlt
  rcases h.waiting hlt with (hdetached | hpending | hpending | hctrls) | ⟨-, hsome⟩
  · exact hattached hdetached
  · exact hpending hrecv
  · exact hpending hsend
  · rcases h.ctrls.2 hctrls with hdone | hsome
    · rw [hopen] at hdone
      cases hdone
    · exact hsome hnone
  · exact hsome hnone

/-- A settled state has lost no control. -/
theorem Sound.keepsControl (h : Sound sys q) (hsettled : q.Settled) : q.KeepsControl sys := by
  have hdown (hfreed : q.sender.newState = sndrStateFreed) : q.sender.detached = true := by
    refine h.detached hsettled ?_
    rw [hfreed]
    rcases h.phase.ladder with hs | hs | hs <;> rw [hs] <;> decide
  obtain ⟨rest, hposted, hrest⟩ := h.posted
  have htaken (hopen : q.sender.closed = false) : q.posted = q.taken := by
    rw [hposted, hrest hopen, hsettled.events_eq hopen, List.append_nil]
  constructor
  · intro hstop
    have hdetached : q.sender.detached = true := by
      cases hclosed : q.sender.closed with
      | true => exact h.steady.closed hclosed
      | false =>
        rw [htaken hclosed] at hstop
        have hphase := h.phase
        cases hphase with
        | reading hopen => exact absurd hstop hopen
        | restarting hopen => exact absurd hstop hopen
        | givingUp hopen => exact absurd hstop hopen
        | resting hopen => exact absurd hstop hopen
        | freed _ _ hnew => exact hdown hnew
    have htold := h.told
    rw [hsettled.shutdown hdetached] at htold
    exact ⟨hdetached, htold⟩
  · intro hstop hsome hfailed
    have hfreed : q.sender.newState ≠ sndrStateFreed := by
      intro hfreed
      rcases h.phase.why hfreed with ⟨e, hmem, htype⟩ | hfail
      · exact hstop ⟨e, hposted ▸ List.mem_append_left rest hmem, htype⟩
      · have hfail' : q.failed = true := hfail
        rw [hfailed] at hfail'
        cases hfail'
    have hattached : q.sender.detached ≠ true := fun hdetached =>
      hfreed (h.steady.down hdetached).2
    have hopen : q.sender.closed = false := by
      by_contra hdone
      exact hattached (h.steady.closed (by simpa using hdone))
    have hlatest (hfresh : q.UpToDate) : ∃ handles handle,
        restartsOf q.posted = handles ++ [handle] ∧
          q.initialized = (restartsOf q.posted, handle) := by
      obtain ⟨handle, hinitialized, hlast⟩ := hfresh
      rw [htaken hopen] at hsome ⊢
      obtain hnil | ⟨handles, last, hconcat⟩ := (restartsOf q.taken).eq_nil_or_concat
      · exact absurd hnil hsome
      · refine ⟨handles, last, by simpa using hconcat, ?_⟩
        rw [hinitialized, hlast handles last (by simpa using hconcat)]
    have hphase := h.phase
    cases hphase with
    | reading _ _ _ hfresh hsocket hcheck =>
      rcases hcheck with ⟨hzero, -⟩ | ⟨-, hset⟩
      · exact ⟨hzero, fun _ => hsocket, hlatest hfresh⟩
      · rw [hsettled.timer] at hset
        cases hset
    | restarting _ hstate hnew =>
      refine absurd (h.detached hsettled ?_) hattached
      rw [hnew]
      rcases hstate with hs | hs <;> rw [hs] <;> decide
    | givingUp _ hstate hnew =>
      refine absurd (h.detached hsettled ?_) hattached
      rw [hnew]
      rcases hstate with hs | hs <;> rw [hs] <;> decide
    | resting _ hstate _ hzero _ hfresh =>
      refine ⟨hzero, fun hreads => ?_, hlatest hfresh⟩
      rw [hstate] at hreads
      cases hreads
    | freed _ _ hnew => exact absurd hnew hfreed

/-- In a run whose controls find no busy sender, and whose restarts find a sender that takes them
up, no control is lost: once everything has been processed, a sender that has been closed has
been detached, and else the last restart has initialized the socket with its network handle. -/
theorem keepsControl_run {a : Setup} {networkHandle : ℤ} (hq : create a networkHandle = some q)
    (actions : List Action) (hmeets : Runs.Meets (step sys) (Handled sys) q actions)
    (hsettled : (Runs.run (step sys) q actions).Settled) :
    (Runs.run (step sys) q actions).KeepsControl sys :=
  (Runs.invariant_of_meets (fun _ _ h hhandled => h.step hhandled) (sound_create hq)
    hmeets).keepsControl hsettled

/-- A system that gives every socket and every receive. -/
def willing : System := ⟨fun _ => Sender.generous, fun _ => bcrSuccess⟩

/-- A sender that has been created for the network handle 7. -/
def fresh : Queue where
  sender := { Sender.blank with socket := some ⟨true, true⟩, state := sndrStateReading }
  events := []
  running := false
  networkHandle := 7
  posted := []
  taken := []
  initialized := ([], 7)
  failed := false

/-- A restart for the network handle 9 cancels a receive; the sender is closed when the restart
is over, and cancels the next receive. -/
def restartThenClose : List Action :=
  [.post ⟨.startRecv, 0⟩, .post ⟨.restartWork false, 9⟩, .callback, .next, .next, .next,
    .other (.recvDone bcrCanceled 0), .other (.returned false), .post ⟨.stopWork, 0⟩, .callback,
    .next, .next, .other (.recvDone bcrCanceled 0), .shutdown]

/-- The restart alone. -/
def restartAlone : List Action :=
  [.post ⟨.startRecv, 0⟩, .post ⟨.restartWork false, 9⟩, .callback, .next, .next, .next,
    .other (.recvDone bcrCanceled 0), .other (.returned false)]

/-- The sender has been restarted, and reads again; and it has been restarted and then closed. -/
theorem keepsControl_run_restarted :
    ((Runs.run (step willing) fresh restartAlone).sender.state = sndrStateReading ∧
      (Runs.run (step willing) fresh restartAlone).failed = false ∧
      restartsOf (Runs.run (step willing) fresh restartAlone).posted = [9] ∧
      (Runs.run (step willing) fresh restartAlone).KeepsControl willing) ∧
    (Runs.run (step willing) fresh restartThenClose).sender.closed = true ∧
      (Runs.run (step willing) fresh restartThenClose).KeepsControl willing := by
  have hcreate : create Sender.generous 7 = some fresh := rfl
  refine ⟨⟨by decide, by decide, by decide, keepsControl_run hcreate restartAlone ?_ ?_⟩,
    by decide, keepsControl_run hcreate restartThenClose ?_ ?_⟩
  · exact ⟨by decide, by decide, by decide, by decide, by decide, by decide, by decide, by decide,
      trivial⟩
  · exact ⟨by decide, by decide, by decide, by decide⟩
  · exact ⟨by decide, by decide, by decide, by decide, by decide, by decide, by decide, by decide,
      by decide, by decide, by decide, by decide, by decide, by decide, trivial⟩
  · exact ⟨by decide, by decide, by decide, by decide⟩

/-- The sender is closed while the restart waits for the cancelled receive. -/
def closeBehindRestart : List Action :=
  [.post ⟨.startRecv, 0⟩, .post ⟨.restartWork false, 9⟩, .post ⟨.stopWork, 0⟩, .callback, .next,
    .next, .next, .next, .other (.recvDone bcrCanceled 0), .other (.returned false)]

/-- The test in front of the `Close` tells the queue to leave, and the event is lost. -/
theorem not_keepsControl_closed : ¬ ∀ sys a networkHandle q, create a networkHandle = some q →
    ∀ actions, (Runs.run (step sys) q actions).Settled →
      (Runs.run (step sys) q actions).KeepsControl sys := by
  intro h
  have hkeeps := h willing Sender.generous 7 fresh rfl closeBehindRestart
    ⟨by decide, by decide, by decide, by decide⟩
  have hdetached := (hkeeps.close (by decide)).1
  revert hdetached
  decide

end Queue

end Udp
