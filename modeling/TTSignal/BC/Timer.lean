import TTSignal.BC.Heap
import TTSignal.BC.Time
import TTSignal.Loops

/-!
# Timers

A timer manager keeps the timers that are scheduled in a heap by the time they are due. Its
thread waits until the first of them is due, posts an event for every timer that is, and
schedules those again that go on. A timer is set, touched and given up by other threads, under
the same lock. What they do wakes the thread if there is now a first timer that may be due
earlier than the thread would wake up.
-/

namespace BC

/-- `BCTimerTypeE`. -/
inductive BCTimerTypeE where
  | ticker
  | once
  | limited
  | inactive
  deriving DecidableEq

/-- The types of timer events. -/
inductive TimerEventType where
  | tick
  | idle
  | life
  deriving DecidableEq

/-- The address of a timer. -/
abbrev TimerId := ℕ

/-- The address of a task. -/
abbrev TaskId := ℕ

/-- `BCTimer`, but for its index in the heap, which the heap's callback writes. -/
structure BCTimer where
  /-- The references to the timer (`m_nRef`). -/
  nRef : ℕ
  /-- The last reference has been given up, and the timer is about to be destroyed. -/
  dying : Bool
  /-- `m_sIdle`. -/
  sIdle : BCTimeS
  /-- `m_eType`. -/
  eType : BCTimerTypeE
  /-- `m_sExpires`. -/
  sExpires : BCTimeS
  /-- `m_sInterval`. -/
  sInterval : BCIntervalS
  /-- The task that the events go to. -/
  pTask : TaskId
  /-- `m_sDue`. -/
  sDue : BCTimeS
  deriving DecidableEq

/-- `BCTimerEvent`. -/
structure BCTimerEvent where
  /-- The timer that has gone off. -/
  sender : TimerId
  /-- The kind of the event. -/
  type : TimerEventType
  /-- The time at which it was due. -/
  due : BCTimeS
  deriving DecidableEq

/-- What `Create` and `Reset` are given, with what they assert of it. -/
structure TimerSetting where
  /-- The type. -/
  eType : BCTimerTypeE
  /-- The time at which it expires. -/
  expires : BCTimeS
  /-- The interval. -/
  interval : BCIntervalS
  /-- An active timer expires or has an interval. -/
  given : eType = .inactive ∨ ¬ (expires.toNat = 0 ∧ interval.toNat = 0)
  /-- A limited timer does both. -/
  limited : eType ≠ .limited ∨ ¬ (expires.toNat = 0 ∨ interval.toNat = 0)

/-- `BCTimerMgr`, the timers at all addresses and the timer events that wait at the tasks. -/
structure BCTimerMgr where
  /-- The number of scheduled timers (`m_nScheduled`). -/
  nScheduled : ℕ
  /-- When the first timer is due, as of the last pass (`m_sDue`). -/
  sDue : BCTimeS
  /-- The heap. -/
  heap : BCHeap TimerId
  /-- The timers. -/
  timers : TimerId → BCTimer
  /-- The timer events that have been sent to a task and not been taken by it. -/
  queue : TaskId → List BCTimerEvent
  /-- The thread is running or has been signalled to run (`m_sCondWakeup`). -/
  signalled : Bool
  /-- How long the thread waits if it is not signalled: until a time, or without an end. -/
  wait : Option BCTimeS
  /-- All events that have been posted, with the time of the pass. -/
  posted : List (BCTimerEvent × BCTimeS)

namespace BCTimer

/-- The constructor. -/
def new : BCTimer :=
  ⟨0, false, bcTimeEpoch, .inactive, bcTimeEpoch, bcIntervalZero, 0, bcTimeEpoch⟩

/-- There is a timer at the address. -/
def Live (timer : BCTimer) : Prop := timer.nRef ≠ 0 ∨ timer.dying = true

instance (timer : BCTimer) : Decidable timer.Live := inferInstanceAs (Decidable (_ ∨ _))

/-- When the timer is due next, if that is a time (the first part of `_Schedule`). -/
def nextDue (timer : BCTimer) (now : BCTimeS) : Option BCTimeS :=
  if timer.eType ≠ .once then
    match bcTimeAdd now timer.sInterval with
    | none => none
    | some due =>
      if timer.eType = .limited ∧ bcTimeCompare timer.sExpires due < 0 then some timer.sExpires
      else some due
  else if bcTimeIsepoch timer.sIdle then some timer.sExpires
  else if bcTimeIsepoch timer.sExpires then some timer.sIdle
  else if bcTimeCompare timer.sIdle timer.sExpires < 0 then some timer.sIdle
  else some timer.sExpires

/-- What is done with a timer that is due: the event to post, and whether the timer is to be
scheduled again (the cases of `_Dispatch`). -/
def outcome (timer : BCTimer) (now : BCTimeS) : Option TimerEventType × Bool :=
  match timer.eType with
  | .ticker => (some .tick, true)
  | .limited =>
    if bcTimeCompare now timer.sExpires ≥ 0 then (some .life, false) else (some .tick, true)
  | .once | .inactive =>
    if bcTimeIsepoch timer.sExpires = false ∧ bcTimeCompare now timer.sExpires ≥ 0 then
      (some .life, false)
    else if bcTimeIsepoch timer.sIdle = false ∧ bcTimeCompare now timer.sIdle ≥ 0 then
      (some .idle, false)
    else (none, true)

/-- When the timer has been idle long enough, as `Create` and `Reset` compute it. -/
def idleFrom (setting : TimerSetting) (now : BCTimeS) : Option BCTimeS :=
  if setting.eType = .once ∧ bcIntervalIszero setting.interval = false then
    bcTimeAdd now setting.interval
  else some bcTimeEpoch

/-- The values that `Create` and `Reset` set. -/
def set (timer : BCTimer) (setting : TimerSetting) : BCTimer :=
  { timer with
    eType := setting.eType
    sExpires := setting.expires
    sInterval := setting.interval }

end BCTimer

namespace BCTimerMgr

/-- `Create`. The thread has been started. -/
def create : BCTimerMgr where
  nScheduled := 0
  sDue := bcTimeEpoch
  heap := BCHeap.create 0
  timers := fun _ => .new
  queue := fun _ => []
  signalled := true
  wait := none
  posted := []

/-- `_Sooner`. -/
def sooner (m : BCTimerMgr) (t1 t2 : TimerId) : Bool :=
  decide (bcTimeCompare (m.timers t1).sDue (m.timers t2).sDue < 0)

/-- A timer's members are written. -/
def setTimer (m : BCTimerMgr) (t : TimerId) (timer : BCTimer) : BCTimerMgr :=
  { m with timers := Function.update m.timers t timer }

/-- `m_sCondWakeup.Signal()`. -/
def signal (m : BCTimerMgr) : BCTimerMgr := { m with signalled := true }

/-- The timer gets its due time and its place in the heap, for which there is memory (the second
part of `_Schedule`). -/
def place (m : BCTimerMgr) (t : TimerId) (due : BCTimeS) : BCTimerMgr :=
  let m' := m.setTimer t { m.timers t with sDue := due }
  if 0 < m.heap.index t then
    let cmp := bcTimeCompare due (m.timers t).sDue
    if cmp = -1 then { m' with heap := m.heap.increased m'.sooner (m.heap.index t) }
    else if cmp = 1 then { m' with heap := m.heap.decreased m'.sooner (m.heap.index t) }
    else m'
  else { m' with heap := (m.heap.insert m'.sooner t true).2, nScheduled := m.nScheduled + 1 }

/-- The thread has not woken up for fifteen seconds. -/
def late (m : BCTimerMgr) (now : BCTimeS) : Bool :=
  match bcTimeAdd m.sDue (bcIntervalSet 15) with
  | some next => decide (bcTimeCompare next now < 0)
  | none => false

/-- The thread is signalled if it is late or the timer is the first one (the last part of
`_Schedule`). -/
def wakeUp (m : BCTimerMgr) (t : TimerId) (now : BCTimeS) (timedwait signalOk : Bool) :
    BCTimerMgr :=
  if signalOk && timedwait && m.late now then m.signal
  else if m.heap.index t == 1 && signalOk then m.signal
  else m

/-- `_Schedule`. It is refused when the timer's due time is out of range. -/
def schedule (m : BCTimerMgr) (t : TimerId) (now : BCTimeS) (signalOk : Bool) : BCTimerMgr :=
  let timedwait := decide (0 < m.nScheduled) && m.sDue.seconds != 0
  match (m.timers t).nextDue now with
  | none => m
  | some due => (m.place t due).wakeUp t now timedwait signalOk

/-- `_Deschedule`. -/
def deschedule (m : BCTimerMgr) (t : TimerId) : BCTimerMgr :=
  if 0 < m.heap.index t then
    let m' := { m with
      heap := (m.heap.delete m.sooner (m.heap.index t)).setIndex t 0
      nScheduled := m.nScheduled - 1 }
    if m.heap.index t = 1 then m'.signal else m'
  else m

/-- `PurgeRange` of the timer's task, for this timer and all types of timer events. -/
def purge (m : BCTimerMgr) (t : TimerId) : BCTimerMgr :=
  { m with
    queue := Function.update m.queue (m.timers t).pTask
      ((m.queue (m.timers t).pTask).filter fun e => e.sender != t) }

/-- `BCTimer::Create` for a new object at an address. -/
def createTimer (m : BCTimerMgr) (t : TimerId) (setting : TimerSetting) (task : TaskId)
    (now : BCTimeS) : BCTimerMgr :=
  let timer : BCTimer := { BCTimer.new with nRef := 1, pTask := task }
  match BCTimer.idleFrom setting now with
  | none => m.setTimer t timer
  | some idle =>
    let m := m.setTimer t { timer.set setting with sIdle := idle }
    if setting.eType = .inactive then m else m.schedule t now true

/-- `Reset`. -/
def reset (m : BCTimerMgr) (t : TimerId) (setting : TimerSetting) (purge : Bool)
    (now : BCTimeS) : BCTimerMgr :=
  let m := if purge then m.purge t else m
  match BCTimer.idleFrom setting now with
  | none => m.setTimer t ((m.timers t).set setting)
  | some idle =>
    let m := m.setTimer t { (m.timers t).set setting with sIdle := idle }
    if setting.eType = .inactive then m.deschedule t else m.schedule t now true

/-- `Touch`. -/
def touch (m : BCTimerMgr) (t : TimerId) (now : BCTimeS) : BCTimerMgr :=
  match bcTimeAdd now (m.timers t).sInterval with
  | none => m
  | some idle => m.setTimer t { m.timers t with sIdle := idle }

/-- `Attach`. -/
def attach (m : BCTimerMgr) (t : TimerId) : BCTimerMgr :=
  m.setTimer t { m.timers t with nRef := (m.timers t).nRef + 1 }

/-- `Detach`. The timer is to be destroyed when that was the last reference. -/
def detach (m : BCTimerMgr) (t : TimerId) : BCTimerMgr :=
  m.setTimer t { m.timers t with
    nRef := (m.timers t).nRef - 1
    dying := (m.timers t).nRef - 1 == 0 }

/-- `_Destroy`. -/
def destroy (m : BCTimerMgr) (t : TimerId) : BCTimerMgr :=
  let m := (m.purge t).deschedule t
  m.setTimer t { m.timers t with dying := false }

/-- An event is sent to the timer's task. -/
def post (m : BCTimerMgr) (t : TimerId) (now : BCTimeS) (type : TimerEventType) : BCTimerMgr :=
  let e : BCTimerEvent := ⟨t, type, (m.timers t).sDue⟩
  { m with
    queue := Function.update m.queue (m.timers t).pTask (m.queue (m.timers t).pTask ++ [e])
    posted := m.posted ++ [(e, now)] }

/-- The first timer leaves the heap. -/
def pop (m : BCTimerMgr) (t : TimerId) : BCTimerMgr :=
  { m with
    heap := (m.heap.setIndex t 0).delete m.sooner 1
    nScheduled := m.nScheduled - 1 }

/-- What a turn of the loop of `_Dispatch` does with a timer that is due. -/
def fire (m : BCTimerMgr) (t : TimerId) (now : BCTimeS) : BCTimerMgr :=
  let out := (m.timers t).outcome now
  let m := match out.1 with
    | some type => m.post t now type
    | none => m
  let m := m.pop t
  if out.2 then m.schedule t now false else m

/-- A turn of the loop of `_Dispatch`. -/
def dispatchTurn (now : BCTimeS) (m : BCTimerMgr) : BCTimerMgr ⊕ BCTimerMgr :=
  if 0 < m.nScheduled then
    match m.heap.element 1 with
    | some t =>
      if bcTimeCompare now (m.timers t).sDue ≥ 0 then .inl (m.fire t now)
      else .inr { m with sDue := (m.timers t).sDue }
    | none => .inr m
  else .inr m

/-- A number of turns of the loop of `_Dispatch`. -/
def dispatchTurns (now : BCTimeS) : ℕ → BCTimerMgr → BCTimerMgr
  | 0, m => m
  | n + 1, m =>
    match dispatchTurn now m with
    | .inl m' => dispatchTurns now n m'
    | .inr m' => m'

/-- `_Dispatch`, with the turns that are enough for the scheduled timers. -/
def dispatch (m : BCTimerMgr) (now : BCTimeS) : BCTimerMgr :=
  dispatchTurns now (m.nScheduled + 1) m

/-- A turn of the loop of `_Run`, up to where the thread waits. -/
def run (m : BCTimerMgr) (now : BCTimeS) : BCTimerMgr :=
  let m := m.dispatch now
  { m with signalled := false, wait := if 0 < m.nScheduled then some m.sDue else none }

/-- A task takes its oldest timer event. -/
def take (m : BCTimerMgr) (task : TaskId) : BCTimerMgr :=
  { m with queue := Function.update m.queue task (m.queue task).tail }

/-- What happens: a call on a timer, a turn of the thread, or a task's taking an event. The
times are those that the clock shows, in whichever order. -/
inductive Op where
  | create (t : TimerId) (setting : TimerSetting) (task : TaskId) (now : BCTimeS)
  | reset (t : TimerId) (setting : TimerSetting) (purge : Bool) (now : BCTimeS)
  | touch (t : TimerId) (now : BCTimeS)
  | attach (t : TimerId)
  | detach (t : TimerId)
  | destroy (t : TimerId)
  | run (now : BCTimeS)
  | take (task : TaskId)

/-- One step. A new timer comes to an address where there is none, and only who holds a
reference to a timer makes a call on it. -/
def step (m : BCTimerMgr) : Op → BCTimerMgr
  | .create t setting task now =>
    if (m.timers t).Live then m else m.createTimer t setting task now
  | .reset t setting purge now =>
    if (m.timers t).nRef = 0 then m else m.reset t setting purge now
  | .touch t now => if (m.timers t).nRef = 0 then m else m.touch t now
  | .attach t => if (m.timers t).nRef = 0 then m else m.attach t
  | .detach t => if (m.timers t).nRef = 0 then m else m.detach t
  | .destroy t => if (m.timers t).dying then m.destroy t else m
  | .run now => m.run now
  | .take task => m.take task

variable {m m' : BCTimerMgr} {t x : TimerId} {due now : BCTimeS}

/-! ## The heap of the manager -/

/-- When a timer is due. -/
def key (m : BCTimerMgr) (t : TimerId) : BCTimeS := (m.timers t).sDue

/-- The timer is in the heap. -/
def Scheduled (m : BCTimerMgr) (t : TimerId) : Prop := m.heap.index t ≠ 0

instance : Decidable (m.Scheduled t) := inferInstanceAs (Decidable (_ ≠ _))

/-- The heap compares the keys of the timers. -/
theorem sooner_compares (m : BCTimerMgr) : BCHeap.Compares m.sooner m.key := by
  intro a b
  simp only [sooner, key, decide_eq_true_eq]
  exact bcTimeCompare_neg_iff

/-- The heap is in order by the due times, and the scheduled timers have been counted. -/
structure Standing (m : BCTimerMgr) : Prop where
  /-- The heap is proper. -/
  proper : m.heap.Proper m.key
  /-- The count is the one of the heap. -/
  count : m.nScheduled = m.heap.nLast

/-- There is a scheduled timer exactly when the count says so. -/
theorem Standing.nScheduled_pos_iff (h : m.Standing) :
    0 < m.nScheduled ↔ ∃ t, m.Scheduled t := by
  rw [h.count]
  constructor
  · intro hpos
    have hsome : m.heap.element 1 ≠ none := by
      rw [ne_eq, BCHeap.element_one_eq_none]
      omega
    rw [ne_eq, h.proper.element_one_none] at hsome
    exact not_forall.mp hsome
  · rintro ⟨t, ht⟩
    have hsome : m.heap.element 1 ≠ none := by
      rw [ne_eq, h.proper.element_one_none]
      exact fun hall => ht (hall t)
    rw [ne_eq, BCHeap.element_one_eq_none] at hsome
    omega

/-- A timer has got a due time and is scheduled; nothing else has changed, but perhaps that the
thread has been signalled. -/
structure Rescheduled (t : TimerId) (due : BCTimeS) (m m' : BCTimerMgr) : Prop where
  /-- The manager is still standing. -/
  standing : m'.Standing
  /-- Of the timers, one has another due time. -/
  timers : m'.timers = Function.update m.timers t { m.timers t with sDue := due }
  /-- That timer is scheduled, with those before. -/
  scheduled : ∀ x, m'.Scheduled x ↔ x = t ∨ m.Scheduled x
  /-- The events. -/
  queue : m'.queue = m.queue
  /-- The posted events. -/
  posted : m'.posted = m.posted
  /-- What the thread waits for. -/
  wait : m'.wait = m.wait
  /-- A thread that has been signalled still is. -/
  signalled : m.signalled = true → m'.signalled = true

/-- Other timers are due when they were. -/
theorem key_setTimer_of_ne {timer : BCTimer} (hne : x ≠ t) :
    (m.setTimer t timer).key x = m.key x := by
  simp only [key, setTimer, Function.update_of_ne hne]

/-- A timer that is set lies under its own due time. -/
theorem key_setTimer_self {timer : BCTimer} : (m.setTimer t timer).key t = timer.sDue := by
  simp only [key, setTimer, Function.update_self]

/-- Members of a timer other than its due time do not count for the order. -/
theorem Standing.setTimer (h : m.Standing) (t : TimerId) (timer : BCTimer)
    (hdue : m.Scheduled t → timer.sDue = (m.timers t).sDue) : (m.setTimer t timer).Standing where
  proper := h.proper.congr fun x hx => by
    by_cases hself : x = t
    · subst hself
      rw [key_setTimer_self, hdue hx]
      rfl
    · exact key_setTimer_of_ne hself
  count := h.count

/-- The heap stays in order when the timer gets its place in it. -/
theorem Standing.place (h : m.Standing) (t : TimerId) (due : BCTimeS) :
    Rescheduled t due m (m.place t due) := by
  have hless := sooner_compares (m.setTimer t { m.timers t with sDue := due })
  have hkey : ∀ x, x ≠ t → (m.setTimer t { m.timers t with sDue := due }).key x = m.key x :=
    fun x hx => key_setTimer_of_ne hx
  have hself : (m.setTimer t { m.timers t with sDue := due }).key t = due := key_setTimer_self
  unfold BCTimerMgr.place
  dsimp only
  split
  · rename_i hin
    have hne : m.heap.index t ≠ 0 := by omega
    have hscheduled : ∀ h' : BCHeap TimerId, (∀ x, h'.index x = 0 ↔ m.heap.index x = 0) →
        ∀ x, h'.index x ≠ 0 ↔ x = t ∨ m.heap.index x ≠ 0 := by
      intro h' hmembers x
      rw [ne_eq, hmembers x]
      exact ⟨Or.inr, fun hx => hx.elim (fun heq => heq ▸ hne) id⟩
    obtain ⟨hup, hdown⟩ := h.proper.change hne hkey hless
    rw [hself] at hup hdown
    rcases bcTimeCompare_spec due (m.timers t).sDue with ⟨hcmp, hlt⟩ | ⟨hcmp, heq⟩ | ⟨hcmp, hlt⟩
    · obtain ⟨hproper, hlast, hmembers⟩ := hup hlt.le
      rw [if_pos hcmp]
      exact ⟨⟨hproper, h.count.trans hlast.symm⟩, rfl, hscheduled _ hmembers, rfl, rfl, rfl, id⟩
    · rw [hcmp, if_neg (by decide), if_neg (by decide)]
      have hstanding := h.setTimer t { m.timers t with sDue := due } fun _ => heq
      exact ⟨hstanding, rfl, hscheduled _ fun _ => Iff.rfl, rfl, rfl, rfl, id⟩
    · obtain ⟨hproper, hlast, hmembers⟩ := hdown hlt.le
      rw [hcmp, if_neg (by decide), if_pos rfl]
      exact ⟨⟨hproper, h.count.trans hlast.symm⟩, rfl, hscheduled _ hmembers, rfl, rfl, rfl, id⟩
  · rename_i hout
    have hnew : m.heap.index t = 0 := by omega
    have hstanding := h.setTimer t { m.timers t with sDue := due }
      fun hin => absurd hnew hin
    obtain ⟨hproper, hlast, hmembers⟩ := hstanding.proper.insert hless hnew fun _ => rfl
    refine ⟨⟨hproper, ?_⟩, rfl, fun x => ?_, rfl, rfl, rfl, id⟩
    · exact (congrArg (· + 1) hstanding.count).trans hlast.symm
    · refine (not_congr (hmembers x)).trans ?_
      rw [not_and_or, not_not]
      rfl

/-- Signalling changes nothing else. -/
theorem Rescheduled.wakeUp (h : Rescheduled t due m m') (x : TimerId) (now : BCTimeS)
    (timedwait signalOk : Bool) : Rescheduled t due m (m'.wakeUp x now timedwait signalOk) := by
  obtain ⟨hstanding, htimers, hscheduled, hqueue, hposted, hwait, hsignalled⟩ := h
  unfold BCTimerMgr.wakeUp
  split
  · exact ⟨⟨hstanding.proper, hstanding.count⟩, htimers, hscheduled, hqueue, hposted, hwait,
      fun _ => rfl⟩
  split
  · exact ⟨⟨hstanding.proper, hstanding.count⟩, htimers, hscheduled, hqueue, hposted, hwait,
      fun _ => rfl⟩
  · exact ⟨hstanding, htimers, hscheduled, hqueue, hposted, hwait, hsignalled⟩

/-- `_Schedule` of a timer whose due time is in range. -/
theorem Standing.schedule (h : m.Standing) (hdue : (m.timers t).nextDue now = some due)
    (signalOk : Bool) : Rescheduled t due m (m.schedule t now signalOk) := by
  unfold BCTimerMgr.schedule
  dsimp only
  rw [hdue]
  exact (h.place t due).wakeUp t now _ signalOk

/-- If the thread has not been signalled, the timer is not the first one. -/
theorem schedule_not_first (hdue : (m.timers t).nextDue now = some due)
    (hquiet : (m.schedule t now true).signalled = false) :
    (m.schedule t now true).heap.index t ≠ 1 := by
  unfold BCTimerMgr.schedule at *
  dsimp only at *
  rw [hdue] at hquiet ⊢
  simp only [BCTimerMgr.wakeUp, Bool.true_and, Bool.and_true] at hquiet ⊢
  split at hquiet
  · simp [signal] at hquiet
  split at hquiet
  · simp [signal] at hquiet
  · rename_i hlate hfirst
    rw [if_neg hlate, if_neg hfirst]
    simpa using hfirst

/-- A timer is scheduled no longer; nothing else has changed, but perhaps that the thread has
been signalled. -/
structure Removed (t : TimerId) (m m' : BCTimerMgr) : Prop where
  /-- What is left is standing. -/
  standing : m'.Standing
  /-- No timer has changed. -/
  timers : m'.timers = m.timers
  /-- One timer is no longer scheduled. -/
  scheduled : ∀ x, m'.Scheduled x ↔ x ≠ t ∧ m.Scheduled x
  /-- The queued events are the same. -/
  queue : m'.queue = m.queue
  /-- So are the posted ones. -/
  posted : m'.posted = m.posted
  /-- The thread waits for the same. -/
  wait : m'.wait = m.wait
  /-- It has been signalled if it had been. -/
  signalled : m.signalled = true → m'.signalled = true

/-- Descheduling takes the timer out of the heap. -/
theorem Standing.deschedule (h : m.Standing) (t : TimerId) : Removed t m (m.deschedule t) := by
  unfold BCTimerMgr.deschedule
  split
  · rename_i hin
    obtain ⟨hproper, hlast, hmembers⟩ :=
      h.proper.delete_setIndex (sooner_compares m) (Nat.ne_of_gt hin)
    have hcount : m.nScheduled - 1 = (m.heap.delete m.sooner (m.heap.index t)).nLast := by
      rw [h.count]
      omega
    have hscheduled : ∀ x,
        ((m.heap.delete m.sooner (m.heap.index t)).setIndex t 0).index x ≠ 0 ↔
          x ≠ t ∧ m.heap.index x ≠ 0 := by
      intro x
      rw [ne_eq, hmembers x, not_or]
    dsimp only
    split
    · exact ⟨⟨hproper, hcount⟩, rfl, hscheduled, rfl, rfl, rfl, fun _ => rfl⟩
    · exact ⟨⟨hproper, hcount⟩, rfl, hscheduled, rfl, rfl, rfl, id⟩
  · rename_i hout
    refine ⟨h, rfl, fun x => ⟨fun hx => ⟨?_, hx⟩, fun hx => hx.2⟩, rfl, rfl, rfl, id⟩
    rintro rfl
    exact hx (by omega)

/-- What is left when the first timer has left the heap. -/
theorem Standing.pop (h : m.Standing) (hfirst : m.heap.element 1 = some t) :
    Removed t m (m.pop t) := by
  obtain ⟨hproper, hlast, hmembers⟩ := h.proper.setIndex_delete (sooner_compares m) hfirst
  refine ⟨⟨hproper, ?_⟩, rfl, fun x => ?_, rfl, rfl, rfl, id⟩
  · simp only [BCTimerMgr.pop, h.count]
    omega
  · unfold Scheduled BCTimerMgr.pop
    rw [ne_eq, hmembers x, not_or]

end BCTimerMgr

end BC
