import TTSignal.BC.Dispatch

/-!
# Timers over whole runs

Whatever is done with the timers, in whichever order and at whichever times, a pass over them is
as it should be, and between two passes the thread sleeps no longer than until the first timer is
due, unless it has been signalled. No event outlives its timer.
-/

namespace BC.BCTimerMgr

variable {m m' : BCTimerMgr} {t x : TimerId} {now due : BCTimeS} {task : TaskId} {timer : BCTimer}

/-- The thread wakes up before any timer is due. -/
def Awake (m : BCTimerMgr) : Prop :=
  m.signalled = false → ∀ t, m.Scheduled t → ∃ d, m.wait = some d ∧ d ≤ m.key t

/-- The heap is in order, only timers that there are have a place in it or an event at a task,
which is theirs, and the thread wakes up in time. -/
structure Settled (m : BCTimerMgr) : Prop where
  /-- The manager stands. -/
  standing : m.Standing
  /-- A timer that is scheduled lives. -/
  live : ∀ t, m.Scheduled t → (m.timers t).Live
  /-- An event that waits is in the queue of its timer's task, and the timer lives. -/
  owned : ∀ task, ∀ e ∈ m.queue task, (m.timers e.sender).Live ∧ (m.timers e.sender).pTask = task
  /-- The thread wakes up in time. -/
  awake : m.Awake

/-- All scheduled timers have what they need to go on. -/
def Armed (m : BCTimerMgr) : Prop := ∀ t, m.Scheduled t → (m.timers t).Arms

/-- The invariant of the timer manager. -/
structure Sound (m : BCTimerMgr) : Prop where
  /-- The manager is settled. -/
  settled : m.Settled
  /-- Its scheduled timers have what they need. -/
  armed : m.Armed

/-- A new manager is sound. -/
theorem sound_create : create.Sound where
  settled :=
    { standing := ⟨BCHeap.proper_create (by decide), rfl⟩
      live := fun t ht => absurd rfl ht
      owned := fun task e he => absurd he List.not_mem_nil
      awake := fun hquiet => by simp [create] at hquiet }
  armed t ht := absurd rfl ht

/-- The timer is scheduled or has an event at a task. -/
def InUse (m : BCTimerMgr) (t : TimerId) : Prop :=
  m.Scheduled t ∨ ∃ task, ∃ e ∈ m.queue task, e.sender = t

/-- A timer's members may be written that neither the heap nor the tasks depend on, and all
of a timer that is not in use. -/
theorem Settled.setTimer (h : m.Settled) (t : TimerId) (timer : BCTimer)
    (hsame : (m.timers t).Live → m.InUse t →
      timer.Live ∧ timer.pTask = (m.timers t).pTask ∧ timer.sDue = (m.timers t).sDue) :
    (m.setTimer t timer).Settled where
  standing := h.standing.setTimer t timer fun hin => (hsame (h.live t hin) (Or.inl hin)).2.2
  live x hx := by
    have hold := h.live x hx
    by_cases hself : x = t
    · subst hself
      simp only [BCTimerMgr.setTimer, Function.update_self]
      exact (hsame hold (Or.inl hx)).1
    · simp only [BCTimerMgr.setTimer, Function.update_of_ne hself]
      exact hold
  owned task e he := by
    obtain ⟨hold, htask⟩ := h.owned task e he
    by_cases hself : e.sender = t
    · have huse : m.InUse t := Or.inr ⟨task, e, he, hself⟩
      rw [hself] at hold htask ⊢
      simp only [BCTimerMgr.setTimer, Function.update_self]
      exact ⟨(hsame hold huse).1, (hsame hold huse).2.1.trans htask⟩
    · simp only [BCTimerMgr.setTimer, Function.update_of_ne hself]
      exact ⟨hold, htask⟩
  awake hquiet x hx := by
    obtain ⟨d, hwait, hle⟩ := h.awake hquiet x hx
    refine ⟨d, hwait, ?_⟩
    by_cases hself : x = t
    · subst hself
      rw [key_setTimer_self, (hsame (h.live x hx) (Or.inl hx)).2.2]
      exact hle
    · rw [key_setTimer_of_ne hself]
      exact hle

/-- Another timer than the one that is written keeps what it needs. -/
theorem Armed.setTimer (h : m.Armed) (hself : m.Scheduled t → timer.Arms) :
    (m.setTimer t timer).Armed := by
  intro x hx
  by_cases heq : x = t
  · subst heq
    simp only [BCTimerMgr.setTimer, Function.update_self]
    exact hself hx
  · simp only [BCTimerMgr.setTimer, Function.update_of_ne heq]
    exact h x hx

/-- In range there is a next due time. -/
theorem exists_nextDue (hrange : InRange now timer.sInterval) :
    ∃ due, timer.nextDue now = some due := by
  obtain ⟨sum, hadd, -⟩ := bcTimeAdd_of_inRange hrange
  unfold BCTimer.nextDue
  rw [hadd]
  split
  · dsimp only
    split
    · exact ⟨_, rfl⟩
    · exact ⟨_, rfl⟩
  split
  · exact ⟨_, rfl⟩
  split
  · exact ⟨_, rfl⟩
  split
  · exact ⟨_, rfl⟩
  · exact ⟨_, rfl⟩

/-- `_Schedule` wakes the thread up if it would sleep too long. -/
theorem Settled.schedule (h : m.Settled) (hlive : (m.timers t).Live)
    (hdue : (m.timers t).nextDue now = some due) : (m.schedule t now true).Settled := by
  have hres := h.standing.schedule hdue true
  have htimer : ∀ x, (m.schedule t now true).timers x =
      if x = t then { m.timers t with sDue := due } else m.timers x := by
    intro x
    rw [hres.timers, Function.update_apply]
  have hkey : ∀ x, x ≠ t → (m.schedule t now true).key x = m.key x := by
    intro x hx
    rw [BCTimerMgr.key, htimer x, if_neg hx]
    rfl
  refine ⟨hres.standing, fun x hx => ?_, fun task e he => ?_, fun hquiet x hx => ?_⟩
  · rw [htimer x]
    split
    · exact hlive
    · rename_i hne
      exact h.live x (((hres.scheduled x).mp hx).resolve_left hne)
  · rw [hres.queue] at he
    obtain ⟨hold, htask⟩ := h.owned task e he
    rw [htimer e.sender]
    split
    · rename_i heq
      rw [heq] at hold htask
      exact ⟨hlive, htask⟩
    · exact ⟨hold, htask⟩
  · have hbefore : m.signalled = false := by
      cases hsignalled : m.signalled with
      | false => rfl
      | true => rw [hres.signalled hsignalled] at hquiet; exact hquiet
    -- The first timer is another one, which is due when it was.
    obtain ⟨first, hfirst⟩ : ∃ first, (m.schedule t now true).heap.element 1 = some first := by
      rw [← Option.ne_none_iff_exists', ne_eq, hres.standing.proper.element_one_none]
      exact fun hall => hx (hall x)
    obtain ⟨hin, hleast⟩ := hres.standing.first hfirst
    have hne : first ≠ t := by
      rintro rfl
      exact schedule_not_first hdue hquiet (hres.standing.proper.element_one_le hfirst).1
    have hold := ((hres.scheduled first).mp hin).resolve_left hne
    obtain ⟨d, hwait, hle⟩ := h.awake hbefore first hold
    refine ⟨d, hres.wait.trans hwait, ?_⟩
    rw [← hkey first hne] at hle
    exact hle.trans (hleast x hx)

/-- A timer is armed when it is scheduled. -/
theorem Armed.schedule (h : m.Standing) (harmed : ∀ x, x ≠ t → m.Scheduled x → (m.timers x).Arms)
    (hself : (m.timers t).Arms) (hdue : (m.timers t).nextDue now = some due) :
    (m.schedule t now true).Armed := by
  have hres := h.schedule hdue true
  intro x hx
  rw [hres.timers]
  by_cases heq : x = t
  · subst heq
    rw [Function.update_self]
    exact ⟨hself.active, hself.given, hself.ticker, hself.limited, hself.once⟩
  · rw [Function.update_of_ne heq]
    exact harmed x heq (((hres.scheduled x).mp hx).resolve_left heq)

/-- Descheduling a timer leaves the manager settled. -/
theorem Settled.deschedule (h : m.Settled) (t : TimerId) : (m.deschedule t).Settled := by
  have hrem := h.standing.deschedule t
  refine ⟨hrem.standing, fun x hx => ?_, fun task e he => ?_, fun hquiet x hx => ?_⟩
  · rw [hrem.timers]
    exact h.live x ((hrem.scheduled x).mp hx).2
  · rw [hrem.queue] at he
    rw [hrem.timers]
    exact h.owned task e he
  · have hbefore : m.signalled = false := by
      cases hsignalled : m.signalled with
      | false => rfl
      | true => rw [hrem.signalled hsignalled] at hquiet; exact hquiet
    obtain ⟨d, hwait, hle⟩ := h.awake hbefore x ((hrem.scheduled x).mp hx).2
    refine ⟨d, hrem.wait.trans hwait, ?_⟩
    rw [BCTimerMgr.key, hrem.timers]
    exact hle

/-- The other timers stay armed. -/
theorem Armed.deschedule (h : m.Standing)
    (harmed : ∀ x, x ≠ t → m.Scheduled x → (m.timers x).Arms) : (m.deschedule t).Armed := by
  have hrem := h.deschedule t
  intro x hx
  obtain ⟨hne, hin⟩ := (hrem.scheduled x).mp hx
  rw [hrem.timers]
  exact harmed x hne hin

/-- Events may be taken away. -/
theorem Settled.of_queue (h : m.Settled) {queue : TaskId → List BCTimerEvent}
    (hsub : ∀ task, ∀ e ∈ queue task, e ∈ m.queue task) : { m with queue := queue }.Settled :=
  ⟨⟨h.standing.proper, h.standing.count⟩, h.live, fun task e he => h.owned task e (hsub task e he),
    h.awake⟩

/-- What is left behind a purge was there before, and is of other timers. -/
theorem mem_purge {e : BCTimerEvent} (he : e ∈ (m.purge t).queue task) :
    e ∈ m.queue task ∧ ((m.timers t).pTask = task → e.sender ≠ t) := by
  simp only [BCTimerMgr.purge] at he
  by_cases htask : task = (m.timers t).pTask
  · subst htask
    rw [Function.update_self, List.mem_filter, bne_iff_ne] at he
    exact ⟨he.1, fun _ => he.2⟩
  · rw [Function.update_of_ne htask] at he
    exact ⟨he, fun heq => absurd heq.symm htask⟩

/-- A purge leaves the manager settled. -/
theorem Settled.purge (h : m.Settled) (t : TimerId) : (m.purge t).Settled :=
  h.of_queue fun _ _ he => (mem_purge he).1

/-- After a purge no event of the timer waits anywhere. -/
theorem Settled.purge_none (h : m.Settled) (t : TimerId) (task : TaskId) :
    ∀ e ∈ (m.purge t).queue task, e.sender ≠ t := by
  intro e he heq
  obtain ⟨hold, hne⟩ := mem_purge he
  have htask := (h.owned task e hold).2
  rw [heq] at htask
  exact hne htask heq

/-! ## The steps -/

/-- The times that a step computes with are in range, and a ticker has an interval. -/
def Allowed (m : BCTimerMgr) : Op → Prop
  | .create _ setting _ now | .reset _ setting _ now =>
    (setting.eType = .ticker → setting.interval.toNat ≠ 0) ∧
      (setting.eType ≠ .inactive → InRange now setting.interval)
  | .touch t now => InRange now (m.timers t).sInterval
  | .run now => ∀ t, m.Scheduled t → InRange now (m.timers t).sInterval
  | _ => True

/-- In range a timer that is set knows from when on it is idle, and has what it needs. -/
theorem exists_idleFrom {setting : TimerSetting}
    (hticker : setting.eType = .ticker → setting.interval.toNat ≠ 0)
    (hrange : setting.eType ≠ .inactive → InRange now setting.interval) (timer : BCTimer) :
    ∃ idle, BCTimer.idleFrom setting now = some idle ∧
      (setting.eType ≠ .inactive → { timer.set setting with sIdle := idle }.Arms) := by
  have hgiven := setting.given
  have hlimited := setting.limited
  unfold BCTimer.idleFrom
  split
  · rename_i honce
    obtain ⟨hone, hinterval⟩ := honce
    rw [← Bool.not_eq_true, bcIntervalIszero_iff] at hinterval
    obtain ⟨sum, hadd, hsum⟩ := bcTimeAdd_of_inRange (hrange (by rw [hone]; decide))
    refine ⟨sum, hadd, fun hactive => ⟨hactive, hgiven.resolve_left hactive, hticker, ?_, ?_⟩⟩
    · intro htype
      exact absurd (hone.symm.trans htype) (by decide)
    · rintro - ⟨hzero, -⟩
      simp only at hzero
      omega
  · rename_i hother
    refine ⟨_, rfl, fun hactive => ⟨hactive, hgiven.resolve_left hactive, hticker, ?_, ?_⟩⟩
    · intro htype
      exact (not_or.mp (hlimited.resolve_left (not_not.mpr htype))).2
    · rintro hone ⟨-, hexpires⟩
      refine hgiven.resolve_left hactive ⟨hexpires, ?_⟩
      by_contra hinterval
      rw [← bcIntervalIszero_iff, Bool.not_eq_true] at hinterval
      exact hother ⟨hone, hinterval⟩

/-- What `Create` and `Reset` do once the timer's members are set. -/
theorem Settled.set (h : m.Settled) (t : TimerId) (setting : TimerSetting) (now : BCTimeS)
    (hlive : (m.timers t).Live)
    (harmed : ∀ x, x ≠ t → m.Scheduled x → (m.timers x).Arms)
    (hself : setting.eType ≠ .inactive → (m.timers t).Arms ∧ InRange now (m.timers t).sInterval) :
    Sound (if setting.eType = .inactive then m.deschedule t else m.schedule t now true) := by
  split
  · exact ⟨h.deschedule t, Armed.deschedule h.standing harmed⟩
  · rename_i hactive
    obtain ⟨harms, hrange⟩ := hself hactive
    obtain ⟨due, hdue⟩ := exists_nextDue hrange
    exact ⟨h.schedule hlive hdue, Armed.schedule h.standing harmed harms hdue⟩

/-- A timer that is created leaves it sound. -/
theorem Sound.createTimer (h : m.Sound) {setting : TimerSetting} (hdead : ¬ (m.timers t).Live)
    (hallowed : m.Allowed (.create t setting task now)) :
    (m.createTimer t setting task now).Sound := by
  obtain ⟨hticker, hrange⟩ := hallowed
  obtain ⟨idle, hidle, harms⟩ :=
    exists_idleFrom hticker hrange { BCTimer.new with nRef := 1, pTask := task }
  have hset := h.settled.setTimer t
    { BCTimer.set { BCTimer.new with nRef := 1, pTask := task } setting with sIdle := idle }
    fun hlive _ => absurd hlive hdead
  have hout : ∀ x, m.Scheduled x → x ≠ t := by
    rintro x hx rfl
    exact hdead (h.settled.live x hx)
  unfold BCTimerMgr.createTimer
  dsimp only
  rw [hidle]
  dsimp only
  split
  · exact ⟨hset, h.armed.setTimer fun hin => absurd rfl (hout t hin)⟩
  · rename_i hactive
    have hsound := hset.set t setting now ?_ ?_ ?_
    · rwa [if_neg hactive] at hsound
    · simp only [BCTimerMgr.setTimer, Function.update_self]
      exact Or.inl one_ne_zero
    · intro x hx hin
      simp only [BCTimerMgr.setTimer, Function.update_of_ne hx]
      exact h.armed x hin
    · intro _
      simp only [BCTimerMgr.setTimer, Function.update_self]
      exact ⟨harms hactive, hrange hactive⟩

/-- So does one that is reset. -/
theorem Sound.reset (h : m.Sound) {setting : TimerSetting} {purge : Bool}
    (hlive : (m.timers t).Live) (hallowed : m.Allowed (.reset t setting purge now)) :
    (m.reset t setting purge now).Sound := by
  obtain ⟨hticker, hrange⟩ := hallowed
  have hpurged : (if purge = true then m.purge t else m).Sound := by
    split
    · exact ⟨h.settled.purge t, h.armed⟩
    · exact h
  have hlive : ((if purge = true then m.purge t else m).timers t).Live := by
    split
    · exact hlive
    · exact hlive
  unfold BCTimerMgr.reset
  generalize (if purge = true then m.purge t else m) = m₁ at hpurged hlive
  obtain ⟨idle, hidle, harms⟩ := exists_idleFrom hticker hrange (m₁.timers t)
  dsimp only
  rw [hidle]
  dsimp only
  have hset := hpurged.settled.setTimer t { (m₁.timers t).set setting with sIdle := idle }
    fun hlive _ => ⟨hlive, rfl, rfl⟩
  refine hset.set t setting now ?_ ?_ ?_
  · simp only [BCTimerMgr.setTimer, Function.update_self]
    exact hlive
  · intro x hx hin
    simp only [BCTimerMgr.setTimer, Function.update_of_ne hx]
    exact hpurged.armed x hin
  · intro hactive
    simp only [BCTimerMgr.setTimer, Function.update_self]
    exact ⟨harms hactive, hrange hactive⟩

/-- So does one that is touched. -/
theorem Sound.touch (h : m.Sound) (hrange : InRange now (m.timers t).sInterval) :
    (m.touch t now).Sound := by
  obtain ⟨idle, hadd, hidle⟩ := bcTimeAdd_of_inRange hrange
  unfold BCTimerMgr.touch
  rw [hadd]
  refine ⟨h.settled.setTimer t _ fun hlive _ => ⟨hlive, rfl, rfl⟩, h.armed.setTimer fun hin => ?_⟩
  obtain ⟨hactive, hgiven, hticker, hlimited, honce⟩ := h.armed t hin
  refine ⟨hactive, hgiven, hticker, hlimited, ?_⟩
  rintro - ⟨hzero, hexpires⟩
  simp only at hzero hexpires
  exact hgiven ⟨hexpires, by omega⟩

/-- Destroying a timer takes it out of the heap and its events off its task. -/
theorem Sound.destroy (h : m.Sound) (t : TimerId) : (m.destroy t).Sound := by
  have hpurged := h.settled.purge t
  have hrem := hpurged.standing.deschedule t
  have hsettled := hpurged.deschedule t
  have hout : ¬ ((m.purge t).deschedule t).Scheduled t := fun hin =>
    ((hrem.scheduled t).mp hin).1 rfl
  have hunused : ¬ ((m.purge t).deschedule t).InUse t := by
    rintro (hin | ⟨task, e, he, heq⟩)
    · exact hout hin
    · rw [hrem.queue] at he
      exact h.settled.purge_none t task e he heq
  refine ⟨hsettled.setTimer t _ fun _ huse => absurd huse hunused, ?_⟩
  exact (Armed.deschedule hpurged.standing fun x _ hx => h.armed x hx).setTimer
    fun hin => absurd hin hout

/-- A pass schedules no other timers than were scheduled. -/
theorem Passed.scheduled_before {new : List BCTimerEvent} (h : Passed now m m' new)
    (ht : m'.Scheduled t) : m.Scheduled t := by
  by_cases hdue : m.Due now t
  · exact hdue.1
  · exact (h.others t hdue).2.mp ht

/-- A turn of the thread. -/
theorem Passed.settled {new : List BCTimerEvent} (h : Passed now m m' new) (hm : m.Settled) :
    Settled { m' with
      signalled := false, wait := if 0 < m'.nScheduled then some m'.sDue else none } := by
  refine ⟨⟨h.standing.proper, h.standing.count⟩, fun t ht => ?_, fun task e he => ?_,
    fun _ t ht => ?_⟩
  · dsimp only
    rw [h.timers t]
    exact hm.live t (h.scheduled_before ht)
  · dsimp only at he ⊢
    rw [h.queue task, List.mem_append] at he
    rw [h.timers e.sender]
    rcases he with he | he
    · exact hm.owned task e he
    · obtain ⟨hnew, htask⟩ := List.mem_filter.mp he
      exact ⟨hm.live _ ((h.events e).mp hnew).1.1, of_decide_eq_true htask⟩
  · have hpos : 0 < m'.nScheduled := h.standing.nScheduled_pos_iff.mpr ⟨t, ht⟩
    exact ⟨m'.sDue, if_pos hpos, (h.left t ht).2⟩

/-- So does a pass of the thread. -/
theorem Sound.run (h : m.Sound) (hallowed : m.Allowed (.run now)) : (m.run now).Sound := by
  obtain ⟨-, new, hpassed⟩ :=
    h.settled.standing.dispatch fun t ht => ⟨h.armed t ht, hallowed t ht⟩
  refine ⟨hpassed.settled h.settled, fun t ht => ?_⟩
  obtain ⟨hactive, hgiven, hticker, hlimited, honce⟩ := h.armed t (hpassed.scheduled_before ht)
  have htimer : (m.run now).timers t = { m.timers t with sDue := (m.dispatch now).key t } :=
    hpassed.timers t
  rw [htimer]
  exact ⟨hactive, hgiven, hticker, hlimited, honce⟩

/-- So does an event that a task takes. -/
theorem Sound.take (h : m.Sound) (task : TaskId) : (m.take task).Sound := by
  refine ⟨h.settled.of_queue fun other e he => ?_, h.armed⟩
  by_cases hother : other = task
  · subst hother
    rw [Function.update_self] at he
    exact List.mem_of_mem_tail he
  · rwa [Function.update_of_ne hother] at he

/-- What is written to a timer's counts leaves everything else alone. -/
theorem Sound.setRef (h : m.Sound) {nRef : ℕ} {dying : Bool}
    (hlive : nRef ≠ 0 ∨ dying = true) :
    (m.setTimer t { m.timers t with nRef := nRef, dying := dying }).Sound := by
  refine ⟨h.settled.setTimer t _ fun _ _ => ⟨hlive, rfl, rfl⟩, h.armed.setTimer fun hin => ?_⟩
  obtain ⟨hactive, hgiven, hticker, hlimited, honce⟩ := h.armed t hin
  exact ⟨hactive, hgiven, hticker, hlimited, honce⟩

/-- Every step keeps the invariant. -/
theorem Sound.step (h : m.Sound) (op : Op) (hallowed : m.Allowed op) : (m.step op).Sound := by
  cases op with
  | create t setting task now =>
    simp only [BCTimerMgr.step]
    split
    · exact h
    · rename_i hdead
      exact h.createTimer hdead hallowed
  | reset t setting purge now =>
    simp only [BCTimerMgr.step]
    split
    · exact h
    · rename_i href
      exact h.reset (Or.inl href) hallowed
  | touch t now =>
    simp only [BCTimerMgr.step]
    split
    · exact h
    · exact h.touch hallowed
  | attach t =>
    simp only [BCTimerMgr.step]
    split
    · exact h
    · exact h.setRef (Or.inl (Nat.succ_ne_zero _))
  | detach t =>
    simp only [BCTimerMgr.step]
    split
    · exact h
    · refine h.setRef ?_
      by_cases hlast : (m.timers t).nRef - 1 = 0
      · exact Or.inr (by simp [hlast])
      · exact Or.inl hlast
  | destroy t =>
    simp only [BCTimerMgr.step]
    split
    · exact h.destroy t
    · exact h
  | run now => exact h.run hallowed
  | take task => exact h.take task

/-- From a sound state on, a run stays sound. -/
theorem Sound.run_of_meets (h : m.Sound) {ops : List Op}
    (hallowed : Runs.Meets BCTimerMgr.step Allowed m ops) :
    (Runs.run BCTimerMgr.step m ops).Sound :=
  Runs.invariant_of_meets (fun _ op h hop => h.step op hop) h hallowed

/-- `Allowed`, as it is computed: only the timers in the heap are looked at. -/
def Permitted (m : BCTimerMgr) : Op → Prop
  | .run now => ∀ i < m.heap.nLast, InRange now (m.timers (m.heap.pArray (i + 1))).sInterval
  | op => m.Allowed op

instance (m : BCTimerMgr) : (op : Op) → Decidable (m.Permitted op)
  | .create .. | .reset .. => inferInstanceAs (Decidable (_ ∧ _))
  | .touch .. => inferInstanceAs (Decidable (InRange _ _))
  | .run now => inferInstanceAs (Decidable (∀ i < m.heap.nLast, InRange now _))
  | .attach _ | .detach _ | .destroy _ | .take _ => inferInstanceAs (Decidable True)

/-- A permitted call is an allowed one. -/
theorem Sound.allowed_of_permitted (h : m.Sound) {op : Op} (hop : m.Permitted op) :
    m.Allowed op := by
  cases op with
  | run now =>
    intro t ht
    obtain ⟨hle, hslot⟩ := h.settled.standing.proper.inOrder.placed.known t trivial ht
    have hindex : m.heap.index t - 1 + 1 = m.heap.index t :=
      Nat.sub_add_cancel (Nat.pos_of_ne_zero ht)
    have hrange := hop (m.heap.index t - 1) (by omega)
    rwa [hindex, hslot] at hrange
  | create x setting task now | reset x setting purge now | touch x now | attach x | detach x
  | destroy x | take task => exact hop

/-- A run can be seen to be allowed. -/
theorem meets_of_permitted {ops : List Op} (hops : Runs.Meets step Permitted create ops) :
    Runs.Meets step Allowed create ops :=
  Runs.Meets.of_invariant (I := Sound) (fun _ op h hop =>
    ⟨h.allowed_of_permitted hop, h.step op (h.allowed_of_permitted hop)⟩) sound_create hops

/-- A life of five seconds. -/
def fiveSeconds : TimerSetting where
  eType := .once
  expires := bcTimeSet 5
  interval := bcIntervalZero
  given := Or.inr (by decide +kernel)
  limited := Or.inl (by decide)

/-- A tick every two seconds. -/
def everyTwoSeconds : TimerSetting where
  eType := .ticker
  expires := bcTimeEpoch
  interval := bcIntervalSet 2
  given := Or.inr (by decide +kernel)
  limited := Or.inl (by decide)

/-- Three seconds without a touch. -/
def untouched : TimerSetting where
  eType := .once
  expires := bcTimeEpoch
  interval := bcIntervalSet 3
  given := Or.inr (by decide +kernel)
  limited := Or.inl (by decide)

/-- Three timers of two tasks. -/
def threeTimers : List Op :=
  [.create 1 fiveSeconds 0 (bcTimeSet 1), .create 2 everyTwoSeconds 0 (bcTimeSet 1),
    .create 3 untouched 1 (bcTimeSet 1)]

/-- In every run the timer manager is sound: in particular, the thread sleeps no longer than until
the first timer is due unless it has been signalled, and no event outlives its timer. -/
theorem timers_sound (ops : List Op) (hallowed : Runs.Meets step Allowed create ops) :
    (Runs.run step create ops).Sound :=
  sound_create.run_of_meets hallowed

/-- After a pass at which one of three timers has ticked: its event waits, and the thread sleeps
until the next timer is due. -/
theorem timers_sound_taken :
    let m := Runs.run step create (threeTimers ++ [.run (bcTimeSet 3)])
    m.Sound ∧ m.heap.nLast = 3 ∧ (m.queue 0).map (·.sender) = [2] ∧ m.signalled = false ∧
      m.wait = some (bcTimeSet 4) :=
  ⟨timers_sound _ (meets_of_permitted (by decide +kernel)), by decide +kernel⟩

end BC.BCTimerMgr
