import TTSignal.BC.Timer
import Mathlib.Data.Finset.Card
import Mathlib.Order.Interval.Finset.Nat

/-!
# A pass over the timers

A pass of the timer thread posts an event for every timer that is due, in the order in which
they are, and leaves no timer that is due. It takes no more turns than timers are due, since a
timer that is scheduled again is due only later.
-/

namespace BC

/-- What a timer needs to be due later than now when it is scheduled. -/
structure BCTimer.Arms (timer : BCTimer) : Prop where
  /-- It is active. -/
  active : timer.eType ≠ .inactive
  /-- It expires or has an interval. -/
  given : ¬ (timer.sExpires.toNat = 0 ∧ timer.sInterval.toNat = 0)
  /-- A ticker has an interval. -/
  ticker : timer.eType = .ticker → timer.sInterval.toNat ≠ 0
  /-- So has a limited timer. -/
  limited : timer.eType = .limited → timer.sInterval.toNat ≠ 0
  /-- A timer that goes off once is given an idle time or a time. -/
  once : timer.eType = .once → ¬ (timer.sIdle.toNat = 0 ∧ timer.sExpires.toNat = 0)

variable {timer : BCTimer} {now due : BCTimeS}

/-- A timer that has to be scheduled again after a turn is due only later. -/
theorem BCTimer.Arms.nextDue_gt (h : timer.Arms) (hrange : InRange now timer.sInterval)
    (hagain : (timer.outcome now).2 = true) :
    ∃ due, timer.nextDue now = some due ∧ now < due := by
  obtain ⟨sum, hadd, hsum⟩ := bcTimeAdd_of_inRange hrange
  have hlater : timer.sInterval.toNat ≠ 0 → now < sum := fun hne => by
    rw [BCTimeS.lt_iff]
    omega
  unfold BCTimer.nextDue
  unfold BCTimer.outcome at hagain
  cases htype : timer.eType with
  | inactive => exact absurd htype h.active
  | ticker =>
    rw [if_pos (by decide), hadd]
    exact ⟨sum, by simp, hlater (h.ticker htype)⟩
  | limited =>
    rw [if_pos (by decide), hadd]
    simp only [htype] at hagain
    split at hagain
    · simp at hagain
    · rename_i hexpires
      rw [bcTimeCompare_nonneg_iff, not_le] at hexpires
      by_cases hcut : bcTimeCompare timer.sExpires sum < 0
      · exact ⟨_, if_pos ⟨rfl, hcut⟩, hexpires⟩
      · exact ⟨_, if_neg fun hboth => hcut hboth.2, hlater (h.limited htype)⟩
  | once =>
    have hone := h.once htype
    rw [← bcTimeIsepoch_iff, ← bcTimeIsepoch_iff, not_and, Bool.not_eq_true] at hone
    simp only [htype, bcTimeCompare_nonneg_iff] at hagain
    rw [if_neg (by simp)]
    split at hagain
    · simp at hagain
    rename_i hexpires
    split at hagain
    · simp at hagain
    rename_i hidle
    rw [not_and, not_le] at hexpires hidle
    by_cases hzero : bcTimeIsepoch timer.sIdle = true
    · rw [if_pos hzero]
      exact ⟨_, rfl, hexpires (hone hzero)⟩
    · have hidle := hidle (Bool.not_eq_true _ ▸ hzero)
      rw [if_neg hzero]
      split
      · exact ⟨_, rfl, hidle⟩
      · rename_i hset
        split
        · exact ⟨_, rfl, hidle⟩
        · exact ⟨_, rfl, hexpires (by simpa using hset)⟩

namespace BCTimerMgr

variable {m m' m₁ : BCTimerMgr} {t x : TimerId} {e : BCTimerEvent} {new : List BCTimerEvent}

/-- The timer is due. -/
def Due (m : BCTimerMgr) (now : BCTimeS) (t : TimerId) : Prop := m.Scheduled t ∧ m.key t ≤ now

/-- All scheduled timers go on only later than now. -/
def Ready (m : BCTimerMgr) (now : BCTimeS) : Prop :=
  ∀ t, m.Scheduled t → (m.timers t).Arms ∧ InRange now (m.timers t).sInterval

/-- The event that is posted for a timer that is due. -/
def eventOf (m : BCTimerMgr) (t : TimerId) (now : BCTimeS) : List BCTimerEvent :=
  match ((m.timers t).outcome now).1 with
  | some type => [⟨t, type, m.key t⟩]
  | none => []

/-- The event of a timer is its own, due when it was, of the kind of its outcome. -/
theorem mem_eventOf :
    e ∈ m.eventOf t now ↔
      e.sender = t ∧ e.due = m.key t ∧ ((m.timers t).outcome now).1 = some e.type := by
  unfold eventOf
  split
  · rename_i type htype
    rw [List.mem_singleton, htype]
    constructor
    · rintro rfl
      exact ⟨rfl, rfl, rfl⟩
    · rintro ⟨rfl, hdue, hsome⟩
      obtain rfl := Option.some.inj hsome
      rw [← hdue]
  · rename_i hnone
    simp [hnone]

/-- What a turn does with a timer that is due. -/
structure Fired (t : TimerId) (now : BCTimeS) (m m' : BCTimerMgr) : Prop where
  /-- The manager is still standing. -/
  standing : m'.Standing
  /-- Of the timer itself the due time has changed at most. -/
  self : m'.timers t = { m.timers t with sDue := m'.key t }
  /-- The other timers are as before. -/
  others : ∀ x, x ≠ t → m'.timers x = m.timers x
  /-- They are scheduled as before. -/
  scheduled : ∀ x, x ≠ t → (m'.Scheduled x ↔ m.Scheduled x)
  /-- A timer that goes on is scheduled for its next due time, which lies ahead. -/
  again : ((m.timers t).outcome now).2 = true →
    m'.Scheduled t ∧ now < m'.key t ∧ (m.timers t).nextDue now = some (m'.key t)
  /-- A timer that does not go on is not scheduled. -/
  gone : ((m.timers t).outcome now).2 = false → ¬ m'.Scheduled t
  /-- Its event has been posted, if it has one. -/
  posted : m'.posted = m.posted ++ (m.eventOf t now).map fun e => (e, now)
  /-- And put into the queue of its task. -/
  queue : ∀ task, m'.queue task =
    m.queue task ++ (m.eventOf t now).filter fun e => (m.timers e.sender).pTask = task

/-- The events of a timer go to its task. -/
theorem eventOf_filter (m : BCTimerMgr) (t : TimerId) (now : BCTimeS) (task : TaskId) :
    (m.eventOf t now).filter (fun e => decide ((m.timers e.sender).pTask = task)) =
      if (m.timers t).pTask = task then m.eventOf t now else [] := by
  have hsender : ∀ e ∈ m.eventOf t now, e.sender = t := fun e he => (mem_eventOf.mp he).1
  split
  · rename_i htask
    rw [List.filter_eq_self]
    intro e he
    rw [hsender e he]
    exact decide_eq_true htask
  · rename_i htask
    rw [List.filter_eq_nil_iff]
    intro e he
    rw [hsender e he]
    simpa using htask

/-- The state in which a timer's event has been posted. -/
def posting (m : BCTimerMgr) (t : TimerId) (now : BCTimeS) : BCTimerMgr :=
  match ((m.timers t).outcome now).1 with
  | some type => m.post t now type
  | none => m

/-- A turn posts the event, takes the timer out and schedules it again if it goes on. -/
theorem fire_eq : m.fire t now =
    if ((m.timers t).outcome now).2 then ((m.posting t now).pop t).schedule t now false
    else (m.posting t now).pop t := rfl

/-- Posting an event changes nothing but what waits at the task. -/
theorem posting_spec (m : BCTimerMgr) (t : TimerId) (now : BCTimeS) :
    (m.posting t now).heap = m.heap ∧ (m.posting t now).nScheduled = m.nScheduled ∧
      (m.posting t now).timers = m.timers ∧
      (m.posting t now).posted = m.posted ++ (m.eventOf t now).map (fun e => (e, now)) ∧
      ∀ task, (m.posting t now).queue task =
        m.queue task ++ (m.eventOf t now).filter fun e => (m.timers e.sender).pTask = task := by
  simp only [eventOf_filter]
  unfold posting eventOf
  split
  · rename_i type htype
    refine ⟨rfl, rfl, rfl, rfl, fun task => ?_⟩
    by_cases htask : (m.timers t).pTask = task
    · subst htask
      simp [post, key]
    · rw [if_neg htask, List.append_nil]
      simp only [post]
      rw [Function.update_of_ne (Ne.symm htask)]
  · refine ⟨rfl, rfl, rfl, by simp, fun task => ?_⟩
    simp

/-- The timer leaves the heap when its event has been posted. -/
theorem Standing.posting_pop (h : m.Standing) (hfirst : m.heap.element 1 = some t) :
    ((m.posting t now).pop t).Standing ∧ ((m.posting t now).pop t).timers = m.timers ∧
      (∀ x, ((m.posting t now).pop t).Scheduled x ↔ x ≠ t ∧ m.Scheduled x) ∧
      ((m.posting t now).pop t).posted = m.posted ++ (m.eventOf t now).map (fun e => (e, now)) ∧
      ∀ task, ((m.posting t now).pop t).queue task =
        m.queue task ++ (m.eventOf t now).filter fun e => (m.timers e.sender).pTask = task := by
  obtain ⟨hheap, hcount, htimers, hposted, hqueue⟩ := posting_spec m t now
  have hposting : (m.posting t now).Standing := by
    refine ⟨?_, by rw [hheap, hcount]; exact h.count⟩
    rw [hheap]
    exact h.proper.congr fun x _ => by simp only [key, htimers]
  have hpop := hposting.pop (t := t) (by rw [hheap]; exact hfirst)
  refine ⟨hpop.standing, hpop.timers.trans htimers, fun x => ?_, hpop.posted.trans hposted,
    fun task => ?_⟩
  · rw [hpop.scheduled x, Scheduled, Scheduled, hheap]
  · rw [hpop.queue, hqueue]

/-- A turn with a timer that is due. -/
theorem Standing.fire (h : m.Standing) (hready : (m.timers t).Arms)
    (hrange : InRange now (m.timers t).sInterval) (hfirst : m.heap.element 1 = some t) :
    Fired t now m (m.fire t now) := by
  obtain ⟨hstanding, hpoptimers, hscheduled, hpopposted, hpopqueue⟩ :=
    h.posting_pop hfirst
  rw [fire_eq]
  cases hagain : ((m.timers t).outcome now).2 with
  | false =>
    rw [if_neg (by decide)]
    exact
      { standing := hstanding
        self := by rw [hpoptimers, key, hpoptimers]
        others := fun x _ => by rw [hpoptimers]
        scheduled := fun x hx => by simp [hscheduled x, hx]
        again := fun htrue => by simp [hagain] at htrue
        gone := fun _ => by simp [hscheduled t]
        posted := hpopposted
        queue := fun task => hpopqueue task }
  | true =>
    rw [if_pos rfl]
    obtain ⟨due, hnext, hlater⟩ := hready.nextDue_gt hrange hagain
    have hnextpop : (((m.posting t now).pop t).timers t).nextDue now = some due := by
      rw [hpoptimers]
      exact hnext
    obtain ⟨hsched, hstimers, hsscheduled, hsqueue, hsposted, -, -⟩ :=
      hstanding.schedule hnextpop false
    rw [hpoptimers] at hstimers
    have hkey : (((m.posting t now).pop t).schedule t now false).key t = due := by
      rw [key, hstimers, Function.update_self]
    exact
      { standing := hsched
        self := by rw [hkey, hstimers, Function.update_self]
        others := fun x hx => by rw [hstimers, Function.update_of_ne hx]
        scheduled := fun x hx => by simp [hsscheduled x, hscheduled x, hx]
        again := fun _ => by
          rw [hkey]
          exact ⟨(hsscheduled t).mpr (Or.inl rfl), hlater, hnext⟩
        gone := fun hfalse => by simp [hagain] at hfalse
        posted := hsposted.trans hpopposted
        queue := fun task => by rw [hsqueue, hpopqueue] }

/-- What a pass does. -/
structure Passed (now : BCTimeS) (m m' : BCTimerMgr) (new : List BCTimerEvent) : Prop where
  /-- The manager stands. -/
  standing : m'.Standing
  /-- A timer keeps its members, and is given a new due time only if it was due. -/
  timers : ∀ t, m'.timers t = { m.timers t with sDue := m'.key t }
  /-- A timer that was not due is left as it was. -/
  others : ∀ t, ¬ m.Due now t → m'.key t = m.key t ∧ (m'.Scheduled t ↔ m.Scheduled t)
  /-- A timer that was due is scheduled again or not, as its kind is. -/
  again : ∀ t, m.Due now t → ((m.timers t).outcome now).2 = true →
    m'.Scheduled t ∧ (m.timers t).nextDue now = some (m'.key t)
  /-- Due timers that do not go on are not scheduled any more. -/
  gone : ∀ t, m.Due now t → ((m.timers t).outcome now).2 = false → ¬ m'.Scheduled t
  /-- The events that have been posted are those of the timers that were due, one each. -/
  events : ∀ e, e ∈ new ↔ m.Due now e.sender ∧ e ∈ m.eventOf e.sender now
  /-- No timer has two events in one pass. -/
  nodup : (new.map BCTimerEvent.sender).Nodup
  /-- They have been posted in the order in which the timers were due. -/
  sorted : new.Pairwise fun e e' => e.due ≤ e'.due
  /-- The new events have been posted. -/
  posted : m'.posted = m.posted ++ new.map fun e => (e, now)
  /-- They have been put into the queues of their tasks. -/
  queue : ∀ task, m'.queue task =
    m.queue task ++ new.filter fun e => (m.timers e.sender).pTask = task
  /-- No timer is due any more, and the manager knows when the first one is. -/
  left : ∀ t, m'.Scheduled t → now < m'.key t ∧ m'.sDue ≤ m'.key t
  /-- The time that the thread waits for is the one of a first timer. -/
  first : (∃ t, m'.Scheduled t) → ∃ t, m'.Scheduled t ∧ m'.key t = m'.sDue

/-- The first timer, if any, is one of those that are due first. -/
theorem Standing.first (h : m.Standing) (hfirst : m.heap.element 1 = some t) :
    m.Scheduled t ∧ ∀ x, m.Scheduled x → m.key t ≤ m.key x := by
  obtain ⟨hindex, hleast⟩ := h.proper.element_one_le hfirst
  exact ⟨by unfold Scheduled; omega, hleast⟩

/-- A pass over no timer that is due changes only what the manager knows of the first one. -/
theorem Standing.passed_nil (h : m.Standing) (hnone : ∀ t, ¬ m.Due now t) {due : BCTimeS}
    (hleft : ∀ t, m.Scheduled t → due ≤ m.key t)
    (hfirst : (∃ t, m.Scheduled t) → ∃ t, m.Scheduled t ∧ m.key t = due) :
    Passed now m { m with sDue := due } [] where
  standing := ⟨h.proper, h.count⟩
  timers _ := rfl
  others _ _ := ⟨rfl, Iff.rfl⟩
  again t ht := absurd ht (hnone t)
  gone t ht := absurd ht (hnone t)
  events e := by simp [hnone]
  nodup := List.nodup_nil
  sorted := List.Pairwise.nil
  posted := by simp
  queue task := by simp
  left t ht := by
    refine ⟨?_, hleft t ht⟩
    by_contra hlt
    exact hnone t ⟨ht, not_lt.mp hlt⟩
  first := hfirst

/-- A turn of another timer keeps the key. -/
theorem Fired.key_eq (h : Fired t now m m₁) (hx : x ≠ t) : m₁.key x = m.key x := by
  rw [key, key, h.others x hx]

/-- The timer that was due is so no longer, and the others are due or not as they were. -/
theorem Fired.due_iff (h : Fired t now m m₁) : m₁.Due now x ↔ x ≠ t ∧ m.Due now x := by
  by_cases hx : x = t
  · subst hx
    simp only [ne_eq, not_true_eq_false, false_and, iff_false]
    rintro ⟨hscheduled, hdue⟩
    cases hagain : ((m.timers x).outcome now).2 with
    | true => exact absurd hdue (not_le.mpr (h.again hagain).2.1)
    | false => exact h.gone hagain hscheduled
  · unfold Due
    rw [h.scheduled x hx, h.key_eq hx]
    simp [hx]

/-- The first turn of a pass, and the rest. -/
theorem Fired.passed (h : Fired t now m m₁) (hdue : m.Due now t)
    (hleast : ∀ x, m.Scheduled x → m.key t ≤ m.key x) (hrest : Passed now m₁ m' new) :
    Passed now m m' (m.eventOf t now ++ new) := by
  -- What is due after the turn is due before it, and comes later.
  have hbefore : ∀ x, m₁.Due now x → x ≠ t ∧ m.Due now x := fun x hx => h.due_iff.mp hx
  have hself : ¬ m₁.Due now t := fun ht => (hbefore t ht).1 rfl
  have hevent : ∀ x, x ≠ t → m₁.eventOf x now = m.eventOf x now := by
    intro x hx
    unfold eventOf
    rw [h.others x hx, h.key_eq hx]
  have hsender : ∀ e ∈ m.eventOf t now, e.sender = t := fun e he => (mem_eventOf.mp he).1
  have hnew : ∀ e ∈ new, e.sender ≠ t ∧ m.Due now e.sender ∧ e ∈ m.eventOf e.sender now := by
    intro e he
    obtain ⟨hd, hmem⟩ := (hrest.events e).mp he
    obtain ⟨hne, hd⟩ := hbefore _ hd
    exact ⟨hne, hd, hevent _ hne ▸ hmem⟩
  exact
    { standing := hrest.standing
      timers := fun x => by
        by_cases hx : x = t
        · subst hx
          rw [hrest.timers x, h.self]
        · rw [hrest.timers x, h.others x hx]
      others := fun x hx => by
        have hne : x ≠ t := by
          rintro rfl
          exact hx hdue
        obtain ⟨hkey, hscheduled⟩ := hrest.others x fun hd => hx (hbefore x hd).2
        exact ⟨hkey.trans (h.key_eq hne), hscheduled.trans (h.scheduled x hne)⟩
      again := fun x hx hagain => by
        by_cases hne : x = t
        · subst hne
          obtain ⟨hkey, hscheduled⟩ := hrest.others x hself
          obtain ⟨hin, -, hnext⟩ := h.again hagain
          rw [hscheduled, hkey]
          exact ⟨hin, hnext⟩
        · have hd := h.due_iff.mpr ⟨hne, hx⟩
          have hlast := hrest.again x hd
          rw [h.others x hne] at hlast
          exact hlast hagain
      gone := fun x hx hgone => by
        by_cases hne : x = t
        · subst hne
          rw [(hrest.others x hself).2]
          exact h.gone hgone
        · have hd := h.due_iff.mpr ⟨hne, hx⟩
          have hlast := hrest.gone x hd
          rw [h.others x hne] at hlast
          exact hlast hgone
      events := fun e => by
        rw [List.mem_append]
        constructor
        · rintro (he | he)
          · rw [hsender e he]
            exact ⟨hdue, he⟩
          · exact (hnew e he).2
        · rintro ⟨hd, he⟩
          by_cases hne : e.sender = t
          · exact Or.inl (hne ▸ he)
          · right
            rw [hrest.events e, hevent _ hne]
            exact ⟨h.due_iff.mpr ⟨hne, hd⟩, he⟩
      nodup := by
        rw [List.map_append, List.nodup_append]
        refine ⟨?_, hrest.nodup, ?_⟩
        · unfold eventOf
          split <;> simp
        · intro a ha b hb
          obtain ⟨e, he, rfl⟩ := List.mem_map.mp ha
          obtain ⟨e', he', rfl⟩ := List.mem_map.mp hb
          rw [hsender e he]
          exact Ne.symm (hnew e' he').1
      sorted := by
        rw [List.pairwise_append]
        refine ⟨?_, hrest.sorted, ?_⟩
        · unfold eventOf
          split <;> simp
        · intro e he e' he'
          obtain ⟨-, hd, hmem⟩ := hnew e' he'
          rw [(mem_eventOf.mp he).2.1, (mem_eventOf.mp hmem).2.1]
          exact hleast _ hd.1
      posted := by
        rw [hrest.posted, h.posted, List.map_append, List.append_assoc]
      queue := fun task => by
        have htask : ∀ e : BCTimerEvent,
            (m₁.timers e.sender).pTask = (m.timers e.sender).pTask := by
          intro e
          by_cases hx : e.sender = t
          · rw [hx, h.self]
          · rw [h.others _ hx]
        rw [hrest.queue task, h.queue task, List.filter_append, List.append_assoc]
        simp only [htask]
      left := hrest.left
      first := hrest.first }

/-- A turn leaves the timers ready to go on. -/
theorem Fired.ready (h : Fired t now m m₁) (hready : m.Ready now) (hin : m.Scheduled t) :
    m₁.Ready now := by
  intro x hx
  by_cases hne : x = t
  · subst hne
    rw [h.self]
    obtain ⟨⟨hactive, hgiven, hticker, hlimited, honce⟩, hrange⟩ := hready x hin
    exact ⟨⟨hactive, hgiven, hticker, hlimited, honce⟩, hrange⟩
  · rw [h.others x hne]
    exact hready x ((h.scheduled x hne).mp hx)

/-- A turn deals with the first timer if it is due, and ends the pass if it is not. -/
theorem Standing.dispatchTurn_cases (h : m.Standing) (now : BCTimeS) :
    (∃ t, m.heap.element 1 = some t ∧ m.Due now t ∧ dispatchTurn now m = .inl (m.fire t now)) ∨
    ∃ due, dispatchTurn now m = .inr { m with sDue := due } ∧ (∀ t, ¬ m.Due now t) ∧
      (∀ t, m.Scheduled t → due ≤ m.key t) ∧
      ((∃ t, m.Scheduled t) → ∃ t, m.Scheduled t ∧ m.key t = due) := by
  have hpos := h.nScheduled_pos_iff
  unfold dispatchTurn
  by_cases hany : 0 < m.nScheduled
  · rw [if_pos hany]
    cases hfirst : m.heap.element 1 with
    | none =>
      rw [BCHeap.element_one_eq_none, ← h.count] at hfirst
      omega
    | some t =>
      obtain ⟨hin, hleast⟩ := h.first hfirst
      dsimp only
      by_cases hdue : bcTimeCompare now (m.timers t).sDue ≥ 0
      · rw [if_pos hdue]
        exact Or.inl ⟨t, rfl, ⟨hin, bcTimeCompare_nonneg_iff.mp hdue⟩, rfl⟩
      · rw [if_neg hdue]
        rw [bcTimeCompare_nonneg_iff] at hdue
        refine Or.inr ⟨(m.timers t).sDue, rfl, ?_, hleast, fun _ => ⟨t, hin, rfl⟩⟩
        rintro x ⟨hx, hxdue⟩
        exact hdue ((hleast x hx).trans hxdue)
  · rw [if_neg hany]
    have hnone : ∀ t, ¬ m.Scheduled t := fun t ht => hany (hpos.mpr ⟨t, ht⟩)
    refine Or.inr ⟨m.sDue, rfl, fun t ht => hnone t ht.1, fun t ht => absurd ht (hnone t), ?_⟩
    rintro ⟨t, ht⟩
    exact absurd ht (hnone t)

/-- A pass takes a turn for every timer that is due, and a last one. -/
theorem Standing.dispatchTurns (h : m.Standing) (hready : m.Ready now) {n : ℕ}
    {D : Finset TimerId} (hD : ∀ t, t ∈ D ↔ m.Due now t) (hn : D.card < n) :
    Loops.Ends (dispatchTurn now) m (dispatchTurns now n m) ∧
      ∃ new, Passed now m (BCTimerMgr.dispatchTurns now n m) new := by
  induction n generalizing m D with
  | zero => omega
  | succ n ih =>
    unfold BCTimerMgr.dispatchTurns
    rcases h.dispatchTurn_cases now with ⟨t, hfirst, hdue, hturn⟩ | ⟨due, hturn, hnone, hleft, hone⟩
    · obtain ⟨hin, hleast⟩ := h.first hfirst
      obtain ⟨harms, hrange⟩ := hready t hin
      have hfired := h.fire harms hrange hfirst
      have hmem : t ∈ D := (hD t).mpr hdue
      have herase : ∀ x, x ∈ D.erase t ↔ (m.fire t now).Due now x := by
        intro x
        rw [Finset.mem_erase, hD x, hfired.due_iff]
      have hcard : (D.erase t).card < n := by
        rw [Finset.card_erase_of_mem hmem]
        have hpos : 0 < D.card := Finset.card_pos.mpr ⟨t, hmem⟩
        omega
      obtain ⟨hends, new, hrest⟩ := ih hfired.standing (hfired.ready hready hin) herase hcard
      rw [hturn]
      exact ⟨.again hturn hends, _, hfired.passed hdue hleast hrest⟩
    · rw [hturn]
      exact ⟨.leave hturn, [], h.passed_nil hnone hleft hone⟩

/-- No more timers are due than are scheduled. -/
theorem Standing.exists_due (h : m.Standing) (now : BCTimeS) :
    ∃ D : Finset TimerId, (∀ t, t ∈ D ↔ m.Due now t) ∧ D.card ≤ m.nScheduled := by
  classical
  refine ⟨((Finset.Icc 1 m.heap.nLast).image m.heap.pArray).filter fun t => m.key t ≤ now, ?_, ?_⟩
  · intro t
    have hiff := h.proper.inOrder.placed.mem_iff (x := t) trivial
    rw [Finset.mem_filter, Finset.mem_image, Due, Scheduled, ← hiff]
    simp only [Finset.mem_Icc, and_assoc]
  · rw [h.count]
    calc (((Finset.Icc 1 m.heap.nLast).image m.heap.pArray).filter fun t => m.key t ≤ now).card
        ≤ ((Finset.Icc 1 m.heap.nLast).image m.heap.pArray).card := Finset.card_filter_le _ _
      _ ≤ (Finset.Icc 1 m.heap.nLast).card := Finset.card_image_le
      _ = m.heap.nLast := by simp

/-- A pass ends, and does with every timer what it should. -/
theorem Standing.dispatch (h : m.Standing) (hready : m.Ready now) :
    Loops.Ends (dispatchTurn now) m (m.dispatch now) ∧
      ∃ new, Passed now m (m.dispatch now) new := by
  obtain ⟨D, hD, hcard⟩ := h.exists_due now
  exact h.dispatchTurns hready hD (Nat.lt_succ_of_le hcard)

end BCTimerMgr

end BC
