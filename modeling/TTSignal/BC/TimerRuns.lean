import TTSignal.BC.Alone

/-!
# Whole runs of timers

A pass at the end of a run posts what is due. A timer that is set and then left alone does what
its kind says, whatever becomes of the others: one of kind `once` rings once, at the first pass at
or after its time, a ticker ticks at every pass that is an interval after its last tick, one
that is touched does not ring as idle for an interval, and one that is made inactive is silent.
-/

namespace BC.BCTimerMgr

variable {m m' : BCTimerMgr} {t x : TimerId} {task : TaskId} {now : BCTimeS}

/-- The timer that a step is about. -/
def Op.subject : Op → Option TimerId
  | .create t .. | .reset t .. | .touch t _ | .attach t | .detach t | .destroy t => some t
  | .run _ | .take _ => none

/-- The times of the passes. -/
def passTimes (ops : List Op) : List ℕ :=
  ops.filterMap fun op => match op with
    | .run now => some now.toNat
    | _ => none

/-- While a timer is left alone there are only the passes. -/
theorem filterMap_call {ops : List Op} (hleft : ∀ op ∈ ops, op.subject ≠ some t) :
    ops.filterMap (Op.call t) = (passTimes ops).map .pass := by
  rw [passTimes, List.map_filterMap]
  refine List.filterMap_congr fun op hop => ?_
  have hne := hleft op hop
  cases op with
  | run now => rfl
  | take task => rfl
  | create x | reset x | touch x | attach x | detach x | destroy x =>
    exact if_neg fun heq => hne (congrArg some heq)

variable {after : List Op} {setting : TimerSetting} {purge : Bool}

/-- A timer on which a call is made and which is then left alone. -/
theorem Sound.rung_of_call (h : m.Sound) {op : Op} {c : Alarm.Call} (hcall : op.call t = some c)
    (hallowed : Runs.Meets BCTimerMgr.step Allowed m (op :: after))
    (hleft : ∀ op ∈ after, op.subject ≠ some t) :
    (Runs.run BCTimerMgr.step m (op :: after)).rung t =
      (Runs.run Alarm.step ((m.alarm t).step c) ((passTimes after).map .pass)).rung := by
  obtain ⟨hop, hrest⟩ := hallowed
  have hstep := h.alarm_step op hop t
  rw [called, hcall] at hstep
  have hrun := (h.step op hop).alarm_eq_run after hrest t
  rw [filterMap_call hleft, hstep] at hrun
  exact congrArg Alarm.rung hrun

/-- A timer that is reset and then left alone. -/
theorem Sound.rung_of_reset (h : m.Sound)
    (hallowed : Runs.Meets BCTimerMgr.step Allowed m (.reset t setting purge now :: after))
    (href : (m.timers t).nRef ≠ 0) (hleft : ∀ op ∈ after, op.subject ≠ some t) :
    (Runs.run BCTimerMgr.step m (.reset t setting purge now :: after)).rung t =
      (Runs.run Alarm.step
        (((m.alarm t).given setting.eType setting.expires.toNat setting.interval.toNat
          now.toNat).start now.toNat)
        ((passTimes after).map .pass)).rung := by
  have hcall : Op.call t (.reset t setting purge now) =
      some (.reset setting.eType setting.expires.toNat setting.interval.toNat now.toNat) :=
    if_pos rfl
  rw [h.rung_of_call hcall hallowed hleft]
  exact congrArg (fun a => (Runs.run Alarm.step a _).rung) (if_neg href)

/-- A timer is scheduled when its alarm is set. -/
theorem scheduled_iff : m.Scheduled t ↔ (m.alarm t).due ≠ none := by
  by_cases hin : m.Scheduled t
  · exact ⟨fun _ => by simp [alarm, dueAt, hin], fun _ => hin⟩
  · exact ⟨fun h => absurd h hin, fun h => absurd (if_neg hin) h⟩

/-- No time at all. -/
def stopped : TimerSetting where
  eType := .inactive
  expires := bcTimeEpoch
  interval := bcIntervalZero
  given := Or.inl rfl
  limited := Or.inl (by decide)

/-- A timer that is created and set anew a second later. -/
def sample (setting : TimerSetting) (purge : Bool) : List Op :=
  [.create 1 fiveSeconds 0 (bcTimeSet 1),
    .reset 1 setting purge (bcTimeSet 2)]

/-- Passes over the sample's timer. -/
def samplePasses : List Op :=
  [.run (bcTimeSet 4), .run (bcTimeSet 5), .run (bcTimeSet 8)]

/-- After every run a pass ends, and it posts one event for every timer that is due, in the order
in which they are, and leaves none that is. -/
theorem passed_run (ops : List Op) (now : BCTimeS)
    (hallowed : Runs.Meets step Allowed create (ops ++ [.run now])) :
    Loops.Ends (dispatchTurn now) (Runs.run step create ops)
        ((Runs.run step create ops).dispatch now) ∧
      ∃ new,
        Passed now (Runs.run step create ops) ((Runs.run step create ops).dispatch now) new := by
  obtain ⟨hbefore, hrun, -⟩ := Runs.meets_append.mp hallowed
  have hsound := sound_create.run_of_meets hbefore
  exact hsound.settled.standing.dispatch fun t ht => ⟨hsound.armed t ht, hrun t ht⟩

/-- Three timers are due at once. -/
theorem passed_run_taken :
    (Loops.Ends (dispatchTurn (bcTimeSet 5)) (Runs.run step create threeTimers)
        ((Runs.run step create threeTimers).dispatch (bcTimeSet 5)) ∧
      ∃ new, Passed (bcTimeSet 5) (Runs.run step create threeTimers)
        ((Runs.run step create threeTimers).dispatch (bcTimeSet 5)) new) ∧
      ((Runs.run step create threeTimers).dispatch (bcTimeSet 5)).posted.map
        (fun e => (e.1.sender, e.1.type)) = [(2, .tick), (3, .idle), (1, .life)] ∧
      ((Runs.run step create threeTimers).dispatch (bcTimeSet 5)).dueAt 2 = some 7000000000 :=
  ⟨passed_run threeTimers (bcTimeSet 5) (meets_of_permitted (by decide +kernel)),
    by decide +kernel⟩

/-- A timer of kind `once` that is set and then left alone rings exactly once: at the first pass
at or after its time, if there is one. -/
theorem rings_once (before after : List Op) (t : TimerId) (setting : TimerSetting) (purge : Bool)
    (now : BCTimeS)
    (hallowed : Runs.Meets step Allowed create (before ++ .reset t setting purge now :: after))
    (href : ((Runs.run step create before).timers t).nRef ≠ 0) (hkind : setting.eType = .once)
    (hleft : ∀ op ∈ after, op.subject ≠ some t) :
    (Runs.run step create (before ++ .reset t setting purge now :: after)).rung t =
      (Runs.run step create before).rung t ++
        ((passTimes after).find? fun time =>
          Alarm.onceDue setting.expires.toNat setting.interval.toNat now.toNat ≤ time).toList.map
          (Alarm.onceRing setting.expires.toNat setting.interval.toNat now.toNat) := by
  obtain ⟨hbefore, hrest⟩ := Runs.meets_append.mp hallowed
  have hgiven := setting.given.resolve_left (by rw [hkind]; decide)
  have hrung := (sound_create.run_of_meets hbefore).rung_of_reset hrest href hleft
  rw [hkind, Alarm.run_pass_once _ _ hgiven] at hrung
  rw [Runs.run_append]
  exact hrung

/-- A timer that goes off once does so once in the passes. -/
theorem rings_once_taken :
    (Runs.run step create (sample fiveSeconds false ++ samplePasses)).rung 1 =
      [⟨.life, 5000000000, 5000000000⟩] := by
  refine (rings_once [.create 1 fiveSeconds 0 (bcTimeSet 1)] samplePasses 1 fiveSeconds
    false (bcTimeSet 2) (meets_of_permitted (by decide +kernel)) (by decide +kernel) rfl
    ?_).trans ?_
  · simp [samplePasses, Op.subject]
  · decide +kernel

/-- A ticker that is set and then left alone ticks at every pass at which its last tick, or its
being set, is at least an interval past. So no two ticks are closer than an interval. -/
theorem rings_ticker (before after : List Op) (t : TimerId) (setting : TimerSetting)
    (purge : Bool) (now : BCTimeS)
    (hallowed : Runs.Meets step Allowed create (before ++ .reset t setting purge now :: after))
    (href : ((Runs.run step create before).timers t).nRef ≠ 0) (hkind : setting.eType = .ticker)
    (hleft : ∀ op ∈ after, op.subject ≠ some t) :
    (Runs.run step create (before ++ .reset t setting purge now :: after)).rung t =
      (Runs.run step create before).rung t ++
        Alarm.ticks setting.interval.toNat (now.toNat + setting.interval.toNat)
          (passTimes after) ∧
      (Alarm.ticks setting.interval.toNat (now.toNat + setting.interval.toNat)
        (passTimes after)).Pairwise fun r r' => r.time + setting.interval.toNat ≤ r'.time := by
  obtain ⟨hbefore, hrest⟩ := Runs.meets_append.mp hallowed
  have hrung := (sound_create.run_of_meets hbefore).rung_of_reset hrest href hleft
  rw [hkind, Alarm.run_pass_ticker rfl rfl] at hrung
  rw [Runs.run_append]
  exact ⟨hrung, Alarm.ticks_spaced _ _ _⟩

/-- A ticker goes off at its first due time and then at the next one ahead of each pass. -/
theorem rings_ticker_taken :
    (Runs.run step create (sample everyTwoSeconds false ++ samplePasses)).rung 1 =
      [⟨.tick, 4000000000, 4000000000⟩, ⟨.tick, 6000000000, 8000000000⟩] := by
  refine (rings_ticker [.create 1 fiveSeconds 0 (bcTimeSet 1)] samplePasses 1
    everyTwoSeconds false (bcTimeSet 2) (meets_of_permitted (by decide +kernel))
    (by decide +kernel) rfl ?_).1.trans ?_
  · simp [samplePasses, Op.subject]
  · decide +kernel

/-- `Touch` moves no timer in the heap and no due time. -/
theorem touch_keeps (m : BCTimerMgr) (t : TimerId) (now : BCTimeS) :
    (m.step (.touch t now)).heap = m.heap ∧ (m.step (.touch t now)).key = m.key := by
  simp only [BCTimerMgr.step, touch]
  split
  · exact ⟨rfl, rfl⟩
  split
  · exact ⟨rfl, rfl⟩
  · refine ⟨rfl, funext fun x => ?_⟩
    by_cases hx : x = t
    · rw [hx]
      exact key_setTimer_self
    · simp only [key, setTimer, Function.update_of_ne hx]

/-- A timer that is touched and then left alone does not ring as idle before an interval has
passed since, although the touch moves neither its due time nor its place in the heap. -/
theorem not_idle_after_touch (before after : List Op) (t : TimerId) (now : BCTimeS)
    (hallowed : Runs.Meets step Allowed create (before ++ .touch t now :: after))
    (href : ((Runs.run step create before).timers t).nRef ≠ 0)
    (hleft : ∀ op ∈ after, op.subject ≠ some t) :
    ((Runs.run step create (before ++ [.touch t now])).heap =
        (Runs.run step create before).heap ∧
      (Runs.run step create (before ++ [.touch t now])).key =
        (Runs.run step create before).key) ∧
    ∃ new,
      (Runs.run step create (before ++ .touch t now :: after)).rung t =
        (Runs.run step create before).rung t ++ new ∧
      ∀ r ∈ new, r.type = .idle →
        now.toNat + ((Runs.run step create before).timers t).sInterval.toNat ≤ r.time := by
  obtain ⟨hbefore, hrest⟩ := Runs.meets_append.mp hallowed
  have hcall : Op.call t (.touch t now) = some (.touch now.toNat) := if_pos rfl
  have hrung := (sound_create.run_of_meets hbefore).rung_of_call hcall hrest hleft
  have htouch : ((Runs.run step create before).alarm t).step (.touch now.toNat) =
      { (Runs.run step create before).alarm t with
        idle := now.toNat + ((Runs.run step create before).alarm t).interval } := if_neg href
  rw [← Runs.run_append, htouch] at hrung
  obtain ⟨new, hnew, hidle⟩ := Alarm.run_pass_idle
    { (Runs.run step create before).alarm t with
      idle := now.toNat + ((Runs.run step create before).alarm t).interval } (passTimes after)
  refine ⟨?_, new, hrung.trans hnew, hidle⟩
  rw [Runs.run_concat]
  exact touch_keeps _ t now

/-- A touched timer is due without having been idle for long, and later it has been. -/
theorem not_idle_after_touch_taken :
    (∃ new,
      (Runs.run step create ([.create 1 untouched 0 (bcTimeSet 1),
        .touch 1 (bcTimeSet 2)] ++ samplePasses)).rung 1 =
        (Runs.run step create [.create 1 untouched 0 (bcTimeSet 1)]).rung 1 ++ new ∧
      ∀ r ∈ new, r.type = .idle →
        (bcTimeSet 2).toNat +
          ((Runs.run step create [.create 1 untouched 0 (bcTimeSet 1)]).timers
            1).sInterval.toNat ≤ r.time) ∧
      (Runs.run step create ([.create 1 untouched 0 (bcTimeSet 1),
        .touch 1 (bcTimeSet 2)] ++ samplePasses)).rung 1 =
          [⟨.idle, 5000000000, 5000000000⟩] := by
  have h := not_idle_after_touch [.create 1 untouched 0 (bcTimeSet 1)] samplePasses 1
    (bcTimeSet 2) (meets_of_permitted (by decide +kernel)) (by decide +kernel)
    (by simp [samplePasses, Op.subject])
  exact ⟨h.2, by decide +kernel⟩

/-! ## Timers that have been stopped -/

/-- Scheduling a timer keeps the queues. -/
theorem schedule_queue (m : BCTimerMgr) (t : TimerId) (now : BCTimeS) (signalOk : Bool) :
    (m.schedule t now signalOk).queue = m.queue := by
  unfold BCTimerMgr.schedule BCTimerMgr.wakeUp BCTimerMgr.place
  dsimp only
  split
  · rfl
  · split_ifs <;> rfl

/-- Descheduling one keeps them too. -/
theorem deschedule_queue (m : BCTimerMgr) (t : TimerId) : (m.deschedule t).queue = m.queue := by
  unfold BCTimerMgr.deschedule
  dsimp only
  split_ifs <;> rfl

/-- An event at a task was there before, or is one of a timer that was scheduled. -/
theorem Sound.mem_queue_step (h : m.Sound) {op : Op} (hallowed : m.Allowed op) {e : BCTimerEvent}
    (he : e ∈ (m.step op).queue task) : e ∈ m.queue task ∨ m.Scheduled e.sender := by
  cases op with
  | create x setting task now =>
    simp only [BCTimerMgr.step] at he
    split at he
    · exact Or.inl he
    · unfold BCTimerMgr.createTimer at he
      dsimp only at he
      split at he
      · exact Or.inl he
      split at he
      · exact Or.inl he
      · rw [schedule_queue] at he
        exact Or.inl he
  | reset x setting purge now =>
    simp only [BCTimerMgr.step] at he
    split at he
    · exact Or.inl he
    have hpurge : e ∈ (if purge = true then m.purge x else m).queue task → e ∈ m.queue task := by
      split
      · exact fun he => (mem_purge he).1
      · exact id
    unfold BCTimerMgr.reset at he
    dsimp only at he
    split at he
    · exact Or.inl (hpurge he)
    split at he
    · rw [deschedule_queue] at he
      exact Or.inl (hpurge he)
    · rw [schedule_queue] at he
      exact Or.inl (hpurge he)
  | touch x now =>
    simp only [BCTimerMgr.step, BCTimerMgr.touch] at he
    split at he
    · exact Or.inl he
    split at he
    · exact Or.inl he
    · exact Or.inl he
  | attach x | detach x =>
    simp only [BCTimerMgr.step] at he
    split at he
    · exact Or.inl he
    · exact Or.inl he
  | destroy x =>
    simp only [BCTimerMgr.step] at he
    split at he
    · unfold BCTimerMgr.destroy at he
      have hrem := (h.settled.purge x).standing.deschedule x
      replace he : e ∈ ((m.purge x).deschedule x).queue task := he
      rw [hrem.queue] at he
      exact Or.inl (mem_purge he).1
    · exact Or.inl he
  | run now =>
    obtain ⟨-, new, hpassed⟩ :=
      h.settled.standing.dispatch fun t ht => ⟨h.armed t ht, hallowed t ht⟩
    replace he : e ∈ (m.dispatch now).queue task := he
    rw [hpassed.queue, List.mem_append, List.mem_filter] at he
    exact he.imp_right fun hnew => ((hpassed.events e).mp hnew.1).1.1
  | take x =>
    simp only [BCTimerMgr.step, BCTimerMgr.take] at he
    by_cases heq : task = x
    · subst heq
      rw [Function.update_self] at he
      exact Or.inl (List.mem_of_mem_tail he)
    · rw [Function.update_of_ne heq] at he
      exact Or.inl he

/-- A timer that is not in use is not used by what happens to the others. -/
theorem Sound.unused_step (h : m.Sound) {op : Op} (hallowed : m.Allowed op)
    (hleft : op.subject ≠ some t) (hunused : ¬ m.InUse t) : ¬ (m.step op).InUse t := by
  have hout : ¬ m.Scheduled t := fun hin => hunused (Or.inl hin)
  have hdue : (m.alarm t).due = none := by
    by_contra hne
    exact hout (scheduled_iff.mpr hne)
  have halarm : (m.step op).alarm t = m.alarm t := by
    have hcall : [op].filterMap (Op.call t) = (passTimes [op]).map .pass :=
      filterMap_call (by simpa using hleft)
    have hrun := h.alarm_eq_run [op] ⟨hallowed, trivial⟩ t
    rw [hcall, Alarm.run_pass_of_unset hdue] at hrun
    exact hrun
  rintro (hin | ⟨task, e, he, rfl⟩)
  · rw [scheduled_iff, halarm] at hin
    exact hin hdue
  · rcases h.mem_queue_step hallowed he with hold | hin
    · exact hunused (Or.inr ⟨task, e, hold, rfl⟩)
    · exact hout hin

/-- A timer that is not in use stays so as long as no operation is about it. -/
theorem Sound.unused_run (h : m.Sound) {ops : List Op}
    (hallowed : Runs.Meets BCTimerMgr.step Allowed m ops)
    (hleft : ∀ op ∈ ops, op.subject ≠ some t) (hunused : ¬ m.InUse t) :
    ¬ (Runs.run BCTimerMgr.step m ops).InUse t :=
  (Runs.invariant_of_meets (I := fun m => m.Sound ∧ ¬ m.InUse t)
    (fun _ _ hI hC => ⟨hI.1.step _ hC.1, hI.1.unused_step hC.1 hC.2 hI.2⟩) ⟨h, hunused⟩
    (hallowed.and_forall hleft)).2

/-- `Reset` to inactive with a purge leaves a timer unused. -/
theorem Sound.unused_of_reset (h : m.Sound) (hallowed : m.Allowed (.reset t setting true now))
    (hinactive : setting.eType = .inactive) (href : (m.timers t).nRef ≠ 0) :
    ¬ (m.step (.reset t setting true now)).InUse t := by
  rintro (hin | ⟨task, e, he, heq⟩)
  · rw [scheduled_iff, h.alarm_step _ hallowed t, called_eq rfl, if_pos rfl] at hin
    refine hin ?_
    refine (congrArg Alarm.due (if_neg href)).trans ?_
    exact if_pos hinactive
  · simp only [BCTimerMgr.step, if_neg href, BCTimerMgr.reset, if_true, if_pos hinactive] at he
    split at he
    · exact h.settled.purge_none t task e he heq
    · rw [deschedule_queue] at he
      exact h.settled.purge_none t task e he heq

/-- A timer that has been made inactive, with its events purged, and then left alone is silent:
nothing is posted for it and no task has an event of it. -/
theorem silent_of_inactive (before after : List Op) (t : TimerId) (setting : TimerSetting)
    (now : BCTimeS)
    (hallowed : Runs.Meets step Allowed create (before ++ .reset t setting true now :: after))
    (href : ((Runs.run step create before).timers t).nRef ≠ 0)
    (hinactive : setting.eType = .inactive) (hleft : ∀ op ∈ after, op.subject ≠ some t) :
    ¬ (Runs.run step create (before ++ .reset t setting true now :: after)).InUse t ∧
      (Runs.run step create (before ++ .reset t setting true now :: after)).rung t =
        (Runs.run step create before).rung t := by
  obtain ⟨hbefore, hrest⟩ := Runs.meets_append.mp hallowed
  have hsound := sound_create.run_of_meets hbefore
  have hrung := hsound.rung_of_reset hrest href hleft
  rw [hinactive, Alarm.run_pass_of_unset rfl] at hrung
  obtain ⟨hop, hafter⟩ := hrest
  rw [Runs.run_append]
  exact ⟨(hsound.step _ hop).unused_run hafter hleft (hsound.unused_of_reset hop hinactive href),
    hrung⟩

/-- A timer without a type is not in use, and never goes off. -/
theorem silent_of_inactive_taken :
    ¬ (Runs.run step create (sample stopped true ++ samplePasses)).InUse 1 ∧
      (Runs.run step create (sample stopped true ++ samplePasses)).rung 1 = [] := by
  have h := silent_of_inactive [.create 1 fiveSeconds 0 (bcTimeSet 1)] samplePasses 1
    stopped (bcTimeSet 2) (meets_of_permitted (by decide +kernel)) (by decide +kernel) rfl
    (by simp [samplePasses, Op.subject])
  exact ⟨h.1, h.2.trans (by decide +kernel)⟩

/-! ## Tickers without an interval -/

/-- A ticker without an interval is due. -/
def Stuck (now : BCTimeS) (m : BCTimerMgr) (t : TimerId) : Prop :=
  m.Due now t ∧ (m.timers t).eType = .ticker ∧ (m.timers t).sInterval.toNat = 0 ∧
    InRange now (m.timers t).sInterval

/-- This is a matter of the timer and of its being scheduled. -/
theorem Stuck.of_timers (h : Stuck now m t) (htimers : m'.timers t = m.timers t)
    (hin : m'.Scheduled t) : Stuck now m' t := by
  obtain ⟨⟨-, hdue⟩, hrest⟩ := h
  refine ⟨⟨hin, ?_⟩, ?_⟩
  · rw [key, htimers]
    exact hdue
  · rw [htimers]
    exact hrest

/-- A ticker without an interval is due again when it has fired. -/
theorem Stuck.schedule (h : m.Standing) (hkind : (m.timers t).eType = .ticker)
    (hzero : (m.timers t).sInterval.toNat = 0) (hrange : InRange now (m.timers t).sInterval)
    {later : BCTimeS} (hle : now ≤ later) (hlater : InRange later (m.timers t).sInterval)
    (signalOk : Bool) :
    (m.schedule t now signalOk).Standing ∧ Stuck later (m.schedule t now signalOk) t := by
  obtain ⟨due, hnext, hdue⟩ := BCTimer.nextDue_eq (d := none) (r := []) hrange
  have hres := h.schedule hnext signalOk
  have hself : (m.schedule t now signalOk).timers t = { m.timers t with sDue := due } := by
    rw [hres.timers, Function.update_self]
  have hnow : due.toNat = now.toNat := by
    rw [hdue]
    simp only [Alarm.next, hkind, hzero, Nat.add_zero]
  refine ⟨hres.standing, ⟨(hres.scheduled t).mpr (Or.inl rfl), ?_⟩, ?_, ?_, ?_⟩
  · rw [key, hself]
    exact hnow.trans_le hle
  · rw [hself]
    exact hkind
  · rw [hself]
    exact hzero
  · rw [hself]
    exact hlater

/-- It stays due when another timer fires. -/
theorem Stuck.fire (h : m.Standing) (hstuck : Stuck now m t) (hfirst : m.heap.element 1 = some x) :
    (m.fire x now).Standing ∧ Stuck now (m.fire x now) t := by
  have ⟨⟨hin, _⟩, hkind, hzero, hrange⟩ := hstuck
  obtain ⟨hstanding, htimers, hscheduled, -, -⟩ := h.posting_pop hfirst
  rw [fire_eq]
  generalize (m.posting x now).pop x = m₁ at hstanding htimers hscheduled
  by_cases heq : x = t
  · subst heq
    have hagain : ((m.timers x).outcome now).2 = true := by simp [BCTimer.outcome, hkind]
    rw [if_pos hagain]
    rw [← htimers] at hkind hzero hrange
    exact Stuck.schedule hstanding hkind hzero hrange le_rfl hrange false
  · have hstuck : Stuck now m₁ t :=
      hstuck.of_timers (congrFun htimers t) ((hscheduled t).mpr ⟨Ne.symm heq, hin⟩)
    split
    · cases hnext : (m₁.timers x).nextDue now with
      | none =>
        have hsame : m₁.schedule x now false = m₁ := by
          simp only [BCTimerMgr.schedule, hnext]
        rw [hsame]
        exact ⟨hstanding, hstuck⟩
      | some due =>
        have hres := hstanding.schedule hnext false
        have hother : (m₁.schedule x now false).timers t = m₁.timers t := by
          rw [hres.timers, Function.update_of_ne (Ne.symm heq)]
        have hin' : (m₁.schedule x now false).Scheduled t :=
          (hres.scheduled t).mpr (Or.inr hstuck.1.1)
        exact ⟨hres.standing, hstuck.of_timers hother hin'⟩
    · exact ⟨hstanding, hstuck⟩

/-- The pass does not end then. -/
theorem Stuck.not_terminates (h : m.Standing) (hstuck : Stuck now m t) :
    ¬ Loops.Terminates (dispatchTurn now) m := by
  rintro ⟨m', hends⟩
  induction hends with
  | leave hturn =>
    rename_i m m'
    rcases h.dispatchTurn_cases now with ⟨x, -, -, hfire⟩ | ⟨due, -, hnone, -⟩
    · rw [hfire] at hturn
      cases hturn
    · exact hnone t hstuck.1
  | again hturn _ ih =>
    rename_i m m₁ m'
    rcases h.dispatchTurn_cases now with ⟨x, hfirst, -, hfire⟩ | ⟨due, hleave, -⟩
    · rw [hfire] at hturn
      cases hturn
      obtain ⟨hstanding, hstuck⟩ := hstuck.fire h hfirst
      exact ih hstanding hstuck
    · rw [hleave] at hturn
      cases hturn

/-- A ticker that is set with an end but without an interval stops the timer thread: no pass from
then on ends. -/
theorem ticker_without_interval (ops : List Op) (t : TimerId) (setting : TimerSetting)
    (purge : Bool) (now later : BCTimeS) (hallowed : Runs.Meets step Allowed create ops)
    (href : ((Runs.run step create ops).timers t).nRef ≠ 0) (hkind : setting.eType = .ticker)
    (hzero : setting.interval.toNat = 0) (hnow : InRange now setting.interval) (hle : now ≤ later)
    (hlater : InRange later setting.interval) :
    ¬ Loops.Terminates (dispatchTurn later)
      (Runs.run step create (ops ++ [.reset t setting purge now])) := by
  have hsound := sound_create.run_of_meets hallowed
  rw [Runs.run_concat]
  generalize Runs.run step create ops = m at hsound href
  have hpurged : (if purge = true then m.purge t else m).Standing := by
    split
    · exact (hsound.settled.purge t).standing
    · exact hsound.settled.standing
  have hidle : BCTimer.idleFrom setting now = some bcTimeEpoch :=
    if_neg fun hone => by simp [hkind] at hone
  have hactive : setting.eType ≠ .inactive := by
    rw [hkind]
    decide
  simp only [BCTimerMgr.step, if_neg href, BCTimerMgr.reset, hidle, if_neg hactive]
  generalize (if purge = true then m.purge t else m) = m₁ at hpurged
  have hset := hpurged.setTimer t { (m₁.timers t).set setting with sIdle := bcTimeEpoch }
    fun _ => rfl
  have hself : (m₁.setTimer t { (m₁.timers t).set setting with sIdle := bcTimeEpoch }).timers t =
      { (m₁.timers t).set setting with sIdle := bcTimeEpoch } := Function.update_self ..
  obtain ⟨hstanding, hstuck⟩ := Stuck.schedule hset (by rw [hself]; exact hkind)
    (by rw [hself]; exact hzero) (by rw [hself]; exact hnow) hle (by rw [hself]; exact hlater) true
  exact hstuck.not_terminates hstanding

/-- An end, but no interval. -/
def withoutInterval : TimerSetting where
  eType := .ticker
  expires := bcTimeSet 6
  interval := bcIntervalZero
  given := Or.inr (by decide +kernel)
  limited := Or.inl (by decide)

/-- A ticker that has lost its interval keeps the pass from ending. -/
theorem ticker_without_interval_taken :
    ¬ Loops.Terminates (dispatchTurn (bcTimeSet 3))
      (Runs.run step create ([.create 1 fiveSeconds 0 (bcTimeSet 1)] ++
        [.reset 1 withoutInterval false (bcTimeSet 2)])) :=
  ticker_without_interval [.create 1 fiveSeconds 0 (bcTimeSet 1)] 1 withoutInterval
    false (bcTimeSet 2) (bcTimeSet 3)
    ⟨⟨by decide, by decide +kernel⟩, trivial⟩ (by decide +kernel) rfl (by decide +kernel)
    (by decide +kernel) (by decide +kernel) (by decide +kernel)

end BC.BCTimerMgr
