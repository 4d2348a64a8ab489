import TTSignal.BC.Alarm
import TTSignal.BC.Wakeups

/-!
# Every timer on its own

The timers of a manager share a heap, a thread and a lock. Yet what becomes of a timer depends
only on the calls on it and on the passes: in every run it is the alarm that these calls make.
-/

namespace BC

/-- A timer as an alarm, with when it is due and how it has rung. -/
abbrev BCTimer.alarm (timer : BCTimer) (due : Option ℕ) (rung : List Ring) : Alarm where
  refs := timer.nRef
  dying := timer.dying
  kind := timer.eType
  expires := timer.sExpires.toNat
  interval := timer.sInterval.toNat
  idle := timer.sIdle.toNat
  due := due
  rung := rung

/-- An event with the time of the pass, as a ring. -/
def BCTimerEvent.ring (e : BCTimerEvent × BCTimeS) : Ring := ⟨e.1.type, e.1.due.toNat, e.2.toNat⟩

section Timers

variable {timer : BCTimer} {now due : BCTimeS} {d : Option ℕ} {r : List Ring}

/-- The epoch is at no time. -/
@[simp] theorem toNat_bcTimeEpoch : bcTimeEpoch.toNat = 0 :=
  bcTimeIsepoch_iff.mp bcTimeIsepoch_epoch

/-- The interval of no time lasts none. -/
@[simp] theorem toNat_bcIntervalZero : bcIntervalZero.toNat = 0 :=
  bcIntervalIszero_iff.mp rfl

/-- A new timer is a new alarm. -/
theorem BCTimer.alarm_new (task : TaskId) :
    { BCTimer.new with nRef := 1, pTask := task }.alarm none r =
      { Alarm.unset with refs := 1, rung := r } := by
  simp only [BCTimer.alarm, BCTimer.new, Alarm.unset, toNat_bcTimeEpoch, toNat_bcIntervalZero]

/-- Where there is no timer, no alarm is set. -/
theorem BCTimer.alarm_none : BCTimer.new.alarm none [] = .unset := by
  simp only [BCTimer.alarm, BCTimer.new, Alarm.unset, toNat_bcTimeEpoch, toNat_bcIntervalZero]

/-- The timer is due next when the alarm is. -/
theorem BCTimer.nextDue_eq (hrange : InRange now timer.sInterval) :
    ∃ due, timer.nextDue now = some due ∧ due.toNat = (timer.alarm d r).next now.toNat := by
  obtain ⟨sum, hadd, hsum⟩ := bcTimeAdd_of_inRange hrange
  simp only [BCTimer.nextDue, Alarm.next, hadd]
  cases htype : timer.eType with
  | ticker => exact ⟨sum, by simp, hsum⟩
  | inactive => exact ⟨sum, by simp, hsum⟩
  | limited =>
    simp only [ne_eq, reduceCtorEq, not_false_eq_true, if_true, true_and, bcTimeCompare_neg_iff,
      BCTimeS.lt_iff, hsum]
    split
    · exact ⟨_, rfl, by omega⟩
    · exact ⟨_, rfl, by omega⟩
  | once =>
    simp only [ne_eq, not_true_eq_false, if_false, bcTimeIsepoch_iff, bcTimeCompare_neg_iff,
      BCTimeS.lt_iff]
    by_cases hidle : timer.sIdle.toNat = 0
    · exact ⟨_, if_pos hidle, (if_pos hidle).symm⟩
    by_cases hexpires : timer.sExpires.toNat = 0
    · exact ⟨_, (if_neg hidle).trans (if_pos hexpires), by rw [if_neg hidle, if_pos hexpires]⟩
    rw [if_neg hidle, if_neg hexpires, if_neg hidle, if_neg hexpires]
    split
    · exact ⟨_, rfl, by omega⟩
    · exact ⟨_, rfl, by omega⟩

/-- The timer's outcome is that of the alarm. -/
theorem BCTimer.outcome_eq (timer : BCTimer) (now : BCTimeS) :
    timer.outcome now = (timer.alarm d r).outcome now.toNat := by
  have hepoch : ∀ t : BCTimeS, bcTimeIsepoch t = false ↔ t.toNat ≠ 0 := fun t => by
    rw [ne_eq, ← bcTimeIsepoch_iff, Bool.not_eq_true]
  have hpast : ∀ t : BCTimeS, bcTimeCompare now t ≥ 0 ↔ t.toNat ≤ now.toNat := fun t =>
    bcTimeCompare_nonneg_iff.trans BCTimeS.le_iff
  simp only [BCTimer.outcome, Alarm.outcome]
  cases timer.eType with
  | ticker => rfl
  | limited => exact if_congr (hpast _) rfl rfl
  | once | inactive =>
    exact if_congr (and_congr (hepoch _) (hpast _)) rfl
      (if_congr (and_congr (hepoch _) (hpast _)) rfl rfl)

/-- In range, `Create` and `Reset` compute from when on the alarm is idle. -/
theorem BCTimer.idleFrom_eq {setting : TimerSetting}
    (hrange : setting.eType ≠ .inactive → InRange now setting.interval) :
    ∃ idle, BCTimer.idleFrom setting now = some idle ∧
      idle.toNat = if setting.eType = .once ∧ setting.interval.toNat ≠ 0 then
        now.toNat + setting.interval.toNat else 0 := by
  have hiff : setting.eType = .once ∧ bcIntervalIszero setting.interval = false ↔
      setting.eType = .once ∧ setting.interval.toNat ≠ 0 := by
    rw [ne_eq, ← bcIntervalIszero_iff, Bool.not_eq_true]
  by_cases hidle : setting.eType = .once ∧ setting.interval.toNat ≠ 0
  · obtain ⟨sum, hadd, hsum⟩ := bcTimeAdd_of_inRange (hrange (by rw [hidle.1]; decide))
    exact ⟨sum, (if_pos (hiff.mpr hidle)).trans hadd, hsum.trans (if_pos hidle).symm⟩
  · exact ⟨bcTimeEpoch, if_neg (mt hiff.mp hidle), toNat_bcTimeEpoch.trans (if_neg hidle).symm⟩

/-- The timer's members are set as the alarm is given what it goes by. -/
theorem BCTimer.alarm_set {setting : TimerSetting} {idle : BCTimeS}
    (hidle : idle.toNat = if setting.eType = .once ∧ setting.interval.toNat ≠ 0 then
      now.toNat + setting.interval.toNat else 0) :
    { timer.set setting with sIdle := idle }.alarm d r =
      (timer.alarm d r).given setting.eType setting.expires.toNat setting.interval.toNat
        now.toNat := by
  simp only [BCTimer.alarm, BCTimer.set, Alarm.given, hidle]

end Timers

namespace BCTimerMgr

variable {m m' : BCTimerMgr} {t x : TimerId} {now due : BCTimeS} {timer : BCTimer}

/-- How a timer has rung. -/
def rung (m : BCTimerMgr) (t : TimerId) : List Ring :=
  (m.posted.filter fun e => e.1.sender = t).map BCTimerEvent.ring

/-- When a timer is due, if it is scheduled. -/
def dueAt (m : BCTimerMgr) (t : TimerId) : Option ℕ :=
  if m.Scheduled t then some (m.key t).toNat else none

/-- A timer as an alarm. -/
def alarm (m : BCTimerMgr) (t : TimerId) : Alarm := (m.timers t).alarm (m.dueAt t) (m.rung t)

/-- The calls that a step makes on the timer's alarm. -/
def Op.call (t : TimerId) : Op → Option Alarm.Call
  | .create x setting _ now =>
    if x = t then
      some (.create setting.eType setting.expires.toNat setting.interval.toNat now.toNat)
    else none
  | .reset x setting _ now =>
    if x = t then
      some (.reset setting.eType setting.expires.toNat setting.interval.toNat now.toNat)
    else none
  | .touch x now => if x = t then some (.touch now.toNat) else none
  | .attach x => if x = t then some .attach else none
  | .detach x => if x = t then some .detach else none
  | .destroy x => if x = t then some .destroy else none
  | .run now => some (.pass now.toNat)
  | .take _ => none

/-- Whether and when a timer is due is read off its key and its place in the heap. -/
theorem dueAt_congr (hkey : m'.key t = m.key t) (hin : m'.Scheduled t ↔ m.Scheduled t) :
    m'.dueAt t = m.dueAt t := by
  simp only [dueAt, hin, hkey]

/-- What it has rung is read off the posted events. -/
theorem rung_congr (hposted : m'.posted = m.posted) : m'.rung t = m.rung t := by
  rw [rung, hposted, rung]

/-- What a timer is as an alarm depends only on the timer, on whether it is scheduled and on what
has been posted. -/
theorem alarm_congr (htimer : m'.timers t = m.timers t) (hin : m'.Scheduled t ↔ m.Scheduled t)
    (hposted : m'.posted = m.posted) : m'.alarm t = m.alarm t := by
  rw [alarm, dueAt_congr (by rw [key, htimer, key]) hin, rung_congr hposted, htimer, alarm]

/-- A timer is written, but not the due time of one that is scheduled. -/
theorem alarm_setTimer (hdue : m.Scheduled x → timer.sDue = (m.timers x).sDue) :
    (m.setTimer x timer).alarm t =
      if x = t then timer.alarm (m.dueAt t) (m.rung t) else m.alarm t := by
  split
  · rename_i heq
    subst heq
    have hat : (m.setTimer x timer).dueAt x = m.dueAt x := by
      by_cases hin : m.Scheduled x
      · exact dueAt_congr (key_setTimer_self.trans (hdue hin)) Iff.rfl
      · exact (if_neg hin).trans (if_neg hin).symm
    have hrung : (m.setTimer x timer).rung x = m.rung x := rfl
    rw [alarm, hat, hrung]
    simp only [setTimer, Function.update_self]
  · rename_i hne
    exact alarm_congr (Function.update_of_ne (Ne.symm hne) _ _) Iff.rfl rfl

/-- `_Deschedule` unsets the alarm. -/
theorem Standing.alarm_deschedule (h : m.Standing) (x t : TimerId) :
    (m.deschedule x).alarm t = if x = t then { m.alarm t with due := none } else m.alarm t := by
  have hrem := h.deschedule x
  split
  · rename_i heq
    subst heq
    have hat : (m.deschedule x).dueAt x = none :=
      if_neg fun hin => ((hrem.scheduled x).mp hin).1 rfl
    rw [alarm, hat, rung_congr hrem.posted, hrem.timers]
    rfl
  · rename_i hne
    exact alarm_congr (congrFun hrem.timers t)
      ((hrem.scheduled t).trans (and_iff_right (Ne.symm hne))) hrem.posted

/-- `_Schedule` sets the alarm. -/
theorem Standing.alarm_schedule (h : m.Standing) (hrange : InRange now (m.timers x).sInterval)
    (t : TimerId) :
    (m.schedule x now true).alarm t =
      if x = t then { m.alarm t with due := some ((m.alarm t).next now.toNat) }
      else m.alarm t := by
  obtain ⟨due, hnext, hdue⟩ := BCTimer.nextDue_eq (d := m.dueAt x) (r := m.rung x) hrange
  have hres := h.schedule hnext true
  split
  · rename_i heq
    subst heq
    have hself : (m.schedule x now true).timers x = { m.timers x with sDue := due } := by
      rw [hres.timers, Function.update_self]
    have hat : (m.schedule x now true).dueAt x = some due.toNat := by
      rw [dueAt, if_pos ((hres.scheduled x).mpr (Or.inl rfl)), key, hself]
    rw [alarm, hat, rung_congr hres.posted, hself, hdue]
    rfl
  · rename_i hne
    refine alarm_congr ?_ ((hres.scheduled t).trans (or_iff_right (Ne.symm hne))) hres.posted
    rw [hres.timers, Function.update_of_ne (Ne.symm hne)]

/-- What `Create` and `Reset` do once they know what to write to the timer. -/
theorem Standing.alarm_start (h : m.Standing) (timer : BCTimer) {eType : BCTimerTypeE}
    (htype : timer.eType = eType) (hdue : m.Scheduled x → timer.sDue = (m.timers x).sDue)
    (hrange : eType ≠ .inactive → InRange now timer.sInterval) (t : TimerId) :
    (if eType = .inactive then (m.setTimer x timer).deschedule x
        else (m.setTimer x timer).schedule x now true).alarm t =
      if x = t then (timer.alarm (m.dueAt t) (m.rung t)).start now.toNat else m.alarm t := by
  have hstanding := h.setTimer x timer hdue
  have hself : (m.setTimer x timer).timers x = timer := Function.update_self ..
  subst htype
  split
  · rename_i hinactive
    rw [hstanding.alarm_deschedule x t, alarm_setTimer hdue]
    split
    · simp only [Alarm.start, BCTimer.alarm, if_pos hinactive]
    · rfl
  · rename_i hactive
    rw [hstanding.alarm_schedule (hself.symm ▸ hrange hactive) t, alarm_setTimer hdue]
    split
    · simp only [Alarm.start, if_neg hactive, Alarm.next]
    · rfl

/-- What a step does with the timer's alarm. -/
def called (m : BCTimerMgr) (t : TimerId) (op : Op) : Alarm :=
  match op.call t with
  | some c => (m.alarm t).step c
  | none => m.alarm t

/-- A call to one timer is one for this timer or for another. -/
theorem called_eq {op : Op} {c : Alarm.Call} (hcall : op.call t = if x = t then some c else none) :
    m.called t op = if x = t then (m.alarm t).step c else m.alarm t := by
  rw [called, hcall]
  by_cases heq : x = t
  · rw [if_pos heq, if_pos heq]
  · rw [if_neg heq, if_neg heq]

/-- A timer that is not scheduled is descheduled already. -/
theorem deschedule_eq_self (h : ¬ m.Scheduled t) : m.deschedule t = m :=
  if_neg (by rw [Scheduled, not_not] at h; omega)

/-- `Create` starts a new alarm. -/
theorem Sound.alarm_createTimer (h : m.Sound) {setting : TimerSetting} {task : TaskId}
    (hdead : ¬ (m.timers x).Live) (hallowed : m.Allowed (.create x setting task now)) :
    (m.createTimer x setting task now).alarm t =
      if x = t then
        (({ Alarm.unset with refs := 1, rung := m.rung t } : Alarm).given setting.eType
          setting.expires.toNat setting.interval.toNat now.toNat).start now.toNat
      else m.alarm t := by
  have hout : ¬ m.Scheduled x := fun hin => hdead (h.settled.live x hin)
  obtain ⟨idle, hidle, hnat⟩ := BCTimer.idleFrom_eq hallowed.2
  have hcreate : m.createTimer x setting task now =
      if setting.eType = .inactive then
        (m.setTimer x { BCTimer.set { BCTimer.new with nRef := 1, pTask := task } setting with
          sIdle := idle }).deschedule x
      else
        (m.setTimer x { BCTimer.set { BCTimer.new with nRef := 1, pTask := task } setting with
          sIdle := idle }).schedule x now true := by
    simp only [BCTimerMgr.createTimer, hidle]
    split
    · refine (deschedule_eq_self ?_).symm
      exact hout
    · rfl
  rw [hcreate]
  refine (h.settled.standing.alarm_start
    { BCTimer.set { BCTimer.new with nRef := 1, pTask := task } setting with sIdle := idle } rfl
    (fun hin => absurd hin hout) hallowed.2 t).trans ?_
  split
  · rename_i heq
    subst heq
    rw [show m.dueAt x = none from if_neg hout, BCTimer.alarm_set hnat, BCTimer.alarm_new]
  · rfl

/-- `Reset` starts the alarm again. -/
theorem Sound.alarm_reset (h : m.Sound) {setting : TimerSetting} {purge : Bool}
    (hallowed : m.Allowed (.reset x setting purge now)) :
    (m.reset x setting purge now).alarm t =
      if x = t then
        ((m.alarm t).given setting.eType setting.expires.toNat setting.interval.toNat
          now.toNat).start now.toNat
      else m.alarm t := by
  have hpurged : ∃ m₁ : BCTimerMgr, (if purge = true then m.purge x else m) = m₁ ∧ m₁.Standing ∧
      m₁.alarm t = m.alarm t := by
    cases purge with
    | true => exact ⟨_, rfl, (h.settled.purge x).standing, alarm_congr rfl Iff.rfl rfl⟩
    | false => exact ⟨_, rfl, h.settled.standing, rfl⟩
  obtain ⟨m₁, hm₁, hstanding, halarm⟩ := hpurged
  obtain ⟨idle, hidle, hnat⟩ := BCTimer.idleFrom_eq hallowed.2
  simp only [BCTimerMgr.reset, hm₁, hidle]
  refine (hstanding.alarm_start { (m₁.timers x).set setting with sIdle := idle } rfl
    (fun _ => rfl) hallowed.2 t).trans ?_
  rw [← halarm]
  split
  · rename_i heq
    subst heq
    rw [BCTimer.alarm_set hnat]
    rfl
  · rfl

/-- Giving up a timer unsets its alarm. -/
theorem Sound.alarm_destroy (h : m.Sound) (x t : TimerId) :
    (m.destroy x).alarm t =
      if x = t then { m.alarm t with dying := false, due := none } else m.alarm t := by
  have hrem := (h.settled.purge x).standing.deschedule x
  have halarm := (h.settled.purge x).standing.alarm_deschedule x t
  have hpurge : (m.purge x).alarm t = m.alarm t := alarm_congr rfl Iff.rfl rfl
  rw [hpurge] at halarm
  unfold BCTimerMgr.destroy
  dsimp only
  rw [alarm_setTimer]
  swap
  · exact fun _ => rfl
  split
  · rename_i heq
    subst heq
    rw [if_pos rfl] at halarm
    have hdue : ((m.purge x).deschedule x).dueAt x = none := congrArg Alarm.due halarm
    have hrung : ((m.purge x).deschedule x).rung x = m.rung x := congrArg Alarm.rung halarm
    rw [hdue, hrung, hrem.timers]
    rfl
  · rename_i hne
    rwa [if_neg hne] at halarm

variable {new : List BCTimerEvent}

/-- The events of a pass for one timer. -/
theorem Passed.filter_new (h : Passed now m m' new) (t : TimerId) [Decidable (m.Due now t)] :
    (new.filter fun e => e.sender = t) = if m.Due now t then m.eventOf t now else [] := by
  have hnodup : (new.filter fun e => e.sender = t).Nodup := (h.nodup.of_map _).filter _
  have hmem : ∀ e, e ∈ new.filter (fun e => e.sender = t) ↔
      m.Due now t ∧ e ∈ m.eventOf t now := by
    intro e
    rw [List.mem_filter, h.events, decide_eq_true_iff]
    constructor
    · rintro ⟨⟨hdue, he⟩, rfl⟩
      exact ⟨hdue, he⟩
    · rintro ⟨hdue, he⟩
      obtain rfl := (mem_eventOf.mp he).1
      exact ⟨⟨hdue, he⟩, rfl⟩
  split
  · rename_i hdue
    simp only [hdue, true_and] at hmem
    unfold eventOf at hmem ⊢
    split at hmem
    · exact List.perm_singleton.mp
        ((List.perm_ext_iff_of_nodup hnodup (List.nodup_singleton _)).mpr hmem)
    · exact List.eq_nil_iff_forall_not_mem.mpr fun e he => List.not_mem_nil ((hmem e).mp he)
  · rename_i hdue
    exact List.eq_nil_iff_forall_not_mem.mpr fun e he => hdue ((hmem e).mp he).1

/-- A pass adds its events for the timer to the rings. -/
theorem Passed.rung_eq (h : Passed now m m' new) (t : TimerId) :
    m'.rung t = m.rung t ++
      (new.filter fun e => e.sender = t).map fun e => ⟨e.type, e.due.toNat, now.toNat⟩ := by
  simp only [rung, h.posted, List.filter_append, List.map_append, List.filter_map, List.map_map]
  rfl

/-- A pass over the timers is a pass for each of them. -/
theorem Passed.alarm_eq (h : Passed now m m' new) (t : TimerId)
    (hrange : m.Scheduled t → InRange now (m.timers t).sInterval) :
    m'.alarm t = (m.alarm t).pass now.toNat := by
  classical
  have hrung := h.rung_eq t
  rw [h.filter_new t] at hrung
  by_cases hdue : m.Due now t
  · rw [if_pos hdue] at hrung
    have hat : m.dueAt t = some (m.key t).toNat := if_pos hdue.1
    have hle : (m.key t).toNat ≤ now.toNat := hdue.2
    have hout := BCTimer.outcome_eq (d := m.dueAt t) (r := m.rung t) (m.timers t) now
    have hrings : (m.eventOf t now).map (fun e => (⟨e.type, e.due.toNat, now.toNat⟩ : Ring)) =
        (m.alarm t).rings (m.key t).toNat now.toNat := by
      rw [Alarm.rings, eventOf, hout]
      simp only [alarm]
      split
      · rename_i type htype
        rw [htype]
        rfl
      · rename_i hnone
        rw [hnone]
        rfl
    have hnext : m'.dueAt t =
        if ((m.alarm t).outcome now.toNat).2 then some ((m.alarm t).next now.toNat) else none := by
      rw [alarm, ← hout]
      split
      · rename_i hagain
        obtain ⟨hin, hsome⟩ := h.again t hdue hagain
        obtain ⟨due, hdue', heq⟩ :=
          BCTimer.nextDue_eq (d := m.dueAt t) (r := m.rung t) (hrange hdue.1)
        rw [hsome, Option.some.injEq] at hdue'
        rw [dueAt, if_pos hin, hdue', heq]
      · rename_i hgone
        exact if_neg (h.gone t hdue (Bool.not_eq_true _ ▸ hgone))
    have hpass : (m.alarm t).pass now.toNat =
        { m.alarm t with
          due := if ((m.alarm t).outcome now.toNat).2 then some ((m.alarm t).next now.toNat)
            else none
          rung := m.rung t ++ (m.alarm t).rings (m.key t).toNat now.toNat } := by
      have hself : (m.alarm t).due = some (m.key t).toNat := hat
      simp only [Alarm.pass, hself, if_pos hle]
      rfl
    rw [hpass, alarm, hnext, hrung, hrings, h.timers]
    rfl
  · rw [if_neg hdue, List.map_nil, List.append_nil] at hrung
    obtain ⟨hkey, hin⟩ := h.others t hdue
    have hpass : (m.alarm t).pass now.toNat = m.alarm t := by
      have hself : (m.alarm t).due = m.dueAt t := rfl
      simp only [Alarm.pass, hself, dueAt]
      by_cases hsched : m.Scheduled t
      · have hlate : ¬ (m.key t).toNat ≤ now.toNat := fun hle => hdue ⟨hsched, hle⟩
        simp only [if_pos hsched, if_neg hlate]
      · simp only [if_neg hsched]
    rw [hpass, alarm, dueAt_congr hkey hin, hrung, h.timers]
    rfl

/-- A pass of the thread is a pass of each timer by itself. -/
theorem Sound.alarm_run (h : m.Sound) (hallowed : m.Allowed (.run now)) (t : TimerId) :
    (m.run now).alarm t = (m.alarm t).pass now.toNat := by
  obtain ⟨-, new, hpassed⟩ :=
    h.settled.standing.dispatch fun t ht => ⟨h.armed t ht, hallowed t ht⟩
  exact hpassed.alarm_eq t (hallowed t)

/-- A call that is not made does nothing to the alarm. -/
theorem alarm_ite {p : Prop} [Decidable p] {c : Alarm.Call}
    (hskip : p → (m.alarm x).step c = m.alarm x)
    (hmade : ¬ p → m'.alarm t = if x = t then (m.alarm x).step c else m.alarm t) :
    (if p then m else m').alarm t = if x = t then (m.alarm t).step c else m.alarm t := by
  by_cases heq : x = t
  · subst heq
    rw [if_pos rfl] at hmade ⊢
    split
    · rename_i hp
      exact (hskip hp).symm
    · rename_i hp
      exact hmade hp
  · rw [if_neg heq] at hmade ⊢
    split
    · rfl
    · rename_i hp
      exact hmade hp

/-- A call that only writes to the timer. -/
theorem alarm_write {c : Alarm.Call} (hdue : timer.sDue = (m.timers x).sDue)
    (hstep : timer.alarm (m.dueAt x) (m.rung x) = (m.alarm x).step c) :
    (m.setTimer x timer).alarm t = if x = t then (m.alarm x).step c else m.alarm t := by
  rw [alarm_setTimer fun _ => hdue]
  split
  · rename_i heq
    subst heq
    exact hstep
  · rfl

/-- A step does with every timer's alarm what it calls for. -/
theorem Sound.alarm_step (h : m.Sound) (op : Op) (hallowed : m.Allowed op) (t : TimerId) :
    (m.step op).alarm t = m.called t op := by
  cases op with
  | create x setting task now =>
    rw [called_eq rfl]
    refine alarm_ite (fun hlive => if_pos hlive) fun hdead => ?_
    rw [h.alarm_createTimer hdead hallowed]
    split
    · rename_i heq
      subst heq
      exact (if_neg hdead).symm
    · rfl
  | reset x setting purge now =>
    rw [called_eq rfl]
    refine alarm_ite (fun href => if_pos href) fun href => ?_
    rw [h.alarm_reset hallowed]
    split
    · rename_i heq
      subst heq
      exact (if_neg href).symm
    · rfl
  | touch x now =>
    obtain ⟨idle, hadd, hidle⟩ := bcTimeAdd_of_inRange hallowed
    rw [called_eq rfl]
    refine alarm_ite (fun href => if_pos href) fun href => ?_
    simp only [BCTimerMgr.touch, hadd]
    refine alarm_write rfl (Eq.trans ?_ (if_neg href).symm)
    simp only [alarm, BCTimer.alarm, hidle]
  | attach x =>
    rw [called_eq rfl]
    refine alarm_ite (fun href => if_pos href) fun href => ?_
    exact alarm_write rfl (if_neg href).symm
  | detach x =>
    rw [called_eq rfl]
    refine alarm_ite (fun href => if_pos href) fun href => ?_
    exact alarm_write rfl (if_neg href).symm
  | destroy x =>
    rw [called_eq rfl]
    simp only [BCTimerMgr.step]
    split
    · rename_i hdying
      rw [h.alarm_destroy]
      split
      · rename_i heq
        subst heq
        exact (if_pos hdying).symm
      · rfl
    · rename_i hdying
      split
      · rename_i heq
        subst heq
        exact (if_neg hdying).symm
      · rfl
  | run now => exact h.alarm_run hallowed t
  | take task => exact alarm_congr rfl Iff.rfl rfl

/-- From a sound state on, a timer is the alarm that the calls on it make. -/
theorem Sound.alarm_eq_run (h : m.Sound) (ops : List Op)
    (hallowed : Runs.Meets BCTimerMgr.step Allowed m ops) (t : TimerId) :
    (Runs.run BCTimerMgr.step m ops).alarm t =
      Runs.run Alarm.step (m.alarm t) (ops.filterMap (Op.call t)) := by
  induction ops generalizing m with
  | nil => rfl
  | cons op ops ih =>
    obtain ⟨hop, hrest⟩ := hallowed
    rw [Runs.run_cons, ih (h.step op hop) hrest, h.alarm_step op hop t, called]
    cases hcall : op.call t with
    | none => rw [List.filterMap_cons_none hcall]
    | some c => rw [List.filterMap_cons_some hcall, Runs.run_cons]

/-- In every run every timer is the alarm that the calls on it and the passes make: other timers,
the heap they share and the thread's sleep do not matter. -/
theorem timer_alone (ops : List Op) (hallowed : Runs.Meets step Allowed create ops) (t : TimerId) :
    (Runs.run step create ops).alarm t =
      Runs.run Alarm.step .unset (ops.filterMap (Op.call t)) := by
  have hunset : create.alarm t = .unset := BCTimer.alarm_none
  rw [sound_create.alarm_eq_run ops hallowed t, hunset]

/-- The ticker of three timers, after a pass at which it has ticked and one at which it has not. -/
theorem timer_alone_taken :
    (Runs.run step create (threeTimers ++ [.run (bcTimeSet 3), .take 0,
        .run (bcTimeSet 4)])).alarm 2 =
      ⟨1, false, .ticker, 0, 2000000000, 0, some 5000000000,
        [⟨.tick, 3000000000, 3000000000⟩]⟩ :=
  (timer_alone _ (meets_of_permitted (by decide +kernel)) 2).trans (by decide +kernel)

end BCTimerMgr

end BC
