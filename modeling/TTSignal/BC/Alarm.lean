import TTSignal.BC.Timer
import TTSignal.Runs

/-!
# What a timer is for

A timer by itself is an alarm: it is due at some time or not at all, and at the first pass at or
after that time it rings and is due again, or is not. Here times are numbers that never run out,
there is no heap, and no other timer.
-/

namespace BC

/-- An alarm has rung. -/
structure Ring where
  /-- The kind of the event. -/
  type : TimerEventType
  /-- When it was due. -/
  due : ℕ
  /-- When it rang. -/
  time : ℕ
  deriving DecidableEq

/-- A timer on its own. -/
structure Alarm where
  /-- How many hold the timer. -/
  refs : ℕ
  /-- Whether it is being destroyed. -/
  dying : Bool
  /-- Its type. -/
  kind : BCTimerTypeE
  /-- The time at which it expires. -/
  expires : ℕ
  /-- Its interval. -/
  interval : ℕ
  /-- The time from which it is idle. -/
  idle : ℕ
  /-- When it is due, if it is set. -/
  due : Option ℕ
  /-- The events so far. -/
  rung : List Ring
  deriving DecidableEq

namespace Alarm

/-- What is done with an alarm, and the passes over the timers. -/
inductive Call where
  | create (kind : BCTimerTypeE) (expires interval now : ℕ)
  | reset (kind : BCTimerTypeE) (expires interval now : ℕ)
  | touch (now : ℕ)
  | attach
  | detach
  | destroy
  | pass (now : ℕ)
  deriving DecidableEq

/-- There is no timer yet. -/
def unset : Alarm := ⟨0, false, .inactive, 0, 0, 0, none, []⟩

variable (a : Alarm)

/-- When the alarm is due next: at the end of its life, an interval from now, or when it has been
idle for an interval, as its kind is. -/
def next (now : ℕ) : ℕ :=
  match a.kind with
  | .ticker | .inactive => now + a.interval
  | .limited => min a.expires (now + a.interval)
  | .once =>
    if a.idle = 0 then a.expires else if a.expires = 0 then a.idle else min a.idle a.expires

/-- How the alarm rings, and whether it is due again. -/
def outcome (now : ℕ) : Option TimerEventType × Bool :=
  match a.kind with
  | .ticker => (some .tick, true)
  | .limited => if a.expires ≤ now then (some .life, false) else (some .tick, true)
  | .once | .inactive =>
    if a.expires ≠ 0 ∧ a.expires ≤ now then (some .life, false)
    else if a.idle ≠ 0 ∧ a.idle ≤ now then (some .idle, false)
    else (none, true)

/-- The alarm is given what it goes by. -/
def given (kind : BCTimerTypeE) (expires interval now : ℕ) : Alarm :=
  { a with
    kind := kind
    expires := expires
    interval := interval
    idle := if kind = .once ∧ interval ≠ 0 then now + interval else 0 }

/-- The alarm is set, unless it is made inactive. -/
def start (now : ℕ) : Alarm :=
  { a with due := if a.kind = .inactive then none else some (a.next now) }

/-- The rings of an alarm that is due since `due`. -/
def rings (due now : ℕ) : List Ring :=
  ((a.outcome now).1.map fun type => ⟨type, due, now⟩).toList

/-- A pass over the timers. -/
def pass (now : ℕ) : Alarm :=
  match a.due with
  | none => a
  | some due =>
    if due ≤ now then
      { a with
        due := if (a.outcome now).2 then some (a.next now) else none
        rung := a.rung ++ a.rings due now }
    else a

/-- One step. -/
def step (a : Alarm) : Call → Alarm
  | .create kind expires interval now =>
    if a.refs ≠ 0 ∨ a.dying then a
    else ({ unset with refs := 1, rung := a.rung }.given kind expires interval now).start now
  | .reset kind expires interval now =>
    if a.refs = 0 then a else (a.given kind expires interval now).start now
  | .touch now => if a.refs = 0 then a else { a with idle := now + a.interval }
  | .attach => if a.refs = 0 then a else { a with refs := a.refs + 1 }
  | .detach =>
    if a.refs = 0 then a else { a with refs := a.refs - 1, dying := a.refs - 1 == 0 }
  | .destroy => if a.dying then { a with dying := false, due := none } else a
  | .pass now => a.pass now

variable {a : Alarm} {due now : ℕ} {times : List ℕ}

/-- An alarm that is not set does not ring. -/
theorem run_pass_of_unset (hdue : a.due = none) (times : List ℕ) :
    Runs.run step a (times.map .pass) = a := by
  induction times with
  | nil => rfl
  | cons now times ih =>
    have hpass : a.step (.pass now) = a := by simp only [step, pass, hdue]
    rw [List.map_cons, Runs.run_cons, hpass, ih]

/-- An alarm that is not due stays as it is. -/
theorem pass_of_lt (hdue : a.due = some due) (hlt : now < due) : a.pass now = a := by
  have hlate : ¬ due ≤ now := by omega
  simp only [pass, hdue, if_neg hlate]

/-- A pass rings a timer that is due and sets it again, if it goes on. -/
theorem pass_of_le (hdue : a.due = some due) (hle : due ≤ now) :
    a.pass now = { a with
      due := if (a.outcome now).2 then some (a.next now) else none
      rung := a.rung ++ a.rings due now } := by
  simp only [pass, hdue, if_pos hle]

/-- An alarm that is due only once more rings at the first pass at or after that time. -/
theorem run_pass_of_last (hdue : a.due = some due)
    (hlast : ∀ now, due ≤ now → (a.outcome now).2 = false) (times : List ℕ) :
    (Runs.run step a (times.map .pass)).rung =
      a.rung ++ (times.find? fun now => due ≤ now).toList.flatMap (a.rings due) := by
  induction times with
  | nil => simp
  | cons now times ih =>
    rw [List.map_cons, Runs.run_cons]
    by_cases hle : due ≤ now
    · have hpass : a.step (.pass now) =
          { a with due := none, rung := a.rung ++ a.rings due now } := by
        refine (pass_of_le hdue hle).trans ?_
        simp only [hlast now hle, Bool.false_eq_true, if_false]
      rw [hpass, run_pass_of_unset rfl, List.find?_cons_of_pos (by simpa using hle)]
      simp
    · have hpass : a.step (.pass now) = a := pass_of_lt hdue (by omega)
      rw [hpass, ih, List.find?_cons_of_neg (by simpa using hle)]

/-- An alarm of kind `once` is due for the last time. -/
theorem outcome_once (hkind : a.kind = .once) (hset : a.idle ≠ 0 ∨ a.expires ≠ 0)
    (hle : a.next now ≤ now) :
    a.outcome now = (some (if a.expires ≠ 0 ∧ a.expires ≤ now then .life else .idle), false) := by
  simp only [next, hkind] at hle
  simp only [outcome, hkind]
  by_cases hexpires : a.expires ≠ 0 ∧ a.expires ≤ now
  · rw [if_pos hexpires, if_pos hexpires]
  · have hidle : a.idle ≠ 0 ∧ a.idle ≤ now := by
      split at hle
      · rename_i hzero
        omega
      split at hle
      · rename_i hne _
        exact ⟨hne, hle⟩
      · rename_i hne _
        exact ⟨hne, by omega⟩
    rw [if_neg hexpires, if_pos hidle, if_neg hexpires]

/-- A pass keeps what an alarm goes by. -/
theorem pass_idle (a : Alarm) (now : ℕ) : (a.pass now).idle = a.idle := by
  unfold pass
  split
  · rfl
  split
  · rfl
  · rfl

/-- An alarm does not ring as idle before it has been idle long enough. -/
theorem idle_le_of_rings {r : Ring} (hr : r ∈ a.rings due now) (htype : r.type = .idle) :
    a.idle ≤ r.time := by
  rw [rings, Option.mem_toList, Option.map_eq_some_iff] at hr
  obtain ⟨type, hsome, rfl⟩ := hr
  obtain rfl : type = .idle := htype
  unfold outcome at hsome
  split at hsome
  · simp at hsome
  · split_ifs at hsome <;> simp at hsome
  · split_ifs at hsome <;> simp_all
  · split_ifs at hsome <;> simp_all

/-- The ring of a pass, if there is one. -/
theorem pass_rung (a : Alarm) (now : ℕ) :
    ∃ new, (a.pass now).rung = a.rung ++ new ∧
      ∀ r ∈ new, r.type = .idle → a.idle ≤ r.time := by
  unfold pass
  split
  · exact ⟨[], (List.append_nil _).symm, fun r hr => absurd hr List.not_mem_nil⟩
  split
  · exact ⟨_, rfl, fun r hr => idle_le_of_rings hr⟩
  · exact ⟨[], (List.append_nil _).symm, fun r hr => absurd hr List.not_mem_nil⟩

/-- The rings of passes. -/
theorem run_pass_idle (a : Alarm) (times : List ℕ) :
    ∃ new, (Runs.run step a (times.map .pass)).rung = a.rung ++ new ∧
      ∀ r ∈ new, r.type = .idle → a.idle ≤ r.time := by
  induction times generalizing a with
  | nil => exact ⟨[], (List.append_nil _).symm, fun r hr => absurd hr List.not_mem_nil⟩
  | cons now times ih =>
    obtain ⟨new, hrung, hidle⟩ := ih (a.pass now)
    rw [pass_idle] at hidle
    obtain ⟨first, hfirst, hnow⟩ := pass_rung a now
    refine ⟨first ++ new, ?_, fun r hr => ?_⟩
    · rw [List.map_cons, Runs.run_cons, ← List.append_assoc, ← hfirst]
      exact hrung
    · exact (List.mem_append.mp hr).elim (hnow r) (hidle r)

/-- When an alarm of kind `once` rings: when it has been idle for its interval or when its life is
over, whichever is given and comes first. -/
def onceDue (expires interval now : ℕ) : ℕ :=
  if interval = 0 then expires
  else if expires = 0 then now + interval
  else min (now + interval) expires

/-- How an alarm of kind `once` rings at a pass. -/
def onceRing (expires interval now time : ℕ) : Ring where
  type := if expires ≠ 0 ∧ expires ≤ time then .life else .idle
  due := onceDue expires interval now
  time := time

/-- An alarm of kind `once` rings once, at the first pass at or after its time. -/
theorem run_pass_once (a : Alarm) {expires interval : ℕ} (now : ℕ)
    (hgiven : ¬ (expires = 0 ∧ interval = 0)) (times : List ℕ) :
    (Runs.run step ((a.given .once expires interval now).start now) (times.map .pass)).rung =
      a.rung ++ (times.find? fun time => onceDue expires interval now ≤ time).toList.map
        (onceRing expires interval now) := by
  have hidle : (a.given .once expires interval now).idle =
      if interval = 0 then 0 else now + interval := by
    simp only [given, true_and, ne_eq, ite_not]
  have hnext (time : ℕ) :
      (a.given .once expires interval now).next time = onceDue expires interval now := by
    have hexpires : (a.given .once expires interval now).expires = expires := rfl
    have hkind : (a.given .once expires interval now).kind = .once := rfl
    simp only [next, hkind, hexpires, hidle, onceDue]
    split_ifs <;> omega
  have hdue : ((a.given .once expires interval now).start now).due =
      some (onceDue expires interval now) := by
    rw [← hnext now]
    rfl
  have hout (time : ℕ) (hle : onceDue expires interval now ≤ time) :
      ((a.given .once expires interval now).start now).outcome time =
        (some (if expires ≠ 0 ∧ expires ≤ time then .life else .idle), false) := by
    have hset : (a.given .once expires interval now).idle ≠ 0 ∨ expires ≠ 0 := by
      rw [hidle]
      split_ifs <;> omega
    exact outcome_once rfl hset ((hnext time).trans_le hle)
  rw [run_pass_of_last hdue fun time hle => by rw [hout time hle]]
  cases hfirst : times.find? fun time => onceDue expires interval now ≤ time with
  | none => rfl
  | some time =>
    have hle : onceDue expires interval now ≤ time := by simpa using List.find?_some hfirst
    simp only [Option.toList_some, List.flatMap_singleton, List.map_singleton, rings,
      hout time hle, Option.map_some, onceRing]
    rfl

/-- The ticks that passes at these times cause when the first one is due at `due`. -/
def ticks (interval : ℕ) : ℕ → List ℕ → List Ring
  | _, [] => []
  | due, now :: times =>
    if due ≤ now then ⟨.tick, due, now⟩ :: ticks interval (now + interval) times
    else ticks interval due times

/-- A ticker ticks at every pass that is not too early. -/
theorem run_pass_ticker (hkind : a.kind = .ticker) (hdue : a.due = some due) (times : List ℕ) :
    (Runs.run step a (times.map .pass)).rung = a.rung ++ ticks a.interval due times := by
  induction times generalizing a due with
  | nil => simp [ticks]
  | cons now times ih =>
    rw [List.map_cons, Runs.run_cons, ticks]
    by_cases hle : due ≤ now
    · have hpass : a.step (.pass now) =
          { a with
            due := some (now + a.interval)
            rung := a.rung ++ [⟨.tick, due, now⟩] } := by
        refine (pass_of_le hdue hle).trans ?_
        simp [outcome, next, rings, hkind]
      rw [hpass, if_pos hle]
      refine Eq.trans (ih ?_ rfl) ?_
      · exact hkind
      · rw [List.append_assoc, List.singleton_append]
    · have hpass : a.step (.pass now) = a := pass_of_lt hdue (by omega)
      rw [hpass, if_neg hle, ih hkind hdue]

/-- No tick comes before it is due, or before the first one is. -/
theorem ticks_late {interval due : ℕ} {times : List ℕ} {r : Ring}
    (hr : r ∈ ticks interval due times) : r.type = .tick ∧ due ≤ r.due ∧ r.due ≤ r.time := by
  induction times generalizing due with
  | nil => exact absurd hr List.not_mem_nil
  | cons now times ih =>
    rw [ticks] at hr
    split at hr
    · rename_i hle
      rcases List.mem_cons.mp hr with rfl | hr
      · exact ⟨rfl, Nat.le_refl due, hle⟩
      · obtain ⟨htype, hdue, htime⟩ := ih hr
        exact ⟨htype, by omega, htime⟩
    · exact ih hr

/-- A tick is due no earlier than an interval after each one before it. -/
theorem ticks_apart (interval due : ℕ) (times : List ℕ) :
    (ticks interval due times).Pairwise fun r r' => r.time + interval ≤ r'.due := by
  induction times generalizing due with
  | nil => exact .nil
  | cons now times ih =>
    rw [ticks]
    split
    · exact List.pairwise_cons.mpr ⟨fun r' hr' => (ticks_late hr').2.1, ih _⟩
    · exact ih due

/-- Ticks come no closer than an interval. -/
theorem ticks_spaced (interval due : ℕ) (times : List ℕ) :
    (ticks interval due times).Pairwise fun r r' => r.time + interval ≤ r'.time :=
  (ticks_apart interval due times).imp_of_mem fun _ hr' hdue =>
    hdue.trans (ticks_late hr').2.2

end Alarm

end BC
