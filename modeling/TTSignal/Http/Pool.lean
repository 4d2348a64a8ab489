import TTSignal.Http.Calls
import Mathlib.Data.Finset.Card
import Mathlib.Data.Finset.Range
import Mathlib.Data.List.Nodup

/-!
# How far the pooled channels have come

A pooled channel is in the pool, or outside it until its channel has been closed or taken over,
and is deleted once afterwards. As long as a call of `Request` holds it, its deletion waits for
`Release`.
-/

namespace Http

/-- The channel that a call of `Request` has borrowed for a second try. -/
def After.borrowed : After → Option PooledId
  | .retry p => some p
  | .giveUp _ => none

/-- The channel that a call of `Request` holds. -/
def RequestPhase.borrowed : RequestPhase → Option PooledId
  | .insert b | .start _ b => b
  | .acquire _ p | .release _ p | .closeBorrowed p => some p
  | .detach _ k | .dropping _ k => k.borrowed
  | _ => none

/-- The channel that a call of `Request` holds without a posted adoption. -/
def RequestPhase.unused : RequestPhase → Option PooledId
  | .release _ _ => none
  | phase => phase.borrowed

/-- A work that concerns no pooled channel. -/
def Work.SparesPooled : Work → Prop
  | .deleteClosed _ | .deleteDetached _ | .finishIdle _ => False
  | _ => True

/-- A work that spares the pooled channels deletes none that has closed. -/
theorem Work.SparesPooled.ne_deleteClosed {w : Work} (hw : w.SparesPooled) (p : PooledId) :
    w ≠ .deleteClosed p := by
  rintro rfl
  exact hw

/-- It deletes none that has been detached. -/
theorem Work.SparesPooled.ne_deleteDetached {w : Work} (hw : w.SparesPooled) (p : PooledId) :
    w ≠ .deleteDetached p := by
  rintro rfl
  exact hw

/-- It finishes no idle one. -/
theorem Work.SparesPooled.ne_finishIdle {w : Work} (hw : w.SparesPooled) (p : PooledId) :
    w ≠ .finishIdle p := by
  rintro rfl
  exact hw

/-- The channel of a pooled channel in this stage has closed, and the connector has not
forgotten it. -/
def PooledStage.Leaving (stage : PooledStage) : Prop := stage = .closed ∨ stage = .deleted

instance (stage : PooledStage) : Decidable stage.Leaving := inferInstanceAs (Decidable (_ ∨ _))

namespace HttpConnector

/-- The pool and the works agree with the stage of a pooled channel. -/
structure Lodged (s : HttpConnector) (p : PooledId) : Prop where
  /-- It is in the pool until it is taken or its channel closes. -/
  mem_idle : ∀ key, (key, p) ∈ s.idle ↔ s.pooledStage p = .pooled ∧ key = (s.pooled p).key
  /-- A pooled channel that has not been made. -/
  unborn : s.nextPooled ≤ p → s.pooledStage p = .unborn
  /-- The call that holds it. -/
  held : (s.pooled p).held = true →
    (s.request (s.borrower p)).phase.borrowed = some p ∧
      (s.pooledStage p = .loose ∨ s.pooledStage p = .closed ∨ s.pooledStage p = .detached)
  /-- Nothing is pending before its channel is closed or taken over. -/
  pending_none : s.pooledStage p = .pooled ∨ s.pooledStage p = .loose →
    (s.pooled p).pending = .none
  /-- A deletion that waits for its release. -/
  pending_closed : (s.pooled p).held = true → s.pooledStage p = .closed →
    (s.pooled p).pending = .closed
  /-- A deletion that waits for its release. -/
  pending_detached : (s.pooled p).held = true → s.pooledStage p = .detached →
    (s.pooled p).pending = .detached
  /-- Its deletion with its channel is posted once. -/
  count_closed : s.works.count (.deleteClosed p) =
    if s.pooledStage p = .closed ∧ (s.pooled p).held = false then 1 else 0
  /-- Its deletion without its channel is posted once. -/
  count_detached : s.works.count (.deleteDetached p) =
    if s.pooledStage p = .detached ∧ (s.pooled p).held = false then 1 else 0
  /-- What follows its deletion. -/
  count_idle : s.works.count (.finishIdle p) = if s.pooledStage p = .deleted then 1 else 0

/-- The pooled channels that `idle_destroying` counts. -/
def leaving (s : HttpConnector) : Finset PooledId :=
  (Finset.range s.nextPooled).filter fun p => (s.pooledStage p).Leaving

/-- Every pooled channel is accounted for. -/
structure Pool (s : HttpConnector) : Prop where
  /-- Each has its place. -/
  lodged : ∀ p, s.Lodged p
  /-- Nothing is in the pool twice. -/
  idle_nodup : s.idle.Nodup
  /-- A call holds the channel it has borrowed. -/
  borrowed : ∀ r p, (s.request r).phase.borrowed = some p →
    (s.pooled p).held = true ∧ s.borrower p = r
  /-- It is not taken over before the adoption is posted. -/
  unused : ∀ r p, (s.request r).phase.unused = some p →
    s.pooledStage p = .loose ∨ s.pooledStage p = .closed
  /-- `idle_destroying`. -/
  card_leaving : s.idleDestroying = s.leaving.card

variable {s s' : HttpConnector}

/-- An unused channel of a request is borrowed. -/
theorem RequestPhase.borrowed_of_unused {phase : RequestPhase} {p : PooledId}
    (h : phase.unused = some p) : phase.borrowed = some p := by
  cases phase <;> simp_all [RequestPhase.unused]

/-- Nothing else matters. -/
theorem Pool.of_eq (h : s.Pool) (hidle : s'.idle = s.idle)
    (hdestroying : s'.idleDestroying = s.idleDestroying) (hpooled : s'.pooled = s.pooled)
    (hstage : s'.pooledStage = s.pooledStage) (hborrower : s'.borrower = s.borrower)
    (hphase : ∀ r, (s'.request r).phase = (s.request r).phase) (hworks : s'.works = s.works)
    (hnext : s'.nextPooled = s.nextPooled) : s'.Pool := by
  constructor
  case lodged =>
    intro p
    obtain ⟨h1, h2, h3, h4, h5, h6, h7, h8, h9⟩ := h.lodged p
    constructor
    all_goals simp only [hidle, hpooled, hstage, hborrower, hphase, hworks, hnext]
    all_goals assumption
  all_goals simp only [hidle, hdestroying, hpooled, hstage, hborrower, hphase, leaving, hnext]
  exacts [h.idle_nodup, h.borrowed, h.unused, h.card_leaving]

/-- A pooled channel that the connector counts has been made. -/
theorem mem_leaving (h : ∀ p, s.nextPooled ≤ p → s.pooledStage p = .unborn) {p : PooledId} :
    p ∈ s.leaving ↔ (s.pooledStage p).Leaving := by
  simp only [leaving, Finset.mem_filter, Finset.mem_range, and_iff_right_iff_imp]
  intro hp
  by_contra hlt
  have := h p (not_lt.mp hlt)
  simp [this, PooledStage.Leaving] at hp

/-- Something else is to be done. -/
theorem Pool.post (h : s.Pool) {w : Work} (hw : w.SparesPooled) : (s.post w).Pool := by
  constructor
  case lodged =>
    intro p
    obtain ⟨hmem, hunborn, hheld, hnone, hpclosed, hpdetached, hclosed, hdetached, hidle⟩ :=
      h.lodged p
    constructor
    all_goals simp only [HttpConnector.post, List.count_cons]
    all_goals grind [hw.ne_deleteClosed p, hw.ne_deleteDetached p, hw.ne_finishIdle p]
  exacts [h.idle_nodup, h.borrowed, h.unused, h.card_leaving]

/-- Something else has been done. -/
theorem Pool.erase (h : s.Pool) {w : Work} (hw : w.SparesPooled) :
    Pool { s with works := s.works.erase w } := by
  constructor
  case lodged =>
    intro p
    obtain ⟨hmem, hunborn, hheld, hnone, hpclosed, hpdetached, hclosed, hdetached, hidle⟩ :=
      h.lodged p
    constructor
    all_goals simp only [List.count_erase]
    all_goals grind [hw.ne_deleteClosed p, hw.ne_deleteDetached p, hw.ne_finishIdle p]
  exacts [h.idle_nodup, h.borrowed, h.unused, h.card_leaving]

/-- A call goes on and borrows or releases nothing. -/
theorem Pool.setRequest (h : s.Pool) {r : RequestId} {x : RequestCall}
    (hborrowed : x.phase.borrowed = (s.request r).phase.borrowed)
    (hunused : ∀ p, x.phase.unused = some p → (s.request r).phase.unused = some p) :
    Pool { s with request := Function.update s.request r x } := by
  constructor
  case lodged =>
    intro p
    obtain ⟨hmem, hunborn, hheld, hnone, hpclosed, hpdetached, hclosed, hdetached, hidle⟩ :=
      h.lodged p
    constructor
    case held =>
      simp only [Function.update_apply]
      grind
    all_goals assumption
  case borrowed =>
    intro r' p
    have := h.borrowed r' p
    simp only [Function.update_apply]
    grind
  case unused =>
    intro r' p
    have := h.unused r' p
    have := h.unused r p
    simp only [Function.update_apply]
    grind
  exacts [h.idle_nodup, h.card_leaving]

/-- The count stays when the same pooled channels are leaving. -/
theorem Pool.card_leaving_of (h : s.Pool) (hdestroying : s'.idleDestroying = s.idleDestroying)
    (hnext : s'.nextPooled = s.nextPooled)
    (hstage : ∀ p, (s'.pooledStage p).Leaving ↔ (s.pooledStage p).Leaving) :
    s'.idleDestroying = s'.leaving.card := by
  rw [hdestroying, h.card_leaving, leaving, leaving, hnext]
  exact congrArg Finset.card (Finset.filter_congr fun p _ => (hstage p).symm)

/-- `_TakeFromPool`. -/
theorem Pool.take (h : s.Pool) {r : RequestId} {p : PooledId}
    (hp : s.pooledStage p = .pooled) (hborrowed : (s.request r).phase.borrowed = none) :
    ((s.take r p).setPhase r (.insert (some p))).Pool := by
  have hkey := ((h.lodged p).mem_idle (s.pooled p).key).mpr ⟨hp, rfl⟩
  constructor
  case lodged =>
    intro q
    obtain ⟨hmem, hunborn, hheld, hnone, hpclosed, hpdetached, hclosed, hdetached, hidle⟩ :=
      h.lodged q
    constructor
    all_goals simp only [HttpConnector.take, setPooled, setPooledStage, setPhase,
      Function.update_apply, h.idle_nodup.mem_erase_iff]
    all_goals grind [RequestPhase.borrowed]
  case idle_nodup => exact h.idle_nodup.erase _
  case borrowed =>
    intro r' q
    have := h.borrowed r' q
    have := (h.lodged p).held
    simp only [HttpConnector.take, setPooled, setPooledStage, setPhase, Function.update_apply]
    grind [RequestPhase.borrowed]
  case unused =>
    intro r' q
    have := h.unused r' q
    simp only [HttpConnector.take, setPooled, setPooledStage, setPhase, Function.update_apply]
    grind [RequestPhase.unused, RequestPhase.borrowed]
  case card_leaving =>
    refine h.card_leaving_of rfl rfl ?_
    intro q
    simp only [HttpConnector.take, setPooled, setPooledStage, setPhase, Function.update_apply]
    grind [PooledStage.Leaving]

/-- `Release`, after which the call of `Request` holds nothing. -/
theorem Pool.release (h : s.Pool) {r : RequestId} {p : PooledId} {phase : RequestPhase}
    (hborrowed : (s.request r).phase.borrowed = some p) (hphase : phase.borrowed = none) :
    ((s.release p).setPhase r phase).Pool := by
  have hheld := h.borrowed r p hborrowed
  have hunused : ∀ q, phase.unused ≠ some q := by
    intro q hq
    rw [RequestPhase.borrowed_of_unused hq] at hphase
    cases hphase
  have hp := h.lodged p
  have hstages := (hp.held hheld.1).2
  constructor
  case lodged =>
    intro q
    obtain ⟨hmem, hunborn, hqheld, hnone, hpclosed, hpdetached, hclosed, hdetached, hidle⟩ :=
      h.lodged q
    have hother := h.borrowed r q
    rcases hstages with hstage | hstage | hstage
    · have hpending := hp.pending_none (.inr hstage)
      constructor
      all_goals simp only [HttpConnector.release, hpending, scheduleDestroy, setPooled, setPhase,
        Function.update_apply]
      all_goals grind
    · have hpending := hp.pending_closed hheld.1 hstage
      constructor
      all_goals simp only [HttpConnector.release, hpending, scheduleDestroy, setPooled, setPhase,
        HttpConnector.post, Function.update_apply, List.count_cons]
      all_goals grind
    · have hpending := hp.pending_detached hheld.1 hstage
      constructor
      all_goals simp only [HttpConnector.release, hpending, scheduleDestroy, setPooled, setPhase,
        HttpConnector.post, Function.update_apply, List.count_cons]
      all_goals grind
  all_goals
    cases hpending : (s.pooled p).pending
    all_goals simp only [HttpConnector.release, hpending, scheduleDestroy, HttpConnector.post,
      setPooled, setPhase, Function.update_apply, leaving]
  any_goals exact h.idle_nodup
  any_goals exact h.card_leaving
  all_goals
    intro r' q
    have := h.borrowed r' q
    have := h.unused r' q
    grind

/-- The channel of a pooled channel has closed. -/
theorem Pool.onPooledClosed (h : s.Pool) {p : PooledId}
    (hp : s.pooledStage p = .pooled ∨ s.pooledStage p = .loose) : (s.onPooledClosed p).Pool := by
  have hlodged := h.lodged p
  constructor
  case lodged =>
    intro q
    obtain ⟨hmem, hunborn, hheld, hnone, hpclosed, hpdetached, hclosed, hdetached, hidle⟩ :=
      h.lodged q
    have hkey := hlodged.mem_idle (s.pooled p).key
    unfold HttpConnector.onPooledClosed
    split
    all_goals
      constructor
      all_goals simp only [setPooled, setPooledStage, scheduleDestroy, HttpConnector.post,
        Function.update_apply, h.idle_nodup.mem_erase_iff, List.count_cons]
      all_goals grind
  case idle_nodup =>
    unfold HttpConnector.onPooledClosed
    split
    all_goals exact h.idle_nodup.erase _
  case borrowed =>
    intro r q
    have := h.borrowed r q
    unfold HttpConnector.onPooledClosed
    split
    all_goals
      simp only [setPooled, setPooledStage, scheduleDestroy, HttpConnector.post,
        Function.update_apply]
      grind
  case unused =>
    intro r q
    have := h.unused r q
    unfold HttpConnector.onPooledClosed
    split
    all_goals
      simp only [setPooled, setPooledStage, scheduleDestroy, HttpConnector.post,
        Function.update_apply]
      grind
  case card_leaving =>
    have hleaving : (s.onPooledClosed p).leaving = insert p s.leaving := by
      have hlt : p < s.nextPooled := by
        by_contra hlt
        have := hlodged.unborn (not_lt.mp hlt)
        grind
      ext q
      unfold HttpConnector.onPooledClosed
      split
      all_goals
        simp only [leaving, setPooled, setPooledStage, scheduleDestroy, HttpConnector.post,
          Finset.mem_filter, Finset.mem_range, Finset.mem_insert, Function.update_apply]
        grind [PooledStage.Leaving]
    have hnot : p ∉ s.leaving := by
      rw [mem_leaving fun q => (h.lodged q).unborn]
      grind [PooledStage.Leaving]
    rw [hleaving, Finset.card_insert_of_notMem hnot, ← h.card_leaving]
    unfold HttpConnector.onPooledClosed
    split <;> rfl

/-- The channel of a pooled channel has been taken over by a connection. -/
theorem Pool.onPooledDetached (h : s.Pool) {p : PooledId} (hp : s.pooledStage p = .loose)
    (hunused : ∀ r, (s.request r).phase.unused ≠ some p) : (s.onPooledDetached p).Pool := by
  constructor
  case lodged =>
    intro q
    obtain ⟨hmem, hunborn, hheld, hnone, hpclosed, hpdetached, hclosed, hdetached, hidle⟩ :=
      h.lodged q
    unfold HttpConnector.onPooledDetached
    split
    all_goals
      constructor
      all_goals simp only [setPooled, setPooledStage, scheduleDestroy, HttpConnector.post,
        Function.update_apply, List.count_cons]
      all_goals grind
  case idle_nodup =>
    unfold HttpConnector.onPooledDetached
    split
    all_goals exact h.idle_nodup
  case borrowed =>
    intro r q
    have := h.borrowed r q
    unfold HttpConnector.onPooledDetached
    split
    all_goals
      simp only [setPooled, setPooledStage, scheduleDestroy, HttpConnector.post,
        Function.update_apply]
      grind
  case unused =>
    intro r q
    have := h.unused r q
    have := hunused r
    unfold HttpConnector.onPooledDetached
    split
    all_goals
      simp only [setPooled, setPooledStage, scheduleDestroy, HttpConnector.post,
        Function.update_apply]
      grind
  case card_leaving =>
    unfold HttpConnector.onPooledDetached
    split
    all_goals
      refine h.card_leaving_of rfl rfl ?_
      intro q
      simp only [setPooled, setPooledStage, scheduleDestroy, HttpConnector.post,
        Function.update_apply]
      grind [PooledStage.Leaving]

/-- A connection parks its channel, and there is room in the pool. -/
theorem Pool.park_room (h : s.Pool) (ch : ChannelId) (key : String) :
    Pool { s.park ch key .pooled with idle := s.idle ++ [(key, s.nextPooled)] } := by
  have hnext := (h.lodged s.nextPooled).unborn le_rfl
  have hfresh : ∀ k, (k, s.nextPooled) ∉ s.idle := by
    intro k hk
    have := ((h.lodged s.nextPooled).mem_idle k).mp hk
    grind
  constructor
  case lodged =>
    intro q
    obtain ⟨hmem, hunborn, hheld, hnone, hpclosed, hpdetached, hclosed, hdetached, hidle⟩ :=
      h.lodged q
    constructor
    all_goals simp only [HttpConnector.park, Function.update_apply, List.mem_append,
      List.mem_singleton, Prod.mk.injEq]
    all_goals grind
  case idle_nodup =>
    apply h.idle_nodup.append (List.nodup_singleton _)
    simpa using hfresh key
  case borrowed =>
    intro r q
    have := h.borrowed r q
    have := (h.lodged s.nextPooled).held
    simp only [HttpConnector.park, Function.update_apply]
    grind
  case unused =>
    intro r q
    have := h.unused r q
    simp only [HttpConnector.park, Function.update_apply]
    grind
  case card_leaving =>
    refine h.card_leaving.trans (congrArg Finset.card ?_)
    ext q
    simp only [leaving, HttpConnector.park, Finset.mem_filter, Finset.mem_range,
      Function.update_apply]
    grind [PooledStage.Leaving]

/-- A connection parks its channel, and there is no room in the pool. -/
theorem Pool.park_loose (h : s.Pool) (ch : ChannelId) (key : String) :
    (s.park ch key .loose).Pool := by
  have hnext := (h.lodged s.nextPooled).unborn le_rfl
  constructor
  case lodged =>
    intro q
    obtain ⟨hmem, hunborn, hheld, hnone, hpclosed, hpdetached, hclosed, hdetached, hidle⟩ :=
      h.lodged q
    constructor
    all_goals simp only [HttpConnector.park, Function.update_apply]
    all_goals grind
  case idle_nodup => exact h.idle_nodup
  case borrowed =>
    intro r q
    have := h.borrowed r q
    have := (h.lodged s.nextPooled).held
    simp only [HttpConnector.park, Function.update_apply]
    grind
  case unused =>
    intro r q
    have := h.unused r q
    simp only [HttpConnector.park, Function.update_apply]
    grind
  case card_leaving =>
    refine h.card_leaving.trans (congrArg Finset.card ?_)
    ext q
    simp only [leaving, HttpConnector.park, Finset.mem_filter, Finset.mem_range,
      Function.update_apply]
    grind [PooledStage.Leaving]

/-- A pooled channel whose deletion with its channel is posted. -/
theorem Pool.closed_of_mem (h : s.Pool) {p : PooledId} (hp : .deleteClosed p ∈ s.works) :
    s.pooledStage p = .closed ∧ (s.pooled p).held = false := by
  have hcount := List.count_pos_iff.mpr hp
  have := (h.lodged p).count_closed
  grind

/-- A pooled channel whose deletion without its channel is posted. -/
theorem Pool.detached_of_mem (h : s.Pool) {p : PooledId} (hp : .deleteDetached p ∈ s.works) :
    s.pooledStage p = .detached ∧ (s.pooled p).held = false := by
  have hcount := List.count_pos_iff.mpr hp
  have := (h.lodged p).count_detached
  grind

/-- A pooled channel that has been deleted and not been forgotten. -/
theorem Pool.deleted_of_mem (h : s.Pool) {p : PooledId} (hp : .finishIdle p ∈ s.works) :
    s.pooledStage p = .deleted := by
  have hcount := List.count_pos_iff.mpr hp
  have := (h.lodged p).count_idle
  grind

/-- A pooled channel is deleted with its channel. -/
theorem Pool.deleteClosed (h : s.Pool) {p : PooledId} (hp : .deleteClosed p ∈ s.works) :
    ((setPooledStage { s with works := s.works.erase (.deleteClosed p) } p .deleted).post
      (.finishIdle p)).Pool := by
  obtain ⟨hstage, hnot⟩ := h.closed_of_mem hp
  constructor
  case lodged =>
    intro q
    obtain ⟨hmem, hunborn, hheld, hnone, hpclosed, hpdetached, hclosed, hdetached, hidle⟩ :=
      h.lodged q
    constructor
    all_goals simp only [setPooledStage, HttpConnector.post, Function.update_apply,
      List.count_cons, List.count_erase]
    all_goals grind
  case idle_nodup => exact h.idle_nodup
  case borrowed => exact h.borrowed
  case unused =>
    intro r q hq
    have := h.unused r q hq
    have := h.borrowed r q (RequestPhase.borrowed_of_unused hq)
    simp only [setPooledStage, HttpConnector.post, Function.update_apply]
    grind
  case card_leaving =>
    refine h.card_leaving_of rfl rfl ?_
    intro q
    simp only [setPooledStage, HttpConnector.post, Function.update_apply]
    grind [PooledStage.Leaving]

/-- A pooled channel is deleted without its channel. -/
theorem Pool.deleteDetached (h : s.Pool) {p : PooledId} (hp : .deleteDetached p ∈ s.works) :
    (setPooledStage { s with works := s.works.erase (.deleteDetached p) } p .gone).Pool := by
  obtain ⟨hstage, hnot⟩ := h.detached_of_mem hp
  constructor
  case lodged =>
    intro q
    obtain ⟨hmem, hunborn, hheld, hnone, hpclosed, hpdetached, hclosed, hdetached, hidle⟩ :=
      h.lodged q
    constructor
    all_goals simp only [setPooledStage, Function.update_apply, List.count_erase]
    all_goals grind
  case idle_nodup => exact h.idle_nodup
  case borrowed => exact h.borrowed
  case unused =>
    intro r q hq
    have := h.unused r q hq
    simp only [setPooledStage, Function.update_apply]
    grind
  case card_leaving =>
    refine h.card_leaving_of rfl rfl ?_
    intro q
    simp only [setPooledStage, Function.update_apply]
    grind [PooledStage.Leaving]

/-- A pooled channel is forgotten. -/
theorem Pool.finishIdle (h : s.Pool) {p : PooledId} (hp : .finishIdle p ∈ s.works) :
    (setPooledStage
      { s with
        works := s.works.erase (.finishIdle p)
        idleDestroying := s.idleDestroying - 1 } p .gone).Pool := by
  have hstage := h.deleted_of_mem hp
  constructor
  case lodged =>
    intro q
    obtain ⟨hmem, hunborn, hheld, hnone, hpclosed, hpdetached, hclosed, hdetached, hidle⟩ :=
      h.lodged q
    constructor
    all_goals simp only [setPooledStage, Function.update_apply, List.count_erase]
    all_goals grind
  case idle_nodup => exact h.idle_nodup
  case borrowed => exact h.borrowed
  case unused =>
    intro r q hq
    have := h.unused r q hq
    simp only [setPooledStage, Function.update_apply]
    grind
  case card_leaving =>
    have hin : p ∈ s.leaving := by
      rw [mem_leaving fun q => (h.lodged q).unborn]
      exact .inr hstage
    have hleaving : leaving (setPooledStage
        { s with
          works := s.works.erase (.finishIdle p)
          idleDestroying := s.idleDestroying - 1 } p .gone) = s.leaving.erase p := by
      ext q
      simp only [leaving, setPooledStage, Finset.mem_filter, Finset.mem_range, Finset.mem_erase,
        Function.update_apply]
      grind [PooledStage.Leaving]
    rw [hleaving, Finset.card_erase_of_mem hin, ← h.card_leaving]
    rfl

end HttpConnector

end Http
