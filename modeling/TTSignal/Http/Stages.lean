import TTSignal.Http.Steps
import Mathlib.Data.Finset.Basic

/-!
# How far the connections have come

The sets of the connector and the posted tasks agree with the stage of each connection.
-/

namespace Http

/-- The connection of a call of `Request` has been started: its handler will be told. -/
def ConnectionStage.Accepted (stage : ConnectionStage) : Prop :=
  stage = .serving ∨ stage = .condemned ∨ stage = .deleted ∨ stage = .gone

/-- A connection is to be deleted by its call of `Request`. -/
def Work.drops (c : ConnectionId) : Work → Bool
  | .drop c' _ _ => c' = c
  | _ => false

/-- A work that deletes no connection and follows no deletion. -/
def Work.Spares : Work → Prop
  | .deleteConnection _ | .finishDestroy _ | .drop _ _ _ => False
  | _ => True

/-- A work that spares the connections deletes none. -/
theorem Work.Spares.ne_deleteConnection {w : Work} (hw : w.Spares) (c : ConnectionId) :
    w ≠ .deleteConnection c := by
  rintro rfl
  exact hw

/-- It finishes none. -/
theorem Work.Spares.ne_finishDestroy {w : Work} (hw : w.Spares) (c : ConnectionId) :
    w ≠ .finishDestroy c := by
  rintro rfl
  exact hw

/-- It drops none. -/
theorem Work.Spares.drops {w : Work} (hw : w.Spares) (c : ConnectionId) : w.drops c = false := by
  cases w <;> first | exact hw.elim | rfl

namespace HttpConnector

/-- The sets and the works agree with the stage of a connection. -/
structure Accounted (s : HttpConnector) (c : ConnectionId) : Prop where
  /-- It is in `conns` as long as it is started or served. -/
  mem_conns : c ∈ s.conns ↔ s.stage c = .starting ∨ s.stage c = .serving
  /-- It is in `destroying` until its deletion has been noticed. -/
  mem_destroying : c ∈ s.destroying ↔ s.stage c = .condemned ∨ s.stage c = .deleted
  /-- A connection that has not been made. -/
  unborn : s.nextConnection ≤ c → s.stage c = .unborn
  /-- Its deletion is posted once. -/
  count_delete : s.works.count (.deleteConnection c) = if s.stage c = .condemned then 1 else 0
  /-- What follows its deletion. -/
  count_finish : s.works.count (.finishDestroy c) = if s.stage c = .deleted then 1 else 0
  /-- Its deletion by `Request`. -/
  count_drop : s.works.countP (Work.drops c) = if s.stage c = .dropped then 1 else 0

/-- Every connection is accounted for. -/
def Connections (s : HttpConnector) : Prop := ∀ c, s.Accounted c

variable {s s' : HttpConnector}

/-- Nothing else matters. -/
theorem Connections.of_eq (h : s.Connections) (hconns : s'.conns = s.conns)
    (hdestroying : s'.destroying = s.destroying) (hstage : s'.stage = s.stage)
    (hworks : s'.works = s.works) (hnext : s'.nextConnection = s.nextConnection) :
    s'.Connections := by
  intro c
  constructor
  all_goals simp only [hconns, hdestroying, hstage, hworks, hnext]
  exacts [(h c).mem_conns, (h c).mem_destroying, (h c).unborn, (h c).count_delete,
    (h c).count_finish, (h c).count_drop]

/-- A connection is made. -/
theorem Connections.newConnection (h : s.Connections) (r : RequestId) (ch : ChannelId) :
    (s.newConnection r ch).Connections := by
  have hnext := (h s.nextConnection).unborn le_rfl
  intro d
  obtain ⟨hconns, hdestroying, hunborn, hdelete, hfinish, hdrop⟩ := h d
  constructor
  all_goals simp only [HttpConnector.newConnection, Function.update_apply, Finset.mem_insert]
  all_goals grind

/-- A connection has been started. -/
theorem Connections.serve (h : s.Connections) {c : ConnectionId} (hc : s.stage c = .starting) :
    (s.setStage c .serving).Connections := by
  intro d
  obtain ⟨hconns, hdestroying, hunborn, hdelete, hfinish, hdrop⟩ := h d
  constructor
  all_goals simp only [setStage, Function.update_apply]
  all_goals grind

/-- A connection is given up by its call of `Request`. -/
theorem Connections.drop (h : s.Connections) {c : ConnectionId} (hc : s.stage c = .starting)
    (armed : Option Thread) (k : Cont) :
    (((s.forget c).setStage c .dropped).post (.drop c armed k)).Connections := by
  intro d
  obtain ⟨hconns, hdestroying, hunborn, hdelete, hfinish, hdrop⟩ := h d
  constructor
  all_goals simp only [forget, setStage, post, Function.update_apply, Finset.mem_erase,
    List.count_cons, List.countP_cons, Work.drops]
  all_goals grind

/-- `_DetachAndScheduleDestroy`. -/
theorem Connections.detachAndScheduleDestroy (h : s.Connections) {c : ConnectionId}
    (hc : s.stage c = .serving) (ch : ChannelId) :
    (s.detachAndScheduleDestroy c ch).Connections := by
  have hmem : c ∈ s.conns := (h c).mem_conns.mpr (.inr hc)
  intro d
  obtain ⟨hconns, hdestroying, hunborn, hdelete, hfinish, hdrop⟩ := h d
  constructor
  all_goals simp only [HttpConnector.detachAndScheduleDestroy, setStage, setActivity, setInside,
    setChannel, post, Function.update_apply, Finset.mem_erase, if_pos hmem, Finset.mem_insert,
    List.count_cons, List.countP_cons, Work.drops]
  all_goals grind

/-- Something else is to be done. -/
theorem Connections.post (h : s.Connections) {w : Work} (hw : w.Spares) :
    (s.post w).Connections := by
  intro d
  obtain ⟨hconns, hdestroying, hunborn, hdelete, hfinish, hdrop⟩ := h d
  constructor
  all_goals simp only [HttpConnector.post, List.count_cons, List.countP_cons, hw.drops]
  all_goals grind [hw.ne_deleteConnection d, hw.ne_finishDestroy d]

/-- Something else has been done. -/
theorem Connections.erase (h : s.Connections) {w : Work} (hw : w.Spares) :
    Connections { s with works := s.works.erase w } := by
  intro d
  obtain ⟨hconns, hdestroying, hunborn, hdelete, hfinish, hdrop⟩ := h d
  constructor
  all_goals simp only [List.count_erase, List.countP_erase, hw.drops]
  all_goals grind [hw.ne_deleteConnection d, hw.ne_finishDestroy d]

/-- A connection is deleted by its posted task. -/
theorem Connections.delete (h : s.Connections) {c : ConnectionId}
    (hc : .deleteConnection c ∈ s.works) :
    ((setStage { s with works := s.works.erase (.deleteConnection c) } c .deleted).post
      (.finishDestroy c)).Connections := by
  have hcount := List.count_pos_iff.mpr hc
  have hstage := (h c).count_delete
  intro d
  obtain ⟨hconns, hdestroying, hunborn, hdelete, hfinish, hdrop⟩ := h d
  constructor
  all_goals simp only [setStage, HttpConnector.post, Function.update_apply, List.count_cons,
    List.countP_cons, List.count_erase, List.countP_erase, Work.drops]
  all_goals grind

/-- A deleted connection is forgotten. -/
theorem Connections.finish (h : s.Connections) {c : ConnectionId}
    (hc : .finishDestroy c ∈ s.works) :
    ((forget { s with works := s.works.erase (.finishDestroy c) } c).setStage c
      .gone).Connections := by
  have hcount := List.count_pos_iff.mpr hc
  have hstage := (h c).count_finish
  intro d
  obtain ⟨hconns, hdestroying, hunborn, hdelete, hfinish, hdrop⟩ := h d
  constructor
  all_goals simp only [forget, setStage, Function.update_apply, List.count_erase,
    List.countP_erase, Finset.mem_erase, Work.drops]
  all_goals grind

/-- A connection is deleted by its call of `Request`. -/
theorem Connections.discard (h : s.Connections) {c : ConnectionId} {armed : Option Thread}
    {k : Cont} (hc : .drop c armed k ∈ s.works) :
    (setStage { s with works := s.works.erase (.drop c armed k) } c .discarded).Connections := by
  have hcount : 0 < s.works.countP (Work.drops c) :=
    List.countP_pos_iff.mpr ⟨_, hc, by simp [Work.drops]⟩
  have hstage := (h c).count_drop
  intro d
  obtain ⟨hconns, hdestroying, hunborn, hdelete, hfinish, hdrop⟩ := h d
  constructor
  all_goals simp only [setStage, Function.update_apply, List.count_erase, List.countP_erase, hc,
    Work.drops]
  all_goals grind

end HttpConnector

end Http
