import Mathlib.Data.List.Count
import TTSignal.Ws.Connector

/-!
# What the connector counts

Every connection that has been allocated is registered or has been freed, is removed at
most once, and is not registered again. The connector announces its end at most once, and
only when it is closed and has no connections. What one step does to the registered
connections and to the counters carries these facts through every run.
-/

namespace WS

namespace WSConnector

variable {L P : Type} {E : Parsers L P} {s t : WSConnector L P}

/-- The accounts of a connector. -/
structure Accounted (s : WSConnector L P) : Prop where
  /-- What has been allocated and not freed is registered. -/
  total : s.totalAllocated = s.totalFreed + s.conns.length
  /-- Ids are issued in order. -/
  issued : ∀ id ∈ s.conns, id ≤ s.nextConnId
  /-- Only what was issued has been removed. -/
  removedIssued : ∀ id, .removed id ∈ s.trace → id ≤ s.nextConnId
  /-- An id is registered once or has been removed once. -/
  once : ∀ id, s.trace.count (.removed id) + s.conns.count id ≤ 1
  /-- The end is noted when the connector is closed and has no connections. -/
  noted : s.closedNotified = true → s.closing = true ∧ s.conns = []
  /-- The end is announced once it has been noted. -/
  announced : s.trace.count .closed + (if s.onClosed = .armed then 1 else 0) ≤
    if s.closedNotified then 1 else 0

/-- A connector without connections has balanced accounts. -/
theorem accounted_initial : (initial : WSConnector L P).Accounted := by
  constructor <;> simp [initial]

/-- A happening that is no removal and no end. -/
def IsOther : Happening → Prop
  | .removed _ | .closed => False
  | _ => True

/-- The fields of the accounts are the same, and no removal and no end has happened. -/
structure SameAccounts (s t : WSConnector L P) : Prop where
  /-- The connections. -/
  conns : t.conns = s.conns
  /-- The next number of a connection. -/
  nextConnId : t.nextConnId = s.nextConnId
  /-- The count of connections that have been allocated. -/
  totalAllocated : t.totalAllocated = s.totalAllocated
  /-- The count of connections that have been freed. -/
  totalFreed : t.totalFreed = s.totalFreed
  /-- Whether the connector closes. -/
  closing : t.closing = s.closing
  /-- Whether the end has been notified. -/
  closedNotified : t.closedNotified = s.closedNotified
  /-- A notice that is armed was armed before. -/
  armed : t.onClosed = .armed → s.onClosed = .armed
  /-- What has happened besides is something else. -/
  trace : ∃ new, t.trace = s.trace ++ new ∧ ∀ h ∈ new, IsOther h

/-- A connector has its own accounts. -/
theorem SameAccounts.refl (s : WSConnector L P) : SameAccounts s s :=
  ⟨rfl, rfl, rfl, rfl, rfl, rfl, id, [], by simp, by simp⟩

/-- What counts does not occur among other happenings. -/
theorem count_eq_zero_of_other {new : List Happening} (hnew : ∀ h ∈ new, IsOther h)
    {h : Happening} (hh : ¬ IsOther h) : new.count h = 0 :=
  List.count_eq_zero_of_not_mem fun hmem => hh (hnew h hmem)

/-- The same accounts are balanced. -/
theorem Accounted.of_same (h : s.Accounted) (hsame : SameAccounts s t) : t.Accounted := by
  obtain ⟨hconns, hnext, halloc, hfreed, hclosing, hnotified, harmed, new, htrace, hnew⟩ := hsame
  constructor
  · rw [halloc, hfreed, hconns]
    exact h.total
  · rw [hconns, hnext]
    exact h.issued
  · intro id hid
    rw [htrace, List.mem_append] at hid
    rw [hnext]
    exact hid.elim (h.removedIssued id) fun hid => (hnew _ hid).elim
  · intro id
    have hnone : new.count (.removed id) = 0 := count_eq_zero_of_other hnew fun h => h.elim
    rw [htrace, List.count_append, hnone, hconns, Nat.add_zero]
    exact h.once id
  · rw [hnotified, hclosing, hconns]
    exact h.noted
  · have hnone : new.count .closed = 0 := count_eq_zero_of_other hnew fun h => h.elim
    rw [htrace, List.count_append, hnone, hnotified, Nat.add_zero]
    have hannounced := h.announced
    by_cases ht : t.onClosed = .armed
    · rw [if_pos (harmed ht)] at hannounced
      rwa [if_pos ht]
    · rw [if_neg ht]
      omega

/-- What happens to a connection is no matter of the accounts. -/
theorem sameAccounts_connectionStep (s : WSConnector L P) (id : ℕ) (c : WSConnection L P)
    (i : Input) : SameAccounts s (s.connectionStep E id c i) := by
  have hset (d : WSConnection L P) : SameAccounts s (s.set id d) :=
    ⟨rfl, rfl, rfl, rfl, rfl, rfl, fun h => h, [], by simp [set], by simp⟩
  cases i with
  | clearHandler => exact SameAccounts.refl s
  | perform => exact ⟨rfl, rfl, rfl, rfl, rfl, rfl, fun h => h, [], by simp [connectionStep,
      performed, set], by simp⟩
  | start =>
    simp only [connectionStep]
    split
    · exact ⟨rfl, rfl, rfl, rfl, rfl, rfl, fun h => h, _, rfl, by simp [IsOther]⟩
    · exact SameAccounts.refl s
  | callbackReturned =>
    simp only [connectionStep]
    split
    · exact SameAccounts.refl s
    · exact ⟨rfl, rfl, rfl, rfl, rfl, rfl, fun h => h, [], by simp [set], by simp⟩
  | checkClosing closing => exact hset _
  | connect => exact hset _
  | prepare now prepared => exact hset _
  | openReturned result => exact hset _
  | event now e => exact hset _
  | close result => exact hset _
  | send opcode payload => exact hset _

/-- A new id is added. -/
theorem Accounted.register (h : s.Accounted) (hclosing : s.closing = false)
    (c : WSConnection L P) : (s.register c).Accounted := by
  have hcount (g : Happening) (hg : Happening.created (s.nextConnId + 1) ≠ g) :
      (s.register c).trace.count g = s.trace.count g := by
    change (s.trace ++ [Happening.created (s.nextConnId + 1)]).count g = _
    rw [List.count_append, List.count_singleton, if_neg (by simpa using hg), Nat.add_zero]
  constructor
  · have htotal := h.total
    simp only [WSConnector.register, List.length_append, List.length_singleton]
    omega
  · intro id hid
    rcases List.mem_append.mp hid with hid | hid
    · exact Nat.le_succ_of_le (h.issued id hid)
    · rw [List.mem_singleton.mp hid]
      exact Nat.le_refl _
  · intro id hid
    refine Nat.le_succ_of_le (h.removedIssued id ?_)
    simpa [WSConnector.register] using hid
  · intro id
    have honce := h.once id
    rw [hcount _ (by simp)]
    change _ + (s.conns ++ [s.nextConnId + 1]).count id ≤ 1
    rw [List.count_append, List.count_singleton]
    by_cases hid : s.nextConnId + 1 = id
    · have hconns : s.conns.count id = 0 := by
        refine List.count_eq_zero_of_not_mem fun hmem => ?_
        have hle := h.issued id hmem
        omega
      have htrace : s.trace.count (.removed id) = 0 := by
        refine List.count_eq_zero_of_not_mem fun hmem => ?_
        have hle := h.removedIssued id hmem
        omega
      rw [hconns, htrace, if_pos (by simpa using hid)]
    · rw [if_neg (by simpa using hid)]
      omega
  · intro hnotified
    rw [(h.noted hnotified).1] at hclosing
    cases hclosing
  · rw [hcount _ (by simp)]
    exact h.announced

/-- A new connection is accounted for. -/
theorem Accounted.createConnection (h : s.Accounted) (config : Config) (http : L) (parser : P)
    (handler : Bool) : (s.createConnection config http parser handler).Accounted := by
  unfold WSConnector.createConnection
  split
  · exact h
  · rename_i hopen
    simp only [not_or, Bool.not_eq_true] at hopen
    exact h.register hopen.2 _

/-- `Close` frees what it removes. -/
theorem Accounted.closeLocked (h : s.Accounted) : s.closeLocked.Accounted := by
  have hlength := List.length_eq_length_filter_add (l := s.conns) s.cancels
  have hremoved (id : ℕ) : ((s.conns.filter s.cancels).map Happening.removed).count (.removed id) =
      (s.conns.filter s.cancels).count id :=
    List.count_map_of_injective _ _ (fun _ _ h => Happening.removed.inj h) id
  have hnone (g : Happening) (hg : ∀ id, g ≠ .removed id) :
      ((s.conns.filter s.cancels).map Happening.removed).count g = 0 := by
    apply List.count_eq_zero_of_not_mem
    intro hmem
    obtain ⟨id, -, rfl⟩ := List.mem_map.mp hmem
    exact hg id rfl
  constructor
  · have htotal := h.total
    simp only [WSConnector.closeLocked]
    omega
  · intro id hid
    exact h.issued id (List.mem_of_mem_filter hid)
  · intro id hid
    rcases List.mem_append.mp hid with hid | hid
    · exact h.removedIssued id hid
    · obtain ⟨id', hmem, heq⟩ := List.mem_map.mp hid
      cases heq
      exact h.issued id (List.mem_of_mem_filter hmem)
  · intro id
    have honce := h.once id
    simp only [WSConnector.closeLocked, List.count_append, hremoved]
    cases hid : s.cancels id with
    | true =>
      have hkept : (s.conns.filter fun id => ! s.cancels id).count id = 0 :=
        List.count_eq_zero_of_not_mem fun hmem => by simp [hid] at hmem
      rw [List.count_filter hid, hkept]
      omega
    | false =>
      have hgone : (s.conns.filter s.cancels).count id = 0 :=
        List.count_eq_zero_of_not_mem fun hmem => by simp [hid] at hmem
      rw [List.count_filter (p := fun id => ! s.cancels id) (by simp [hid]), hgone]
      omega
  · intro hnotified
    refine ⟨rfl, ?_⟩
    simp [WSConnector.closeLocked, (h.noted hnotified).2]
  · have hannounced := h.announced
    simp only [WSConnector.closeLocked, List.count_append, hnone .closed (by simp), Nat.add_zero]
    exact hannounced

/-- The end is announced when it has not been noted, and everything is torn down. -/
theorem Accounted.armClosed (h : s.Accounted) (hclosing : s.closing = true)
    (hnotified : s.closedNotified = false) (hconns : s.conns = []) : s.armClosed.Accounted := by
  refine ⟨h.total, h.issued, h.removedIssued, h.once, fun _ => ⟨hclosing, hconns⟩, ?_⟩
  have hannounced := h.announced
  rw [hnotified] at hannounced
  simp only [WSConnector.armClosed, if_true]
  simp only [Bool.false_eq_true, if_false] at hannounced
  omega

/-- The notice that everything is closed leaves the accounts in order. -/
theorem Accounted.notifyClosedIfDrained (h : s.Accounted) : s.notifyClosedIfDrained.Accounted := by
  unfold WSConnector.notifyClosedIfDrained
  split
  · exact h
  split
  · exact h
  rename_i hwait hconns
  simp only [not_or, not_not, Bool.not_eq_true] at hwait hconns
  rw [Bool.not_eq_false] at hwait
  split
  · refine ⟨h.total, h.issued, h.removedIssued, h.once, fun _ => ⟨hwait.2.1, hconns⟩, ?_⟩
    have hannounced := h.announced
    rw [hwait.2.2] at hannounced
    simp only [Bool.false_eq_true, if_false] at hannounced
    simp only [if_true]
    omega
  · exact h.armClosed hwait.2.1 hwait.2.2 hconns

/-- So does a connection that is taken off the map. -/
theorem Accounted.removeConn (h : s.Accounted) (id : ℕ) : (s.removeConn id).Accounted := by
  unfold WSConnector.removeConn
  split
  · rename_i hmem
    have hlength := List.length_erase_of_mem hmem
    have hpos := List.length_pos_of_mem hmem
    have hsub (id' : ℕ) (hid' : id' ∈ s.conns.erase id) : id' ∈ s.conns :=
      List.mem_of_mem_erase hid'
    constructor
    · have htotal := h.total
      simp only [hlength]
      omega
    · exact fun id' hid' => h.issued id' (hsub id' hid')
    · intro id' hid'
      rcases List.mem_append.mp hid' with hid' | hid'
      · exact h.removedIssued id' hid'
      · rw [List.mem_singleton] at hid'
        cases hid'
        exact h.issued id hmem
    · intro id'
      have honce := h.once id'
      by_cases hid' : id' = id
      · subst hid'
        have hcount := List.count_pos_iff.mpr hmem
        simp only [List.count_append, List.count_singleton, List.count_erase_self,
          BEq.rfl, if_true]
        omega
      · simp only [List.count_append, List.count_singleton, List.count_erase_of_ne hid']
        rw [if_neg (by simpa using fun h => hid' h.symm)]
        omega
    · intro hnotified
      rw [(h.noted hnotified).2] at hmem
      cases hmem
    · have hannounced := h.announced
      simpa [List.count_append] using hannounced
  · exact h

/-- So does a notice that may be due. -/
theorem Accounted.maybeNotify (h : s.Accounted) : s.maybeNotify.Accounted := by
  unfold WSConnector.maybeNotify
  split
  · rename_i hready
    exact h.armClosed hready.2.1 (by simpa using hready.2.2.1) hready.2.2.2.1
  · exact h

/-- Every step keeps the accounts balanced. -/
theorem Accounted.step (h : s.Accounted) (m : Move L P) : (s.step E m).Accounted := by
  have hsame {t : WSConnector L P} (hconns : t.conns = s.conns)
      (hnext : t.nextConnId = s.nextConnId) (halloc : t.totalAllocated = s.totalAllocated)
      (hfreed : t.totalFreed = s.totalFreed) (hclosing : t.closing = s.closing)
      (hnotified : t.closedNotified = s.closedNotified)
      (harmed : t.onClosed = .armed → s.onClosed = .armed)
      (htrace : t.trace = s.trace ∨ t.trace = s.trace ++ [.destroyed]) : t.Accounted := by
    refine h.of_same ⟨hconns, hnext, halloc, hfreed, hclosing, hnotified, harmed, ?_⟩
    rcases htrace with htrace | htrace
    · exact ⟨[], by simp [htrace], by simp⟩
    · exact ⟨_, htrace, by simp [IsOther]⟩
  have hquiet {u t : WSConnector L P} (hu : u.Accounted) (hconns : t.conns = u.conns)
      (hnext : t.nextConnId = u.nextConnId) (halloc : t.totalAllocated = u.totalAllocated)
      (hfreed : t.totalFreed = u.totalFreed) (hclosing : t.closing = u.closing)
      (hnotified : t.closedNotified = u.closedNotified) (honClosed : t.onClosed = u.onClosed)
      (htrace : t.trace = u.trace) : t.Accounted :=
    hu.of_same ⟨hconns, hnext, halloc, hfreed, hclosing, hnotified, fun h => honClosed ▸ h, [],
      by simp [htrace], by simp⟩
  cases m with
  | create handler =>
    simp only [WSConnector.step]
    split
    · exact h
    · exact hquiet h rfl rfl rfl rfl rfl rfl rfl rfl
  | createConnection config http parser handler =>
    simp only [WSConnector.step]
    split
    · exact h
    · exact h.createConnection config http parser handler
  | connection id i =>
    simp only [WSConnector.step]
    split
    · exact h.of_same (sameAccounts_connectionStep s id _ i)
    · exact h
  | close =>
    simp only [WSConnector.step]
    split
    · exact h
    · exact hquiet h.closeLocked rfl rfl rfl rfl rfl rfl rfl rfl
  | notify =>
    simp only [WSConnector.step]
    split
    · exact h
    · exact hquiet h.notifyClosedIfDrained rfl rfl rfl rfl rfl rfl rfl rfl
  | teardown id =>
    simp only [WSConnector.step]
    split
    · have htask : ({ s with tasks := s.tasks.erase id } : WSConnector L P).Accounted :=
        hquiet h rfl rfl rfl rfl rfl rfl rfl rfl
      exact (htask.removeConn id).maybeNotify
    · exact h
  | closedStart =>
    simp only [WSConnector.step]
    split
    · rename_i harmed
      refine ⟨h.total, h.issued, ?_, ?_, h.noted, ?_⟩
      · intro id hid
        exact h.removedIssued id (by simpa using hid)
      · intro id
        have honce := h.once id
        simpa [List.count_append] using honce
      · have hannounced := h.announced
        rw [if_pos harmed] at hannounced
        simpa [List.count_append] using hannounced
    · exact h
  | closedReturned =>
    simp only [WSConnector.step]
    split
    · exact hsame rfl rfl rfl rfl rfl rfl (fun h => by cases h) (Or.inl rfl)
    · exact h
  | destroy frames =>
    simp only [WSConnector.step]
    split
    · exact hquiet h.closeLocked rfl rfl rfl rfl rfl rfl rfl rfl
    · exact h
  | destroyNotify =>
    simp only [WSConnector.step]
    split
    · exact hquiet h.notifyClosedIfDrained rfl rfl rfl rfl rfl rfl rfl rfl
    · exact h
  | drained =>
    simp only [WSConnector.step]
    split
    · exact hsame rfl rfl rfl rfl rfl rfl id (Or.inr rfl)
    · exact h
  | timeout =>
    simp only [WSConnector.step]
    split
    · exact hsame rfl rfl rfl rfl rfl rfl id (Or.inl rfl)
    · exact h
  | leave =>
    simp only [WSConnector.step]
    split
    · exact hsame rfl rfl rfl rfl rfl rfl id (Or.inr rfl)
    · exact h

/-- Every run keeps the accounts balanced. -/
theorem accounted_run (moves : List (Move L P)) :
    (Runs.run (step E) (initial : WSConnector L P) moves).Accounted :=
  Runs.invariant (fun _ m h => h.step m) accounted_initial moves

/-- The notice changes neither the connections nor whether the connector closes. -/
theorem notifyClosedIfDrained_conns (s : WSConnector L P) :
    s.notifyClosedIfDrained.conns = s.conns ∧ s.notifyClosedIfDrained.closing = s.closing := by
  unfold notifyClosedIfDrained
  split
  · exact ⟨rfl, rfl⟩
  split
  · exact ⟨rfl, rfl⟩
  split <;> exact ⟨rfl, rfl⟩

/-- Taking off a connection leaves no other ones. -/
theorem removeConnAndMaybeNotify_conns (s : WSConnector L P) (id : ℕ) :
    (s.removeConnAndMaybeNotify id).conns ⊆ s.conns ∧
      (s.removeConnAndMaybeNotify id).closing = s.closing := by
  have hnotify (t : WSConnector L P) :
      t.maybeNotify.conns = t.conns ∧ t.maybeNotify.closing = t.closing := by
    unfold maybeNotify
    split <;> exact ⟨rfl, rfl⟩
  unfold removeConnAndMaybeNotify
  rw [(hnotify _).1, (hnotify _).2]
  unfold removeConn
  split
  · exact ⟨List.erase_subset, rfl⟩
  · exact ⟨List.Subset.refl _, rfl⟩

/-- Once the connector is closed, a step adds no connection, and it stays closed. -/
theorem step_conns_subset (hclosing : s.closing = true) (m : Move L P) :
    (s.step E m).conns ⊆ s.conns ∧ (s.step E m).closing = true := by
  have hsame {t : WSConnector L P} (h : t.conns = s.conns ∧ t.closing = s.closing) :
      t.conns ⊆ s.conns ∧ t.closing = true :=
    ⟨h.1 ▸ List.Subset.refl _, h.2.trans hclosing⟩
  have hclose : s.closeLocked.conns ⊆ s.conns := fun _ hid => List.mem_of_mem_filter hid
  cases m with
  | create handler =>
    simp only [step]
    split <;> exact hsame ⟨rfl, rfl⟩
  | createConnection config http parser handler =>
    simp only [step, createConnection, hclosing, or_true, if_true]
    split <;> exact hsame ⟨rfl, rfl⟩
  | connection id i =>
    simp only [step]
    split
    · rename_i c _
      have hconnection := sameAccounts_connectionStep (E := E) s id c i
      exact hsame ⟨hconnection.conns, hconnection.closing⟩
    · exact hsame ⟨rfl, rfl⟩
  | close =>
    simp only [step]
    split
    · exact hsame ⟨rfl, rfl⟩
    · exact ⟨hclose, rfl⟩
  | notify =>
    simp only [step]
    split
    · exact hsame ⟨rfl, rfl⟩
    · exact hsame (notifyClosedIfDrained_conns s)
  | teardown id =>
    simp only [step]
    split
    · have hremove := removeConnAndMaybeNotify_conns { s with tasks := s.tasks.erase id } id
      exact ⟨hremove.1, hremove.2.trans hclosing⟩
    · exact hsame ⟨rfl, rfl⟩
  | closedStart =>
    simp only [step]
    split <;> exact hsame ⟨rfl, rfl⟩
  | closedReturned =>
    simp only [step]
    split <;> exact hsame ⟨rfl, rfl⟩
  | destroy frames =>
    simp only [step]
    split
    · exact ⟨hclose, rfl⟩
    · exact hsame ⟨rfl, rfl⟩
  | destroyNotify =>
    simp only [step]
    split
    · exact hsame (notifyClosedIfDrained_conns s)
    · exact hsame ⟨rfl, rfl⟩
  | drained =>
    simp only [step]
    split <;> exact hsame ⟨rfl, rfl⟩
  | timeout =>
    simp only [step]
    split <;> exact hsame ⟨rfl, rfl⟩
  | leave =>
    simp only [step]
    split <;> exact hsame ⟨rfl, rfl⟩

/-- Once the connector is closed, no connection is ever added. -/
theorem run_conns_subset (hclosing : s.closing = true) (moves : List (Move L P)) :
    (Runs.run (step E) s moves).conns ⊆ s.conns := by
  have hrun : (Runs.run (step E) s moves).conns ⊆ s.conns ∧
      (Runs.run (step E) s moves).closing = true := by
    refine Runs.invariant (I := fun t : WSConnector L P => t.conns ⊆ s.conns ∧ t.closing = true) ?_
      ⟨List.Subset.refl _, hclosing⟩ moves
    intro t m ht
    have hstep := step_conns_subset (E := E) ht.2 m
    exact ⟨List.Subset.trans hstep.1 ht.1, hstep.2⟩
  exact hrun.1

/-- What holds of the registered connections and the counters, now and from here on. -/
structure BalancedFrom (E : Parsers L P) (s : WSConnector L P) : Prop where
  /-- What has been allocated has been freed or is registered. -/
  total : s.totalAllocated = s.totalFreed + s.conns.length
  /-- Each id is removed at most once. -/
  removedOnce : ∀ id, s.trace.count (.removed id) ≤ 1
  /-- `OnClosed` is delivered at most once. -/
  closedOnce : s.trace.count .closed ≤ 1
  /-- It is delivered only when the connector is closed and has no connections. -/
  closedDrained : .closed ∈ s.trace → s.closing = true ∧ s.conns = []
  /-- Once the connector is closed, no connection is added in any run. -/
  closedForGood : s.closing = true → ∀ moves, (Runs.run (step E) s moves).conns ⊆ s.conns

/-- In every state that is reached, the accounts are balanced. -/
theorem balanced_run (E : Parsers L P) (moves : List (Move L P)) :
    BalancedFrom E (Runs.run (step E) (initial : WSConnector L P) moves) := by
  have h := accounted_run (E := E) moves
  have hannounced := h.announced
  refine ⟨h.total, ?_, ?_, ?_, fun hclosing more => run_conns_subset hclosing more⟩
  · intro id
    have honce := h.once id
    omega
  · split at hannounced <;> split at hannounced <;> omega
  · intro hclosed
    have hpos := List.count_pos_iff.mpr hclosed
    refine h.noted ?_
    by_contra hnotified
    rw [if_neg hnotified] at hannounced
    omega

end WSConnector

end WS
