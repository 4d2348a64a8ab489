import TTSignal.Http.Told

/-!
# When the connector tells that it has closed

`OnClosed` is called at most once, after `Close`, when every request that has been accepted has
been told its outcome and its handler's call has returned. Nothing is accepted after that.
-/

namespace Http

open Tcp (BCResult)

/-- The events that change `closing` and `abandoned`. -/
def Event.Ends : Event → Prop
  | .close | .destroy | .endWait => True
  | _ => False

/-- A request is accepted or told its outcome. -/
def Action.Serves (a : Action) : Prop := a.kind = .acceptance ∨ ∃ r c o, a = .callback r c o

/-- When `OnClosed` is called, the calls of all handlers have returned. -/
def Action.Settled (before : List Action) (a : Action) : Prop :=
  a = .onClosed → ∀ r c, .accepted r c ∈ before → .callbackReturned c ∈ before

namespace HttpConnector

variable {s s' : HttpConnector} {a : Dispatches.State Dispatch Thread}

/-- A connector that is closing gets no new connections, and notes that it has told so when
there are none. -/
structure Thins (s s' : HttpConnector) : Prop where
  /-- `closing` and `abandoned` do not change. -/
  flags : s'.closing = s.closing ∧ s'.abandoned = s.abandoned
  /-- `conns`. -/
  conns : s.closing = true → s'.conns ⊆ s.conns
  /-- `destroying`. -/
  destroying : s.closing = true → s'.destroying ⊆ s.conns ∪ s.destroying
  /-- `closed_notified`. -/
  notified : s'.closedNotified = true → s.closedNotified = true ∨
    s.closing = true ∧ s.abandoned = false ∧ s'.conns = ∅ ∧ s'.destroying = ∅

/-- Once the connector closes and has no connections, none comes again. -/
theorem Thins.empty (h : s.Thins s') (hclosing : s.closing = true)
    (hempty : s.conns = ∅ ∧ s.destroying = ∅) : s'.conns = ∅ ∧ s'.destroying = ∅ := by
  have hconns := h.conns hclosing
  have hdestroying := h.destroying hclosing
  rw [hempty.1] at hconns hdestroying
  rw [hempty.2, Finset.union_empty] at hdestroying
  exact ⟨Finset.subset_empty.mp hconns, Finset.subset_empty.mp hdestroying⟩

/-- What thins out twice thins out. -/
theorem Thins.trans {s'' : HttpConnector} (h : s.Thins s') (h' : s'.Thins s'') : s.Thins s'' where
  flags := ⟨h'.flags.1.trans h.flags.1, h'.flags.2.trans h.flags.2⟩
  conns hclosing := (h'.conns (h.flags.1.trans hclosing)).trans (h.conns hclosing)
  destroying hclosing := by
    refine (h'.destroying (h.flags.1.trans hclosing)).trans ?_
    refine Finset.union_subset ((h.conns hclosing).trans Finset.subset_union_left) ?_
    exact h.destroying hclosing
  notified hnotified := by
    rcases h'.notified hnotified with hnotified | ⟨hclosing, hkept, hempty⟩
    · rcases h.notified hnotified with hnotified | ⟨hclosing, hkept, hempty⟩
      · exact .inl hnotified
      · exact .inr ⟨hclosing, hkept, h'.empty (h.flags.1.trans hclosing) hempty⟩
    · exact .inr ⟨h.flags.1.symm.trans hclosing, h.flags.2.symm.trans hkept, hempty⟩

/-- What concerns the end of the connector. -/
def face (s : HttpConnector) :=
  (s.closing, s.abandoned, s.conns, s.destroying, s.closedNotified)

/-- An equal face is as thin. -/
theorem thins_of_eq (h : s'.face = s.face) : s.Thins s' := by
  simp only [face, Prod.mk.injEq] at h
  obtain ⟨hclosing, habandoned, hconns, hdestroying, hnotified⟩ := h
  refine ⟨⟨hclosing, habandoned⟩, fun _ => ?_, fun _ => ?_, fun hs => ?_⟩
  · rw [hconns]
  · rw [hdestroying]
    exact Finset.subset_union_right
  · exact .inl (hnotified ▸ hs)

/-- A connection is made before the connector is closing. -/
theorem thins_newConnection (hclosing : s.closing = false) (r : RequestId) (ch : ChannelId) :
    s.Thins (s.newConnection r ch) := by
  refine ⟨⟨rfl, rfl⟩, fun hs => ?_, fun hs => ?_, fun hs => .inl hs⟩
  all_goals
    rw [hclosing] at hs
    cases hs

/-- A connection is forgotten. -/
theorem thins_forget (c : ConnectionId) : s.Thins (s.forget c) := by
  refine ⟨⟨rfl, rfl⟩, fun _ => Finset.erase_subset _ _, fun _ => ?_, fun hs => .inl hs⟩
  exact (Finset.erase_subset _ _).trans Finset.subset_union_right

/-- The connector notes that it tells its end. -/
theorem thins_notified (hclosing : s.closing = true) (hkept : s.abandoned = false)
    (hdrained : s.AllDrained) : s.Thins { s with closedNotified := true } := by
  refine ⟨⟨rfl, rfl⟩, fun _ => Finset.Subset.refl _, fun _ => Finset.subset_union_right, ?_⟩
  exact fun _ => .inr ⟨hclosing, hkept, hdrained.1, hdrained.2.1⟩

/-- A connection leaves. -/
theorem thins_leave (c : ConnectionId) : s.Thins (s.leave c) := by
  refine ⟨⟨rfl, rfl⟩, fun _ => Finset.erase_subset _ _, fun _ => ?_, fun hs => .inl hs⟩
  intro d hd
  simp only [leave] at hd
  split at hd
  · rename_i hmem
    rcases Finset.mem_insert.mp hd with rfl | hd
    · exact Finset.mem_union_left _ hmem
    · exact Finset.mem_union_right _ hd
  · exact Finset.mem_union_right _ hd

/-- Whatever changes before the end thins out. -/
theorem Changes.thins (h : Changes True False s s') : s.Thins s' := by
  refine h.within (thins_of_eq rfl) Thins.trans fun hchange => ?_
  cases hchange with
  | beside s' heq =>
    simp only [surface, Prod.mk.injEq] at heq
    obtain ⟨-, -, -, -, -, -, hclosing, habandoned, hconns, hdestroying, hnotified⟩ := heq
    apply thins_of_eq
    simp only [face, hclosing, habandoned, hconns, hdestroying, hnotified]
  | channel | pooled | newChannel | park | idle => exact thins_of_eq rfl
  | newConnection hclosing r ch => exact thins_newConnection hclosing r ch
  | forget c => exact thins_forget c
  | leave c => exact thins_leave c
  | notified hclosing hkept hdrained => exact thins_notified hclosing hkept hdrained
  | closeAll hq | abandon hq => exact hq.elim

/-- All other events let a closing connector get no new connections. -/
theorem thins_handle (t : Thread) {e : Event} (he : ¬ e.Ends) : s.Thins (s.handle t e) := by
  refine Changes.thins (changes_handle t (fun _ _ _ _ _ => trivial)
    (fun _ _ _ _ _ _ _ => trivial) (fun _ _ _ _ _ => trivial) ?_)
  rintro (rfl | rfl | rfl)
  all_goals exact he trivial

/-! ### Nothing is served when no connection is left -/

/-- Without connections no channel's thread is in one. -/
theorem Sound.idle_of_empty (h : s.Sound) (hconns : s.conns = ∅) (c : ConnectionId) :
    s.activity c = .idle := by
  by_contra hne
  have hmem := (h.connections c).mem_conns.mpr (.inr ((h.channels.standing c).active hne))
  rw [hconns] at hmem
  exact absurd hmem (Finset.notMem_empty c)

/-- Without connections no call of `Request` starts one. -/
theorem Sound.starting_of_empty (h : s.Sound) (hconns : s.conns = ∅) (r : RequestId) :
    (s.request r).phase.starting = none := by
  cases hstarting : (s.request r).phase.starting with
  | none => rfl
  | some c =>
    have hmem := (h.connections c).mem_conns.mpr (.inl (h.calls.starting r c hstarting).1)
    rw [hconns] at hmem
    exact absurd hmem (Finset.notMem_empty c)

/-- Without connections nothing is accepted and nobody is told anything. -/
theorem Sound.adds_of_empty (h : s.Sound) (hconns : s.conns = ∅) (t : Thread) (e : Event) :
    Adds (fun a => ¬ a.Serves) s (s.handle t e) := by
  have hother (hrecords : ¬ e.Records .acceptance ∧ ¬ e.Records .callback) :
      Adds (fun a => ¬ a.Serves) s (s.handle t e) := by
    refine (adds_handle t e).mono ?_
    rintro a ha (hkind | ⟨r, c, o, rfl⟩)
    · rw [hkind] at ha
      exact hrecords.1 ha
    · exact hrecords.2 ha
  have hreturns (x : HttpConnector) (hx : x.trace = s.trace) (r : RequestId) (result : BCResult) :
      Adds (fun a => ¬ a.Serves) s (x.returns r result) :=
    (adds_of_eq hx).trans (adds_note (by simp [Action.Serves, Action.kind]))
  cases e with
  | proceed r result =>
    have hnone := h.starting_of_empty hconns r
    simp only [HttpConnector.handle, HttpConnector.proceed]
    split
    · exact adds_of_eq rfl
    · exact adds_of_eq rfl
    · exact adds_of_eq rfl
    · unfold HttpConnector.proceedTake
      split
      · exact adds_of_eq rfl
      split <;> exact adds_of_eq rfl
    · rename_i b hphase
      cases b with
      | none =>
        simp only [HttpConnector.proceedInsert]
        split
        · exact hreturns s rfl r shuttingDown
        · exact adds_of_eq rfl
      | some p =>
        simp only [HttpConnector.proceedInsert]
        split
        · refine hreturns _ ?_ r shuttingDown
          exact trace_release _ p
        · exact adds_of_eq rfl
    · rename_i c hphase
      rw [hphase] at hnone
      cases hnone
    · rename_i c p hphase
      rw [hphase] at hnone
      cases hnone
    · rename_i c p hphase
      rw [hphase] at hnone
      cases hnone
    · exact adds_of_eq (trace_release s _)
    · rename_i c k hphase
      rw [hphase] at hnone
      cases hnone
    · exact adds_of_eq (trace_release _ _)
    · split
      · exact hreturns s rfl r shuttingDown
      · exact adds_of_eq rfl
    · split
      · exact hreturns _ (trace_cancel s _) r .success
      · exact hreturns s rfl r .success
  | resume c result =>
    simp only [HttpConnector.handle, HttpConnector.resume, h.idle_of_empty hconns c]
    exact adds_of_eq rfl
  | _ => exact hother (by simp [Event.Records])

/-! ### Runs -/

/-- The end of the connector is told when everything else has been told. -/
structure Quieted (s : HttpConnector) : Prop where
  /-- `Close` has been called. -/
  called : s.closing = true → .closeCalled ∈ s.trace
  /-- No connection is left. -/
  notified : s.closedNotified = true → s.closing = true ∧ s.conns = ∅ ∧ s.destroying = ∅
  /-- The calls of all handlers have returned. -/
  told : s.closedNotified = true → ∀ r c, .accepted r c ∈ s.trace → .callbackReturned c ∈ s.trace
  /-- `OnClosed` is called after `Close`. -/
  preceded : Traces.Preceded (fun a => a = .onClosed) (fun a => a = .closeCalled) s.trace
  /-- It is called when the calls of all handlers have returned. -/
  settled : Traces.Justified Action.Settled s.trace
  /-- Nothing is served after it. -/
  last : Traces.NoneAfter (fun a => a = .onClosed) Action.Serves s.trace

/-- `OnClosed` is called after the connector has noted that it does so. -/
theorem Counted.notified_of_mem (h : s.Counted a) (hmem : .onClosed ∈ s.trace) :
    s.closedNotified = true := by
  have hpos := List.count_pos_iff.mpr hmem
  rw [h.noticing.began, h.coherent.began] at hpos
  rw [← Bool.not_eq_false, ← h.noticing.waiting]
  intro hwaiting
  rw [hwaiting] at hpos
  exact absurd hpos (Nat.lt_irrefl 0)

/-- Somebody who is about to call `OnClosed` has noted that it does so. -/
theorem Counted.notified_of_armed (h : s.Counted a) {w : Work} {t : Thread} (hmem : w ∈ s.works)
    (hw : w.armedOn = some t) : s.closedNotified = true := by
  have hstage := h.noticing.stage_armed hmem hw
  rw [← Bool.not_eq_false, ← h.noticing.waiting, hstage]
  simp

/-- Other actions are recorded. -/
theorem Quieted.of_adds (h : s.Quieted) (hcounted : s.Counted a)
    (hcalled : s'.closing = true → .closeCalled ∈ s'.trace)
    (hnotified : s'.closedNotified = true → s'.closing = true ∧ s'.conns = ∅ ∧ s'.destroying = ∅)
    (htold : s'.closedNotified = true → ∀ r c, .accepted r c ∈ s'.trace →
      .callbackReturned c ∈ s'.trace)
    (hserves : s.closedNotified = true → Adds (fun a => ¬ a.Serves) s s')
    (hadds : Adds (fun a => a ≠ .onClosed) s s') : s'.Quieted := by
  obtain ⟨new, htrace, hnew⟩ := hadds
  have hquiet : s.closedNotified = true → ∀ b ∈ new, ¬ b.Serves := by
    intro hs
    obtain ⟨new', htrace', hnew'⟩ := hserves hs
    rw [htrace] at htrace'
    rw [List.append_cancel_left htrace']
    exact hnew'
  refine ⟨hcalled, hnotified, htold, ?_, ?_, ?_⟩
  · rw [htrace]
    exact h.preceded.append hnew
  · rw [htrace]
    exact h.settled.append fun b hb before hclosed => absurd hclosed (hnew b hb)
  · rw [htrace]
    refine h.last.append hnew fun b hb hclosed => ?_
    subst hclosed
    exact hquiet (hcounted.notified_of_mem hb)

/-- Once the connector has noted that it tells its end, the calls of all handlers have
returned. -/
theorem Counted.told_of_empty (h : s.Counted a) (hsound : s.Sound) (hrecalled : s.Recalled)
    (hempty : s.conns = ∅ ∧ s.destroying = ∅) (hkept : s.abandoned = false) (r : RequestId)
    (c : ConnectionId) (hmem : .accepted r c ∈ s.trace) : .callbackReturned c ∈ s.trace := by
  have hover : (s.stage c).Over := by
    rcases ((hrecalled.accepted r c).mp hmem).1 with hstage | hstage
    · have hmem := (hsound.connections c).mem_conns.mpr (.inr hstage)
      rw [hempty.1] at hmem
      exact absurd hmem (Finset.notMem_empty c)
    · exact hstage
  have hstage := h.over_of_deleted hsound hover hkept
  have hended := (h.telling c).ended
  rw [h.coherent.ended, hstage] at hended
  apply List.count_pos_iff.mp
  rw [hended]
  exact Nat.one_pos

/-- `Close` is called. -/
theorem Quieted.close (h : s.Quieted) (hcounted : s.Counted a) (k : Cont) :
    (s.close k).Quieted := by
  refine h.of_adds hcounted (fun _ => ?_) (fun hs => ?_) (fun hs r c hmem => ?_) (fun _ => ?_) ?_
  · exact List.mem_append_right _ (List.mem_singleton.mpr rfl)
  · exact ⟨rfl, (h.notified hs).2⟩
  · rcases List.mem_append.mp hmem with hmem | hmem
    · exact List.mem_append_left _ (h.told hs r c hmem)
    · simp at hmem
  · exact Adds.of_eq (adds_note (a := .closeCalled) (by simp [Action.Serves, Action.kind])) rfl
  · exact Adds.of_eq (adds_note (a := .closeCalled) (by simp)) rfl

/-- Something that concerns neither connections nor the end is recorded. -/
theorem Quieted.of_face (h : s.Quieted) (hcounted : s.Counted a)
    (hface : (s'.closing, s'.conns, s'.destroying, s'.closedNotified) =
      (s.closing, s.conns, s.destroying, s.closedNotified))
    (hadds : Adds (fun a => ¬ a.Serves ∧ a ≠ .onClosed) s s') : s'.Quieted := by
  simp only [Prod.mk.injEq] at hface
  obtain ⟨hclosing, hconns, hdestroying, hnotified⟩ := hface
  have hserves := hadds.mono fun a ha => ha.1
  obtain ⟨new, htrace, hnew⟩ := hadds
  refine h.of_adds hcounted ?_ ?_ ?_ (fun _ => hserves) ⟨new, htrace, fun a ha => (hnew a ha).2⟩
  · intro hs
    rw [htrace]
    exact List.mem_append_left _ (h.called (hclosing ▸ hs))
  · rw [hclosing, hconns, hdestroying, hnotified]
    exact h.notified
  · intro hs r c hmem
    rw [htrace] at hmem ⊢
    rcases List.mem_append.mp hmem with hmem | hmem
    · exact List.mem_append_left _ (h.told (hnotified ▸ hs) r c hmem)
    · exact absurd (.inl rfl) (hnew _ hmem).1

/-- `OnClosed` is called. -/
theorem Quieted.onClosed (h : s.Quieted) (hnotified : s.closedNotified = true) :
    (s.note .onClosed).Quieted := by
  have hclosing := (h.notified hnotified).1
  refine ⟨fun hs => ?_, h.notified, fun hs r c hmem => ?_, ?_, ?_, ?_⟩
  · exact List.mem_append_left _ (h.called hs)
  · rcases List.mem_append.mp hmem with hmem | hmem
    · exact List.mem_append_left _ (h.told hs r c hmem)
    · simp at hmem
  · exact h.preceded.concat fun _ => ⟨_, h.called hclosing, rfl⟩
  · exact h.settled.concat fun _ r c hmem => h.told hnotified r c hmem
  · exact h.last.concat_other (by simp [Action.Serves, Action.kind])

/-- Every step tells the end of the connector when everything else has been told. -/
theorem Quieted.step (h : s.Quieted) (hsound : s.Sound) (hcounted : s.Counted a)
    {a' : Dispatches.State Dispatch Thread} (e : Thread × Event) (hsound' : (s.step e).Sound)
    (hcounted' : (s.step e).Counted a') (hrecalled' : (s.step e).Recalled) :
    (s.step e).Quieted := by
  revert hsound' hcounted' hrecalled'
  unfold HttpConnector.step
  split
  · exact fun _ _ _ => h
  obtain ⟨t, e⟩ := e
  intro hsound' hcounted' hrecalled'
  by_cases hends : e.Ends
  · cases e with
    | close =>
      simp only [HttpConnector.handle]
      split
      · exact h.close hcounted .done
      · exact h
    | destroy =>
      simp only [HttpConnector.handle, HttpConnector.destroy]
      split
      · have hset : Quieted { s with destructor := .closing t } :=
          h.of_face hcounted rfl (adds_of_eq rfl)
        have hcount : Counted { s with destructor := .closing t } a :=
          hcounted.calm (calm_of_eq rfl)
        exact hset.close hcount .destructor
      · exact h
    | endWait =>
      simp only [HttpConnector.handle, HttpConnector.endWait]
      split
      · split
        · exact h.of_face hcounted rfl (adds_note (by simp [Action.Serves, Action.kind]))
        · exact h.of_face hcounted rfl (adds_of_eq rfl)
      · exact h
    | _ => exact hends.elim
  have hthins := thins_handle (s := s) t hends
  by_cases htells : ∃ t' k, e = .work (.onClosed t' k)
  · obtain ⟨t', k, rfl⟩ := htells
    simp only [HttpConnector.handle]
    split
    · rename_i hmay
      have hnotified := hcounted.notified_of_armed hmay.1 rfl
      have hcount : (s.note .onClosed).Quieted := h.onClosed hnotified
      obtain ⟨h1, h2, h3, h4, h5, h6⟩ := hcount
      exact ⟨h1, h2, h3, h4, h5, h6⟩
    · exact h
  · have hadds : Adds (fun a => a ≠ .onClosed) s (s.handle t e) := by
      refine (adds_handle t e).mono ?_
      rintro a ha rfl
      refine htells ?_
      cases e with
      | work w =>
        simp only [Event.Records, Action.kind] at ha
        rcases ha with ⟨-, t', k, rfl⟩ | ha | ha
        · exact ⟨t', k, rfl⟩
        · cases ha
        · cases ha
      | _ => simp [Event.Records, Action.kind] at ha
    have hserves (hs : s.closedNotified = true) : Adds (fun a => ¬ a.Serves) s (s.handle t e) :=
      hsound.adds_of_empty (h.notified hs).2.1 t e
    refine h.of_adds hcounted ?_ ?_ ?_ hserves hadds
    · intro hs
      obtain ⟨new, htrace, -⟩ := hadds
      rw [htrace]
      exact List.mem_append_left _ (h.called (hthins.flags.1 ▸ hs))
    · intro hs
      rcases hthins.notified hs with hold | ⟨hclosing, -, hempty⟩
      · obtain ⟨hclosing, hempty⟩ := h.notified hold
        exact ⟨hthins.flags.1.trans hclosing, hthins.empty hclosing hempty⟩
      · exact ⟨hthins.flags.1.trans hclosing, hempty⟩
    · intro hs r c hmem
      rcases hthins.notified hs with hold | ⟨-, hkept, hempty⟩
      · obtain ⟨new, htrace, hnew⟩ := hserves hold
        rw [htrace] at hmem ⊢
        rcases List.mem_append.mp hmem with hmem | hmem
        · exact List.mem_append_left _ (h.told hold r c hmem)
        · exact absurd (.inl rfl) (hnew _ hmem)
      · exact hcounted'.told_of_empty hsound' hrecalled' hempty (hthins.flags.2.trans hkept) r c
          hmem

/-- In the beginning nothing is quieted yet. -/
theorem quieted_create (maxIdlePerKey : ℕ) (handler logSink : Bool) :
    (create maxIdlePerKey handler logSink).Quieted := by
  refine ⟨?_, ?_, ?_, Traces.preceded_nil, Traces.justified_nil, Traces.noneAfter_nil⟩
  all_goals simp [create]

/-- Everything that is known about a run. -/
theorem quieted_run (maxIdlePerKey : ℕ) (handler logSink : Bool)
    (events : List (Thread × Event)) :
    (Runs.run step (create maxIdlePerKey handler logSink) events).Quieted := by
  have hstep : ∀ (s : HttpConnector) (a : Dispatches.State Dispatch Thread) (e : Thread × Event),
      s.Sound ∧ s.Recalled ∧ s.Counted a ∧ s.Quieted →
        ∃ a', Relation.ReflTransGen (Dispatches.Step e.1) a a' ∧ (s.step e).Sound ∧
          (s.step e).Recalled ∧ (s.step e).Counted a' ∧ (s.step e).Quieted := by
    rintro s a e ⟨hsound, hrecalled, hcounted, hquieted⟩
    obtain ⟨a', hreach, hnext⟩ := hsound.advances_step e a hcounted
    have hsound' := hsound.step e
    have hrecalled' := hrecalled.step hsound e
    exact ⟨a', hreach, hsound', hrecalled', hnext,
      hquieted.step hsound hcounted e hsound' hnext hrecalled'⟩
  obtain ⟨a, -, -, -, -, hquieted⟩ := Runs.exists_followed hstep
    ⟨sound_create maxIdlePerKey handler logSink, recalled_create maxIdlePerKey handler logSink,
      counted_create maxIdlePerKey handler logSink,
      quieted_create maxIdlePerKey handler logSink⟩ events
  exact hquieted

/-- `OnClosed` is the last thing that the connector tells. -/
structure TellsEnd (s : HttpConnector) : Prop where
  /-- It is called at most once. -/
  once : s.trace.count .onClosed ≤ 1
  /-- It is called after `Close`. -/
  closed : Traces.Preceded (fun a => a = .onClosed) (fun a => a = .closeCalled) s.trace
  /-- When it is called, the handlers of all requests that have been accepted have returned. -/
  settled : Traces.Justified Action.Settled s.trace
  /-- After it no request is accepted and no handler is called. -/
  last : Traces.NoneAfter (fun a => a = .onClosed) Action.Serves s.trace

/-- Whatever the threads of a connector do: `OnClosed` is called at most once, after `Close`, when
the handler of every request that has been accepted has been called and has returned; no request
is accepted and no handler called after it. -/
theorem tellsEnd_run (maxIdlePerKey : ℕ) (handler logSink : Bool)
    (events : List (Thread × Event)) :
    (Runs.run step (create maxIdlePerKey handler logSink) events).TellsEnd := by
  obtain ⟨a, -, hcounted⟩ := counted_run maxIdlePerKey handler logSink events
  have h := quieted_run maxIdlePerKey handler logSink events
  refine ⟨?_, h.preceded, h.settled, h.last⟩
  rw [hcounted.noticing.began]
  exact hcounted.coherent.began_le_one _

end HttpConnector

end Http
