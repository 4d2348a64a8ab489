import TTSignal.Http.Notice

/-!
# What keeps the end of a connector from being forgotten

A connector that is closing tells its end when nothing is left. Until then something is left,
or somebody is still going to look: what keeps a connector waiting is removed together with a
look at whether it was the last thing. The exception is a pooled channel that a call of
`Request` has taken; it is outside the pool and will be closed or taken over.
-/

namespace Http

open Tcp (BCResult)

/-- A thread leaves this work behind. -/
def Work.LeftBy (t : Thread) (w : Work) : Prop :=
  (w.armedOn = none ∨ w.armedOn = some t) ∧ w.cont ≠ .destructor

namespace HttpConnector

variable {s s' : HttpConnector} {t : Thread}

/-- The connector will not decide any more to call `OnClosed`. -/
def Quits (s : HttpConnector) : Prop :=
  s.abandoned = true ∨ s.handler = false ∨ s.closedNotified = true

/-- Something is left, or the end has been told. -/
def Pends (s : HttpConnector) : Prop := s.Quits ∨ ¬ s.AllDrained

/-- The same, up to a pooled channel outside the pool. -/
def Awaits (s : HttpConnector) : Prop := s.Pends ∨ ∃ p, s.pooledStage p = .loose

/-- What concerns neither what is left nor the destructor stays as it is. -/
structure Moves (t : Thread) (s s' : HttpConnector) : Prop where
  /-- `closing`. -/
  closing : s.closing = true → s'.closing = true
  /-- The end is told once. -/
  quits : s.Quits → s'.Quits
  /-- What is to be done. -/
  works : ∃ new, s'.works = new ++ s.works ∧ ∀ w ∈ new, Work.LeftBy t w
  /-- The destructor. -/
  destructor : s'.destructor = s.destructor
  /-- The log sink. -/
  sink : s'.logSink = s.logSink
  /-- The handlers that have been cleared. -/
  handler : s.closing = true → ∀ c, (s.connection c).handler = false →
    (s'.connection c).handler = false

/-- Nothing that a closing connector waits for is forgotten. -/
structure Carries (t : Thread) (s s' : HttpConnector) : Prop extends s.Moves t s' where
  /-- What is left. -/
  pends : s.closing = true → s.Pends → s'.Pends
  /-- The pooled channels outside the pool. -/
  loose : s.closing = true → ∀ p, s.pooledStage p = .loose → s'.Awaits

/-- Two moves are one. -/
theorem Moves.trans {s'' : HttpConnector} (h : s.Moves t s') (h' : s'.Moves t s'') :
    s.Moves t s'' where
  closing hs := h'.closing (h.closing hs)
  quits hs := h'.quits (h.quits hs)
  works := by
    obtain ⟨new, hworks, hnew⟩ := h.works
    obtain ⟨new', hworks', hnew'⟩ := h'.works
    refine ⟨new' ++ new, by rw [hworks', hworks, List.append_assoc], fun w hw => ?_⟩
    rcases List.mem_append.mp hw with hw | hw
    · exact hnew' w hw
    · exact hnew w hw
  destructor := h'.destructor.trans h.destructor
  sink := h'.sink.trans h.sink
  handler hs c hc := h'.handler (h.closing hs) c (h.handler hs c hc)

/-- What is left at the end is enough. -/
theorem Moves.carries (h : s.Moves t s') (hpends : s'.closing = true → s'.Pends) :
    s.Carries t s' :=
  { h with
    pends := fun hs _ => hpends (h.closing hs)
    loose := fun hs _ _ => .inl (hpends (h.closing hs)) }

/-- What is carried on twice is carried on. -/
theorem Carries.trans {s'' : HttpConnector} (h : s.Carries t s') (h' : s'.Carries t s'') :
    s.Carries t s'' :=
  { h.toMoves.trans h'.toMoves with
    pends := fun hs hp => h'.pends (h.closing hs) (h.pends hs hp)
    loose := fun hs p hp => by
      rcases h.loose hs p hp with hpends | ⟨q, hq⟩
      · exact .inl (h'.pends (h.closing hs) hpends)
      · exact h'.loose (h.closing hs) q hq }

/-- Whatever is left stays so. -/
theorem Carries.awaits (h : s.Carries t s') (hclosing : s.closing = true) (hs : s.Awaits) :
    s'.Awaits := by
  rcases hs with hpends | ⟨p, hp⟩
  · exact .inl (h.pends hclosing hpends)
  · exact h.loose hclosing p hp

/-- What concerns the end of the connector, its pool, its works and its handlers. -/
def front (s : HttpConnector) :=
  (s.face, s.handler, s.idle, s.idleDestroying, s.pooledStage, s.works, s.destructor, s.logSink,
    fun c => (s.connection c).handler)

/-- An equal front is carried on. -/
theorem carries_of_eq (h : s'.front = s.front) : s.Carries t s' := by
  simp only [front, face, Prod.mk.injEq] at h
  obtain ⟨⟨hclosing, habandoned, hconns, hdestroying, hnotified⟩, hhandler, hidle, hcount, hstage,
    hworks, hdestructor, hsink, hhandlers⟩ := h
  have hpends : s'.Pends ↔ s.Pends := by
    unfold Pends Quits HttpConnectorState.AllDrained
    rw [habandoned, hhandler, hnotified, hconns, hdestroying, hidle, hcount]
  refine ⟨⟨fun hs => hclosing.trans hs, fun hs => ?_, ⟨[], hworks, by simp⟩, hdestructor, hsink,
    ?_⟩, fun _ => hpends.mpr, fun _ p hp => .inr ⟨p, hstage ▸ hp⟩⟩
  · unfold Quits
    rwa [habandoned, hhandler, hnotified]
  · exact fun _ c hc => (congrFun hhandlers c).trans hc

/-- What comes behind with the same front carries it on. -/
theorem Carries.then {x : HttpConnector} (h : s.Carries t x) (heq : s'.front = x.front) :
    s.Carries t s' :=
  h.trans (carries_of_eq heq)

/-- What comes before with the same front carries it on. -/
theorem Carries.after {x : HttpConnector} (h : x.Carries t s') (heq : x.front = s.front) :
    s.Carries t s' :=
  (carries_of_eq heq).trans h

/-- A connection changes and keeps its handler. -/
theorem carries_setConnection {c : ConnectionId} {x : HttpConnection}
    (hx : x.handler = (s.connection c).handler) : s.Carries t (s.setConnection c x) := by
  have hsame : s.Carries t s := carries_of_eq rfl
  refine { hsame with handler := fun _ d hd => ?_ }
  simp only [setConnection, Function.update_apply]
  split
  · subst d
    rw [hx, hd]
  · exact hd

/-- Something is to be done. -/
theorem carries_post {w : Work} (hw : w.LeftBy t) : s.Carries t (s.post w) := by
  have hsame : s.Carries t s := carries_of_eq rfl
  refine { hsame with works := ⟨[w], rfl, ?_⟩ }
  simpa using hw

/-- A connection is made before the connector is closing. -/
theorem carries_newConnection (hclosing : s.closing = false) (r : RequestId) (ch : ChannelId) :
    s.Carries t (s.newConnection r ch) := by
  have hnot (hs : s.closing = true) : False := by
    rw [hclosing] at hs
    cases hs
  exact ⟨⟨fun hs => hs, fun hs => hs, ⟨[], rfl, by simp⟩, rfl, rfl, fun hs => (hnot hs).elim⟩,
    fun hs => (hnot hs).elim, fun hs => (hnot hs).elim⟩

/-! ### Looks at whether anything is left -/

/-- Forgetting a connection moves on. -/
theorem moves_forget (c : ConnectionId) : s.Moves t (s.forget c) :=
  ⟨fun hs => hs, fun hs => hs, ⟨[], rfl, by simp⟩, rfl, rfl, fun _ _ hc => hc⟩

/-- What is left of a call carries on, unless it is the destructor's. -/
theorem carries_goOn {k : Cont} (hk : k ≠ .destructor) : s.Carries t (s.goOn k) := by
  cases k with
  | done => exact carries_of_eq rfl
  | request r k => cases k <;> exact carries_of_eq rfl
  | destructor => exact absurd rfl hk

/-- The connector notes that it tells its end. -/
theorem moves_notified : s.Moves t { s with closedNotified := true } :=
  ⟨fun hs => hs, fun _ => .inr (.inr rfl), ⟨[], rfl, by simp⟩, rfl, rfl, fun _ _ hc => hc⟩

/-- The notice that has been given carries on. -/
theorem carries_notified : s.Carries t { s with closedNotified := true } :=
  moves_notified.carries fun _ => .inl (.inr (.inr rfl))

/-- The call of `OnClosed` is prepared. -/
theorem carries_armOnClosed {k : Cont} (hk : k ≠ .destructor) :
    s.Carries t ((armLocked { s with closedNotified := true } t .closed).post (.onClosed t k)) := by
  have harmed : s.Carries t (armLocked { s with closedNotified := true } t .closed) :=
    carries_notified.then rfl
  exact harmed.trans (carries_post ⟨.inr rfl, hk⟩)

/-- If a closing connector does not call `OnClosed`, something is left. -/
theorem pends_of_not_mustNotify (hclosing : s.closing = true) (hmust : ¬ s.MustNotify) :
    s.Pends := by
  unfold Pends Quits
  by_contra hnot
  simp only [not_or, not_not] at hnot
  obtain ⟨⟨hkept, hhandler, hnotified⟩, hdrained⟩ := hnot
  refine hmust ⟨?_, hclosing, ?_, hdrained, ?_⟩
  · simpa using hkept
  · simpa using hnotified
  · simpa using hhandler

/-- A notice, or what goes on instead, carries on. -/
theorem carries_notifyOr {k : Cont} (hk : k ≠ .destructor) : s.Carries t (s.notifyOr t k) := by
  unfold HttpConnector.notifyOr
  split
  · exact carries_armOnClosed hk
  · exact carries_goOn hk

/-- After one of the last things has been removed, something is left or the end is told. -/
theorem Moves.notifyOr {x : HttpConnector} (h : s.Moves t x) {k : Cont} (hk : k ≠ .destructor) :
    s.Carries t (x.notifyOr t k) := by
  refine (h.trans (carries_notifyOr hk).toMoves).carries ?_
  unfold HttpConnector.notifyOr
  split
  · exact fun _ => .inl (.inr (.inr rfl))
  · rename_i hmust
    intro hclosing
    have hgone : x.Carries t (x.goOn k) := carries_goOn hk
    have hx : x.closing = true := by
      rwa [← (changes_goOn (s := x) k).thins.flags.1]
    exact hgone.pends hx (pends_of_not_mustNotify hx hmust)

/-- So does the notice that everything is closed. -/
theorem carries_notifyClosedIfDrained {k : Cont} (hk : k ≠ .destructor) :
    s.Carries t (s.notifyClosedIfDrained t k) := by
  unfold HttpConnector.notifyClosedIfDrained
  split
  · exact carries_goOn hk
  split
  · exact carries_goOn hk
  split
  · exact carries_notified.trans (carries_goOn hk)
  · exact carries_armOnClosed hk

/-! ### Steps -/

/-- So does delivering once. -/
theorem carries_deliverOnce (c : ConnectionId) (ch : ChannelId) (u : Thread)
    (closeResult : BCResult) (finishes : Bool) (next : Next) :
    s.Carries t (s.deliverOnce c ch u closeResult finishes next) := by
  have hset : s.Carries t
      (s.setConnection c (deliver (s.connection c) closeResult finishes)) :=
    carries_setConnection rfl
  unfold HttpConnector.deliverOnce
  split
  · exact carries_of_eq rfl
  split
  · exact hset.then rfl
  · exact hset.then rfl

/-- So do updates in place. -/
theorem Updates.carries {d : Prop} (h : Updates d s s') : s.Carries t s' := by
  refine h.within (carries_of_eq rfl) Carries.trans fun hupdate => ?_
  cases hupdate with
  | channel | note | logging | dnsWorkers => exact carries_of_eq rfl
  | connection c x _ _ hhandler => exact carries_setConnection hhandler
  | deliverOnce _ c ch u closeResult finishes next =>
    exact carries_deliverOnce c ch u closeResult finishes next

/-! ### The pool -/

/-- So does a destruction that is scheduled. -/
theorem carries_scheduleDestroy (p : PooledId) (terminal : Terminal) :
    s.Carries t (s.scheduleDestroy p terminal) := by
  cases terminal with
  | none => exact carries_of_eq rfl
  | closed => exact carries_post ⟨.inl rfl, by simp [Work.cont]⟩
  | detached => exact carries_post ⟨.inl rfl, by simp [Work.cont]⟩

/-- So does the release of a pooled channel. -/
theorem carries_release (p : PooledId) : s.Carries t (s.release p) := by
  have hset : s.Carries t (s.setPooled p { s.pooled p with held := false }) := carries_of_eq rfl
  exact hset.trans (carries_scheduleDestroy p _)

/-- A pooled channel whose channel has closed is left until it has been deleted. -/
theorem carries_onPooledClosed (p : PooledId) : s.Carries t (s.onPooledClosed p) := by
  have hcounted : s.Moves t (setPooledStage
      { s with
        idle := s.idle.erase ((s.pooled p).key, p)
        idleDestroying := s.idleDestroying + 1 } p .closed) :=
    ⟨fun hs => hs, fun hs => hs, ⟨[], rfl, by simp⟩, rfl, rfl, fun _ _ hc => hc⟩
  have hclosed : s.Carries t (setPooledStage
      { s with
        idle := s.idle.erase ((s.pooled p).key, p)
        idleDestroying := s.idleDestroying + 1 } p .closed) := by
    refine hcounted.carries fun _ => .inr ?_
    rintro ⟨-, -, -, hzero⟩
    exact absurd hzero (Nat.succ_ne_zero _)
  unfold HttpConnector.onPooledClosed
  split
  · exact hclosed.then rfl
  · exact hclosed.trans (carries_scheduleDestroy p .closed)

/-- A pooled channel comes further, with something left. -/
theorem carries_setPooledStage {p : PooledId} {stage : PooledStage}
    (hleft : s.closing = true → s.pooledStage p = .loose → ¬ s.AllDrained) :
    s.Carries t (s.setPooledStage p stage) := by
  refine ⟨⟨fun hs => hs, fun hs => hs, ⟨[], rfl, by simp⟩, rfl, rfl, fun _ _ hc => hc⟩,
    fun _ hs => hs, fun hclosing q hq => ?_⟩
  by_cases hqp : q = p
  · subst hqp
    exact .inl (.inr (hleft hclosing hq))
  · refine .inr ⟨q, ?_⟩
    simp only [setPooledStage, Function.update_apply, if_neg hqp]
    exact hq

/-- So does its detachment, while something is left. -/
theorem carries_onPooledDetached {p : PooledId} (hleft : ¬ s.AllDrained) :
    s.Carries t (s.onPooledDetached p) := by
  have hset : s.Carries t (s.setPooledStage p .detached) :=
    carries_setPooledStage fun _ _ => hleft
  unfold HttpConnector.onPooledDetached
  split
  · exact hset.then rfl
  · exact hset.trans (carries_scheduleDestroy p .detached)

/-- The connection that takes a channel over is left. -/
theorem Sound.carries_onAdopt (h : s.Sound) (ch : ChannelId) (failure : Option BCResult) :
    s.Carries t (s.onAdopt ch failure) := by
  have hsame : s.Carries t s := carries_of_eq rfl
  unfold HttpConnector.onAdopt
  split
  · exact hsame
  rename_i c rest hadopts
  split
  · exact hsame
  split
  · have hserving := (h.channels.adopting hadopts).2.1.1
    have hleft : ¬ (s.adopted ch c rest).AllDrained := by
      rintro ⟨hconns, -⟩
      have hmem := (h.connections c).mem_conns.mpr (.inr hserving)
      rw [show s.conns = ∅ from hconns] at hmem
      exact absurd hmem (Finset.notMem_empty c)
    have hadopted : s.Carries t (s.adopted ch c rest) := carries_of_eq rfl
    unfold HttpConnector.takeOver
    split
    · exact (hadopted.trans (carries_onPooledDetached hleft)).trans
        (updates_onChannelReady c failure).carries
    · exact hadopted.trans (updates_onChannelReady c failure).carries
  · have hset : s.Carries t (s.setConnection c
        { s.connection c with channel := some s.nextChannel }) := carries_setConnection rfl
    exact hset.then rfl

/-- So does the end of a channel. -/
theorem carries_onClosed (ch : ChannelId) (u : Thread) (result : BCResult) (finishes : Bool) :
    s.Carries t (s.onClosed ch u result finishes) := by
  have hset : s.Carries t (s.setChannel ch { s.channel ch with state := .closed }) :=
    carries_of_eq rfl
  unfold HttpConnector.onClosed
  split
  · split
    · exact hset.trans ((carries_deliverOnce _ ch u result finishes .detach).after rfl)
    · exact hset.trans (carries_onPooledClosed _)
    · exact hset
  · exact carries_of_eq rfl

/-- Once the connector is closing a channel is parked outside the pool. -/
theorem carries_returnToPool (c : ConnectionId) (ch : ChannelId) :
    s.Carries t (s.returnToPool c ch) := by
  have hset : s.Carries t (s.setConnection c { s.connection c with channel := none }) :=
    carries_setConnection rfl
  unfold HttpConnector.returnToPool
  split
  · rename_i hroom
    have hnot (hs : s.closing = true) : False := by
      rw [hroom.1] at hs
      cases hs
    exact ⟨⟨fun hs => hs, fun hs => hs, ⟨[], rfl, by simp⟩, rfl, rfl, fun hs => (hnot hs).elim⟩,
      fun hs => (hnot hs).elim, fun hs => (hnot hs).elim⟩
  · refine hset.trans ⟨⟨fun hs => hs, fun hs => hs, ⟨[], rfl, by simp⟩, rfl, rfl, fun _ _ hc => hc⟩,
      fun _ hs => hs, fun _ p hp => .inr ⟨p, ?_⟩⟩
    simp only [setActivity, setConnection, closeChannel, setChannel, park, Function.update_apply]
    split
    · rfl
    · exact hp

/-- A connection that leaves is left until it has been deleted. -/
theorem carries_detachAndScheduleDestroy (c : ConnectionId) (ch : ChannelId) :
    s.Carries t (s.detachAndScheduleDestroy c ch) := by
  have hleft : s.Carries t
      { s with
        conns := s.conns.erase c
        destroying := if c ∈ s.conns then insert c s.destroying else s.destroying } := by
    refine ⟨⟨fun hs => hs, fun hs => hs, ⟨[], rfl, by simp⟩, rfl, rfl, fun _ _ hc => hc⟩,
      fun _ hs => ?_, fun _ p hp => .inr ⟨p, hp⟩⟩
    rcases hs with hquits | hnot
    · exact .inl hquits
    · refine .inr fun hdrained => hnot ?_
      obtain ⟨hconns, hdestroying, hidle, hcount⟩ := hdrained
      have hmem : c ∉ s.conns := by
        intro hmem
        rw [if_pos hmem] at hdestroying
        exact absurd hdestroying (Finset.insert_ne_empty c _)
      refine ⟨?_, ?_, hidle, hcount⟩
      · rwa [Finset.erase_eq_of_notMem hmem] at hconns
      · simpa [hmem] using hdestroying
  have hposted := hleft.trans (carries_post (w := .deleteConnection c)
    ⟨.inl rfl, by simp [Work.cont]⟩)
  exact hposted.then rfl

/-- So does the rest of a connection's call. -/
theorem carries_resume (c : ConnectionId) (u : Thread) (result : BCResult) :
    s.Carries t (s.resume c u result) := by
  unfold HttpConnector.resume
  split
  · exact carries_of_eq rfl
  · split <;> exact carries_of_eq rfl
  · split <;> exact carries_of_eq rfl
  · exact carries_returnToPool c _
  · exact carries_detachAndScheduleDestroy c _
  · rename_i ch closing hactivity
    have hfailed (x : BCResult) : s.Carries t (s.setFailResult c x) := carries_setConnection rfl
    unfold HttpConnector.openFresh
    split
    · exact (hfailed shuttingDown).trans (carries_deliverOnce c _ u shuttingDown false .detach)
    split
    · exact (hfailed result).trans (carries_deliverOnce c _ u result false .detach)
    split
    · exact carries_of_eq rfl
    · rename_i fresh hfresh
      have hopened : s.Carries t (((s.opened fresh c).setActivity c .idle).setInside ch none) :=
        carries_of_eq rfl
      exact hopened.trans (carries_post ⟨.inl rfl, by simp [Work.cont]⟩)

/-! ### `Request` and posted tasks -/

/-- So does a fresh connection, before the close. -/
theorem carries_newFreshConnection (hclosing : s.closing = false) (r : RequestId) :
    s.Carries t (s.newFreshConnection r) :=
  (carries_newConnection (s := s.newChannel s.nextConnection) hclosing r s.nextChannel).after rfl

/-- A connection is forgotten, and its deletion may tell the end. -/
theorem carries_proceedDetach (r : RequestId) (c : ConnectionId) (k : After) :
    s.Carries t (s.proceedDetach r c k t) := by
  have harmed : s.Carries t ((s.forget c).armClosed t) := by
    unfold HttpConnector.armClosed
    split
    · have hforgotten : s.Moves t (s.forget c) := moves_forget c
      have hmoved := hforgotten.trans moves_notified
      have hnoted : s.Carries t { s.forget c with closedNotified := true } :=
        hmoved.carries fun _ => .inl (.inr (.inr rfl))
      exact hnoted.then rfl
    · rename_i hmust
      exact (moves_forget c).carries fun hclosing => pends_of_not_mustNotify hclosing hmust
  have hset : s.Carries t ((((s.forget c).armClosed t).setStage c .dropped).setPhase r
      (.dropping c k)) := harmed.then rfl
  refine hset.trans (carries_post ⟨?_, by simp [Work.cont]⟩)
  unfold armed
  split
  · exact .inr rfl
  · exact .inl rfl

/-- `Request` goes on; it does not take a channel out of the pool. -/
theorem carries_proceed {r : RequestId} (hphase : (s.request r).phase ≠ .take)
    (result : BCResult) : s.Carries t (s.proceed r t result) := by
  have hsame : s.Carries t s := carries_of_eq rfl
  have hreleased (p : PooledId) :
      s.Carries t ((s.closeChannel (s.pooled p).channel).release p) :=
    (carries_release (s := s.closeChannel (s.pooled p).channel) p).after rfl
  unfold HttpConnector.proceed
  split
  · exact hsame
  · exact hsame
  · exact hsame
  · rename_i htake
    exact absurd htake hphase
  · rename_i b hinsert
    cases b with
    | none =>
      simp only [HttpConnector.proceedInsert]
      split
      · exact carries_of_eq rfl
      · rename_i hclosing
        exact (carries_newFreshConnection (Bool.not_eq_true _ ▸ hclosing) r).then rfl
    | some p =>
      simp only [HttpConnector.proceedInsert]
      split
      · exact (hreleased p).then rfl
      · rename_i hclosing
        exact (carries_newConnection (Bool.not_eq_true _ ▸ hclosing) r (s.pooled p).channel).then
          rfl
  · unfold HttpConnector.startFresh
    split
    · exact hsame
    split <;> exact carries_of_eq rfl
  · rename_i c p hstart
    have hset : s.Carries t (s.setConnection c { s.connection c with channel := none }) :=
      carries_setConnection rfl
    unfold HttpConnector.startReused
    split
    · exact hsame
    split
    · exact carries_of_eq rfl
    · exact hset.then rfl
  · rename_i c p hacquire
    have hset : s.Carries t (s.setConnection c { s.connection c with channel := none }) :=
      carries_setConnection rfl
    unfold HttpConnector.proceedAcquire
    split
    · exact hsame
    split
    · exact hset.then rfl
    · exact carries_of_eq rfl
  · exact (carries_release _).then rfl
  · exact carries_proceedDetach r _ _
  · exact (hreleased _).then rfl
  · split
    · exact carries_of_eq rfl
    · rename_i hclosing
      exact (carries_newFreshConnection (Bool.not_eq_true _ ▸ hclosing) r).then rfl
  · split
    · exact (updates_cancel _).carries.then rfl
    · exact carries_of_eq rfl

/-- So does deleting a connection. -/
theorem carries_deleteConnection (c : ConnectionId) : s.Carries t (s.deleteConnection c) := by
  unfold HttpConnector.deleteConnection
  split
  · exact carries_of_eq rfl
  · rename_i ch hch
    have hset : s.Carries t (s.setConnection c { s.connection c with channel := none }) :=
      carries_setConnection rfl
    exact hset.then rfl

/-- A posted task, or the rest of a call of `Request` or `Close`. -/
theorem Sound.carries_doWork (h : s.Sound) {w : Work} (hmay : s.MayDo t w)
    (hcont : w.cont ≠ .destructor) :
    Carries t { s with works := s.works.erase w }
      (HttpConnector.doWork { s with works := s.works.erase w } t w) := by
  obtain ⟨hmem, hthread, -⟩ := hmay
  have hpool := h.pool
  revert hpool
  clear h
  generalize hx : { s with works := s.works.erase w } = x
  have hpooled : x.pooledStage = s.pooledStage := by rw [← hx]
  intro hpool
  cases w with
  | deleteConnection c =>
    have hdeleted : x.Carries t ((x.deleteConnection c).setStage c .deleted) :=
      (carries_deleteConnection c).then rfl
    exact hdeleted.trans (carries_post ⟨.inl rfl, by simp [Work.cont]⟩)
  | finishDestroy c =>
    have hgone : x.Moves t ((x.forget c).setStage c .gone) :=
      ⟨fun hs => hs, fun hs => hs, ⟨[], rfl, by simp⟩, rfl, rfl, fun _ _ hc => hc⟩
    exact hgone.notifyOr (by simp)
  | deleteClosed p =>
    have hclosed : x.pooledStage p ≠ .loose := by
      rw [hpooled, (hpool.closed_of_mem hmem).1]
      simp
    have hset : x.Carries t (x.setPooledStage p .deleted) :=
      carries_setPooledStage fun _ hp => absurd hp hclosed
    have hposted := hset.trans (carries_post (w := .finishIdle p) ⟨.inl rfl, by simp [Work.cont]⟩)
    exact hposted.then rfl
  | deleteDetached p =>
    have hdetached : x.pooledStage p ≠ .loose := by
      rw [hpooled, (hpool.detached_of_mem hmem).1]
      simp
    have hset : x.Carries t (x.setPooledStage p .gone) :=
      carries_setPooledStage fun _ hp => absurd hp hdetached
    exact hset.then rfl
  | finishIdle p =>
    have hgone : x.Moves t
        (setPooledStage { x with idleDestroying := x.idleDestroying - 1 } p .gone) :=
      ⟨fun hs => hs, fun hs => hs, ⟨[], rfl, by simp⟩, rfl, rfl, fun _ _ hc => hc⟩
    exact hgone.notifyOr (by simp)
  | recheck c =>
    simp only [HttpConnector.doWork]
    split
    · exact (updates_cancel c).carries
    · exact carries_of_eq rfl
  | notifyClosed k => exact carries_notifyClosedIfDrained hcont
  | drop c armed k =>
    have hdeleted : x.Carries t ((x.deleteConnection c).setStage c .discarded) :=
      (carries_deleteConnection c).then rfl
    cases armed with
    | none => exact hdeleted.trans (carries_goOn hcont)
    | some t' =>
      obtain rfl : t' = t := by simpa [Work.thread, Work.armedOn] using hthread
      exact hdeleted.trans (carries_post ⟨.inr rfl, hcont⟩)
  | onClosed t' k =>
    have hnoted : x.Carries t (x.note .onClosed) := carries_of_eq rfl
    exact hnoted.trans (carries_post ⟨.inl rfl, hcont⟩)
  | inOnClosed t' k =>
    have hdisarmed : x.Carries t (x.disarm t' .closed) := carries_of_eq rfl
    exact hdisarmed.trans (carries_goOn hcont)

/-- `Close` of the connector. -/
theorem carries_close {k : Cont} (hk : k ≠ .destructor) : s.Carries t (s.close k) := by
  have hclosed : s.Carries t s.closeAll :=
    ⟨⟨fun _ => rfl, fun hs => hs, ⟨[], rfl, by simp⟩, rfl, rfl, fun _ _ hc => hc⟩,
      fun _ hs => hs, fun _ p hp => .inr ⟨p, hp⟩⟩
  exact hclosed.trans (carries_post ⟨.inl rfl, hk⟩)

/-- The events of the destructor, and a call of `Request` that takes a channel out of the
pool. -/
def Removes (s : HttpConnector) : Event → Prop
  | .destroy | .endWait | .endAbandon | .clearSink | .work _ => True
  | .proceed r _ => (s.request r).phase = .take
  | _ => False

/-- All other events forget nothing that a closing connector waits for. -/
theorem Sound.carries_handle (h : s.Sound) {e : Event} (he : ¬ s.Removes e) :
    s.Carries t (s.handle t e) := by
  have hsame : s.Carries t s := carries_of_eq rfl
  cases e with
  | call args =>
    simp only [HttpConnector.handle, HttpConnector.call]
    split
    · split <;> exact carries_of_eq rfl
    · exact hsame
  | proceed r result => exact carries_proceed he result
  | adopt ch failure => exact h.carries_onAdopt ch failure
  | closed ch result finishes => exact carries_onClosed ch t result finishes
  | resume c result => exact carries_resume c t result
  | close =>
    simp only [HttpConnector.handle]
    split
    · exact carries_close (by simp)
    · exact hsame
  | destroy | endWait | endAbandon | clearSink | work _ => exact absurd trivial he
  | _ => exact Updates.carries (updates_handle t trivial)

end HttpConnector

end Http
