import TTSignal.Http.Sound

/-!
# What the thread of a channel does

The events of a channel, and what its thread does in the code of a connection, keep everything
in order.
-/

namespace Http

open Tcp (BCResult)

namespace HttpConnector

variable {s s' : HttpConnector}

/-- Two connectors differ in nothing that concerns the sets, the calls and the pool. -/
structure Beside (s s' : HttpConnector) : Prop where
  /-- The sets of connections. -/
  sets : s'.conns = s.conns ∧ s'.destroying = s.destroying
  /-- What is still to be done. -/
  works : s'.works = s.works
  /-- The stages of the connections. -/
  stage : s'.stage = s.stage
  /-- The phases of the calls. -/
  phase : ∀ r, (s'.request r).phase = (s.request r).phase
  /-- The calls that have made the connections. -/
  request : ∀ c, (s'.connection c).request = (s.connection c).request
  /-- The pool. -/
  idle : s'.idle = s.idle ∧ s'.idleDestroying = s.idleDestroying ∧ s'.pooled = s.pooled
  /-- The stages and the borrowers of the pooled channels. -/
  pooledStage : s'.pooledStage = s.pooledStage ∧ s'.borrower = s.borrower
  /-- The next objects. -/
  next : s'.nextConnection = s.nextConnection ∧ s'.nextRequest = s.nextRequest ∧
    s'.nextPooled = s.nextPooled

/-- What happens beside twice happens beside. -/
theorem Beside.trans {s'' : HttpConnector} (h : s.Beside s') (h' : s'.Beside s'') :
    s.Beside s'' where
  sets := ⟨h'.sets.1.trans h.sets.1, h'.sets.2.trans h.sets.2⟩
  works := h'.works.trans h.works
  stage := h'.stage.trans h.stage
  phase r := (h'.phase r).trans (h.phase r)
  request c := (h'.request c).trans (h.request c)
  idle := ⟨h'.idle.1.trans h.idle.1, h'.idle.2.1.trans h.idle.2.1, h'.idle.2.2.trans h.idle.2.2⟩
  pooledStage := ⟨h'.pooledStage.1.trans h.pooledStage.1, h'.pooledStage.2.trans h.pooledStage.2⟩
  next := ⟨h'.next.1.trans h.next.1, h'.next.2.1.trans h.next.2.1, h'.next.2.2.trans h.next.2.2⟩

/-- The connections are kept beside it. -/
theorem Beside.connections (hb : s.Beside s') (h : s.Connections) : s'.Connections :=
  h.of_eq hb.sets.1 hb.sets.2 hb.stage hb.works hb.next.1

/-- So are the calls. -/
theorem Beside.calls (hb : s.Beside s') (h : s.Calls) : s'.Calls :=
  h.of_eq hb.stage hb.phase hb.request hb.works hb.next.2.1

/-- So is the pool. -/
theorem Beside.pool (hb : s.Beside s') (h : s.Pool) : s'.Pool :=
  h.of_eq hb.idle.1 hb.idle.2.1 hb.idle.2.2 hb.pooledStage.1 hb.pooledStage.2 hb.phase hb.works
    hb.next.2.2

/-- Only the channels matter. -/
theorem Sound.of_beside (h : s.Sound) (hb : s.Beside s') (hchannels : s'.Channels)
    (hdead : s'.Dead) : s'.Sound :=
  ⟨hb.connections h.connections, hb.calls h.calls, hb.pool h.pool, hchannels, hdead⟩

/-- Something is to be done that concerns no connection, no call and no pooled channel. -/
theorem Sound.post (h : s.Sound) {w : Work} (hspares : w.Spares) (hpooled : w.SparesPooled)
    (hcont : ∀ r k, w.cont ≠ .request r k) : (s.post w).Sound :=
  ⟨h.connections.post hspares, h.calls.post hcont, h.pool.post hpooled,
    h.channels.of_alike { (Same.refl s).toAlike with handler := fun _ => rfl }, h.dead⟩

/-- A channel that is set happens beside. -/
theorem beside_setChannel (s : HttpConnector) (ch : ChannelId) (x : Channel) :
    s.Beside (s.setChannel ch x) :=
  ⟨⟨rfl, rfl⟩, rfl, rfl, fun _ => rfl, fun _ => rfl, ⟨rfl, rfl, rfl⟩, ⟨rfl, rfl⟩, rfl, rfl, rfl⟩

/-- So does a thread that is inside a channel. -/
theorem beside_setInside (s : HttpConnector) (ch : ChannelId) (c : Option ConnectionId) :
    s.Beside (s.setInside ch c) :=
  beside_setChannel s ch _

/-- `_DeliverOnce` concerns neither the sets nor the calls nor the pool. -/
theorem beside_deliverOnce (s : HttpConnector) (c : ConnectionId) (ch : ChannelId) (t : Thread)
    (closeResult : BCResult) (finishes : Bool) (next : Next) :
    s.Beside (s.deliverOnce c ch t closeResult finishes next) := by
  obtain ⟨x, a, n, guards, hrequest, -, -, -, heq⟩ :=
    s.deliverOnce_eq c ch t closeResult finishes next
  rw [heq]
  refine ⟨⟨rfl, rfl⟩, rfl, rfl, fun _ => rfl, fun d => ?_, ⟨rfl, rfl, rfl⟩, ⟨rfl, rfl⟩, rfl, rfl,
    rfl⟩
  simp only [Function.update_apply]
  split
  · subst d
    exact hrequest
  · rfl

/-- `_DeliverOnce` leaves the channels alone. -/
theorem Dead.deliverOnce (h : s.Dead) (c : ConnectionId) (ch : ChannelId) (t : Thread)
    (closeResult : BCResult) (finishes : Bool) (next : Next) :
    (s.deliverOnce c ch t closeResult finishes next).Dead := by
  obtain ⟨x, a, n, guards, -, -, -, -, heq⟩ := s.deliverOnce_eq c ch t closeResult finishes next
  rw [heq]
  exact h

/-- A channel that is opened, or goes on, has not been deleted. -/
theorem Dead.setChannel (h : s.Dead) {ch : ChannelId} {x : Channel}
    (hx : x.Open → (s.channel ch).Open ∨ s.deleted ch = false) : (s.setChannel ch x).Dead := by
  intro ch' hdeleted
  have hold := h ch' hdeleted
  simp only [HttpConnector.setChannel, Function.update_apply]
  split
  · subst ch'
    intro hopen
    rcases hx hopen with hopen | hkept
    · exact hold hopen
    · replace hdeleted : s.deleted ch = true := hdeleted
      rw [hkept] at hdeleted
      cases hdeleted
  · exact hold

/-- Progress leads from open channels only. -/
theorem Progress.open {x y : Channel} (h : Progress x y) (hy : y.Open) : x.Open := by
  rcases h.state with hstate | ⟨-, ⟨hopening, -⟩ | ⟨hopen, -⟩⟩
  · unfold Channel.Open at hy ⊢
    rwa [← hstate]
  · exact .inl hopening
  · rcases hopen with hopening | hready
    · exact .inl hopening
    · exact .inr (.inl hready)

/-- A channel goes on, and nothing else changes. -/
theorem Sound.progress (h : s.Sound) {ch : ChannelId} {x : Channel}
    (hx : Progress (s.channel ch) x) : (s.setChannel ch x).Sound :=
  h.of_beside (beside_setChannel s ch x) (h.channels.progress hx)
    (h.dead.setChannel fun hopen => .inl (hx.open hopen))

/-- A channel becomes ready. -/
theorem Sound.onReady (h : s.Sound) (ch : ChannelId) (failure : Option BCResult) :
    (s.onReady ch failure).Sound := by
  unfold HttpConnector.onReady
  split
  case isFalse => exact h
  rename_i hopening
  have hready : (s.setChannel ch { s.channel ch with state := .ready }).Sound :=
    h.progress ⟨rfl, rfl, .inl, rfl, rfl, .inr ⟨hopening.1, .inl ⟨hopening.2, rfl⟩⟩⟩
  split
  · exact hready.of_same (same_onChannelReady _ failure)
  · exact hready

/-- `TcpChannel::_Fail`. -/
theorem Sound.onFail (h : s.Sound) (ch : ChannelId) : (s.onFail ch).Sound := by
  unfold HttpConnector.onFail
  split
  case isFalse => exact h
  rename_i hopen
  exact h.progress ⟨rfl, rfl, .inl, rfl, rfl, .inr ⟨hopen.1, .inr ⟨hopen.2, rfl⟩⟩⟩

/-- The response timer. -/
theorem Sound.onTimer (h : s.Sound) (ch : ChannelId) : (s.onTimer ch).Sound := by
  unfold HttpConnector.onTimer
  split
  · split
    · exact h.of_same (same_failConnection _ timedOut)
    · exact h
  · exact h

/-- `OnChannelData` when the response is complete. -/
theorem Sound.onMessageDone (h : s.Sound) {c : ConnectionId} {ch : ChannelId}
    (howner : s.owner ch = .connection c) (hstate : (s.channel ch).state = .ready)
    (hinside : (s.channel ch).inside = none) (t : Thread) : (s.onMessageDone c ch t).Sound := by
  unfold HttpConnector.onMessageDone
  split
  · have hentered : (s.setInside ch (some c)).Dead := h.dead.setChannel .inl
    refine h.of_beside ?_ (h.channels.deliverParking howner hstate hinside t .success false) ?_
    · exact (beside_setInside s ch (some c)).trans
        (beside_deliverOnce _ c ch t .success false .park)
    · exact hentered.deliverOnce c ch t .success false .park
  · exact h.of_same (same_cancel c)

/-- `HttpConnection::OnChannelData`. -/
theorem Sound.onChannelData (h : s.Sound) {c : ConnectionId} {ch : ChannelId}
    (howner : s.owner ch = .connection c) (hstate : (s.channel ch).state = .ready)
    (hinside : (s.channel ch).inside = none) (t : Thread) (parsed : Parsed) :
    (s.onChannelData c ch t parsed).Sound := by
  unfold HttpConnector.onChannelData
  split
  · exact h
  split
  · exact h.onMessageDone howner hstate hinside t
  cases parsed with
  | more => exact h
  | complete keepAlive =>
    have hdone : (s.setConnection c
        { s.connection c with messageDone := true, keepAlive := keepAlive }).Sound :=
      h.of_same (same_setConnection rfl rfl rfl)
    exact hdone.onMessageDone howner hstate hinside t
  | failed result => exact h.of_same (same_failConnection c result)

/-- `TcpChannel::OnRecvDataFromSSL`. -/
theorem Sound.onRecvData (h : s.Sound) (ch : ChannelId) (t : Thread) (parsed : Parsed) :
    (s.onRecvData ch t parsed).Sound := by
  unfold HttpConnector.onRecvData
  split
  case isFalse => exact h
  rename_i hopen
  obtain ⟨hinside, hstates⟩ := hopen
  split
  · rename_i hparked
    have hpoisoned : (s.setChannel ch { s.channel ch with poisoned := true }).Sound :=
      h.progress ⟨rfl, rfl, fun _ => .inr hparked, rfl, rfl, .inl rfl⟩
    exact hpoisoned.of_same (same_note _)
  split
  · rename_i c hhandler
    split
    · exact h
    · rename_i hready
      have hstate : (s.channel ch).state = .ready := not_not.mp hready
      have howner := (h.channels.shaped ch).handler (by simp [hstate])
      rw [hhandler, Option.some.injEq] at howner
      have hnoted : (s.note (.received ch c)).Sound := h.of_same (same_note _)
      exact hnoted.onChannelData howner.symm hstate hinside t parsed
  · exact h

/-! ### Adoptions -/

/-- `OnChannelDetached` of a pooled channel. -/
theorem Connections.onPooledDetached (h : s.Connections) (p : PooledId) :
    (s.onPooledDetached p).Connections := by
  have hstage : (s.setPooledStage p .detached).Connections := h.of_eq rfl rfl rfl rfl rfl
  unfold HttpConnector.onPooledDetached
  split
  · exact h.of_eq rfl rfl rfl rfl rfl
  · exact hstage.post (w := .deleteDetached p) trivial

/-- The detachment of a pooled channel keeps the calls. -/
theorem Calls.onPooledDetached (h : s.Calls) (p : PooledId) : (s.onPooledDetached p).Calls := by
  have hstage : (s.setPooledStage p .detached).Calls :=
    h.of_eq rfl (fun _ => rfl) (fun _ => rfl) rfl rfl
  unfold HttpConnector.onPooledDetached
  split
  · exact h.of_eq rfl (fun _ => rfl) (fun _ => rfl) rfl rfl
  · apply hstage.post
    simp [Work.cont]

/-- A connection takes a parked channel over. -/
theorem Sound.takeOver (h : s.Sound) {ch : ChannelId} {c : ConnectionId}
    (hadopts : (s.channel ch).adopts = [c]) (hinside : (s.channel ch).inside = none)
    (hparked : (s.channel ch).ParkedAndUsable) (failure : Option BCResult) :
    (s.takeOver ch c [] failure).Sound := by
  obtain ⟨-, hwaits, p, howner, hloose, hborrower⟩ := h.channels.adopting hadopts
  have hhandler := (h.channels.shaped ch).handler (by simp [hparked.2.2])
  rw [howner] at hhandler
  have hbeside : s.Beside (s.adopted ch c []) :=
    ⟨⟨rfl, rfl⟩, rfl, rfl, fun _ => rfl, fun _ => rfl, ⟨rfl, rfl, rfl⟩, ⟨rfl, rfl⟩, rfl, rfl, rfl⟩
  have hunused := fun r => h.calls.unused_ne h.pool hwaits.1 hborrower r
  have hdead : ((s.adopted ch c []).onPooledDetached p).Dead := by
    obtain ⟨x, works, -, heq⟩ := (s.adopted ch c []).onPooledDetached_eq p
    rw [heq]
    exact h.dead.setChannel (x := { s.channel ch with
      adopts := [], parked := false, handler := some (.connection c) }) .inl
  have htaken : ((s.adopted ch c []).onPooledDetached p).Sound :=
    ⟨(hbeside.connections h.connections).onPooledDetached p,
      (hbeside.calls h.calls).onPooledDetached p,
      (hbeside.pool h.pool).onPooledDetached hloose hunused,
      h.channels.takeOver h.calls h.pool hadopts hinside howner hparked, hdead⟩
  unfold HttpConnector.takeOver
  rw [hhandler]
  exact htaken.of_same (same_onChannelReady c failure)

/-- A connection is refused its parked channel. -/
theorem Sound.refuse (h : s.Sound) {ch : ChannelId} {c : ConnectionId}
    (hadopts : (s.channel ch).adopts = [c]) (hinside : (s.channel ch).inside = none) :
    ((s.setChannel ch { s.channel ch with adopts := [], closes := true }).onChannelAdoptFailed c
      ch).Sound := by
  refine h.of_beside ?_ (h.channels.refuse hadopts hinside) ?_
  · refine ⟨⟨rfl, rfl⟩, rfl, rfl, fun _ => rfl, fun d => ?_, ⟨rfl, rfl, rfl⟩, ⟨rfl, rfl⟩, rfl, rfl,
      rfl⟩
    simp only [onChannelAdoptFailed, newChannel, HttpConnector.setChannel, setConnection,
      setActivity, setInside, Function.update_apply]
    split
    · subst d
      rfl
    · rfl
  · intro ch' hdeleted
    have hold := h.dead ch' hdeleted
    have hthis := h.dead ch
    simp only [onChannelAdoptFailed, newChannel, HttpConnector.setChannel, setConnection,
      setActivity, setInside, Function.update_apply, Channel.Open] at hold hthis ⊢
    grind

/-- The task of `TcpChannel::Adopt`. -/
theorem Sound.onAdopt (h : s.Sound) (ch : ChannelId) (failure : Option BCResult) :
    (s.onAdopt ch failure).Sound := by
  unfold HttpConnector.onAdopt
  split
  · exact h
  rename_i c rest hadopts
  obtain rfl : rest = [] := (h.channels.adopting hadopts).1
  split
  · exact h
  rename_i hrun
  obtain ⟨hinside, -⟩ := not_or.mp hrun
  rw [ne_eq, not_not] at hinside
  split
  · rename_i hparked
    exact h.takeOver hadopts hinside hparked failure
  · exact h.refuse hadopts hinside

/-! ### A channel has closed -/

/-- `OnChannelClosed` of a pooled channel. -/
theorem Connections.onPooledClosed (h : s.Connections) (p : PooledId) :
    (s.onPooledClosed p).Connections := by
  unfold HttpConnector.onPooledClosed
  split
  · exact h.of_eq rfl rfl rfl rfl rfl
  · refine Connections.post (w := .deleteClosed p) ?_ trivial
    exact h.of_eq rfl rfl rfl rfl rfl

/-- So does the end of a pooled channel. -/
theorem Calls.onPooledClosed (h : s.Calls) (p : PooledId) : (s.onPooledClosed p).Calls := by
  unfold HttpConnector.onPooledClosed
  split
  · exact h.of_eq rfl (fun _ => rfl) (fun _ => rfl) rfl rfl
  · apply Calls.post
    · exact h.of_eq rfl (fun _ => rfl) (fun _ => rfl) rfl rfl
    · simp [Work.cont]

/-- The channel of a pooled channel has closed. -/
theorem Sound.pooledClosed (h : s.Sound) {p : PooledId} {ch : ChannelId}
    (howner : s.owner ch = .pooled p) (hstate : (s.channel ch).state = .closing)
    (hadopts : (s.channel ch).adopts = []) (hinside : (s.channel ch).inside = none) :
    ((s.setChannel ch { s.channel ch with state := .closed }).onPooledClosed p).Sound := by
  have hdeleted : s.deleted ch = false := by
    rw [Bool.eq_false_iff]
    intro hgone
    exact h.dead ch hgone (.inr (.inr hstate))
  have hlt : ch < s.nextChannel := by
    by_contra hle
    have := ((h.channels.shaped ch).unborn (not_lt.mp hle)).1
    rw [hstate] at this
    cases this
  obtain ⟨hpch, hstages⟩ := (h.channels.watching p).pooled ch howner hlt hdeleted
  have hwatching : s.pooledStage p = .pooled ∨ s.pooledStage p = .loose := by
    rcases hstages with hpooled | hloose | hclosed
    · exact .inl hpooled
    · exact .inr hloose
    · have := ((h.channels.watching p).closed hclosed).2.2.2
      rw [hpch, hstate] at this
      cases this
  have hbeside := beside_setChannel s ch { s.channel ch with state := .closed }
  have hdead :
      ((s.setChannel ch { s.channel ch with state := .closed }).onPooledClosed p).Dead := by
    obtain ⟨x, idle, n, works, -, heq⟩ :=
      (s.setChannel ch { s.channel ch with state := .closed }).onPooledClosed_eq p
    rw [heq]
    apply h.dead.setChannel
    simp [Channel.Open]
  exact ⟨(hbeside.connections h.connections).onPooledClosed p,
    (hbeside.calls h.calls).onPooledClosed p, (hbeside.pool h.pool).onPooledClosed hwatching,
    h.channels.pooledClosed howner hstate hadopts hinside hdeleted, hdead⟩

/-- A channel has closed. -/
theorem Sound.onClosed (h : s.Sound) (ch : ChannelId) (t : Thread) (result : BCResult)
    (finishes : Bool) : (s.onClosed ch t result finishes).Sound := by
  unfold HttpConnector.onClosed
  split
  case isFalse => exact h
  rename_i hclosing
  obtain ⟨hinside, hstate, hadopts⟩ := hclosing
  have hhandler := (h.channels.shaped ch).handler (by simp [hstate])
  cases howner : s.owner ch with
  | connection c =>
    rw [hhandler, howner]
    refine h.of_beside ?_
      (h.channels.deliverClosed howner hstate hinside t result finishes) ?_
    · exact ((beside_setChannel s ch { s.channel ch with state := .closed }).trans
        (beside_setInside _ ch (some c))).trans
          (beside_deliverOnce _ c ch t result finishes .detach)
    · have hclosed : (s.setChannel ch { s.channel ch with state := .closed }).Dead := by
        apply h.dead.setChannel
        simp [Channel.Open]
      have hentered : ((s.setChannel ch { s.channel ch with state := .closed }).setInside ch
          (some c)).Dead := hclosed.setChannel .inl
      exact hentered.deliverOnce c ch t result finishes .detach
  | pooled p =>
    rw [hhandler, howner]
    exact h.pooledClosed howner hstate hadopts hinside

/-! ### In the code of a connection -/

/-- A channel's thread goes on in the same direction. -/
theorem Sound.setActivity (h : s.Sound) {c : ConnectionId} {a : Activity}
    (hbusy : s.activity c ≠ .idle) (hon : a.on = (s.activity c).on)
    (hcourse : a.course = (s.activity c).course) : (s.setActivity c a).Sound := by
  refine h.of_beside ?_ (h.channels.setActivity hbusy hon hcourse) h.dead
  exact ⟨⟨rfl, rfl⟩, rfl, rfl, fun _ => rfl, fun _ => rfl, ⟨rfl, rfl, rfl⟩, ⟨rfl, rfl⟩, rfl, rfl,
    rfl⟩

/-- A parked channel is as open as before. -/
theorem Dead.park (h : s.Dead) (ch : ChannelId) (key : String) (stage : PooledStage) :
    (s.park ch key stage).Dead := by
  refine @Dead.of_eq s (s.park ch key stage) h rfl fun ch' => ?_
  simp only [HttpConnector.park, Function.update_apply]
  grind

/-- `_FinishAndReturnChannelToPool` after `_DeliverOnce`. -/
theorem Sound.returnToPool (h : s.Sound) {c : ConnectionId} {ch : ChannelId}
    (hactivity : s.activity c = .park ch) : (s.returnToPool c ch).Sound := by
  have hrequest : ∀ d, ((Function.update s.connection c
      { s.connection c with channel := none }) d).request = (s.connection d).request := by
    intro d
    rw [Function.update_apply]
    split
    · subst d
      rfl
    · rfl
  unfold HttpConnector.returnToPool
  generalize (s.connection c).poolKey = key
  split
  · have hparked := h.channels.park h.pool hactivity (.inl rfl) key
    exact ⟨h.connections.of_eq rfl rfl rfl rfl rfl,
      h.calls.of_eq rfl (fun _ => rfl) hrequest rfl rfl,
      (h.pool.park_room ch key).of_eq rfl rfl rfl rfl rfl (fun _ => rfl) rfl rfl,
      hparked.of_alike { (Same.refl _).toAlike with handler := fun _ => rfl },
      h.dead.park ch key .pooled⟩
  · have hparked : (((s.park ch key .loose).setConnection c
        { s.connection c with channel := none }).setActivity c (.detach ch)).Sound :=
      ⟨h.connections.of_eq rfl rfl rfl rfl rfl,
        h.calls.of_eq rfl (fun _ => rfl) hrequest rfl rfl,
        (h.pool.park_loose ch key).of_eq rfl rfl rfl rfl rfl (fun _ => rfl) rfl rfl,
        h.channels.park h.pool hactivity (.inr rfl) key, h.dead.park ch key .loose⟩
    exact hparked.of_same (same_closeChannel ch)

/-- `_DetachAndScheduleDestroy`. -/
theorem Sound.detachAndScheduleDestroy (h : s.Sound) {c : ConnectionId} {ch : ChannelId}
    (hactivity : s.activity c = .detach ch) : (s.detachAndScheduleDestroy c ch).Sound := by
  have hserving := (h.channels.standing c).active (by simp [hactivity])
  have hcalls : (s.setStage c .condemned).Calls := by
    apply h.calls.setStage
    · simp [hserving]
    · simp
    · intro _
      exact .inl hserving
  have hmoved : Calls ((({ s with
      conns := s.conns.erase c
      destroying := if c ∈ s.conns then insert c s.destroying else s.destroying }.setStage c
        .condemned).setActivity c .idle).setInside ch none) :=
    hcalls.of_eq rfl (fun _ => rfl) (fun _ => rfl) rfl rfl
  have hpool : Pool ((({ s with
      conns := s.conns.erase c
      destroying := if c ∈ s.conns then insert c s.destroying else s.destroying }.setStage c
        .condemned).setActivity c .idle).setInside ch none) :=
    h.pool.of_eq rfl rfl rfl rfl rfl (fun _ => rfl) rfl rfl
  have hdead : (s.setInside ch none).Dead := h.dead.setChannel .inl
  refine ⟨h.connections.detachAndScheduleDestroy hserving ch, hmoved.post ?_, hpool.post trivial,
    h.channels.detachAndScheduleDestroy hactivity, hdead⟩
  simp [Work.cont]

/-- `OnChannelAdoptFailed` goes on with its new channel. -/
theorem Sound.openFresh (h : s.Sound) {c : ConnectionId} {ch : ChannelId} {closing : Bool}
    (hactivity : s.activity c = .openFresh ch closing) (t : Thread) (result : BCResult) :
    (s.openFresh c ch closing t result).Sound := by
  have hrefused (result : BCResult) :
      ((s.setFailResult c result).deliverOnce c ch t result false .detach).Sound := by
    have hfail : (s.setFailResult c result).Sound := h.of_same (same_setFailResult c result)
    exact hfail.of_beside (beside_deliverOnce _ c ch t result false .detach)
      (h.channels.deliverRefused hactivity t result)
      (hfail.dead.deliverOnce c ch t result false .detach)
  unfold HttpConnector.openFresh
  split
  · exact hrefused shuttingDown
  split
  · exact hrefused result
  split
  · exact h
  rename_i fresh hfresh
  have hheld := (h.channels.holding c fresh).channel hfresh
  have hdead : (((s.opened fresh c).setActivity c .idle).setInside ch none).Dead := by
    have hopened : (s.opened fresh c).Dead := h.dead.setChannel fun _ => .inr hheld.2.1
    have hidle : ((s.opened fresh c).setActivity c .idle).Dead := hopened
    exact hidle.setChannel .inl
  have hbeside : s.Beside (((s.opened fresh c).setActivity c .idle).setInside ch none) :=
    ⟨⟨rfl, rfl⟩, rfl, rfl, fun _ => rfl, fun _ => rfl, ⟨rfl, rfl, rfl⟩, ⟨rfl, rfl⟩, rfl, rfl, rfl⟩
  have hopened : (((s.opened fresh c).setActivity c .idle).setInside ch none).Sound :=
    h.of_beside hbeside (h.channels.reopen h.pool hactivity hfresh) hdead
  exact hopened.post trivial trivial (by simp [Work.cont])

/-- The thread of a connection's channel goes on. -/
theorem Sound.resume (h : s.Sound) (c : ConnectionId) (t : Thread) (result : BCResult) :
    (s.resume c t result).Sound := by
  unfold HttpConnector.resume
  split
  · exact h
  · rename_i ch t' o next hactivity
    split
    · have hcalling : (s.setActivity c (.calling ch t' o next)).Sound := by
        apply h.setActivity
        all_goals simp [hactivity, Activity.on, Activity.course]
      exact hcalling.of_same (same_note _)
    · exact h
  · rename_i ch t' o next hactivity
    split
    · have hcalled : (s.setActivity c (next.activity ch)).Sound := by
        apply h.setActivity
        · simp [hactivity]
        · cases next <;> simp [hactivity, Next.activity, Activity.on]
        · cases next <;> simp [hactivity, Next.activity, Activity.course, Next.course]
      exact (hcalled.of_same (same_disarm t' (.request c))).of_same (same_note _)
    · exact h
  · rename_i ch hactivity
    exact h.returnToPool hactivity
  · rename_i ch hactivity
    exact h.detachAndScheduleDestroy hactivity
  · rename_i ch closing hactivity
    exact h.openFresh hactivity t result

end HttpConnector

end Http
