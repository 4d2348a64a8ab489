import TTSignal.Http.Pending

/-!
# A connector at rest

When nothing is posted, no call is under way, no thread is in a connection and no channel is
open, everything has been achieved: every request has been told its outcome, every object has
been deleted, and a connector that is closing has said so.
-/

namespace Http

open Tcp (BCResult)

namespace HttpConnector

variable {s s' : HttpConnector}

/-- A connection that is served has an open channel, unless a thread is in its code. -/
def Attended (s : HttpConnector) : Prop :=
  ∀ c, s.stage c = .serving → s.activity c = .idle →
    ∃ ch, (s.connection c).channel = some ch ∧ (s.channel ch).Open

/-- Connections that are served keep their open channels. -/
theorem Attended.of_imp (h : s.Attended)
    (hkeeps : ∀ c, s'.stage c = .serving → s'.activity c = .idle →
      s.stage c = .serving ∧ s.activity c = .idle ∧
        ∀ ch, (s.connection c).channel = some ch → (s.channel ch).Open →
          (s'.connection c).channel = some ch ∧ (s'.channel ch).Open) : s'.Attended := by
  intro c hstage hactivity
  obtain ⟨hstage, hactivity, hchannel⟩ := hkeeps c hstage hactivity
  obtain ⟨ch, hch, hopen⟩ := h c hstage hactivity
  exact ⟨ch, hchannel ch hch hopen⟩

/-- What it speaks of. -/
def scene (s : HttpConnector) :=
  (s.stage, s.activity, s.channel, fun c => (s.connection c).channel)

/-- An equal scene is attended to. -/
theorem Attended.of_eq (h : s.Attended) (heq : s'.scene = s.scene) : s'.Attended := by
  simp only [scene, Prod.mk.injEq] at heq
  obtain ⟨hstage, hactivity, hchannel, hconnection⟩ := heq
  refine h.of_imp fun c hs ha => ?_
  rw [hstage] at hs
  rw [hactivity] at ha
  refine ⟨hs, ha, fun ch hch hopen => ⟨(congrFun hconnection c).trans hch, ?_⟩⟩
  rwa [hchannel]

/-- Nothing changes but requests to close. -/
theorem Attended.of_same (h : s.Attended) (hsame : s.Same s') : s'.Attended := by
  obtain ⟨hstage, hactivity, -⟩ := hsame.tables
  refine h.of_imp fun c hs ha => ?_
  rw [hstage] at hs
  rw [hactivity] at ha
  exact ⟨hs, ha, fun ch hch hopen =>
    ⟨(hsame.channel c).trans hch, (hsame.toAlike.open_iff ch).mpr hopen⟩⟩

/-- A channel that is open stays so. -/
theorem Attended.setChannel (h : s.Attended) (ch : ChannelId) {x : Channel}
    (hx : (s.channel ch).Open → x.Open) : (s.setChannel ch x).Attended := by
  refine h.of_imp fun c hs ha => ⟨hs, ha, fun ch' hch hopen => ⟨hch, ?_⟩⟩
  simp only [HttpConnector.setChannel, Function.update_apply]
  split
  · subst ch'
    exact hx hopen
  · exact hopen

/-- A thread is in a connection. -/
theorem Attended.setActivity (h : s.Attended) {c : ConnectionId} {a : Activity}
    (ha : a ≠ .idle) : (s.setActivity c a).Attended := by
  refine h.of_imp fun d hs hd => ?_
  simp only [HttpConnector.setActivity, Function.update_apply] at hd
  split at hd
  · exact absurd hd ha
  · exact ⟨hs, hd, fun ch hch hopen => ⟨hch, hopen⟩⟩

/-- A connection is not served any more. -/
theorem Attended.setStage (h : s.Attended) {c : ConnectionId} {stage : ConnectionStage}
    (hstage : stage ≠ .serving) : (s.setStage c stage).Attended := by
  refine h.of_imp fun d hs ha => ?_
  simp only [HttpConnector.setStage, Function.update_apply] at hs
  split at hs
  · exact absurd hs hstage
  · exact ⟨hs, ha, fun ch hch hopen => ⟨hch, hopen⟩⟩

/-- The connection that changes is not served. -/
theorem Attended.setConnection (h : s.Attended) {c : ConnectionId} {x : HttpConnection}
    (hc : s.stage c ≠ .serving ∨ s.activity c ≠ .idle) : (s.setConnection c x).Attended := by
  refine h.of_imp fun d hs ha => ⟨hs, ha, fun ch hch hopen => ⟨?_, hopen⟩⟩
  have hne : d ≠ c := by
    rintro rfl
    rcases hc with hc | hc
    · exact hc hs
    · exact hc ha
  simpa only [HttpConnector.setConnection, Function.update_apply, if_neg hne] using hch

/-- A connection that delivers is not left alone. -/
theorem attended_deliverOnce {c : ConnectionId}
    (h : ∀ d ≠ c, s.stage d = .serving → s.activity d = .idle →
      ∃ ch, (s.connection d).channel = some ch ∧ (s.channel ch).Open)
    (ch : ChannelId) (t : Thread) (closeResult : BCResult) (finishes : Bool) (next : Next) :
    (s.deliverOnce c ch t closeResult finishes next).Attended := by
  obtain ⟨x, a, n, guards, -, hx, -, ha, heq⟩ := s.deliverOnce_eq c ch t closeResult finishes next
  have hne : a ≠ .idle := by
    rcases ha with rfl | ⟨o, rfl⟩
    · cases next <;> simp [Next.activity]
    · simp
  rw [heq]
  intro d hs hd
  simp only [Function.update_apply] at hd ⊢
  split at hd
  · exact absurd hd hne
  · rename_i hdc
    rw [if_neg hdc]
    exact h d hdc hs hd

/-- Delivering once leaves everything attended to. -/
theorem Attended.deliverOnce (h : s.Attended) (c : ConnectionId) (ch : ChannelId) (t : Thread)
    (closeResult : BCResult) (finishes : Bool) (next : Next) :
    (s.deliverOnce c ch t closeResult finishes next).Attended :=
  attended_deliverOnce (fun d _ => h d) ch t closeResult finishes next

/-! ### Channels -/

/-- So do updates in place. -/
theorem Updates.attended {d : Prop} (h : Updates d s s') (hs : s.Attended) : s'.Attended := by
  refine h.keeps (fun hupdate hx => ?_) hs
  cases hupdate with
  | channel ch x _ _ _ hopen => exact hx.setChannel ch hopen
  | connection c x _ _ _ hchannel =>
    refine hx.of_imp fun e hserving hidle => ⟨hserving, hidle, fun ch hch hopen => ⟨?_, hopen⟩⟩
    simp only [HttpConnector.setConnection, Function.update_apply]
    split
    · subst e
      exact hchannel.trans hch
    · exact hch
  | deliverOnce _ c ch t closeResult finishes next =>
    exact hx.deliverOnce c ch t closeResult finishes next
  | note | logging | dnsWorkers => exact hx.of_eq rfl

/-- So does the detachment of a pooled channel. -/
theorem Attended.onPooledDetached (h : s.Attended) (p : PooledId) :
    (s.onPooledDetached p).Attended := by
  obtain ⟨x, works, -, heq⟩ := s.onPooledDetached_eq p
  rw [heq]
  exact h.of_eq rfl

/-- So does its end. -/
theorem Attended.onPooledClosed (h : s.Attended) (p : PooledId) :
    (s.onPooledClosed p).Attended := by
  obtain ⟨x, idle, n, works, -, heq⟩ := s.onPooledClosed_eq p
  rw [heq]
  exact h.of_eq rfl

/-- So does its release. -/
theorem Attended.release (h : s.Attended) (p : PooledId) : (s.release p).Attended := by
  obtain ⟨x, works, -, heq⟩ := s.release_eq p
  rw [heq]
  exact h.of_eq rfl

/-- A channel is made. -/
theorem Attended.newChannel (h : s.Attended)
    (hlt : ∀ c ch, (s.connection c).channel = some ch → ch < s.nextChannel) (owner : ConnectionId) :
    (s.newChannel owner).Attended := by
  refine h.of_imp fun c hs ha => ⟨hs, ha, fun ch hch hopen => ⟨hch, ?_⟩⟩
  have hne : ch ≠ s.nextChannel := Nat.ne_of_lt (hlt c ch hch)
  simpa only [HttpConnector.newChannel, Function.update_apply, if_neg hne] using hopen

/-- A channel that a connection has was born. -/
theorem Sound.channel_lt (h : s.Sound) (c : ConnectionId) (ch : ChannelId)
    (hch : (s.connection c).channel = some ch) : ch < s.nextChannel :=
  ((h.channels.holding c ch).channel hch).1

/-- Adopting a channel leaves everything attended to. -/
theorem Attended.onAdopt (h : s.Attended) (hsound : s.Sound) (ch : ChannelId)
    (failure : Option BCResult) : (s.onAdopt ch failure).Attended := by
  unfold HttpConnector.onAdopt
  split
  · exact h
  rename_i c rest hadopts
  split
  · exact h
  split
  · have hset : (s.setChannel ch
        { s.channel ch with
          adopts := rest
          parked := false
          handler := some (.connection c) }).Attended := h.setChannel _ fun hopen => hopen
    have hadopted : (s.adopted ch c rest).Attended := hset.of_eq rfl
    unfold HttpConnector.takeOver
    split
    · exact (hadopted.onPooledDetached _).of_same (same_onChannelReady c failure)
    · exact hadopted.of_same (same_onChannelReady c failure)
  · have hset : (s.setChannel ch { s.channel ch with adopts := rest, closes := true }).Attended :=
      h.setChannel _ fun hopen => hopen
    have hmade := hset.newChannel hsound.channel_lt c
    have hinside := hmade.setActivity (c := c) (a := .openFresh ch s.closing) (by simp)
    have hgiven := hinside.setConnection (c := c)
      (x := { s.connection c with channel := some s.nextChannel })
      (.inr (by simp [HttpConnector.setActivity]))
    have hleft := hgiven.setChannel ch
      (x := { (s.setChannel ch { s.channel ch with adopts := rest, closes := true } |>.newChannel
        c).channel ch with inside := some c }) fun hopen => hopen
    exact hleft.of_eq rfl

/-- A channel closes that no connection waits for. -/
theorem Attended.closed (h : s.Attended) {ch : ChannelId} {x : Channel}
    (hnone : ∀ c, s.stage c = .serving → s.activity c = .idle →
      (s.connection c).channel ≠ some ch) : (s.setChannel ch x).Attended := by
  refine h.of_imp fun c hs ha => ⟨hs, ha, fun ch' hch hopen => ⟨hch, ?_⟩⟩
  have hne : ch' ≠ ch := by
    rintro rfl
    exact hnone c hs ha hch
  simpa only [HttpConnector.setChannel, Function.update_apply, if_neg hne] using hopen

/-- The owner of a channel without adoptions is the only one that is served with it. -/
theorem Sound.owner_of_serving (h : s.Sound) {c : ConnectionId} {ch : ChannelId}
    (hstage : s.stage c = .serving) (hch : (s.connection c).channel = some ch)
    (hadopts : (s.channel ch).adopts = []) : s.owner ch = .connection c := by
  obtain ⟨-, -, -, howner | ⟨hstarting, -⟩ | hmem⟩ := (h.channels.holding c ch).channel hch
  · exact howner
  · rw [hstage] at hstarting
    cases hstarting
  · rw [hadopts] at hmem
    exact absurd hmem List.not_mem_nil

/-- The end of a channel does. -/
theorem Attended.onClosed (h : s.Attended) (hsound : s.Sound) (ch : ChannelId) (t : Thread)
    (result : BCResult) (finishes : Bool) : (s.onClosed ch t result finishes).Attended := by
  unfold HttpConnector.onClosed
  split
  case isFalse => exact h
  rename_i hfirst
  obtain ⟨-, hstate, hadopts⟩ := hfirst
  have howner := (hsound.channels.shaped ch).handler (by simp [hstate])
  split
  · rename_i c hhandler
    rw [howner, Option.some.injEq] at hhandler
    -- only the connection that delivers is served with the channel
    refine attended_deliverOnce (fun d hd hs ha => ?_) ch t result finishes .detach
    obtain ⟨ch', hch, hopen⟩ := h d hs ha
    have hne : ch' ≠ ch := by
      rintro rfl
      rw [hsound.owner_of_serving hs hch hadopts, ChannelHandler.connection.injEq] at hhandler
      exact hd hhandler
    refine ⟨ch', hch, ?_⟩
    simpa only [setInside, HttpConnector.setChannel, Function.update_apply, if_neg hne] using hopen
  · rename_i p hhandler
    have hclosed : (s.setChannel ch { s.channel ch with state := .closed }).Attended := by
      refine h.closed fun c hs _ hch => ?_
      rw [howner, hsound.owner_of_serving hs hch hadopts] at hhandler
      cases hhandler
    exact hclosed.onPooledClosed p
  · rename_i hhandler
    rw [howner] at hhandler
    cases hhandler

/-- Opening a fresh channel does. -/
theorem Attended.openFresh (h : s.Attended) {c : ConnectionId} {ch : ChannelId} {closing : Bool}
    (hactivity : s.activity c = .openFresh ch closing) (t : Thread) (result : BCResult) :
    (s.openFresh c ch closing t result).Attended := by
  have hfailed (x : BCResult) : (s.setFailResult c x).Attended :=
    h.of_same (same_setFailResult c x)
  unfold HttpConnector.openFresh
  split
  · exact (hfailed shuttingDown).deliverOnce c ch t shuttingDown false .detach
  split
  · exact (hfailed result).deliverOnce c ch t result false .detach
  split
  · exact h
  · rename_i fresh hfresh
    have hopened : (s.opened fresh c).Attended := h.setChannel _ fun _ => .inl rfl
    have hidle : ((s.opened fresh c).setActivity c .idle).Attended := by
      intro d hs hd
      by_cases hdc : d = c
      · subst hdc
        refine ⟨fresh, hfresh, ?_⟩
        simp [HttpConnector.setActivity, opened, HttpConnector.setChannel, Channel.Open]
      · simp only [HttpConnector.setActivity, Function.update_apply, if_neg hdc] at hd
        exact hopened d hs hd
    have hinside : (((s.opened fresh c).setActivity c .idle).setInside ch none).Attended :=
      hidle.setChannel _ fun hopen => hopen
    exact hinside.of_eq rfl

/-- The rest of a connection's call does. -/
theorem Attended.resume (h : s.Attended) (c : ConnectionId) (t : Thread) (result : BCResult) :
    (s.resume c t result).Attended := by
  unfold HttpConnector.resume
  split
  · exact h
  · split
    · exact (h.setActivity (by simp)).of_eq rfl
    · exact h
  · rename_i ch t' o next hactivity
    have hnext : (s.setActivity c (next.activity ch)).Attended :=
      h.setActivity (by cases next <;> simp [Next.activity])
    split
    · exact hnext.of_eq rfl
    · exact h
  · rename_i ch hactivity
    have hset : (s.setChannel ch
        (if (s.channel ch).state = .ready then
          { s.channel ch with handler := some (.pooled s.nextPooled), parked := true }
        else s.channel ch)).Attended := by
      refine h.setChannel _ fun hopen => ?_
      split <;> exact hopen
    have hleft := hset.setConnection (c := c) (x := { s.connection c with channel := none })
      (.inr (by simp [HttpConnector.setChannel, hactivity]))
    have hdetach := hleft.setActivity (c := c) (a := .detach ch) (by simp)
    have hclose (x : HttpConnector) (hx : x.Attended) : (x.closeChannel ch).Attended :=
      hx.of_same (same_closeChannel ch)
    unfold HttpConnector.returnToPool
    split
    · exact hdetach.of_eq rfl
    · exact (hclose _ hdetach).of_eq rfl
  · rename_i ch hactivity
    have hcondemned : (s.setStage c .condemned).Attended := h.setStage (by simp)
    have hidle : ((s.setStage c .condemned).setActivity c .idle).Attended := by
      intro d hs hd
      have hdc : d ≠ c := by
        rintro rfl
        simp [HttpConnector.setStage, HttpConnector.setActivity] at hs
      simp only [HttpConnector.setActivity, Function.update_apply, if_neg hdc] at hd
      exact hcondemned d hs hd
    have hinside := hidle.setChannel ch (x := { s.channel ch with inside := none })
      fun hopen => hopen
    exact hinside.of_eq rfl
  · rename_i ch closing hactivity
    exact h.openFresh hactivity t result

/-! ### `Request` -/

/-- A connection is made. -/
theorem Attended.newConnection (h : s.Attended) (r : RequestId) (ch : ChannelId) :
    (s.newConnection r ch).Attended := by
  refine h.of_imp fun c hs ha => ?_
  have hne : c ≠ s.nextConnection := by
    rintro rfl
    simp [HttpConnector.newConnection] at hs
  simp only [HttpConnector.newConnection, Function.update_apply, if_neg hne] at hs
  refine ⟨hs, ha, fun ch' hch hopen => ⟨?_, hopen⟩⟩
  simpa only [HttpConnector.newConnection, Function.update_apply, if_neg hne] using hch

/-- A fresh connection does. -/
theorem Attended.newFreshConnection (h : s.Attended) (hsound : s.Sound) (r : RequestId) :
    (s.newFreshConnection r).Attended :=
  (h.newChannel hsound.channel_lt s.nextConnection).newConnection r s.nextChannel

/-- A connection is served with an open channel. -/
theorem Attended.serve (h : s.Attended) {c : ConnectionId} {ch : ChannelId}
    (hch : (s.connection c).channel = some ch) (hopen : (s.channel ch).Open) :
    (s.setStage c .serving).Attended := by
  intro d hs ha
  by_cases hd : d = c
  · subst hd
    exact ⟨ch, hch, hopen⟩
  · simp only [HttpConnector.setStage, Function.update_apply, if_neg hd] at hs
    exact h d hs ha

/-- A channel that a call of `Request` is about to reuse is open. -/
theorem Sound.open_of_acquire (h : s.Sound) {r : RequestId} {c : ConnectionId} {p : PooledId}
    {ch : ChannelId} (hphase : (s.request r).phase = .acquire c p)
    (hch : (s.connection c).channel = some ch) (hstate : (s.channel ch).state ≠ .closed) :
    (s.channel ch).Open := by
  obtain ⟨hstage, hrequest⟩ := h.calls.starting r c (by rw [hphase]; rfl)
  have hreuses := (h.channels.standing c).reuses p hstage (by rw [hrequest, hphase]; rfl)
  obtain rfl : ch = (s.pooled p).channel := Option.some.inj (hch.symm.trans hreuses)
  rcases h.pool.unused r p (by rw [hphase]; rfl) with hp | hp
  · rcases ((h.channels.watching p).watched (.inr hp)).2.2.2 with hready | hclosing
    · exact .inr (.inl hready)
    · exact .inr (.inr hclosing)
  · exact absurd ((h.channels.watching p).closed hp).2.2.2 hstate

/-- A connection that no longer serves is disowned. -/
theorem Attended.disown (h : s.Attended) {c : ConnectionId} (hc : s.stage c ≠ .serving)
    (r : RequestId) (p : PooledId) : (s.disown r c p).Attended :=
  (h.setConnection (x := { s.connection c with channel := none }) (.inl hc)).of_eq rfl

/-- Going on with a request leaves everything attended to. -/
theorem Attended.proceed (h : s.Attended) (hsound : s.Sound) (r : RequestId) (t : Thread)
    (result : BCResult) : (s.proceed r t result).Attended := by
  have hstarting {c : ConnectionId} (hc : (s.request r).phase.starting = some c) :
      s.stage c ≠ .serving := by
    rw [(hsound.calls.starting r c hc).1]
    simp
  have hclosed (p : PooledId) : ((s.closeChannel (s.pooled p).channel).release p).Attended :=
    (h.of_same (same_closeChannel _)).release p
  unfold HttpConnector.proceed
  split
  · exact h
  · exact h
  · exact h
  · unfold HttpConnector.proceedTake
    split
    · exact h.of_eq rfl
    split <;> exact h.of_eq rfl
  · rename_i b hphase
    cases b with
    | none =>
      simp only [HttpConnector.proceedInsert]
      split
      · exact h.of_eq rfl
      · exact (h.newFreshConnection hsound r).of_eq rfl
    | some p =>
      simp only [HttpConnector.proceedInsert]
      split
      · exact (hclosed p).of_eq rfl
      · exact (h.newConnection r (s.pooled p).channel).of_eq rfl
  · rename_i c hphase
    unfold HttpConnector.startFresh
    split
    · exact h
    rename_i ch hch
    split
    · have hopened : (s.opened ch c).Attended := h.setChannel _ fun _ => .inl rfl
      have hserved := hopened.serve (c := c) hch
        (by simp [opened, HttpConnector.setChannel, Channel.Open])
      exact hserved.of_eq rfl
    · exact h.of_eq rfl
  · rename_i c p hphase
    unfold HttpConnector.startReused
    split
    · exact h
    split
    · exact h.of_eq rfl
    · exact h.disown (hstarting (by rw [hphase]; rfl)) r p
  · rename_i c p hphase
    unfold HttpConnector.proceedAcquire
    split
    · exact h
    rename_i ch hch
    split
    · exact h.disown (hstarting (by rw [hphase]; rfl)) r p
    · rename_i hstate
      have hopen := hsound.open_of_acquire hphase hch hstate
      have hserved := h.serve hch hopen
      have hset := hserved.setChannel ch
        (x := { s.channel ch with adopts := (s.channel ch).adopts ++ [c] }) fun hopen => hopen
      exact hset.of_eq rfl
  · exact (h.release _).of_eq rfl
  · rename_i c k hphase
    have hdropped : (s.setStage c .dropped).Attended := h.setStage (by simp)
    unfold HttpConnector.proceedDetach HttpConnector.armClosed
    split <;> exact hdropped.of_eq rfl
  · exact (hclosed _).of_eq rfl
  · split
    · exact h.of_eq rfl
    · exact (h.newFreshConnection hsound r).of_eq rfl
  · split
    · exact (h.of_same (same_cancel _)).of_eq rfl
    · exact h.of_eq rfl

/-! ### Posted tasks, `Close` and the destructor -/

/-- What is left of a call does. -/
theorem Attended.goOn (h : s.Attended) (k : Cont) : (s.goOn k).Attended := by
  cases k with
  | done => exact h
  | request r k => cases k <;> exact h.of_eq rfl
  | destructor =>
    simp only [HttpConnector.goOn]
    split <;> exact h.of_eq rfl

/-- A notice, or what goes on instead, does. -/
theorem Attended.notifyOr (h : s.Attended) (t : Thread) (k : Cont) :
    (s.notifyOr t k).Attended := by
  unfold HttpConnector.notifyOr
  split
  · exact h.of_eq rfl
  · exact h.goOn k

/-- The notice that everything is closed does. -/
theorem Attended.notifyClosedIfDrained (h : s.Attended) (t : Thread) (k : Cont) :
    (s.notifyClosedIfDrained t k).Attended := by
  have hnotified : Attended { s with closedNotified := true } := h.of_eq rfl
  unfold HttpConnector.notifyClosedIfDrained
  split
  · exact h.goOn k
  split
  · exact h.goOn k
  split
  · exact hnotified.goOn k
  · exact h.of_eq rfl

/-- A connection is deleted that is not served. -/
theorem Attended.delete (h : s.Attended) {c : ConnectionId} {stage : ConnectionStage}
    (hstage : stage ≠ .serving) : ((s.deleteConnection c).setStage c stage).Attended := by
  have hleft : (s.setStage c stage).Attended := h.setStage hstage
  have hnot : (s.setStage c stage).stage c ≠ .serving := by
    simpa [HttpConnector.setStage] using hstage
  unfold HttpConnector.deleteConnection
  split
  · exact hleft.of_eq rfl
  · exact (hleft.setConnection (x := { s.connection c with channel := none }) (.inl hnot)).of_eq rfl

/-- A work of a thread does. -/
theorem Attended.doWork (h : s.Attended) (t : Thread) (w : Work) : (s.doWork t w).Attended := by
  cases w with
  | deleteConnection c =>
    have hdeleted : ((s.deleteConnection c).setStage c .deleted).Attended := h.delete (by simp)
    exact hdeleted.of_eq rfl
  | finishDestroy c =>
    have hgone : ((s.forget c).setStage c .gone).Attended :=
      Attended.setStage (h.of_eq rfl) (by simp)
    exact hgone.notifyOr t .done
  | deleteClosed p => exact h.of_eq rfl
  | deleteDetached p => exact h.of_eq rfl
  | finishIdle p =>
    have hgone : (setPooledStage
        { s with idleDestroying := s.idleDestroying - 1 } p .gone).Attended := h.of_eq rfl
    exact hgone.notifyOr t .done
  | recheck c =>
    simp only [HttpConnector.doWork]
    split
    · exact h.of_same (same_cancel c)
    · exact h
  | notifyClosed k => exact h.notifyClosedIfDrained t k
  | drop c armed k =>
    have hdeleted : ((s.deleteConnection c).setStage c .discarded).Attended := h.delete (by simp)
    cases armed with
    | none => exact hdeleted.goOn k
    | some t' => exact hdeleted.of_eq rfl
  | onClosed t' k => exact h.of_eq rfl
  | inOnClosed t' k =>
    have hdisarmed : (s.disarm t' .closed).Attended := h.of_eq rfl
    exact hdisarmed.goOn k

/-- `Close` does. -/
theorem Attended.close (h : s.Attended) (k : Cont) : (s.close k).Attended := by
  refine h.of_imp fun c hs ha => ⟨hs, ha, fun ch hch hopen => ⟨hch, ?_⟩⟩
  simp only [HttpConnector.close, closeAll, note, post]
  split
  · rw [Channel.Open, (close_eq _).2.1]
    exact hopen
  · exact hopen

/-- A thread that ends does. -/
theorem Attended.abandon (h : s.Attended) (t : Thread) : (s.abandon t).Attended := by
  refine h.of_imp fun c hs ha => ⟨hs, ha, fun ch hch hopen => ⟨?_, hopen⟩⟩
  simp only [HttpConnector.abandon, clearHandlers]
  split
  · exact hch
  · exact hch

/-- A line of the log does. -/
theorem Attended.log (h : s.Attended) (t : Thread) : (s.log t).Attended := by
  unfold HttpConnector.log
  split
  · exact h.of_eq rfl
  · exact h

/-- An event that is handled leaves everything attended to. -/
theorem Attended.handle (h : s.Attended) (hsound : s.Sound) (t : Thread) (e : Event) :
    (s.handle t e).Attended := by
  cases e with
  | call args =>
    simp only [HttpConnector.handle, HttpConnector.call]
    split
    · split <;> exact h.of_eq rfl
    · exact h
  | proceed r result => exact h.proceed hsound r t result
  | adopt ch failure => exact h.onAdopt hsound ch failure
  | closed ch result finishes => exact h.onClosed hsound ch t result finishes
  | resume c result => exact h.resume c t result
  | work w =>
    have herased : Attended { s with works := s.works.erase w } := h.of_eq rfl
    simp only [HttpConnector.handle]
    split
    · exact herased.doWork t w
    · exact h
  | close =>
    simp only [HttpConnector.handle]
    split
    · exact h.close .done
    · exact h
  | destroy =>
    have hset : Attended { s with destructor := .closing t } := h.of_eq rfl
    simp only [HttpConnector.handle, HttpConnector.destroy]
    split
    · exact hset.close .destructor
    · exact h
  | endWait =>
    simp only [HttpConnector.handle, HttpConnector.endWait]
    split
    · split
      · exact h.of_eq rfl
      · exact h.abandon t
    · exact h
  | endAbandon =>
    simp only [HttpConnector.handle, HttpConnector.endAbandon]
    split
    · exact h.of_eq rfl
    · exact h
  | clearSink =>
    simp only [HttpConnector.handle, HttpConnector.clearSink]
    split
    · exact h.of_eq rfl
    · exact h
  | _ => exact Updates.attended (updates_handle t trivial) h

/-- Every step does. -/
theorem Attended.step (h : s.Attended) (hsound : s.Sound) (e : Thread × Event) :
    (s.step e).Attended := by
  unfold HttpConnector.step
  split
  · exact h
  · exact h.handle hsound e.1 e.2

/-! ### The end is not forgotten -/

/-- A connector that is closing waits for something, or somebody is going to look. -/
def Watched (s : HttpConnector) : Prop :=
  s.closing = true → s.Awaits ∨ ∃ k, .notifyClosed k ∈ s.works

/-- What looks the same awaits the same. -/
theorem awaits_of_eq (h : s.Awaits)
    (heq : (s'.face, s'.handler, s'.idle, s'.idleDestroying, s'.pooledStage) =
      (s.face, s.handler, s.idle, s.idleDestroying, s.pooledStage)) : s'.Awaits := by
  simp only [face, Prod.mk.injEq] at heq
  obtain ⟨⟨-, habandoned, hconns, hdestroying, hnotified⟩, hhandler, hidle, hcount, hstage⟩ := heq
  unfold Awaits Pends Quits HttpConnectorState.AllDrained
  rw [habandoned, hhandler, hnotified, hconns, hdestroying, hidle, hcount, hstage]
  exact h

/-- A channel that is taken out of the pool is outside it. -/
theorem awaits_proceedTake (h : s.Awaits) (r : RequestId) : (s.proceedTake r).Awaits := by
  unfold HttpConnector.proceedTake
  split
  · exact awaits_of_eq h rfl
  split
  · exact awaits_of_eq h rfl
  · rename_i p hp
    refine .inr ⟨p, ?_⟩
    simp [take, HttpConnector.setPhase, setPooled, setPooledStage]

/-- After `_NotifyClosedIfDrained` something is left or the end has been told. -/
theorem pends_notifyClosedIfDrained (hclosing : s.closing = true) (t : Thread) (k : Cont) :
    (s.notifyClosedIfDrained t k).Pends := by
  have hgoOn (x : HttpConnector) (hx : x.Pends) : (x.goOn k).Pends := by
    cases k with
    | done => exact hx
    | request r k => cases k <;> exact hx
    | destructor =>
      simp only [HttpConnector.goOn]
      split <;> exact hx
  unfold HttpConnector.notifyClosedIfDrained
  split
  · rename_i hfirst
    refine hgoOn s ?_
    rcases hfirst with habandoned | hnot | hnotified
    · exact .inl (.inl habandoned)
    · rw [hclosing] at hnot
      cases hnot
    · exact .inl (.inr (.inr hnotified))
  split
  · rename_i hdrained
    exact hgoOn s (.inr hdrained)
  split
  · exact hgoOn _ (.inl (.inr (.inr rfl)))
  · exact .inl (.inr (.inr rfl))

/-- The destructor's own call of `Close` leaves what is left and what is to be done. -/
theorem keeps_ownWork (t : Thread) {w : Work} (hcont : w.cont = .destructor)
    (hw : ∀ k, w ≠ .notifyClosed k) :
    (s.Awaits → (s.doWork t w).Awaits) ∧ ∀ v ∈ s.works, v ∈ (s.doWork t w).works := by
  have hgoOn (x : HttpConnector) (hx : (s.Awaits → x.Awaits) ∧ ∀ v ∈ s.works, v ∈ x.works) :
      (s.Awaits → (x.goOn .destructor).Awaits) ∧
        ∀ v ∈ s.works, v ∈ (x.goOn .destructor).works := by
    simp only [HttpConnector.goOn]
    split <;> exact hx
  cases w with
  | notifyClosed k => exact absurd rfl (hw k)
  | drop c armed k =>
    obtain rfl : k = .destructor := hcont
    have hdeleted : (s.Awaits → ((s.deleteConnection c).setStage c .discarded).Awaits) ∧
        ∀ v ∈ s.works, v ∈ ((s.deleteConnection c).setStage c .discarded).works := by
      unfold HttpConnector.deleteConnection
      split <;> exact ⟨fun hs => hs, fun v hv => hv⟩
    cases armed with
    | none => exact hgoOn _ hdeleted
    | some t' => exact ⟨hdeleted.1, fun v hv => List.mem_cons_of_mem _ (hdeleted.2 v hv)⟩
  | onClosed t' k => exact ⟨fun hs => hs, fun v hv => List.mem_cons_of_mem _ hv⟩
  | inOnClosed t' k =>
    obtain rfl : k = .destructor := hcont
    exact hgoOn _ ⟨fun hs => hs, fun v hv => hv⟩
  | _ => cases hcont

/-- What is watched stays so in every step. -/
theorem Watched.step (h : s.Watched) (hsound : s.Sound) (e : Thread × Event) :
    (s.step e).Watched := by
  obtain ⟨t, e⟩ := e
  unfold HttpConnector.step
  split
  · exact h
  by_cases hremoves : s.Removes e
  · cases e with
    | destroy =>
      simp only [HttpConnector.handle, HttpConnector.destroy]
      split
      · exact fun _ => .inr ⟨.destructor, List.mem_cons_self⟩
      · exact h
    | endWait =>
      simp only [HttpConnector.handle, HttpConnector.endWait]
      split
      · split
        · exact h
        · exact fun _ => .inl (.inl (.inl (.inl rfl)))
      · exact h
    | endAbandon =>
      simp only [HttpConnector.handle, HttpConnector.endAbandon]
      split <;> exact h
    | clearSink =>
      simp only [HttpConnector.handle, HttpConnector.clearSink]
      split <;> exact h
    | proceed r result =>
      have hphase : (s.request r).phase = .take := hremoves
      have hthins := thins_handle (s := s) t (e := .proceed r result) id
      have hdone : s.handle t (.proceed r result) = s.proceedTake r := by
        simp only [HttpConnector.handle, HttpConnector.proceed, hphase]
      intro hclosing
      rw [hthins.flags.1] at hclosing
      rw [hdone]
      rcases h hclosing with hawaits | ⟨k, hk⟩
      · exact .inl (awaits_proceedTake hawaits r)
      · refine .inr ⟨k, ?_⟩
        unfold HttpConnector.proceedTake
        split
        · exact hk
        split <;> exact hk
    | work w =>
      have hthins := thins_handle (s := s) t (e := .work w) id
      by_cases hmay : s.MayDo t w
      · have hdone : s.handle t (.work w) =
            HttpConnector.doWork { s with works := s.works.erase w } t w := by
          simp only [HttpConnector.handle, if_pos hmay]
        intro hclosing
        rw [hthins.flags.1] at hclosing
        rw [hdone]
        by_cases hlooks : ∃ k, w = .notifyClosed k
        · obtain ⟨k, rfl⟩ := hlooks
          exact .inl (.inl (pends_notifyClosedIfDrained
            (s := { s with works := s.works.erase (.notifyClosed k) }) hclosing t k))
        · have hother : ∀ k, w ≠ .notifyClosed k := fun k hk => hlooks ⟨k, hk⟩
          have herased : s.Awaits → Awaits { s with works := s.works.erase w } :=
            fun hs => awaits_of_eq hs rfl
          by_cases hcont : w.cont = .destructor
          · obtain ⟨hkept, hworks⟩ :=
              keeps_ownWork (s := { s with works := s.works.erase w }) t hcont hother
            rcases h hclosing with hawaits | ⟨k, hk⟩
            · exact .inl (hkept (herased hawaits))
            · exact .inr ⟨k, hworks _ ((List.mem_erase_of_ne (hother k).symm).mpr hk)⟩
          · have hcarries := hsound.carries_doWork hmay hcont
            rcases h hclosing with hawaits | ⟨k, hk⟩
            · exact .inl (hcarries.awaits hclosing (herased hawaits))
            · obtain ⟨new, hworks, -⟩ := hcarries.works
              refine .inr ⟨k, ?_⟩
              rw [hworks]
              exact List.mem_append_right _
                ((List.mem_erase_of_ne (hother k).symm).mpr hk)
      · simp only [HttpConnector.handle, if_neg hmay]
        exact h
    | _ => exact hremoves.elim
  · have hcarries : s.Carries t (s.handle t e) := hsound.carries_handle hremoves
    have hkeeps (hclosing : s.closing = true) :
        (s.handle t e).Awaits ∨ ∃ k, .notifyClosed k ∈ (s.handle t e).works := by
      rcases h hclosing with hawaits | ⟨k, hk⟩
      · exact .inl (hcarries.awaits hclosing hawaits)
      · obtain ⟨new, hworks, -⟩ := hcarries.works
        refine .inr ⟨k, ?_⟩
        rw [hworks]
        exact List.mem_append_right _ hk
    by_cases hends : e.Ends
    · cases e with
      | close =>
        simp only [HttpConnector.handle]
        split
        · exact fun _ => .inr ⟨.done, List.mem_cons_self⟩
        · exact h
      | destroy | endWait => exact absurd trivial hremoves
      | _ => exact hends.elim
    · intro hclosing
      rw [(thins_handle (s := s) t hends).flags.1] at hclosing
      exact hkeeps hclosing

/-! ### At rest -/

/-- Nothing is under way. -/
structure Resting (s : HttpConnector) : Prop where
  /-- Nothing is posted or begun. -/
  works : s.works = []
  /-- All calls of `Request` have returned. -/
  calls : ∀ r < s.nextRequest, (s.request r).phase.isReturned = true
  /-- No thread is in a connection. -/
  threads : ∀ c < s.nextConnection, s.activity c = .idle
  /-- No channel is open. -/
  channels : ∀ ch < s.nextChannel, ¬ (s.channel ch).Open

/-- Everything has been achieved. -/
structure Settles (s : HttpConnector) : Prop where
  /-- Nothing is left. -/
  drained : s.AllDrained
  /-- All connections have been deleted. -/
  connections : ∀ c, s.stage c = .unborn ∨ .deletedConnection c ∈ s.trace
  /-- All pooled channels have been deleted. -/
  pooled : ∀ p, s.pooledStage p = .unborn ∨ .deletedPooled p ∈ s.trace
  /-- All channels have been deleted. -/
  channels : ∀ ch < s.nextChannel, .deletedChannel ch (s.owner ch) ∈ s.trace
  /-- No guard is armed. -/
  guards : s.guards = [] ∧ s.callbacksInFlight = 0
  /-- Every call of `Request` has returned. -/
  returns : ∀ r < s.nextRequest, s.trace.countP (Action.returns r) = 1
  /-- The handler of every accepted request has been called and has returned, unless the
  destructor has given up. -/
  answers : s.abandoned = false → ∀ r c, .accepted r c ∈ s.trace →
    s.trace.countP (Action.answers r) = 1 ∧ s.trace.count (.callbackReturned c) = 1
  /-- A connector that is closing has called `OnClosed`, unless the destructor has given up. -/
  closed : s.closing = true → s.handler = true → s.abandoned = false →
    s.trace.count .onClosed = 1

/-- In a state at rest every request that was made has returned. -/
theorem Resting.returned (h : s.Resting) (hsound : s.Sound) {r : RequestId}
    (hborn : (s.request r).phase ≠ .unborn) : ∃ result, (s.request r).phase = .returned result := by
  have hreturned := h.calls r (hsound.calls.born hborn)
  cases hphase : (s.request r).phase <;> simp_all [RequestPhase.isReturned]

/-- Every connection is idle there. -/
theorem Resting.idle (h : s.Resting) (hsound : s.Sound) (c : ConnectionId) :
    s.activity c = .idle := by
  by_contra hne
  have hserving := (hsound.channels.standing c).active hne
  exact hne (h.threads c (hsound.lt_of_serving hserving))

/-- Connections at rest have been deleted, or have not been made. -/
theorem Resting.stage (h : s.Resting) (hsound : s.Sound) (hattended : s.Attended)
    (c : ConnectionId) : s.stage c = .unborn ∨ s.stage c = .gone ∨ s.stage c = .discarded := by
  have hdelete := (hsound.connections c).count_delete
  have hfinish := (hsound.connections c).count_finish
  have hdrop := (hsound.connections c).count_drop
  simp only [h.works, List.count_nil, List.countP_nil] at hdelete hfinish hdrop
  cases hstage : s.stage c with
  | starting =>
    have hstarting := hsound.calls.started c hstage
    obtain ⟨result, hreturned⟩ := h.returned hsound (r := (s.connection c).request) (by
      intro hunborn
      rw [hunborn] at hstarting
      cases hstarting)
    rw [hreturned] at hstarting
    cases hstarting
  | serving =>
    obtain ⟨ch, hch, hopen⟩ := hattended c hstage (h.idle hsound c)
    exact absurd hopen (h.channels ch (hsound.channel_lt c ch hch))
  | condemned => simp [hstage] at hdelete
  | deleted => simp [hstage] at hfinish
  | dropped => simp [hstage] at hdrop
  | unborn => exact .inl rfl
  | gone => exact .inr (.inl rfl)
  | discarded => exact .inr (.inr rfl)

/-- No pooled channel at rest is in the pool, or outside it. -/
theorem Resting.not_watched (h : s.Resting) (hsound : s.Sound) (p : PooledId) :
    ¬ (s.pooledStage p = .pooled ∨ s.pooledStage p = .loose) := by
  intro hp
  obtain ⟨-, hlt, -, hstate⟩ := (hsound.channels.watching p).watched hp
  refine h.channels _ hlt ?_
  rcases hstate with hready | hclosing
  · exact .inr (.inl hready)
  · exact .inr (.inr hclosing)

/-- Pooled channels at rest have been deleted, or have not been made. -/
theorem Resting.pooledStage (h : s.Resting) (hsound : s.Sound) (p : PooledId) :
    s.pooledStage p = .unborn ∨ s.pooledStage p = .gone := by
  have hnot := h.not_watched hsound p
  have hlodged := hsound.pool.lodged p
  have hclosed := hlodged.count_closed
  have hdetached := hlodged.count_detached
  have hidle := hlodged.count_idle
  have hheld : (s.pooled p).held = false := by
    rw [← Bool.not_eq_true]
    intro hheld
    have hborrowed := (hlodged.held hheld).1
    obtain ⟨result, hreturned⟩ := h.returned hsound (r := s.borrower p) (by
      intro hunborn
      rw [hunborn] at hborrowed
      cases hborrowed)
    rw [hreturned] at hborrowed
    cases hborrowed
  rw [h.works] at hclosed hdetached hidle
  cases hstage : s.pooledStage p with
  | unborn => exact .inl rfl
  | pooled => exact absurd (.inl hstage) hnot
  | loose => exact absurd (.inr hstage) hnot
  | closed => simp [hstage, hheld] at hclosed
  | detached => simp [hstage, hheld] at hdetached
  | deleted => simp [hstage] at hidle
  | gone => exact .inr rfl

/-- Everything is drained there. -/
theorem Resting.drained (h : s.Resting) (hsound : s.Sound) (hattended : s.Attended) :
    s.AllDrained := by
  refine ⟨?_, ?_, ?_, ?_⟩
  · refine Finset.eq_empty_of_forall_notMem fun c hc => ?_
    have hstage := h.stage hsound hattended c
    rcases (hsound.connections c).mem_conns.mp hc with hs | hs <;> simp [hs] at hstage
  · refine Finset.eq_empty_of_forall_notMem fun c hc => ?_
    have hstage := h.stage hsound hattended c
    rcases (hsound.connections c).mem_destroying.mp hc with hs | hs <;> simp [hs] at hstage
  · refine List.eq_nil_iff_forall_not_mem.mpr fun e he => ?_
    have hpooled := (((hsound.pool.lodged e.2).mem_idle e.1).mp he).1
    exact h.not_watched hsound e.2 (.inl hpooled)
  · rw [hsound.pool.card_leaving, Finset.card_eq_zero]
    refine Finset.eq_empty_of_forall_notMem fun p hp => ?_
    have hleaving := (mem_leaving fun q => (hsound.pool.lodged q).unborn).mp hp
    have hstage := h.pooledStage hsound p
    rcases hleaving with hs | hs <;> simp [hs] at hstage

/-- A closing connector at rest has called `OnClosed`. -/
theorem Resting.closed (h : s.Resting) {a : Dispatches.State Dispatch Thread} (hsound : s.Sound)
    (hattended : s.Attended) (hcounted : s.Counted a) (hwatched : s.Watched)
    (hclosing : s.closing = true) (hhandler : s.handler = true) (hkept : s.abandoned = false) :
    s.trace.count .onClosed = 1 := by
  have hquits : s.Quits := by
    rcases hwatched hclosing with ((hquits | hleft) | ⟨p, hp⟩) | ⟨k, hk⟩
    · exact hquits
    · exact absurd (h.drained hsound hattended) hleft
    · exact absurd (.inr hp) (h.not_watched hsound p)
    · rw [h.works] at hk
      exact absurd hk List.not_mem_nil
  have hnotified : s.closedNotified = true := by
    rcases hquits with hs | hs | hs
    · rw [hkept] at hs
      cases hs
    · rw [hhandler] at hs
      cases hs
    · exact hs
  have hwaiting := hcounted.noticing.waiting
  have harmed := hcounted.noticing.armed
  have hcalling := hcounted.noticing.calling
  simp only [h.works, List.countP_nil] at harmed hcalling
  rw [hcounted.noticing.began, hcounted.coherent.began]
  cases hstage : a.stage .closed with
  | waiting =>
    rw [hwaiting.mp hstage] at hnotified
    cases hnotified
  | armed t => simpa [hstage] using harmed t
  | calling t => simpa [hstage] using hcalling t
  | returned => rfl
  | skipped =>
    rw [hcounted.noticing.skipped hstage] at hhandler
    cases hhandler

/-- No guard is armed at rest. -/
theorem Resting.guards (h : s.Resting) (hsound : s.Sound) (hprotects : s.Protects) :
    s.guards = [] ∧ s.callbacksInFlight = 0 := by
  have hnone : s.guards = [] := by
    refine List.eq_nil_iff_forall_not_mem.mpr fun g hg => ?_
    have hpos := List.count_pos_iff.mpr hg
    obtain ⟨t, d⟩ := g
    cases d with
    | request c =>
      rw [hprotects.request, h.idle hsound c] at hpos
      simp [Activity.armedOn, Activity.callingOn] at hpos
    | closed =>
      rw [hprotects.closed, h.works] at hpos
      simp at hpos
  refine ⟨hnone, ?_⟩
  rw [hprotects.inFlight, hnone, List.length_nil]

/-- Whatever the threads of a connector have done: when nothing is under way any more and no
channel is open, everything has been deleted, every request has been told its outcome, and a
connector that is closing has told its end. -/
theorem settles_run (maxIdlePerKey : ℕ) (handler logSink : Bool) {events : List (Thread × Event)}
    (hresting : (Runs.run step (create maxIdlePerKey handler logSink) events).Resting) :
    (Runs.run step (create maxIdlePerKey handler logSink) events).Settles := by
  have hrun : (Runs.run step (create maxIdlePerKey handler logSink) events).Sound ∧
      (Runs.run step (create maxIdlePerKey handler logSink) events).Attended ∧
        (Runs.run step (create maxIdlePerKey handler logSink) events).Watched := by
    refine Runs.invariant (I := fun s : HttpConnector => s.Sound ∧ s.Attended ∧ s.Watched)
      (fun s e h => ⟨h.1.step e, h.2.1.step h.1 e, h.2.2.step h.1 e⟩) ⟨sound_create _ _ _, ?_, ?_⟩
      events
    · exact fun c hs => by cases hs
    · exact fun hs => by cases hs
  obtain ⟨hsound, hattended, hwatched⟩ := hrun
  obtain ⟨a, -, hcounted⟩ := counted_run maxIdlePerKey handler logSink events
  have hrecorded := recorded_run maxIdlePerKey handler logSink events
  have hrecalled := recalled_run maxIdlePerKey handler logSink events
  have hanswers := hrecalled.answers hsound hcounted hrecorded
  revert hresting hsound hattended hwatched hcounted hrecorded hrecalled hanswers
  generalize Runs.run step (create maxIdlePerKey handler logSink) events = s
  intro hresting hsound hattended hwatched hcounted hrecorded hrecalled hanswers
  have hdrained := hresting.drained hsound hattended
  have hconnections (c : ConnectionId) : s.stage c = .unborn ∨ .deletedConnection c ∈ s.trace := by
    rcases hresting.stage hsound hattended c with hs | hs | hs
    · exact .inl hs
    all_goals
      refine .inr (List.count_pos_iff.mp ?_)
      rw [hrecorded.connection, hs]
      exact Nat.one_pos
  refine ⟨hdrained, hconnections, fun p => ?_, fun ch hlt => ?_,
    hresting.guards hsound hcounted.protects, fun r hlt => ?_, fun hkept r c hmem => ?_,
    hresting.closed hsound hattended hcounted hwatched⟩
  · rcases hresting.pooledStage hsound p with hs | hs
    · exact .inl hs
    · refine .inr (List.count_pos_iff.mp ?_)
      rw [hrecorded.pooled, hs]
      exact Nat.one_pos
  · have hdeleted : s.deleted ch = true := by
      refine (hsound.deleted_iff hdrained).mpr
        ⟨fun p hp => hresting.not_watched hsound p (.inr hp), ?_⟩ ch hlt
      intro c hc
      rcases hresting.stage hsound hattended c with hs | hs | hs <;> simp [hs] at hc
    have hpos : 0 < s.trace.countP (Action.deletesChannel ch) := by
      rw [hrecorded.channel, hdeleted]
      exact Nat.one_pos
    obtain ⟨b, hb, hdeletes⟩ := List.countP_pos_iff.mp hpos
    cases b with
    | deletedChannel ch' owner =>
      obtain rfl : ch' = ch := of_decide_eq_true hdeletes
      rwa [hrecorded.owner ch' owner hb] at hb
    | _ => cases hdeletes
  · rw [hrecalled.returns, hresting.calls r hlt]
    rfl
  · refine hanswers.deleted r c hmem ?_ hkept
    rcases hconnections c with hs | hs
    · have haccepted := ((hrecalled.accepted r c).mp hmem).1
      rw [hs] at haccepted
      simp [ConnectionStage.Accepted] at haccepted
    · exact hs

/-- A request is answered, its channel goes to the pool, and the connector is closed. -/
def settledEvents : List (Thread × Event) :=
  pooledEvents ++
    [(1, .close), (1, .work (.notifyClosed .done)), (2, .fails 0), (2, .closed 0 .success false),
      (2, .work (.deleteClosed 0)), (2, .work (.finishIdle 0)), (2, .work (.onClosed 2 .done)),
      (2, .work (.inOnClosed 2 .done))]

/-- A run that ends at rest settles. -/
theorem settles_run_settled : (Runs.run step (create 1 true true) settledEvents).Settles := by
  refine settles_run 1 true true ⟨?_, ?_, ?_, ?_⟩
  all_goals decide +kernel

end HttpConnector

end Http
