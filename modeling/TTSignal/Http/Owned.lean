import TTSignal.Http.Record
import TTSignal.Http.Updates

/-!
# Everything is deleted once

The record of a connector shows each connection, pooled channel and channel deleted at most
once, a channel by its owner; what has been deleted is used by nobody.
-/

namespace Http

open Tcp (BCResult)

/-- A connection in this stage has been deleted. -/
def ConnectionStage.isDeleted : ConnectionStage → Bool
  | .deleted | .gone | .discarded => true
  | _ => false

/-- A pooled channel in this stage has been deleted. -/
def PooledStage.isDeleted : PooledStage → Bool
  | .deleted | .gone => true
  | _ => false

/-- An action deletes this channel. -/
def Action.deletesChannel (ch : ChannelId) : Action → Bool
  | .deletedChannel ch' _ => ch' = ch
  | _ => false

namespace HttpConnector

variable {s s' : HttpConnector}

/-- The record of the deletions agrees with the state. -/
structure Recorded (s : HttpConnector) : Prop where
  /-- A channel is deleted once. -/
  channel : ∀ ch, s.trace.countP (Action.deletesChannel ch) = (s.deleted ch).toNat
  /-- It is deleted by its owner. -/
  owner : ∀ ch owner, .deletedChannel ch owner ∈ s.trace → owner = s.owner ch
  /-- A connection is deleted once. -/
  connection : ∀ c, s.trace.count (.deletedConnection c) = (s.stage c).isDeleted.toNat
  /-- A pooled channel is deleted once. -/
  pooled : ∀ p, s.trace.count (.deletedPooled p) = (s.pooledStage p).isDeleted.toNat

/-- Between two connectors nothing has been deleted. -/
structure Spared (s s' : HttpConnector) : Prop where
  /-- No channel. -/
  deleted : s'.deleted = s.deleted
  /-- A deleted channel keeps its last owner. -/
  owner : ∀ ch, s.deleted ch = true → s'.owner ch = s.owner ch
  /-- No connection. -/
  stage : ∀ c, (s'.stage c).isDeleted = (s.stage c).isDeleted
  /-- No pooled channel. -/
  pooledStage : ∀ p, (s'.pooledStage p).isDeleted = (s.pooledStage p).isDeleted

/-- A record of other actions. -/
theorem Recorded.of_spared (h : s.Recorded) (hspared : s.Spared s')
    (hadds : Adds (fun a => a.kind ≠ .deletion) s s') : s'.Recorded := by
  obtain ⟨new, htrace, hnew⟩ := hadds
  have hchannel : ∀ ch, new.countP (Action.deletesChannel ch) = 0 := by
    intro ch
    apply List.countP_eq_zero.mpr
    intro a ha
    have := hnew a ha
    cases a <;> simp_all [Action.kind, Action.deletesChannel]
  have hnot : ∀ a, a.kind = .deletion → new.count a = 0 := by
    intro a ha
    apply List.count_eq_zero.mpr
    intro hmem
    exact hnew a hmem ha
  constructor
  · intro ch
    rw [htrace, List.countP_append, hchannel, h.channel, hspared.deleted, Nat.add_zero]
  · intro ch owner hmem
    rw [htrace] at hmem
    rcases List.mem_append.mp hmem with hmem | hmem
    · have hdeleted : s.deleted ch = true := by
        by_contra hkept
        have hzero := h.channel ch
        rw [Bool.not_eq_true] at hkept
        rw [hkept] at hzero
        have := List.countP_eq_zero.mp hzero _ hmem
        simp [Action.deletesChannel] at this
      rw [hspared.owner ch hdeleted]
      exact h.owner ch owner hmem
    · exact absurd rfl (hnew _ hmem)
  · intro c
    rw [htrace, List.count_append, hnot _ rfl, h.connection, hspared.stage, Nat.add_zero]
  · intro p
    rw [htrace, List.count_append, hnot _ rfl, h.pooled, hspared.pooledStage, Nat.add_zero]

/-- What is spared twice is spared. -/
theorem Spared.trans {s'' : HttpConnector} (h : s.Spared s') (h' : s'.Spared s'') :
    s.Spared s'' where
  deleted := h'.deleted.trans h.deleted
  owner ch hdeleted := (h'.owner ch (by rw [h.deleted]; exact hdeleted)).trans (h.owner ch hdeleted)
  stage c := (h'.stage c).trans (h.stage c)
  pooledStage p := (h'.pooledStage p).trans (h.pooledStage p)

/-- Nothing that is deleted or owned changes. -/
theorem spared_of_eq (hdeleted : s'.deleted = s.deleted) (howner : s'.owner = s.owner)
    (hstage : s'.stage = s.stage) (hpooled : s'.pooledStage = s.pooledStage) : s.Spared s' := by
  constructor
  · exact hdeleted
  · intro ch _
    rw [howner]
  · intro c
    rw [hstage]
  · intro p
    rw [hpooled]

/-- Something that concerns no deletion is done before. -/
theorem Spared.after {x : HttpConnector} (h : x.Spared s') (hdeleted : x.deleted = s.deleted)
    (howner : x.owner = s.owner) (hstage : x.stage = s.stage)
    (hpooled : x.pooledStage = s.pooledStage) : s.Spared s' :=
  (spared_of_eq hdeleted howner hstage hpooled).trans h

/-- Where everything is the same everything is spared. -/
theorem spared_of_same (h : s.Same s') : s.Spared s' := by
  obtain ⟨hstage, -, hpooled, -, howner, hdeleted, -⟩ := h.tables
  exact spared_of_eq hdeleted howner hstage hpooled

/-- A connection comes further. -/
theorem spared_setStage {c : ConnectionId} {stage : ConnectionStage}
    (h : stage.isDeleted = (s.stage c).isDeleted) : s.Spared (s.setStage c stage) := by
  refine ⟨rfl, fun _ _ => rfl, fun d => ?_, fun _ => rfl⟩
  simp only [setStage, Function.update_apply]
  split
  · subst d
    exact h
  · rfl

/-- A pooled channel comes further. -/
theorem spared_setPooledStage {p : PooledId} {stage : PooledStage}
    (h : stage.isDeleted = (s.pooledStage p).isDeleted) : s.Spared (s.setPooledStage p stage) := by
  refine ⟨rfl, fun _ _ => rfl, fun _ => rfl, fun q => ?_⟩
  simp only [setPooledStage, Function.update_apply]
  split
  · subst q
    exact h
  · rfl

/-- A channel that has not been deleted gets another owner. -/
theorem spared_setOwner {ch : ChannelId} (h : s.deleted ch = false) (owner : ChannelHandler) :
    s.Spared (s.setOwner ch owner) := by
  refine ⟨rfl, fun ch' hdeleted => ?_, fun _ => rfl, fun _ => rfl⟩
  have hne : ch' ≠ ch := by
    rintro rfl
    rw [h] at hdeleted
    cases hdeleted
  simp [setOwner, hne]

/-! ### `Request` -/

/-- The release of a pooled channel spares the others. -/
theorem spared_release (s : HttpConnector) (p : PooledId) : s.Spared (s.release p) := by
  obtain ⟨x, works, -, heq⟩ := s.release_eq p
  rw [heq]
  exact spared_of_eq rfl rfl rfl rfl

/-- A connection is made. -/
theorem Sound.spared_newConnection (h : s.Sound) (r : RequestId) (ch : ChannelId) :
    s.Spared (s.newConnection r ch) := by
  have hunborn := (h.connections s.nextConnection).unborn le_rfl
  have hstage : s.Spared (s.setStage s.nextConnection .starting) :=
    spared_setStage (by rw [hunborn]; rfl)
  exact hstage.trans (spared_of_eq rfl rfl rfl rfl)

/-- A connection is made with a channel of its own. -/
theorem Sound.spared_newFreshConnection (h : s.Sound) (r : RequestId) :
    s.Spared (s.newFreshConnection r) := by
  have hunborn := (h.connections s.nextConnection).unborn le_rfl
  have hkept := ((h.channels.shaped s.nextChannel).unborn le_rfl).2
  have howner : s.Spared (s.setOwner s.nextChannel (.connection s.nextConnection)) :=
    spared_setOwner hkept _
  have hstage : (s.setOwner s.nextChannel (.connection s.nextConnection)).Spared
      ((s.setOwner s.nextChannel (.connection s.nextConnection)).setStage s.nextConnection
        .starting) := spared_setStage (by simp [setOwner, hunborn, ConnectionStage.isDeleted])
  exact (howner.trans hstage).trans (spared_of_eq rfl rfl rfl rfl)

/-- Going on with a request spares what others use. -/
theorem Sound.spared_proceed (h : s.Sound) (r : RequestId) (t : Thread) (result : BCResult) :
    s.Spared (s.proceed r t result) := by
  have hsame : s.Spared s := spared_of_eq rfl rfl rfl rfl
  have hstarting {c : ConnectionId} (hc : (s.request r).phase.starting = some c) :
      (s.stage c).isDeleted = false := by
    rw [(h.calls.starting r c hc).1]
    rfl
  unfold HttpConnector.proceed
  split
  · exact hsame
  · exact hsame
  · exact hsame
  · unfold HttpConnector.proceedTake
    split
    · exact spared_of_eq rfl rfl rfl rfl
    split
    · exact spared_of_eq rfl rfl rfl rfl
    · rename_i p hp
      have hpooled := h.pool.pooled_of_takeFromPool hp
      have hstage : s.Spared (s.setPooledStage p .loose) :=
        spared_setPooledStage (by rw [hpooled]; rfl)
      exact hstage.trans (spared_of_eq rfl rfl rfl rfl)
  · rename_i b hphase
    cases b with
    | none =>
      simp only [HttpConnector.proceedInsert]
      split
      · exact spared_of_eq rfl rfl rfl rfl
      · exact (h.spared_newFreshConnection r).trans (spared_of_eq rfl rfl rfl rfl)
    | some p =>
      simp only [HttpConnector.proceedInsert]
      split
      · have hreleased : s.Spared ((s.closeChannel (s.pooled p).channel).release p) :=
          (spared_release (s.closeChannel (s.pooled p).channel) p).after rfl rfl rfl rfl
        exact hreleased.trans (spared_of_eq rfl rfl rfl rfl)
      · exact (h.spared_newConnection r (s.pooled p).channel).trans (spared_of_eq rfl rfl rfl rfl)
  · rename_i c hphase
    unfold HttpConnector.startFresh
    split
    · exact hsame
    split
    · have hserved : s.Spared (s.setStage c .serving) :=
        spared_setStage (hstarting (by rw [hphase]; rfl)).symm
      exact hserved.trans (spared_of_eq rfl rfl rfl rfl)
    · exact spared_of_eq rfl rfl rfl rfl
  · unfold HttpConnector.startReused
    split
    · exact hsame
    split <;> exact spared_of_eq rfl rfl rfl rfl
  · rename_i c p hphase
    unfold HttpConnector.proceedAcquire
    split
    · exact hsame
    split
    · exact spared_of_eq rfl rfl rfl rfl
    · have hserved : s.Spared (s.setStage c .serving) :=
        spared_setStage (hstarting (by rw [hphase]; rfl)).symm
      exact hserved.trans (spared_of_eq rfl rfl rfl rfl)
  · exact (spared_release s _).trans (spared_of_eq rfl rfl rfl rfl)
  · rename_i c k hphase
    have hdropped : s.Spared (s.setStage c .dropped) :=
      spared_setStage (hstarting (by rw [hphase]; rfl)).symm
    unfold HttpConnector.proceedDetach armClosed
    split <;> exact hdropped.trans (spared_of_eq rfl rfl rfl rfl)
  · rename_i p hphase
    have hreleased : s.Spared ((s.closeChannel (s.pooled p).channel).release p) :=
      (spared_release (s.closeChannel (s.pooled p).channel) p).after rfl rfl rfl rfl
    exact hreleased.trans (spared_of_eq rfl rfl rfl rfl)
  · split
    · exact spared_of_eq rfl rfl rfl rfl
    · exact (h.spared_newFreshConnection r).trans (spared_of_eq rfl rfl rfl rfl)
  · split
    · exact (spared_of_same (same_cancel _)).trans (spared_of_eq rfl rfl rfl rfl)
    · exact spared_of_eq rfl rfl rfl rfl

/-! ### Channels -/

/-- Delivering once spares everything. -/
theorem spared_deliverOnce (s : HttpConnector) (c : ConnectionId) (ch : ChannelId) (t : Thread)
    (closeResult : BCResult) (finishes : Bool) (next : Next) :
    s.Spared (s.deliverOnce c ch t closeResult finishes next) := by
  obtain ⟨x, a, n, guards, -, -, -, -, heq⟩ := s.deliverOnce_eq c ch t closeResult finishes next
  rw [heq]
  exact spared_of_eq rfl rfl rfl rfl

/-- Updates in place spare everything. -/
theorem Updates.spared {d : Prop} (h : Updates d s s') : s.Spared s' := by
  refine h.within (spared_of_eq rfl rfl rfl rfl) Spared.trans fun hupdate => ?_
  cases hupdate with
  | channel | connection | note | logging | dnsWorkers => exact spared_of_eq rfl rfl rfl rfl
  | deliverOnce _ c ch t closeResult finishes next =>
    exact spared_deliverOnce _ c ch t closeResult finishes next

/-- A pooled channel has been left by its channel. -/
theorem spared_onPooledDetached {p : PooledId} (hp : s.pooledStage p = .loose) :
    s.Spared (s.onPooledDetached p) := by
  obtain ⟨x, works, -, heq⟩ := s.onPooledDetached_eq p
  have hstage : s.Spared (s.setPooledStage p .detached) :=
    spared_setPooledStage (by rw [hp]; rfl)
  rw [heq]
  exact hstage.trans (spared_of_eq rfl rfl rfl rfl)

/-- The channel of a pooled channel has closed. -/
theorem spared_onPooledClosed {p : PooledId}
    (hp : s.pooledStage p = .pooled ∨ s.pooledStage p = .loose ∨ s.pooledStage p = .closed) :
    s.Spared (s.onPooledClosed p) := by
  obtain ⟨x, idle, n, works, -, heq⟩ := s.onPooledClosed_eq p
  have hstage : s.Spared (s.setPooledStage p .closed) := by
    apply spared_setPooledStage
    rcases hp with hp | hp | hp
    all_goals simp [hp, PooledStage.isDeleted]
  rw [heq]
  exact hstage.trans (spared_of_eq rfl rfl rfl rfl)

/-- So does adopting a channel. -/
theorem Sound.spared_onAdopt (h : s.Sound) (ch : ChannelId) (failure : Option BCResult) :
    s.Spared (s.onAdopt ch failure) := by
  have hsame : s.Spared s := spared_of_eq rfl rfl rfl rfl
  unfold HttpConnector.onAdopt
  split
  · exact hsame
  rename_i c rest hadopts
  split
  · exact hsame
  rename_i hrun
  have hopen := not_not.mp (not_or.mp hrun).2
  obtain ⟨-, -, p, howner, hloose, -⟩ := h.channels.adopting hadopts
  have hkept : s.deleted ch = false := by
    rw [Bool.eq_false_iff]
    exact fun hdeleted => h.dead ch hdeleted hopen
  split
  · have hadopted : s.Spared (s.adopted ch c rest) :=
      (spared_setOwner hkept (.connection c)).trans (spared_of_eq rfl rfl rfl rfl)
    have hidle : (s.channel ch).state ≠ .idle := by
      rcases hopen with hstate | hstate | hstate <;> simp [hstate]
    have hhandler := (h.channels.shaped ch).handler hidle
    rw [howner] at hhandler
    unfold HttpConnector.takeOver
    rw [hhandler]
    have hdetached : (s.adopted ch c rest).Spared ((s.adopted ch c rest).onPooledDetached p) :=
      spared_onPooledDetached hloose
    exact (hadopted.trans hdetached).trans (spared_of_same (same_onChannelReady c failure))
  · have hkept := ((h.channels.shaped s.nextChannel).unborn le_rfl).2
    have howner : s.Spared (s.setOwner s.nextChannel (.connection c)) := spared_setOwner hkept _
    exact howner.trans (spared_of_eq rfl rfl rfl rfl)

/-- So does the end of a channel. -/
theorem Sound.spared_onClosed (h : s.Sound) (ch : ChannelId) (t : Thread) (result : BCResult)
    (finishes : Bool) : s.Spared (s.onClosed ch t result finishes) := by
  have hsame : s.Spared s := spared_of_eq rfl rfl rfl rfl
  unfold HttpConnector.onClosed
  split
  case isFalse => exact hsame
  rename_i hclosing
  obtain ⟨-, hstate, -⟩ := hclosing
  have hkept : s.deleted ch = false := by
    rw [Bool.eq_false_iff]
    exact fun hdeleted => h.dead ch hdeleted (.inr (.inr hstate))
  have hlt : ch < s.nextChannel := by
    by_contra hle
    have := ((h.channels.shaped ch).unborn (not_lt.mp hle)).1
    rw [hstate] at this
    cases this
  have hhandler := (h.channels.shaped ch).handler (by simp [hstate])
  cases howner : s.owner ch with
  | connection c =>
    rw [hhandler, howner]
    exact (spared_deliverOnce
      ((s.setChannel ch { s.channel ch with state := .closed }).setInside ch (some c)) c ch t
        result finishes .detach).after rfl rfl rfl rfl
  | pooled p =>
    rw [hhandler, howner]
    have hstages := ((h.channels.watching p).pooled ch howner hlt hkept).2
    have hclosed : (s.setChannel ch { s.channel ch with state := .closed }).Spared
        ((s.setChannel ch { s.channel ch with state := .closed }).onPooledClosed p) :=
      spared_onPooledClosed hstages
    exact hclosed.after rfl rfl rfl rfl

/-- So does the rest of a connection's call. -/
theorem Sound.spared_resume (h : s.Sound) (c : ConnectionId) (t : Thread) (result : BCResult) :
    s.Spared (s.resume c t result) := by
  have hsame : s.Spared s := spared_of_eq rfl rfl rfl rfl
  unfold HttpConnector.resume
  split
  · exact hsame
  · split
    · exact spared_of_eq rfl rfl rfl rfl
    · exact hsame
  · split
    · exact spared_of_eq rfl rfl rfl rfl
    · exact hsame
  · rename_i ch hactivity
    obtain ⟨-, -, hstate, -⟩ := (h.channels.serving c ch).parking (by rw [hactivity]; rfl)
      (by rw [hactivity]; rfl)
    have hkept : s.deleted ch = false := by
      rw [Bool.eq_false_iff]
      exact fun hdeleted => h.dead ch hdeleted (.inr (.inl hstate))
    have hunborn := (h.pool.lodged s.nextPooled).unborn le_rfl
    have hpark (key : String) (stage : PooledStage) (hstage : stage.isDeleted = false) :
        s.Spared (s.park ch key stage) := by
      have howner : s.Spared (s.setOwner ch (.pooled s.nextPooled)) := spared_setOwner hkept _
      have hmade : (s.setOwner ch (.pooled s.nextPooled)).Spared
          ((s.setOwner ch (.pooled s.nextPooled)).setPooledStage s.nextPooled stage) :=
        spared_setPooledStage (by
          rw [hstage]
          simp [setOwner, hunborn, PooledStage.isDeleted])
      exact (howner.trans hmade).trans (spared_of_eq rfl rfl rfl rfl)
    unfold HttpConnector.returnToPool
    split
    · exact (hpark (s.connection c).poolKey .pooled rfl).trans (spared_of_eq rfl rfl rfl rfl)
    · exact (hpark (s.connection c).poolKey .loose rfl).trans (spared_of_eq rfl rfl rfl rfl)
  · rename_i ch hactivity
    have hserving := (h.channels.standing c).active (by simp [hactivity])
    have hleft : s.Spared (s.setStage c .condemned) :=
      spared_setStage (by rw [hserving]; rfl)
    exact hleft.trans (spared_of_eq rfl rfl rfl rfl)
  · unfold HttpConnector.openFresh
    split
    · exact (spared_deliverOnce (s.setFailResult c shuttingDown) c _ t shuttingDown false
        .detach).after rfl rfl rfl rfl
    split
    · exact (spared_deliverOnce (s.setFailResult c result) c _ t result false .detach).after rfl
        rfl rfl rfl
    split
    · exact hsame
    · exact spared_of_eq rfl rfl rfl rfl

/-! ### Posted tasks -/

/-- So does what is left of a call. -/
theorem spared_goOn (s : HttpConnector) (k : Cont) : s.Spared (s.goOn k) := by
  cases k with
  | done => exact spared_of_eq rfl rfl rfl rfl
  | request r a => cases a <;> exact spared_of_eq rfl rfl rfl rfl
  | destructor =>
    simp only [HttpConnector.goOn]
    split <;> exact spared_of_eq rfl rfl rfl rfl

/-- So does a notice, or what goes on instead. -/
theorem spared_notifyOr (s : HttpConnector) (t : Thread) (k : Cont) :
    s.Spared (s.notifyOr t k) := by
  unfold HttpConnector.notifyOr
  split
  · exact spared_of_eq rfl rfl rfl rfl
  · exact spared_goOn s k

/-- So does the notice that everything is closed. -/
theorem spared_notifyClosedIfDrained (s : HttpConnector) (t : Thread) (k : Cont) :
    s.Spared (s.notifyClosedIfDrained t k) := by
  unfold HttpConnector.notifyClosedIfDrained
  split
  · exact spared_goOn s k
  split
  · exact spared_goOn s k
  split
  · exact (spared_goOn { s with closedNotified := true } k).after rfl rfl rfl rfl
  · exact spared_of_eq rfl rfl rfl rfl

/-- A channel is deleted by its owner. -/
theorem Recorded.deleteChannel (h : s.Recorded) {ch : ChannelId} {owner : ChannelHandler}
    (hkept : s.deleted ch = false) (howner : s.owner ch = owner) :
    (s.deleteChannel ch owner).Recorded := by
  constructor
  · intro ch'
    have hold := h.channel ch'
    simp only [HttpConnector.deleteChannel, note, List.countP_append, Function.update_apply,
      List.countP_singleton, Action.deletesChannel]
    grind
  · intro ch' o hmem
    rcases List.mem_append.mp hmem with hmem | hmem
    · exact h.owner ch' o hmem
    · rw [List.mem_singleton, Action.deletedChannel.injEq] at hmem
      obtain ⟨rfl, rfl⟩ := hmem
      exact howner.symm
  · intro c
    have hold := h.connection c
    simpa [HttpConnector.deleteChannel, note, List.count_append] using hold
  · intro p
    have hold := h.pooled p
    simpa [HttpConnector.deleteChannel, note, List.count_append] using hold

/-- A connection is deleted. -/
theorem Recorded.deletedConnection (h : s.Recorded) {c : ConnectionId} {stage : ConnectionStage}
    (hold : (s.stage c).isDeleted = false) (hnew : stage.isDeleted = true) :
    ((s.note (.deletedConnection c)).setStage c stage).Recorded := by
  constructor
  · intro ch
    simpa [note, setStage, Action.deletesChannel] using h.channel ch
  · intro ch o hmem
    rcases List.mem_append.mp hmem with hmem | hmem
    · exact h.owner ch o hmem
    · simp at hmem
  · intro d
    have := h.connection d
    simp only [note, setStage, List.count_append, Function.update_apply, List.count_singleton]
    grind
  · intro p
    simpa [note, setStage, List.count_append] using h.pooled p

/-- A pooled channel is deleted. -/
theorem Recorded.deletedPooled (h : s.Recorded) {p : PooledId} {stage : PooledStage}
    (hold : (s.pooledStage p).isDeleted = false) (hnew : stage.isDeleted = true) :
    ((s.note (.deletedPooled p)).setPooledStage p stage).Recorded := by
  constructor
  · intro ch
    simpa [note, setPooledStage, Action.deletesChannel] using h.channel ch
  · intro ch o hmem
    rcases List.mem_append.mp hmem with hmem | hmem
    · exact h.owner ch o hmem
    · simp at hmem
  · intro c
    simpa [note, setPooledStage, List.count_append] using h.connection c
  · intro q
    have := h.pooled q
    simp only [note, setPooledStage, List.count_append, Function.update_apply,
      List.count_singleton]
    grind

/-- Nothing that the record speaks of changes. -/
theorem Recorded.of_eq (h : s.Recorded) (htrace : s'.trace = s.trace)
    (hdeleted : s'.deleted = s.deleted) (howner : s'.owner = s.owner) (hstage : s'.stage = s.stage)
    (hpooled : s'.pooledStage = s.pooledStage) : s'.Recorded :=
  h.of_spared (spared_of_eq hdeleted howner hstage hpooled) (adds_of_eq htrace)

/-- What a call of `Request` does besides. -/
theorem Recorded.goOn (h : s.Recorded) (k : Cont) : (s.goOn k).Recorded :=
  h.of_spared (spared_goOn s k) ((adds_goOn k).mono fun a ha => by simp [ha])

/-- `~HttpConnection`. -/
theorem Recorded.deleteConnection (h : s.Recorded) (hsound : s.Channels) {c : ConnectionId}
    {stage : ConnectionStage} (hstage : s.stage c = .condemned ∨ s.stage c = .dropped)
    (hnew : stage.isDeleted = true) : ((s.deleteConnection c).setStage c stage).Recorded := by
  have hold : (s.stage c).isDeleted = false := by
    rcases hstage with hstage | hstage <;> simp [hstage, ConnectionStage.isDeleted]
  unfold HttpConnector.deleteConnection
  split
  · exact h.deletedConnection hold hnew
  · rename_i ch hch
    have hkept := ((hsound.holding c ch).channel hch).2.1
    have hchannel := h.deleteChannel hkept (hsound.owner_of_over hstage hch)
    have hconnection : ((s.deleteChannel ch (.connection c)).setConnection c
        { s.connection c with channel := none }).Recorded := hchannel.of_eq rfl rfl rfl rfl rfl
    exact hconnection.deletedConnection hold hnew

/-- What is done deletes only what has not been deleted. -/
theorem Recorded.doWork (h : s.Recorded) (hsound : s.Sound) {w : Work} (hmem : w ∈ s.works)
    (t : Thread) : (HttpConnector.doWork { s with works := s.works.erase w } t w).Recorded := by
  have herased : Recorded { s with works := s.works.erase w } := h.of_eq rfl rfl rfl rfl rfl
  have hchannels : Channels { s with works := s.works.erase w } :=
    hsound.channels.of_alike { (Same.refl s).toAlike with handler := fun _ => rfl }
  cases w with
  | deleteConnection c =>
    have hstage : s.stage c = .condemned := by
      have hcount := List.count_pos_iff.mpr hmem
      have := (hsound.connections c).count_delete
      grind
    exact (herased.deleteConnection hchannels (.inl hstage) rfl).of_eq rfl rfl rfl rfl rfl
  | finishDestroy c =>
    have hstage : s.stage c = .deleted := by
      have hcount := List.count_pos_iff.mpr hmem
      have := (hsound.connections c).count_finish
      grind
    have hgone : s.Spared (s.setStage c .gone) := spared_setStage (by rw [hstage]; rfl)
    have hleft : Spared s (HttpConnector.doWork
        { s with works := s.works.erase (.finishDestroy c) } t (.finishDestroy c)) :=
      hgone.trans ((spared_notifyOr ((HttpConnector.forget
        { s with works := s.works.erase (.finishDestroy c) } c).setStage c .gone) t .done).after rfl
          rfl rfl rfl)
    refine h.of_spared hleft ?_
    exact ((adds_of_eq rfl).trans (adds_notifyOr t .done)).mono fun a ha => by simp [ha]
  | deleteClosed p =>
    obtain ⟨hstage, -⟩ := hsound.pool.closed_of_mem hmem
    obtain ⟨howner, -, hkept, -⟩ := (hsound.channels.watching p).closed hstage
    have hchannel := herased.deleteChannel hkept howner
    have hnew : PooledStage.deleted.isDeleted = true := rfl
    have hpooled := hchannel.deletedPooled (p := p)
      (by simp [HttpConnector.deleteChannel, note, hstage, PooledStage.isDeleted]) hnew
    exact hpooled.of_eq rfl rfl rfl rfl rfl
  | deleteDetached p =>
    obtain ⟨hstage, -⟩ := hsound.pool.detached_of_mem hmem
    have hnew : PooledStage.gone.isDeleted = true := rfl
    have hpooled := herased.deletedPooled (p := p) (by simp [hstage, PooledStage.isDeleted]) hnew
    exact hpooled.of_eq rfl rfl rfl rfl rfl
  | finishIdle p =>
    have hstage := hsound.pool.deleted_of_mem hmem
    have hgone : s.Spared (s.setPooledStage p .gone) :=
      spared_setPooledStage (by rw [hstage]; rfl)
    have hleft : Spared s (HttpConnector.doWork
        { s with works := s.works.erase (.finishIdle p) } t (.finishIdle p)) :=
      hgone.trans ((spared_notifyOr (HttpConnector.setPooledStage
        { s with
          works := s.works.erase (.finishIdle p)
          idleDestroying := s.idleDestroying - 1 } p .gone) t .done).after rfl rfl rfl rfl)
    refine h.of_spared hleft ?_
    exact ((adds_of_eq rfl).trans (adds_notifyOr t .done)).mono fun a ha => by simp [ha]
  | recheck c =>
    simp only [HttpConnector.doWork]
    split
    · exact herased.of_spared (spared_of_same (same_cancel c)) (adds_of_eq (trace_cancel _ c))
    · exact herased
  | notifyClosed k =>
    exact herased.of_spared (spared_notifyClosedIfDrained _ t k)
      ((adds_notifyClosedIfDrained t k).mono fun a ha => by simp [ha])
  | drop c armed k =>
    have hstage : s.stage c = .dropped := by
      have hcount : 0 < s.works.countP (Work.drops c) :=
        List.countP_pos_iff.mpr ⟨_, hmem, by simp [Work.drops]⟩
      have := (hsound.connections c).count_drop
      grind
    have hnew : ConnectionStage.discarded.isDeleted = true := rfl
    have hdeleted := herased.deleteConnection hchannels (.inr hstage) hnew
    cases armed with
    | none => exact hdeleted.goOn k
    | some t' => exact hdeleted.of_eq rfl rfl rfl rfl rfl
  | onClosed t' k =>
    exact herased.of_spared (spared_of_eq rfl rfl rfl rfl)
      (Adds.of_eq (adds_note (by simp [Action.kind])) rfl)
  | inOnClosed t' k =>
    have hdisarmed : Recorded (HttpConnector.disarm
        { s with works := s.works.erase (.inOnClosed t' k) } t' .closed) :=
      herased.of_eq rfl rfl rfl rfl rfl
    exact hdisarmed.goOn k

/-- Nothing but the posted tasks and `Request` delete anything. -/
theorem Sound.spared_handle (h : s.Sound) (t : Thread) {e : Event} (hwork : ∀ w, e ≠ .work w) :
    s.Spared (s.handle t e) := by
  have hsame : s.Spared s := spared_of_eq rfl rfl rfl rfl
  cases e with
  | call args =>
    simp only [HttpConnector.handle, HttpConnector.call]
    split
    · split <;> exact spared_of_eq rfl rfl rfl rfl
    · exact hsame
  | proceed r result => exact h.spared_proceed r t result
  | adopt ch failure => exact h.spared_onAdopt ch failure
  | closed ch result finishes => exact h.spared_onClosed ch t result finishes
  | resume c result => exact h.spared_resume c t result
  | work w => exact absurd rfl (hwork w)
  | close =>
    simp only [HttpConnector.handle]
    split <;> exact spared_of_eq rfl rfl rfl rfl
  | destroy =>
    simp only [HttpConnector.handle, HttpConnector.destroy]
    split <;> exact spared_of_eq rfl rfl rfl rfl
  | endWait =>
    simp only [HttpConnector.handle, HttpConnector.endWait]
    split
    · split <;> exact spared_of_eq rfl rfl rfl rfl
    · exact hsame
  | endAbandon =>
    simp only [HttpConnector.handle, HttpConnector.endAbandon]
    split <;> exact spared_of_eq rfl rfl rfl rfl
  | clearSink =>
    simp only [HttpConnector.handle, HttpConnector.clearSink]
    split <;> exact spared_of_eq rfl rfl rfl rfl
  | _ => exact Updates.spared (updates_handle t trivial)

/-- Only works delete. -/
theorem not_records_deletion {e : Event} (hwork : ∀ w, e ≠ .work w) : ¬ e.Records .deletion := by
  cases e with
  | work w => exact absurd rfl (hwork w)
  | _ => simp [Event.Records]

/-- Every step deletes only what has not been deleted. -/
theorem Recorded.step (h : s.Recorded) (hsound : s.Sound) (e : Thread × Event) :
    (s.step e).Recorded := by
  unfold HttpConnector.step
  split
  · exact h
  by_cases hwork : ∃ w, e.2 = .work w
  · obtain ⟨w, hw⟩ := hwork
    rw [hw]
    simp only [HttpConnector.handle]
    split
    · rename_i hmay
      exact h.doWork hsound hmay.1 e.1
    · exact h
  · rw [not_exists] at hwork
    refine h.of_spared (hsound.spared_handle e.1 hwork) ((adds_handle e.1 e.2).mono ?_)
    intro a ha hkind
    rw [hkind] at ha
    exact not_records_deletion hwork ha

/-- Everything is in order, and nothing has been deleted twice. -/
theorem recorded_run (maxIdlePerKey : ℕ) (handler logSink : Bool)
    (events : List (Thread × Event)) :
    (Runs.run step (create maxIdlePerKey handler logSink) events).Recorded := by
  have hrun : (Runs.run step (create maxIdlePerKey handler logSink) events).Sound ∧
      (Runs.run step (create maxIdlePerKey handler logSink) events).Recorded := by
    refine Runs.invariant (I := fun s : HttpConnector => s.Sound ∧ s.Recorded)
      (fun s e h => ⟨h.1.step e, h.2.step h.1 e⟩) ⟨sound_create _ _ _, ?_⟩ events
    constructor <;> simp [create, ConnectionStage.isDeleted, PooledStage.isDeleted]
  exact hrun.2

/-! ### Nothing that has been deleted is used -/

/-- An object that calls back is there. -/
def Alive (s : HttpConnector) : ChannelHandler → Prop
  | .connection c => .deletedConnection c ∉ s.trace
  | .pooled p => .deletedPooled p ∉ s.trace

/-- What is deleted is deleted once, by its owner, and is not used any more. -/
structure Owned (s : HttpConnector) : Prop where
  /-- A channel is deleted at most once. -/
  channel : ∀ ch, s.trace.countP (Action.deletesChannel ch) ≤ 1
  /-- A connection is deleted at most once. -/
  connection : ∀ c, s.trace.count (.deletedConnection c) ≤ 1
  /-- A pooled channel is deleted at most once. -/
  pooled : ∀ p, s.trace.count (.deletedPooled p) ≤ 1
  /-- A pooled channel that a call of `Request` holds has not been deleted. -/
  held : ∀ r p, (s.request r).phase.borrowed = some p → .deletedPooled p ∉ s.trace
  /-- The channel of a connection has not been deleted. -/
  used : ∀ c ch owner, (s.connection c).channel = some ch → .deletedChannel ch owner ∉ s.trace
  /-- A connection whose code a thread runs has not been deleted. -/
  running : ∀ c, s.activity c ≠ .idle → .deletedConnection c ∉ s.trace
  /-- A channel that is open has not been deleted, and neither has the object it calls. -/
  called : ∀ ch, (s.channel ch).Open →
    (∀ owner, .deletedChannel ch owner ∉ s.trace) ∧
      ∃ handler, (s.channel ch).handler = some handler ∧ s.Alive handler

/-- A channel that has not been deleted has not noted it. -/
theorem Recorded.not_mem_channel (h : s.Recorded) {ch : ChannelId} (hkept : s.deleted ch = false)
    (owner : ChannelHandler) : .deletedChannel ch owner ∉ s.trace := by
  have hzero := h.channel ch
  rw [hkept] at hzero
  intro hmem
  have := List.countP_eq_zero.mp hzero _ hmem
  simp [Action.deletesChannel] at this

/-- Nor has a connection that has not been deleted. -/
theorem Recorded.not_mem_connection (h : s.Recorded) {c : ConnectionId}
    (hkept : (s.stage c).isDeleted = false) : .deletedConnection c ∉ s.trace := by
  have hzero := h.connection c
  rw [hkept] at hzero
  exact List.count_eq_zero.mp hzero

/-- Nor has a pooled channel that has not been deleted. -/
theorem Recorded.not_mem_pooled (h : s.Recorded) {p : PooledId}
    (hkept : (s.pooledStage p).isDeleted = false) : .deletedPooled p ∉ s.trace := by
  have hzero := h.pooled p
  rw [hkept] at hzero
  exact List.count_eq_zero.mp hzero

/-- The owner of a channel that has not been deleted is there. -/
theorem Recorded.alive_owner (h : s.Recorded) (hsound : s.Sound) {ch : ChannelId}
    (hlt : ch < s.nextChannel) (hkept : s.deleted ch = false) : s.Alive (s.owner ch) := by
  cases howner : s.owner ch with
  | connection c =>
    have hch := (hsound.channels.holding c ch).connection howner hlt hkept
    obtain hstage | hstage | hstage | hstage :=
      ((hsound.channels.holding c ch).channel hch).2.2.1
    all_goals exact h.not_mem_connection (by rw [hstage]; rfl)
  | pooled p =>
    obtain ⟨-, hstage | hstage | hstage⟩ := (hsound.channels.watching p).pooled ch howner hlt hkept
    all_goals exact h.not_mem_pooled (by rw [hstage]; rfl)

/-- A channel that has been opened has been made. -/
theorem Channels.lt_of_open (h : s.Channels) {ch : ChannelId} (hopen : (s.channel ch).Open) :
    ch < s.nextChannel := by
  by_contra hle
  have hidle := ((h.shaped ch).unborn (not_lt.mp hle)).1
  simp [Channel.Open, hidle] at hopen

/-- What has been recorded is owned. -/
theorem Recorded.owned (h : s.Recorded) (hsound : s.Sound) : s.Owned where
  channel ch := (h.channel ch).trans_le (Bool.toNat_le _)
  connection c := (h.connection c).trans_le (Bool.toNat_le _)
  pooled p := (h.pooled p).trans_le (Bool.toNat_le _)
  held r p hp := by
    have hheld := (hsound.pool.borrowed r p hp).1
    obtain ⟨-, hstage | hstage | hstage⟩ := (hsound.pool.lodged p).held hheld
    all_goals exact h.not_mem_pooled (by rw [hstage]; rfl)
  used c ch owner hch := h.not_mem_channel ((hsound.channels.holding c ch).channel hch).2.1 owner
  running c hactive := by
    have hserving := (hsound.channels.standing c).active hactive
    exact h.not_mem_connection (by rw [hserving]; rfl)
  called ch hopen := by
    have hkept : s.deleted ch = false := by
      rw [Bool.eq_false_iff]
      exact fun hdeleted => hsound.dead ch hdeleted hopen
    have hidle : (s.channel ch).state ≠ .idle := by
      rcases hopen with hstate | hstate | hstate <;> simp [hstate]
    exact ⟨h.not_mem_channel hkept, s.owner ch, (hsound.channels.shaped ch).handler hidle,
      h.alive_owner hsound (hsound.channels.lt_of_open hopen) hkept⟩

/-- Whatever the threads of a connector do: connections, pooled channels and channels are deleted
at most once, no call of `Request` holds a pooled channel that has been deleted, no connection
has a channel that has been deleted, and no open channel calls an object that has been deleted. -/
theorem owned_run (maxIdlePerKey : ℕ) (handler logSink : Bool) (events : List (Thread × Event)) :
    (Runs.run step (create maxIdlePerKey handler logSink) events).Owned :=
  (recorded_run maxIdlePerKey handler logSink events).owned
    (sound_run maxIdlePerKey handler logSink events)

end HttpConnector

end Http
