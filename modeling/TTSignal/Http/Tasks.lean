import TTSignal.Http.Threads
import TTSignal.Runs

/-!
# Posted tasks and the end of a connector

What the posted tasks delete is deleted once, by the object that owns it. With the steps of
`Close` and of the destructor every step of a connector keeps everything in order.
-/

namespace Http

open Tcp (BCResult)

namespace HttpConnector

variable {s s' : HttpConnector} {t : Thread}

/-! ### Deleting -/

/-- A connection that is deleted owns its channel. -/
theorem Channels.owner_of_over (h : s.Channels) {c : ConnectionId} {ch : ChannelId}
    (hstage : s.stage c = .condemned ∨ s.stage c = .dropped)
    (hch : (s.connection c).channel = some ch) : s.owner ch = .connection c := by
  obtain ⟨-, -, -, howner | ⟨hstarting, -⟩ | hadopts⟩ := (h.holding c ch).channel hch
  · exact howner
  · rcases hstage with hstage | hstage
    all_goals
      rw [hstage] at hstarting
      cases hstarting
  · have hserving := ((h.serving c ch).adopting hadopts).2.2.1.1
    rcases hstage with hstage | hstage
    all_goals
      rw [hstage] at hserving
      cases hserving

/-- The channel of a connection that is deleted is not open. -/
theorem Channels.not_open_of_over (h : s.Channels) {c : ConnectionId} {ch : ChannelId}
    (hstage : s.stage c = .condemned ∨ s.stage c = .dropped)
    (hch : (s.connection c).channel = some ch) : ¬ (s.channel ch).Open := by
  intro hopen
  have howner := h.owner_of_over hstage hch
  have hnot : s.stage c ≠ .serving := by
    rcases hstage with hstage | hstage <;> simp [hstage]
  cases hinside : (s.channel ch).inside with
  | none => exact hnot ((h.serving c ch).waits howner hopen hinside).1
  | some d =>
    have hserving := h.serving d ch
    have hon := hserving.inside.mp hinside
    have hactive : s.activity d ≠ .idle := by
      intro hidle
      rw [hidle] at hon
      cases hon
    have hne : d ≠ c := by
      rintro rfl
      exact hnot ((h.standing d).active hactive)
    cases hcourse : (s.activity d).course with
    | none =>
      cases hd : s.activity d <;> simp [hd, Activity.course] at hactive hcourse
    | some course =>
      cases course with
      | parking =>
        have hother := (hserving.parking hon hcourse).2.1
        rw [howner, ChannelHandler.connection.injEq] at hother
        exact hne hother.symm
      | leaving =>
        rcases (hserving.leaving hon hcourse).2 with hclosed | ⟨p, hp⟩
        · simp [Channel.Open, hclosed] at hopen
        · rw [howner] at hp
          cases hp
      | reopening =>
        obtain ⟨p, hp⟩ := (hserving.reopening hon hcourse).2.1
        rw [howner] at hp
        cases hp

/-- A connection without a channel is deleted. -/
theorem Channels.setStage (h : s.Channels) {c : ConnectionId} {stage : ConnectionStage}
    (hnone : (s.connection c).channel = none) (hserving : s.stage c ≠ .serving)
    (hnew : stage ≠ .starting)
    (hfresh : stage.Fresh → (s.stage c).Fresh) (hover : stage.Over → (s.stage c).Over) :
    (s.setStage c stage).Channels := by
  refine ⟨fun ch => ?_, fun d ch => ?_, fun p => ?_, fun d ch => ?_, fun d => ?_⟩
  · obtain ⟨h1, h2, h3, h4, h5⟩ := h.shaped ch
    exact ⟨h1, h2, h3, h4, h5⟩
  · obtain ⟨h1, h2⟩ := h.holding d ch
    constructor
    all_goals simp only [HttpConnector.setStage, Function.update_apply, Borrows]
    all_goals grind [Borrows]
  · obtain ⟨h1, h2, h3⟩ := h.watching p
    exact ⟨h1, h2, h3⟩
  · obtain ⟨h1, h2, h3, h4, h5, h6⟩ := h.serving d ch
    constructor
    all_goals simp only [HttpConnector.setStage, Function.update_apply, Waits]
    all_goals grind [Waits]
  · obtain ⟨h1, h2, h3, h4, h5, h6⟩ := h.standing d
    constructor
    all_goals simp only [HttpConnector.setStage, Function.update_apply]
    all_goals grind

/-- A channel that is not open is deleted by its connection. -/
theorem Channels.deleteOwn (h : s.Channels) (hpool : s.Pool) {c : ConnectionId} {ch : ChannelId}
    (hstage : s.stage c = .condemned ∨ s.stage c = .dropped)
    (hch : (s.connection c).channel = some ch) :
    ((s.deleteChannel ch (.connection c)).setConnection c
      { s.connection c with channel := none }).Channels := by
  have howner := h.owner_of_over hstage hch
  have hclosed := h.not_open_of_over hstage hch
  have hlt := ((h.holding c ch).channel hch).1
  have hactivity : s.activity c = .idle := by
    by_contra hne
    have := (h.standing c).active hne
    rcases hstage with hstage | hstage <;> simp [hstage] at this
  refine ⟨fun ch' => ?_, fun d ch' => ?_, fun p => ?_, fun d ch' => ?_, fun d => ?_⟩
  · obtain ⟨h1, h2, h3, h4, h5⟩ := h.shaped ch'
    constructor
    all_goals simp only [deleteChannel, note, setConnection, Function.update_apply]
    all_goals grind
  · obtain ⟨h1, h2⟩ := h.holding d ch'
    have hunused := fun q hq => hpool.unused (s.connection d).request q hq
    have hwatched := fun q => (h.watching q).watched
    have hgone := fun q => (h.watching q).closed
    have hadopting := (h.serving d ch').adopting
    constructor
    all_goals simp only [deleteChannel, note, setConnection, Function.update_apply, Borrows]
    all_goals grind [Borrows]
  · obtain ⟨h1, h2, h3⟩ := h.watching p
    constructor
    all_goals simp only [deleteChannel, note, setConnection, Function.update_apply]
    all_goals grind
  · obtain ⟨h1, h2, h3, h4, h5, h6⟩ := h.serving d ch'
    constructor
    all_goals simp only [deleteChannel, note, setConnection, Function.update_apply, Waits]
    all_goals grind [Waits, Activity.on]
  · obtain ⟨h1, h2, h3, h4, h5, h6⟩ := h.standing d
    constructor
    all_goals simp only [deleteChannel, note, setConnection, Function.update_apply]
    all_goals grind

/-- `~HttpConnection`. -/
theorem Channels.deleteConnection (h : s.Channels) (hpool : s.Pool) {c : ConnectionId}
    (hstage : s.stage c = .condemned ∨ s.stage c = .dropped) :
    (s.deleteConnection c).Channels := by
  unfold HttpConnector.deleteConnection
  split
  · exact h.of_alike { (Same.refl s).toAlike with handler := fun _ => rfl }
  · rename_i ch hch
    exact (h.deleteOwn hpool hstage hch).of_alike
      { (Same.refl _).toAlike with handler := fun _ => rfl }

/-- A pooled channel is deleted with its channel. -/
theorem Channels.deleteClosed (h : s.Channels) (hpool : s.Pool) {p : PooledId}
    (hp : s.pooledStage p = .closed) (hheld : (s.pooled p).held = false) :
    ((s.deleteChannel (s.pooled p).channel (.pooled p)).setPooledStage p .deleted).Channels := by
  obtain ⟨howner, hlt, hdeleted, hstate⟩ := (h.watching p).closed hp
  refine ⟨fun ch' => ?_, fun d ch' => ?_, fun q => ?_, fun d ch' => ?_, fun d => ?_⟩
  · obtain ⟨h1, h2, h3, h4, h5⟩ := h.shaped ch'
    constructor
    all_goals simp only [deleteChannel, note, setPooledStage, Function.update_apply]
    all_goals grind
  · obtain ⟨h1, h2⟩ := h.holding d ch'
    have hunused := fun q hq => hpool.unused (s.connection d).request q hq
    have hborrowed := fun q (hq : (s.request (s.connection d).request).phase.unused = some q) =>
      (hpool.borrowed _ q (RequestPhase.borrowed_of_unused hq)).1
    have hwatched := fun q => (h.watching q).watched
    have hgone := fun q => (h.watching q).closed
    have hadopting := (h.serving d ch').adopting
    constructor
    all_goals simp only [deleteChannel, note, setPooledStage, Function.update_apply, Borrows]
    all_goals grind [Borrows]
  · obtain ⟨h1, h2, h3⟩ := h.watching q
    constructor
    all_goals simp only [deleteChannel, note, setPooledStage, Function.update_apply]
    all_goals grind
  · obtain ⟨h1, h2, h3, h4, h5, h6⟩ := h.serving d ch'
    constructor
    all_goals simp only [deleteChannel, note, setPooledStage, Function.update_apply, Waits]
    all_goals grind [Waits]
  · obtain ⟨h1, h2, h3, h4, h5, h6⟩ := h.standing d
    constructor
    all_goals simp only [deleteChannel, note, setPooledStage]
    all_goals grind

/-- A pooled channel without a channel comes further. -/
theorem Channels.setPooledStage (h : s.Channels) {p : PooledId} {stage : PooledStage}
    (hold : s.pooledStage p = .detached ∨ s.pooledStage p = .deleted)
    (hnew : stage = .gone) : (s.setPooledStage p stage).Channels := by
  subst hnew
  refine ⟨fun ch' => ?_, fun d ch' => ?_, fun q => ?_, fun d ch' => ?_, fun d => ?_⟩
  · obtain ⟨h1, h2, h3, h4, h5⟩ := h.shaped ch'
    exact ⟨h1, h2, h3, h4, h5⟩
  · obtain ⟨h1, h2⟩ := h.holding d ch'
    exact ⟨h1, h2⟩
  · obtain ⟨h1, h2, h3⟩ := h.watching q
    constructor
    all_goals simp only [HttpConnector.setPooledStage, Function.update_apply]
    all_goals grind
  · obtain ⟨h1, h2, h3, h4, h5, h6⟩ := h.serving d ch'
    constructor
    all_goals simp only [HttpConnector.setPooledStage, Function.update_apply, Waits]
    all_goals grind [Waits]
  · obtain ⟨h1, h2, h3, h4, h5, h6⟩ := h.standing d
    exact ⟨h1, h2, h3, h4, h5, h6⟩

/-! ### What follows -/

/-- A call of `Request` waits, and nothing that is still to be done resumes it. -/
def Ready (s : HttpConnector) (k : Cont) : Prop :=
  ∀ r a, k = .request r a →
    (∃ c, (s.request r).phase = .dropping c a) ∧ s.works.countP (Work.resumes r) = 0

/-- What follows a work is ready once the work is done. -/
theorem Calls.ready (h : s.Calls) {w : Work} (hw : w ∈ s.works) :
    Ready { s with works := s.works.erase w } w.cont := by
  intro r a hk
  refine ⟨h.resumed w hw r a hk, ?_⟩
  have hcount := h.count_resumes r
  have hres : w.resumes r = true := Work.resumes_iff.mpr ⟨a, hk⟩
  simp only [List.countP_erase, hw, hres]
  grind

/-- A call that was waiting goes on. -/
theorem Calls.leave (h : s.Calls) {r : RequestId} {a : After} {phase : RequestPhase}
    (hready : s.Ready (.request r a)) (hphase : phase.starting = none) :
    (s.setPhase r phase).Calls := by
  obtain ⟨⟨c, hc⟩, hzero⟩ := hready r a rfl
  have hlt : r < s.nextRequest := h.born (by simp [hc])
  constructor
  all_goals simp only [HttpConnector.setPhase, Function.update_apply]
  · intro r'
    have := h.unborn r'
    grind
  · intro r' d
    have := h.starting r' d
    grind
  · intro d
    have := h.started d
    grind [RequestPhase.starting]
  · intro d
    have := h.accepted d
    grind [RequestPhase.Accepted]
  · intro v hv r' k' hk
    have hold := h.resumed v hv r' k' hk
    have hne : r' ≠ r := by
      rintro rfl
      exact List.countP_eq_zero.mp hzero v hv (Work.resumes_iff.mpr ⟨k', hk⟩)
    rwa [if_neg hne]
  · exact h.count_resumes

/-- A connector whose waiting call goes on is sound. -/
theorem Sound.leave (h : s.Sound) {r : RequestId} {a : After} {phase : RequestPhase}
    (hready : s.Ready (.request r a)) (hphase : phase.starting = none)
    (hborrowed : phase.borrowed = a.borrowed) (hunused : phase.unused = a.borrowed) :
    (s.setPhase r phase).Sound := by
  obtain ⟨⟨c, hc⟩, -⟩ := hready r a rfl
  refine ⟨h.connections.of_eq rfl rfl rfl rfl rfl, h.calls.leave hready hphase, ?_,
    h.channels.setPhase_of_none h.calls (by rw [hc]; rfl), h.dead⟩
  apply h.pool.setRequest
  · rw [hc]
    exact hborrowed
  · intro p hp
    rw [hc]
    exact hunused.symm.trans hp

/-- What follows a possible call of `OnClosed`. -/
theorem Sound.goOn (h : s.Sound) {k : Cont} (hready : s.Ready k) : (s.goOn k).Sound := by
  cases k with
  | done => exact h
  | request r a =>
    cases a with
    | retry p => exact h.leave hready rfl rfl rfl
    | giveUp result =>
      have hreturned : (s.setPhase r (.returned result)).Sound := h.leave hready rfl rfl rfl
      exact hreturned.of_same (same_note _)
  | destructor =>
    simp only [HttpConnector.goOn]
    split
    · exact h.of_same { Same.refl s with works := rfl }
    · exact h

/-- Something is to be done before what follows. -/
theorem Sound.postReady (h : s.Sound) {w : Work} (hspares : w.Spares) (hpooled : w.SparesPooled)
    (hready : s.Ready w.cont) : (s.post w).Sound := by
  refine ⟨h.connections.post hspares, ?_, h.pool.post hpooled,
    h.channels.of_alike { (Same.refl s).toAlike with handler := fun _ => rfl }, h.dead⟩
  constructor
  case resumed =>
    intro v hv r a hk
    rcases List.mem_cons.mp hv with rfl | hv
    · exact (hready r a hk).1
    · exact h.calls.resumed v hv r a hk
  case count_resumes =>
    intro r
    have hcount := h.calls.count_resumes r
    simp only [HttpConnector.post, List.countP_cons]
    by_cases hres : w.resumes r = true
    · obtain ⟨a, hk⟩ := Work.resumes_iff.mp hres
      have hzero := (hready r a hk).2
      simp [hres, hzero]
    · simpa [hres] using hcount
  exacts [h.calls.unborn, h.calls.starting, h.calls.started, h.calls.accepted]

/-- What is ready stays ready when nothing of it changes. -/
theorem Ready.of_same {k : Cont} (h : s.Ready k) (hsame : s.Same s') : s'.Ready k := by
  intro r a hk
  rw [hsame.phase, hsame.works]
  exact h r a hk

/-- Everything is drained: the handler is told. -/
theorem same_closedNotified (s : HttpConnector) (b : Bool) :
    s.Same { s with closedNotified := b } :=
  { Same.refl s with works := rfl }

/-- The call of `OnClosed` is prepared. -/
theorem Sound.armOnClosed (h : s.Sound) {k : Cont} (hready : s.Ready k) (t : Thread) :
    ((armLocked { s with closedNotified := true } t .closed).post (.onClosed t k)).Sound := by
  have hsame := (same_closedNotified s true).trans (same_armLocked t .closed)
  exact (h.of_same hsame).postReady trivial trivial (hready.of_same hsame)

/-- `OnClosed` is called if everything is drained. -/
theorem Sound.notifyOr (h : s.Sound) {k : Cont} (hready : s.Ready k) (t : Thread) :
    (s.notifyOr t k).Sound := by
  unfold HttpConnector.notifyOr
  split
  · exact h.armOnClosed hready t
  · exact h.goOn hready

/-- `_NotifyClosedIfDrained`. -/
theorem Sound.notifyClosedIfDrained (h : s.Sound) {k : Cont} (hready : s.Ready k) (t : Thread) :
    (s.notifyClosedIfDrained t k).Sound := by
  unfold HttpConnector.notifyClosedIfDrained
  split
  · exact h.goOn hready
  split
  · exact h.goOn hready
  split
  · exact (h.of_same (same_closedNotified s true)).goOn
      (hready.of_same (same_closedNotified s true))
  · exact h.armOnClosed hready t

/-! ### Posted tasks -/

/-- Something has been done. -/
theorem Sound.erase (h : s.Sound) {w : Work} (hspares : w.Spares) (hpooled : w.SparesPooled) :
    Sound { s with works := s.works.erase w } :=
  ⟨h.connections.erase hspares, h.calls.erase w, h.pool.erase hpooled,
    h.channels.of_alike { (Same.refl s).toAlike with handler := fun _ => rfl }, h.dead⟩

/-- `~HttpConnection` takes the channel away from the connection and deletes it. -/
theorem deleteConnection_eq (s : HttpConnector) (c : ConnectionId) :
    ∃ x deleted trace, x.request = (s.connection c).request ∧ x.channel = none ∧
      (∀ ch, deleted ch = true → s.deleted ch = true ∨ (s.connection c).channel = some ch) ∧
        s.deleteConnection c =
          { s with
            connection := Function.update s.connection c x
            deleted := deleted
            trace := trace } := by
  unfold HttpConnector.deleteConnection
  split
  · rename_i hnone
    refine ⟨s.connection c, s.deleted, s.trace ++ [.deletedConnection c], rfl, hnone,
      fun ch => .inl, ?_⟩
    rw [Function.update_eq_self]
    rfl
  · rename_i ch hch
    refine ⟨{ s.connection c with channel := none }, Function.update s.deleted ch true, _, rfl, rfl,
      ?_, rfl⟩
    intro ch' hdeleted
    rw [Function.update_apply] at hdeleted
    split at hdeleted
    · subst ch'
      exact .inr hch
    · exact .inl hdeleted

/-- The table of connections after one of them has been deleted. -/
theorem request_update {x : HttpConnection} {c : ConnectionId}
    (hx : x.request = (s.connection c).request) (d : ConnectionId) :
    (Function.update s.connection c x d).request = (s.connection d).request := by
  rw [Function.update_apply]
  split
  · subst d
    exact hx
  · rfl

/-- A connection is deleted, by its posted task or by its call of `Request`: the calls, the
pool and the channels stay in order. -/
theorem Sound.deleteConnection (hcalls : s.Calls) (hpool : s.Pool) (hchannels : s.Channels)
    (hdead : s.Dead) {c : ConnectionId} {stage : ConnectionStage}
    (hstage : s.stage c = .condemned ∧ stage = .deleted ∨
      s.stage c = .dropped ∧ stage = .discarded) :
    ((s.deleteConnection c).setStage c stage).Calls ∧
      ((s.deleteConnection c).setStage c stage).Pool ∧
        ((s.deleteConnection c).setStage c stage).Channels ∧
          ((s.deleteConnection c).setStage c stage).Dead := by
  have hover : s.stage c = .condemned ∨ s.stage c = .dropped := hstage.imp And.left And.left
  have hleft := hchannels.deleteConnection hpool hover
  obtain ⟨x, deleted, trace, hrequest, hnone, hdeleted, heq⟩ := s.deleteConnection_eq c
  rw [heq] at hleft ⊢
  refine ⟨?_, hpool.of_eq rfl rfl rfl rfl rfl (fun _ => rfl) rfl rfl, ?_, ?_⟩
  · have hmoved : (s.setStage c stage).Calls := by
      apply hcalls.setStage
      all_goals grind [ConnectionStage.Accepted]
    exact hmoved.of_eq rfl (fun _ => rfl) (request_update hrequest) rfl rfl
  · apply hleft.setStage
    · simpa using hnone
    all_goals grind [ConnectionStage.Fresh, ConnectionStage.Over]
  · intro ch hch
    rcases hdeleted ch hch with hold | hthis
    · exact hdead ch hold
    · exact hchannels.not_open_of_over hover hthis

/-- The task of `_DetachAndScheduleDestroy`. -/
theorem Sound.deleteTask (h : s.Sound) {c : ConnectionId}
    (hmem : .deleteConnection c ∈ s.works) :
    (doWork { s with works := s.works.erase (.deleteConnection c) } t
      (.deleteConnection c)).Sound := by
  have hstage : s.stage c = .condemned := by
    have hcount := List.count_pos_iff.mpr hmem
    have := (h.connections c).count_delete
    grind
  have hpool : Pool { s with works := s.works.erase (.deleteConnection c) } := h.pool.erase trivial
  obtain ⟨hcalls, hpool, hchannels, hdead⟩ :=
    Sound.deleteConnection (h.calls.erase (.deleteConnection c)) hpool
      (h.channels.of_alike { (Same.refl s).toAlike with handler := fun _ => rfl }) h.dead
      (.inl ⟨hstage, rfl⟩)
  refine ⟨?_, hcalls.post (by simp [Work.cont]), hpool.post trivial,
    hchannels.of_alike { (Same.refl _).toAlike with handler := fun _ => rfl }, hdead⟩
  have hconnections := h.connections.delete hmem
  obtain ⟨x, deleted, trace, -, -, -, heq⟩ :=
    deleteConnection_eq { s with works := s.works.erase (.deleteConnection c) } c
  simp only [doWork, heq]
  exact hconnections.of_eq rfl rfl rfl rfl rfl

/-- A connection that has been deleted is forgotten. -/
theorem Sound.finishTask (h : s.Sound) {c : ConnectionId} (hmem : .finishDestroy c ∈ s.works) :
    (doWork { s with works := s.works.erase (.finishDestroy c) } t (.finishDestroy c)).Sound := by
  have hstage : s.stage c = .deleted := by
    have hcount := List.count_pos_iff.mpr hmem
    have := (h.connections c).count_finish
    grind
  have hnone : (s.connection c).channel = none := by
    by_contra hne
    obtain ⟨ch, hch⟩ := Option.ne_none_iff_exists'.mp hne
    have hholds := ((h.channels.holding c ch).channel hch).2.2.1
    simp [hstage, ConnectionStage.Holds] at hholds
  have hcalls : ((s.setStage c .gone).Calls) := by
    apply h.calls.setStage
    all_goals simp [hstage, ConnectionStage.Accepted]
  have hpool : Pool { s with works := s.works.erase (.finishDestroy c) } := h.pool.erase trivial
  have hchannels : (s.setStage c .gone).Channels := by
    apply h.channels.setStage hnone
    all_goals simp [hstage, ConnectionStage.Fresh, ConnectionStage.Over]
  have hgone : ((forget { s with works := s.works.erase (.finishDestroy c) } c).setStage c
      .gone).Sound :=
    ⟨h.connections.finish hmem,
      (hcalls.erase (.finishDestroy c)).of_eq rfl (fun _ => rfl) (fun _ => rfl) rfl rfl,
      hpool.of_eq rfl rfl rfl rfl rfl (fun _ => rfl) rfl rfl,
      hchannels.of_alike { (Same.refl _).toAlike with handler := fun _ => rfl }, h.dead⟩
  exact hgone.notifyOr (fun r a hk => by cases hk) t

/-- The task of `_ScheduleDestroy` for a closed channel. -/
theorem Sound.closedTask (h : s.Sound) {p : PooledId} (hmem : .deleteClosed p ∈ s.works) :
    (doWork { s with works := s.works.erase (.deleteClosed p) } t (.deleteClosed p)).Sound := by
  obtain ⟨hstage, hheld⟩ := h.pool.closed_of_mem hmem
  have hclosed := ((h.channels.watching p).closed hstage).2.2.2
  have hconnections : Connections { s with works := s.works.erase (.deleteClosed p) } :=
    h.connections.erase trivial
  have hposted : Connections
      (HttpConnector.post { s with works := s.works.erase (.deleteClosed p) } (.finishIdle p)) :=
    hconnections.post trivial
  have hcalls : Calls
      (HttpConnector.post { s with works := s.works.erase (.deleteClosed p) } (.finishIdle p)) :=
    (h.calls.erase (.deleteClosed p)).post (by simp [Work.cont])
  refine ⟨hposted.of_eq rfl rfl rfl rfl rfl,
    hcalls.of_eq rfl (fun _ => rfl) (fun _ => rfl) rfl rfl,
    (h.pool.deleteClosed hmem).of_eq rfl rfl rfl rfl rfl (fun _ => rfl) rfl rfl,
    (h.channels.deleteClosed h.pool hstage hheld).of_alike
      { (Same.refl _).toAlike with handler := fun _ => rfl }, ?_⟩
  intro ch hch
  have hold := h.dead ch
  simp only [HttpConnector.doWork, HttpConnector.post, note, setPooledStage, deleteChannel,
    Function.update_apply] at hch ⊢
  split at hch
  · subst ch
    simp [Channel.Open, hclosed]
  · exact hold hch

/-- The task of `_ScheduleDestroy` for a channel that has been taken over. -/
theorem Sound.detachedTask (h : s.Sound) {p : PooledId} (hmem : .deleteDetached p ∈ s.works) :
    (doWork { s with works := s.works.erase (.deleteDetached p) } t (.deleteDetached p)).Sound := by
  obtain ⟨hstage, -⟩ := h.pool.detached_of_mem hmem
  have hconnections : Connections { s with works := s.works.erase (.deleteDetached p) } :=
    h.connections.erase trivial
  exact ⟨hconnections.of_eq rfl rfl rfl rfl rfl,
    (h.calls.erase (.deleteDetached p)).of_eq rfl (fun _ => rfl) (fun _ => rfl) rfl rfl,
    (h.pool.deleteDetached hmem).of_eq rfl rfl rfl rfl rfl (fun _ => rfl) rfl rfl,
    (h.channels.setPooledStage (.inl hstage) rfl).of_alike
      { (Same.refl _).toAlike with handler := fun _ => rfl }, h.dead⟩

/-- `_FinishIdleDestroyAndMaybeNotify`. -/
theorem Sound.idleTask (h : s.Sound) {p : PooledId} (hmem : .finishIdle p ∈ s.works) :
    (doWork { s with works := s.works.erase (.finishIdle p) } t (.finishIdle p)).Sound := by
  have hstage := h.pool.deleted_of_mem hmem
  have hconnections : Connections { s with works := s.works.erase (.finishIdle p) } :=
    h.connections.erase trivial
  have hgone : (setPooledStage { s with
      works := s.works.erase (.finishIdle p)
      idleDestroying := s.idleDestroying - 1 } p .gone).Sound :=
    ⟨hconnections.of_eq rfl rfl rfl rfl rfl,
      (h.calls.erase (.finishIdle p)).of_eq rfl (fun _ => rfl) (fun _ => rfl) rfl rfl,
      h.pool.finishIdle hmem,
      (h.channels.setPooledStage (.inr hstage) rfl).of_alike
        { (Same.refl _).toAlike with handler := fun _ => rfl }, h.dead⟩
  exact hgone.notifyOr (fun r a hk => by cases hk) t

/-- `Request` deletes a connection. -/
theorem Sound.dropTask (h : s.Sound) {c : ConnectionId} {armed : Option Thread} {k : Cont}
    (hmem : .drop c armed k ∈ s.works) :
    (doWork { s with works := s.works.erase (.drop c armed k) } t (.drop c armed k)).Sound := by
  have hstage : s.stage c = .dropped := by
    have hcount : 0 < s.works.countP (Work.drops c) :=
      List.countP_pos_iff.mpr ⟨_, hmem, by simp [Work.drops]⟩
    have := (h.connections c).count_drop
    grind
  have hpool : Pool { s with works := s.works.erase (.drop c armed k) } := h.pool.erase trivial
  obtain ⟨hcalls, hpool, hchannels, hdead⟩ :=
    Sound.deleteConnection (h.calls.erase (.drop c armed k)) hpool
      (h.channels.of_alike { (Same.refl s).toAlike with handler := fun _ => rfl }) h.dead
      (.inr ⟨hstage, rfl⟩)
  have hready := h.calls.ready hmem
  obtain ⟨x, deleted, trace, -, -, -, heq⟩ :=
    HttpConnector.deleteConnection_eq { s with works := s.works.erase (.drop c armed k) } c
  have hdiscarded : ((HttpConnector.deleteConnection
      { s with works := s.works.erase (.drop c armed k) } c).setStage c .discarded).Sound := by
    refine ⟨?_, hcalls, hpool, hchannels, hdead⟩
    rw [heq]
    exact (h.connections.discard hmem).of_eq rfl rfl rfl rfl rfl
  have hafter : ((HttpConnector.deleteConnection
      { s with works := s.works.erase (.drop c armed k) } c).setStage c .discarded).Ready k := by
    rw [heq]
    exact hready
  cases armed with
  | none => exact hdiscarded.goOn hafter
  | some t' => exact hdiscarded.postReady trivial trivial hafter

/-- Something posted or begun is done. -/
theorem Sound.doWork (h : s.Sound) {w : Work} (hmem : w ∈ s.works) (t : Thread) :
    (HttpConnector.doWork { s with works := s.works.erase w } t w).Sound := by
  have hready := h.calls.ready hmem
  cases w with
  | deleteConnection c => exact h.deleteTask hmem
  | finishDestroy c => exact h.finishTask hmem
  | deleteClosed p => exact h.closedTask hmem
  | deleteDetached p => exact h.detachedTask hmem
  | finishIdle p => exact h.idleTask hmem
  | recheck c =>
    have herased : Sound { s with works := s.works.erase (.recheck c) } := h.erase trivial trivial
    simp only [HttpConnector.doWork]
    split
    · exact herased.of_same (same_cancel c)
    · exact herased
  | notifyClosed k =>
    have herased : Sound { s with works := s.works.erase (.notifyClosed k) } :=
      h.erase trivial trivial
    exact herased.notifyClosedIfDrained hready t
  | drop c armed k => exact h.dropTask hmem
  | onClosed t' k =>
    have herased : Sound { s with works := s.works.erase (.onClosed t' k) } :=
      h.erase trivial trivial
    exact (herased.of_same (same_note .onClosed)).postReady trivial trivial
      (hready.of_same (same_note .onClosed))
  | inOnClosed t' k =>
    have herased : Sound { s with works := s.works.erase (.inOnClosed t' k) } :=
      h.erase trivial trivial
    exact (herased.of_same (same_disarm t' .closed)).goOn (hready.of_same (same_disarm t' .closed))

/-! ### `Close`, the destructor and every step -/

/-- The section of `Close`. -/
theorem same_closeAll (s : HttpConnector) : s.Same s.closeAll := by
  have hclosing : s.Same { s with
      channel := fun ch =>
        if (∃ c ∈ s.conns, (s.connection c).channel = some ch) ∨
            (∃ e ∈ s.idle, (s.pooled e.2).channel = ch) then (s.channel ch).close
        else s.channel ch } := by
    refine same_closing fun ch => ?_
    split
    · exact .inr rfl
    · exact .inl rfl
  exact hclosing.trans { Same.refl _ with works := rfl }

/-- `Close`. -/
theorem Sound.close (h : s.Sound) {k : Cont} (hk : ∀ r a, k ≠ .request r a) :
    (s.close k).Sound :=
  (h.of_same (same_closeAll s)).post trivial trivial hk

/-- The handlers of some connections are cleared. -/
theorem same_clearHandlers (s : HttpConnector) : s.Same s.clearHandlers := by
  refine { Same.refl s with channel := ?_, request := ?_, delivered := ?_ }
  all_goals
    intro c
    simp only [clearHandlers]
    split <;> rfl

/-- The destructor has given up waiting. -/
theorem same_abandon (s : HttpConnector) (t : Thread) : s.Same (s.abandon t) := by
  have hgiven :
      s.Same { s with abandoned := true, handler := false, destructor := .abandoning t } :=
    { Same.refl s with works := rfl }
  exact hgiven.trans (same_clearHandlers _)

/-- Something is logged. -/
theorem same_log (s : HttpConnector) (t : Thread) : s.Same (s.log t) := by
  unfold log
  split
  · exact { Same.refl s with works := rfl }
  · exact .refl s

/-- What a thread does keeps everything in order. -/
theorem Sound.handle (h : s.Sound) (t : Thread) (e : Event) : (s.handle t e).Sound := by
  cases e with
  | call args =>
    simp only [HttpConnector.handle]
    split
    · exact h.call args
    · exact h
  | proceed r result => exact h.proceed r t result
  | ready ch failure => exact h.onReady ch failure
  | data ch parsed => exact h.onRecvData ch t parsed
  | timer ch => exact h.onTimer ch
  | fails ch => exact h.onFail ch
  | adopt ch failure => exact h.onAdopt ch failure
  | closed ch result finishes => exact h.onClosed ch t result finishes
  | resume c result => exact h.resume c t result
  | work w =>
    simp only [HttpConnector.handle]
    split
    · rename_i hmay
      exact h.doWork hmay.1 t
    · exact h
  | close =>
    simp only [HttpConnector.handle]
    split
    · exact h.close (by simp)
    · exact h
  | destroy =>
    simp only [HttpConnector.handle, HttpConnector.destroy]
    split
    · have hstarted : Sound { s with destructor := .closing t } :=
        h.of_same { Same.refl s with works := rfl }
      exact hstarted.close (by simp)
    · exact h
  | endWait =>
    simp only [HttpConnector.handle, HttpConnector.endWait]
    split
    · split
      · exact h.of_same { Same.refl s with works := rfl }
      · exact h.of_same (same_abandon s t)
    · exact h
  | endAbandon =>
    simp only [HttpConnector.handle, HttpConnector.endAbandon]
    split
    · exact h.of_same { Same.refl s with works := rfl }
    · exact h
  | clearSink =>
    simp only [HttpConnector.handle, HttpConnector.clearSink]
    split
    · exact h.of_same { Same.refl s with works := rfl }
    · exact h
  | resolve ch =>
    simp only [HttpConnector.handle]
    split
    · exact h.of_same { Same.refl s with works := rfl }
    · exact h
  | resolved => exact h.of_same { Same.refl s with works := rfl }
  | logChannel ch | logWorker | logConnection c =>
    simp only [HttpConnector.handle]
    split
    · exact h.of_same (same_log s t)
    · exact h
  | logRequest r =>
    simp only [HttpConnector.handle]
    split
    · exact h
    · exact h
    · exact h.of_same (same_log s t)
  | logged =>
    simp only [HttpConnector.handle]
    split
    · exact h.of_same { Same.refl s with works := rfl }
    · exact h

/-- Every step keeps everything in order. -/
theorem Sound.step (h : s.Sound) (e : Thread × Event) : (s.step e).Sound := by
  unfold HttpConnector.step
  split
  · exact h
  · exact h.handle e.1 e.2

/-- A new connector is in order. -/
theorem sound_create (maxIdlePerKey : ℕ) (handler logSink : Bool) :
    (create maxIdlePerKey handler logSink).Sound where
  connections c := by constructor <;> simp [create]
  calls := by constructor <;> simp [create, RequestPhase.starting, ConnectionStage.Accepted]
  pool := by
    constructor
    case lodged =>
      intro p
      constructor <;> simp [create]
    all_goals simp [create, RequestPhase.borrowed, RequestPhase.unused, leaving,
      PooledStage.Leaving]
  channels := by
    refine ⟨fun ch => ?_, fun c ch => ?_, fun p => ?_, fun c ch => ?_, fun c => ?_⟩
    · constructor <;> simp [create]
    · constructor <;> simp [create]
    · constructor <;> simp [create]
    · constructor <;> simp [create, Channel.Open, Activity.on]
    · constructor <;> simp [create, ConnectionStage.Over]
  dead := by simp [Dead, create]

/-- Everything is in order in every state that a connector reaches. -/
theorem sound_run (maxIdlePerKey : ℕ) (handler logSink : Bool) (events : List (Thread × Event)) :
    (Runs.run step (create maxIdlePerKey handler logSink) events).Sound :=
  Runs.invariant (fun _ e h => h.step e) (sound_create maxIdlePerKey handler logSink) events

end HttpConnector

end Http
