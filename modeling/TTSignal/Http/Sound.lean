import TTSignal.Http.Deletion

/-!
# The invariant of an HTTP connector

Connections, calls, pooled channels and channels are kept in order by every step, whichever
thread takes it.
-/

namespace Http

open Tcp (BCResult)

namespace HttpConnector

variable {s s' : HttpConnector}

/-- A channel that has been deleted is not open. -/
def Dead (s : HttpConnector) : Prop := ∀ ch, s.deleted ch = true → ¬ (s.channel ch).Open

/-- Everything is in order. -/
structure Sound (s : HttpConnector) : Prop where
  /-- The sets agree with the stages of the connections. -/
  connections : s.Connections
  /-- The calls agree with the stages of the connections. -/
  calls : s.Calls
  /-- The pool agrees with the stages of the pooled channels. -/
  pool : s.Pool
  /-- The channels have owners and serve connections. -/
  channels : s.Channels
  /-- Only channels that are closed or have not been opened are deleted. -/
  dead : s.Dead

/-- Nothing else matters. -/
theorem Dead.of_eq (h : s.Dead) (hdeleted : s'.deleted = s.deleted)
    (hstate : ∀ ch, (s'.channel ch).state = (s.channel ch).state) : s'.Dead := by
  intro ch hch
  rw [hdeleted] at hch
  unfold Channel.Open
  rw [hstate]
  exact h ch hch

/-- Two connectors differ in nothing that the invariant speaks of. -/
structure Same (s s' : HttpConnector) : Prop extends s.Alike s' where
  /-- The sets of connections. -/
  sets : s'.conns = s.conns ∧ s'.destroying = s.destroying
  /-- What is still to be done. -/
  works : s'.works = s.works
  /-- The pool. -/
  idle : s'.idle = s.idle ∧ s'.idleDestroying = s.idleDestroying ∧ s'.pooled = s.pooled
  /-- The next objects. -/
  next : s'.nextConnection = s.nextConnection ∧ s'.nextRequest = s.nextRequest ∧
    s'.nextPooled = s.nextPooled

/-- Where the rest is the same it stays sound. -/
theorem Sound.of_same (h : s.Sound) (hsame : s.Same s') : s'.Sound := by
  obtain ⟨hstage, -, hpooledStage, hborrower, -, hdeleted, -⟩ := hsame.tables
  obtain ⟨hconns, hdestroying⟩ := hsame.sets
  obtain ⟨hidle, hcount, hpooled⟩ := hsame.idle
  obtain ⟨hconnection, hrequest, hnext⟩ := hsame.next
  exact ⟨h.connections.of_eq hconns hdestroying hstage hsame.works hconnection,
    h.calls.of_eq hstage hsame.phase hsame.request hsame.works hrequest,
    h.pool.of_eq hidle hcount hpooled hpooledStage hborrower hsame.phase hsame.works hnext,
    h.channels.of_alike hsame.toAlike, h.dead.of_eq hdeleted hsame.state⟩

/-- A connector is the same as itself. -/
theorem Same.refl (s : HttpConnector) : s.Same s where
  channel := fun _ => rfl
  request := fun _ => rfl
  delivered := fun _ => rfl
  pooled := fun _ => rfl
  handler := fun _ => rfl
  state := fun _ => rfl
  parked := fun _ => rfl
  poisoned := fun _ => rfl
  adopts := fun _ => rfl
  inside := fun _ => rfl
  phase := fun _ => rfl
  tables := ⟨rfl, rfl, rfl, rfl, rfl, rfl, rfl⟩
  sets := ⟨rfl, rfl⟩
  works := rfl
  idle := ⟨rfl, rfl, rfl⟩
  next := ⟨rfl, rfl, rfl⟩

/-- Two parts that change nothing change nothing together. -/
theorem Same.trans {s'' : HttpConnector} (h : s.Same s') (h' : s'.Same s'') : s.Same s'' where
  toAlike := h.toAlike.trans h'.toAlike
  sets := ⟨h'.sets.1.trans h.sets.1, h'.sets.2.trans h.sets.2⟩
  works := h'.works.trans h.works
  idle := ⟨h'.idle.1.trans h.idle.1, h'.idle.2.1.trans h.idle.2.1, h'.idle.2.2.trans h.idle.2.2⟩
  next := ⟨h'.next.1.trans h.next.1, h'.next.2.1.trans h.next.2.1, h'.next.2.2.trans h.next.2.2⟩

/-- A note changes nothing. -/
theorem same_note (a : Action) : s.Same (s.note a) :=
  { Same.refl s with works := rfl }

/-- A connection changes and keeps its channel. -/
theorem same_setConnection {c : ConnectionId} {x : HttpConnection}
    (hchannel : x.channel = (s.connection c).channel)
    (hrequest : x.request = (s.connection c).request)
    (hdelivered : x.delivered = (s.connection c).delivered) : s.Same (s.setConnection c x) := by
  refine { Same.refl s with channel := ?_, request := ?_, delivered := ?_ }
  all_goals
    intro d
    simp only [setConnection, Function.update_apply]
    split
    · subst d
      assumption
    · rfl

/-- The result of a failure changes nothing. -/
theorem same_setFailResult (c : ConnectionId) (result : BCResult) :
    s.Same (s.setFailResult c result) :=
  same_setConnection rfl rfl rfl

/-- Some channels are asked to close. -/
theorem same_closing {channel : ChannelId → Channel}
    (hchannel : ∀ ch, channel ch = s.channel ch ∨ channel ch = (s.channel ch).close) :
    s.Same { s with channel := channel } := by
  have heq : ∀ ch, (channel ch).handler = (s.channel ch).handler ∧
      (channel ch).state = (s.channel ch).state ∧ (channel ch).parked = (s.channel ch).parked ∧
        (channel ch).poisoned = (s.channel ch).poisoned ∧
          (channel ch).adopts = (s.channel ch).adopts ∧
            (channel ch).inside = (s.channel ch).inside := by
    intro ch
    rcases hchannel ch with hsame | hclose
    · rw [hsame]
      exact ⟨rfl, rfl, rfl, rfl, rfl, rfl⟩
    · rw [hclose]
      exact close_eq _
  exact
    { Same.refl s with
      handler := fun ch => (heq ch).1
      state := fun ch => (heq ch).2.1
      parked := fun ch => (heq ch).2.2.1
      poisoned := fun ch => (heq ch).2.2.2.1
      adopts := fun ch => (heq ch).2.2.2.2.1
      inside := fun ch => (heq ch).2.2.2.2.2 }

/-- Closing a channel changes nothing. -/
theorem same_closeChannel (ch : ChannelId) : s.Same (s.closeChannel ch) := by
  refine same_closing fun ch' => ?_
  rw [Function.update_apply]
  split
  · subst ch'
    exact .inr rfl
  · exact .inl rfl

/-- Cancelling a connection changes nothing. -/
theorem same_cancel (c : ConnectionId) : s.Same (s.cancel c) := by
  obtain ⟨channel, hchannel, heq⟩ := s.cancel_eq c
  rw [heq]
  exact same_closing hchannel

/-- Failing it changes nothing. -/
theorem same_failConnection (c : ConnectionId) (result : BCResult) :
    s.Same (s.failConnection c result) :=
  (same_setFailResult c result).trans (same_cancel c)

/-- A channel that is ready, or has failed, changes nothing. -/
theorem same_onChannelReady (c : ConnectionId) (failure : Option BCResult) :
    s.Same (s.onChannelReady c failure) := by
  cases failure with
  | none => exact .refl s
  | some result => exact same_failConnection c result

/-- The guards do not matter. -/
theorem same_armLocked (t : Thread) (d : Dispatch) : s.Same (s.armLocked t d) :=
  { Same.refl s with works := rfl }

/-- The end of a dispatch changes nothing. -/
theorem same_disarm (t : Thread) (d : Dispatch) : s.Same (s.disarm t d) :=
  { Same.refl s with works := rfl }

/-! ### `Request` -/

/-- A call that neither starts a connection nor holds a channel goes on to another section of
that kind. -/
theorem Sound.setPhase (h : s.Sound) {r : RequestId} {phase : RequestPhase}
    (hborn : (s.request r).phase ≠ .unborn) (hold : (s.request r).phase.starting = none)
    (hnew : phase.starting = none)
    (haccepted : ∀ c, (s.request r).phase.Accepted c → phase.Accepted c)
    (hdropping : ∀ c k, (s.request r).phase ≠ .dropping c k)
    (hborrowed : phase.borrowed = (s.request r).phase.borrowed)
    (hunused : ∀ p, phase.unused = some p → (s.request r).phase.unused = some p) :
    (s.setPhase r phase).Sound :=
  ⟨h.connections.of_eq rfl rfl rfl rfl rfl,
    h.calls.setPhase hborn (hnew.trans hold.symm) haccepted hdropping,
    h.pool.setRequest hborrowed hunused, h.channels.setPhase_of_none h.calls hold, h.dead⟩

/-- A call that has not been accepted returns. -/
theorem Sound.returns (h : s.Sound) {r : RequestId} (result : BCResult)
    (hborn : (s.request r).phase ≠ .unborn) (hold : (s.request r).phase.starting = none)
    (haccepted : ∀ c, (s.request r).phase.Accepted c → result = .success)
    (hdropping : ∀ c k, (s.request r).phase ≠ .dropping c k)
    (hborrowed : (s.request r).phase.borrowed = none) : (s.returns r result).Sound := by
  have hreturned : (s.setPhase r (.returned result)).Sound :=
    h.setPhase hborn hold rfl haccepted hdropping hborrowed.symm fun p hp => by cases hp
  exact hreturned.of_same (same_note _)

/-- `Request` is called. -/
theorem Sound.call (h : s.Sound) (args : RequestArgs) : (s.call args).Sound := by
  have hnext := h.calls.unborn s.nextRequest le_rfl
  have hmade : Sound
      { s with
        request := Function.update s.request s.nextRequest ⟨args.key, .take⟩
        nextRequest := s.nextRequest + 1 } := by
    refine ⟨h.connections.of_eq rfl rfl rfl rfl rfl, h.calls.call args.key, ?_,
      h.channels.call h.calls args.key, h.dead⟩
    have hpool := h.pool.setRequest (r := s.nextRequest) (x := ⟨args.key, .take⟩)
      (by rw [hnext]; rfl) fun p hp => by cases hp
    exact hpool.of_eq rfl rfl rfl rfl rfl (fun _ => rfl) rfl rfl
  unfold HttpConnector.call
  split
  · apply hmade.returns
    all_goals simp [RequestPhase.starting, RequestPhase.Accepted, RequestPhase.borrowed]
  · exact hmade

/-- A channel that `_TakeFromPool` finds is in the pool. -/
theorem Pool.pooled_of_takeFromPool (h : s.Pool) {key : String} {p : PooledId}
    (hp : s.takeFromPool key = some p) : s.pooledStage p = .pooled := by
  obtain ⟨e, he, rfl⟩ := Option.map_eq_some_iff.mp hp
  have hmem := (List.mem_filter.mp (List.mem_of_getLast? he)).1
  exact (((h.lodged e.2).mem_idle e.1).mp hmem).1

/-- `_TakeFromPool`. -/
theorem Sound.proceedTake (h : s.Sound) {r : RequestId} (hphase : (s.request r).phase = .take) :
    (s.proceedTake r).Sound := by
  have hnone : (s.setPhase r (.insert none)).Sound := by
    apply h.setPhase
    all_goals simp [hphase, RequestPhase.starting, RequestPhase.Accepted, RequestPhase.borrowed,
      RequestPhase.unused]
  unfold HttpConnector.proceedTake
  split
  · exact hnone
  split
  · exact hnone
  · rename_i p hp
    have hpooled := h.pool.pooled_of_takeFromPool hp
    have hcalls : (s.take r p).Calls := h.calls.of_eq rfl (fun _ => rfl) (fun _ => rfl) rfl rfl
    refine ⟨h.connections.of_eq rfl rfl rfl rfl rfl, ?_, ?_, ?_, h.dead⟩
    · apply hcalls.setPhase
      all_goals simp [HttpConnector.take, setPooled, setPooledStage, hphase,
        RequestPhase.starting, RequestPhase.Accepted]
    · exact h.pool.take hpooled (by rw [hphase]; rfl)
    · apply (h.channels.take hpooled r).setPhase_of_none hcalls
      simp [HttpConnector.take, setPooled, setPooledStage, hphase, RequestPhase.starting]

/-- A call makes a connection with a channel of its own. -/
theorem Sound.newFreshConnection (h : s.Sound) {r : RequestId}
    (hborn : (s.request r).phase ≠ .unborn) (hstarting : (s.request r).phase.starting = none)
    (haccepted : ∀ c, ¬ (s.request r).phase.Accepted c)
    (hdropping : ∀ c k, (s.request r).phase ≠ .dropping c k)
    (hborrowed : (s.request r).phase.borrowed = none) :
    ((s.newFreshConnection r).setPhase r (.start s.nextConnection none)).Sound := by
  have hconnections : (s.newChannel s.nextConnection).Connections :=
    h.connections.of_eq rfl rfl rfl rfl rfl
  have hcalls : (s.newChannel s.nextConnection).Calls :=
    h.calls.of_eq rfl (fun _ => rfl) (fun _ => rfl) rfl rfl
  have hpool : (s.newFreshConnection r).Pool :=
    h.pool.of_eq rfl rfl rfl rfl rfl (fun _ => rfl) rfl rfl
  have hphase : ((s.newFreshConnection r).setPhase r (.start s.nextConnection none)).Pool :=
    hpool.setRequest hborrowed.symm fun p hp => by cases hp
  have hdead : (s.newFreshConnection r).Dead := by
    intro ch hch
    have hold := h.dead ch hch
    simp only [HttpConnector.newFreshConnection, HttpConnector.newConnection, newChannel,
      Function.update_apply]
    split
    · simp [Channel.Open]
    · exact hold
  exact ⟨(hconnections.newConnection r s.nextChannel).of_eq rfl rfl rfl rfl rfl,
    hcalls.newConnection hconnections hborn hstarting haccepted hdropping s.nextChannel none,
    hphase, h.channels.newFreshConnection h.connections h.calls hstarting, hdead⟩

/-- `Close` and `Release` of a borrowed channel by a call that goes on without it. -/
theorem Sound.release (h : s.Sound) {r : RequestId} {p : PooledId} {phase : RequestPhase}
    (hstarting : (s.request r).phase.starting = none)
    (hborrowed : (s.request r).phase.borrowed = some p) (hnew : phase.starting = none)
    (hnone : phase.borrowed = none)
    (haccepted : ∀ c, (s.request r).phase.Accepted c → phase.Accepted c)
    (hdropping : ∀ c k, (s.request r).phase ≠ .dropping c k) :
    ((s.release p).setPhase r phase).Sound := by
  have hborn : (s.request r).phase ≠ .unborn := by
    intro hr
    rw [hr] at hborrowed
    cases hborrowed
  have hpost (w : Work) (hw : w.Spares) (hcont : w.cont = .done) :
      ((s.setPooled p { s.pooled p with held := false }).post w).Connections ∧
        ((s.setPooled p { s.pooled p with held := false }).post w).Calls := by
    have hcalls : (s.setPooled p { s.pooled p with held := false }).Calls :=
      h.calls.of_eq rfl (fun _ => rfl) (fun _ => rfl) rfl rfl
    have hconnections : (s.setPooled p { s.pooled p with held := false }).Connections :=
      h.connections.of_eq rfl rfl rfl rfl rfl
    exact ⟨hconnections.post hw, hcalls.post (by simp [hcont])⟩
  have hboth : (s.release p).Connections ∧ (s.release p).Calls := by
    unfold HttpConnector.release
    cases (s.pooled p).pending with
    | none =>
      exact ⟨h.connections.of_eq rfl rfl rfl rfl rfl,
        h.calls.of_eq rfl (fun _ => rfl) (fun _ => rfl) rfl rfl⟩
    | closed => exact hpost (.deleteClosed p) trivial rfl
    | detached => exact hpost (.deleteDetached p) trivial rfl
  obtain ⟨x, works, hx, heq⟩ := s.release_eq p
  have hphase : ((s.release p).request r).phase = (s.request r).phase := by rw [heq]
  have halike : s.Alike (s.release p) := by
    rw [heq]
    refine { Same.refl s with pooled := fun q => ?_ }
    simp only [Function.update_apply]
    split
    · subst q
      exact hx
    · rfl
  have hdead : (s.release p).Dead := by
    rw [heq]
    exact h.dead
  refine ⟨hboth.1.of_eq rfl rfl rfl rfl rfl, ?_, h.pool.release hborrowed hnone, ?_, hdead⟩
  · apply hboth.2.setPhase
    · rwa [hphase]
    · rw [hphase, hnew, hstarting]
    · rwa [hphase]
    · rwa [hphase]
  · exact (h.channels.of_alike halike).setPhase_of_none hboth.2 (by rw [hphase]; exact hstarting)

/-- A call that has given its connection up, or has none yet, gives the borrowed channel back. -/
theorem Sound.closeBorrowed (h : s.Sound) {r : RequestId} {p : PooledId} {phase : RequestPhase}
    (hphase : (s.request r).phase = .insert (some p) ∨ (s.request r).phase = .closeBorrowed p)
    (hnew : phase.starting = none) (hnone : phase.borrowed = none) :
    (((s.closeChannel (s.pooled p).channel).release p).setPhase r phase).Sound := by
  have hclosed : (s.closeChannel (s.pooled p).channel).Sound := h.of_same (same_closeChannel _)
  have hsame : ((s.closeChannel (s.pooled p).channel).request r).phase = (s.request r).phase := rfl
  rcases hphase with hphase | hphase
  all_goals
    refine hclosed.release ?_ ?_ hnew hnone ?_ ?_
    all_goals simp [hsame, hphase, RequestPhase.starting, RequestPhase.Accepted,
      RequestPhase.borrowed]

/-- The section that makes the connection. -/
theorem Sound.proceedInsert (h : s.Sound) {r : RequestId} {b : Option PooledId}
    (hphase : (s.request r).phase = .insert b) : (s.proceedInsert r b).Sound := by
  have hborn : (s.request r).phase ≠ .unborn := by simp [hphase]
  have hstarting : (s.request r).phase.starting = none := by rw [hphase]; rfl
  have haccepted : ∀ c, ¬ (s.request r).phase.Accepted c := by simp [hphase, RequestPhase.Accepted]
  have hdropping : ∀ c k, (s.request r).phase ≠ .dropping c k := by simp [hphase]
  cases b with
  | none =>
    have hborrowed : (s.request r).phase.borrowed = none := by rw [hphase]; rfl
    simp only [HttpConnector.proceedInsert]
    split
    · exact h.returns shuttingDown hborn hstarting (fun c hc => absurd hc (haccepted c)) hdropping
        hborrowed
    · exact h.newFreshConnection hborn hstarting haccepted hdropping hborrowed
  | some p =>
    simp only [HttpConnector.proceedInsert]
    split
    · have hback := @Sound.closeBorrowed _ h r p (.returned shuttingDown) (.inl hphase) rfl rfl
      exact hback.of_same (same_note _)
    · have hpool : (s.newConnection r (s.pooled p).channel).Pool :=
        h.pool.of_eq rfl rfl rfl rfl rfl (fun _ => rfl) rfl rfl
      have hnew : ((s.newConnection r (s.pooled p).channel).setPhase r
          (.start s.nextConnection (some p))).Pool := by
        have hold : ((s.newConnection r (s.pooled p).channel).request r).phase = .insert (some p) :=
          hphase
        apply hpool.setRequest
        all_goals simp [hold, RequestPhase.borrowed, RequestPhase.unused]
      exact ⟨(h.connections.newConnection r (s.pooled p).channel).of_eq rfl rfl rfl rfl rfl,
        h.calls.newConnection h.connections hborn hstarting haccepted hdropping _ (some p), hnew,
        h.channels.newReusedConnection h.connections h.calls h.pool hphase, h.dead⟩

/-- `Start` of a connection with its own channel. -/
theorem Sound.startFresh (h : s.Sound) {r : RequestId} {c : ConnectionId}
    (hphase : (s.request r).phase = .start c none) (result : BCResult) :
    (s.startFresh r c result).Sound := by
  have hstarting : (s.request r).phase.starting = some c := by rw [hphase]; rfl
  have hstage := (h.calls.starting r c hstarting).1
  unfold HttpConnector.startFresh
  split
  · exact h
  rename_i ch hch
  split
  · have hconnections : (s.opened ch c).Connections := h.connections.of_eq rfl rfl rfl rfl rfl
    have hcalls : (s.opened ch c).Calls :=
      h.calls.of_eq rfl (fun _ => rfl) (fun _ => rfl) rfl rfl
    have hpool : ((s.opened ch c).setStage c .serving).Pool :=
      h.pool.of_eq rfl rfl rfl rfl rfl (fun _ => rfl) rfl rfl
    have hsame : (((s.opened ch c).setStage c .serving).request r).phase = .start c none := hphase
    have hnew : (((s.opened ch c).setStage c .serving).setPhase r (.check c)).Pool := by
      apply hpool.setRequest
      all_goals simp [hsame, RequestPhase.borrowed, RequestPhase.unused]
    have hheld := (h.channels.holding c ch).channel hch
    have hdead : (s.opened ch c).Dead := by
      intro ch' hch'
      have hne : ch' ≠ ch := by
        rintro rfl
        have hkept : s.deleted ch' = true := hch'
        rw [hheld.2.1] at hkept
        cases hkept
      simpa [opened, setChannel, hne] using h.dead ch' hch'
    have hstarted : (((s.opened ch c).setStage c .serving).setPhase r (.check c)).Sound :=
      ⟨(hconnections.serve hstage).of_eq rfl rfl rfl rfl rfl, hcalls.serve hstarting rfl rfl, hnew,
        h.channels.startFresh h.calls h.pool hphase hch, hdead⟩
    exact hstarted.of_same (same_note _)
  · refine ⟨h.connections.of_eq rfl rfl rfl rfl rfl, ?_, ?_, ?_, h.dead⟩
    · apply h.calls.setPhase
      all_goals simp [hphase, RequestPhase.starting, RequestPhase.Accepted]
    · apply h.pool.setRequest
      all_goals simp [hphase, RequestPhase.borrowed, RequestPhase.unused, After.borrowed]
    · apply h.channels.setPhase
      intro d _ _
      rw [hphase]
      exact ⟨rfl, rfl, .inl rfl, rfl⟩

/-- An adoption has failed at once. -/
theorem Sound.disown (h : s.Sound) {r : RequestId} {c : ConnectionId} {p : PooledId}
    (hphase : (s.request r).phase = .start c (some p) ∨ (s.request r).phase = .acquire c p) :
    (s.disown r c p).Sound := by
  have hcalls : (s.setConnection c { s.connection c with channel := none }).Calls := by
    refine h.calls.of_eq rfl (fun _ => rfl) (fun d => ?_) rfl rfl
    simp only [setConnection, Function.update_apply]
    split
    · subst d
      rfl
    · rfl
  have hpool : (s.setConnection c { s.connection c with channel := none }).Pool :=
    h.pool.of_eq rfl rfl rfl rfl rfl (fun _ => rfl) rfl rfl
  have hsame : ((s.setConnection c { s.connection c with channel := none }).request r).phase =
      (s.request r).phase := rfl
  rcases hphase with hphase | hphase
  all_goals
    refine ⟨h.connections.of_eq rfl rfl rfl rfl rfl, ?_, ?_, ?_, h.dead⟩
    · apply hcalls.setPhase
      all_goals simp [hsame, hphase, RequestPhase.starting, RequestPhase.Accepted]
    · apply hpool.setRequest
      all_goals simp [hsame, hphase, RequestPhase.borrowed, RequestPhase.unused, After.borrowed]
    · apply h.channels.disown h.calls h.pool
      all_goals rw [hphase]; rfl

/-- The first test of `Adopt`. -/
theorem Sound.startReused (h : s.Sound) {r : RequestId} {c : ConnectionId} {p : PooledId}
    (hphase : (s.request r).phase = .start c (some p)) : (s.startReused r c p).Sound := by
  unfold HttpConnector.startReused
  split
  · exact h
  split
  · refine ⟨h.connections.of_eq rfl rfl rfl rfl rfl, ?_, ?_, ?_, h.dead⟩
    · apply h.calls.setPhase
      all_goals simp [hphase, RequestPhase.starting, RequestPhase.Accepted]
    · apply h.pool.setRequest
      all_goals simp [hphase, RequestPhase.borrowed, RequestPhase.unused]
    · apply h.channels.setPhase
      intro d _ _
      rw [hphase]
      exact ⟨rfl, rfl, .inr rfl, rfl⟩
  · exact h.disown (.inl hphase)

/-- `_AcquirePendingTask` and `PostTask` in `Adopt`. -/
theorem Sound.proceedAcquire (h : s.Sound) {r : RequestId} {c : ConnectionId} {p : PooledId}
    (hphase : (s.request r).phase = .acquire c p) : (s.proceedAcquire r c p).Sound := by
  have hstarting : (s.request r).phase.starting = some c := by rw [hphase]; rfl
  have hstage := (h.calls.starting r c hstarting).1
  unfold HttpConnector.proceedAcquire
  split
  · exact h
  rename_i ch hch
  split
  · exact h.disown (.inr hphase)
  rename_i hstate
  have hconnections : (s.setChannel ch
      { s.channel ch with adopts := (s.channel ch).adopts ++ [c] }).Connections :=
    h.connections.of_eq rfl rfl rfl rfl rfl
  have hcalls : (s.setChannel ch
      { s.channel ch with adopts := (s.channel ch).adopts ++ [c] }).Calls :=
    h.calls.of_eq rfl (fun _ => rfl) (fun _ => rfl) rfl rfl
  have hpool : ((s.setChannel ch
      { s.channel ch with adopts := (s.channel ch).adopts ++ [c] }).setStage c .serving).Pool :=
    h.pool.of_eq rfl rfl rfl rfl rfl (fun _ => rfl) rfl rfl
  have hsame : (((s.setChannel ch
      { s.channel ch with adopts := (s.channel ch).adopts ++ [c] }).setStage c
        .serving).request r).phase = .acquire c p := hphase
  have hnew : (((s.setChannel ch
      { s.channel ch with adopts := (s.channel ch).adopts ++ [c] }).setStage c .serving).setPhase r
        (.release c p)).Pool := by
    apply hpool.setRequest
    all_goals simp [hsame, RequestPhase.borrowed, RequestPhase.unused]
  have hdead : (s.setChannel ch
      { s.channel ch with adopts := (s.channel ch).adopts ++ [c] }).Dead := by
    refine h.dead.of_eq rfl fun ch' => ?_
    simp only [setChannel, Function.update_apply]
    split
    · subst ch'
      rfl
    · rfl
  have hposted : (((s.setChannel ch
      { s.channel ch with adopts := (s.channel ch).adopts ++ [c] }).setStage c .serving).setPhase r
        (.release c p)).Sound :=
    ⟨(hconnections.serve hstage).of_eq rfl rfl rfl rfl rfl, hcalls.serve hstarting rfl rfl, hnew,
      h.channels.acquire h.calls h.pool hphase hch hstate, hdead⟩
  exact hposted.of_same (same_note _)

/-- The guard of a possible call of `OnClosed` does not matter. -/
theorem same_armClosed (t : Thread) : s.Same (s.armClosed t) := by
  unfold armClosed
  split
  · exact { Same.refl s with works := rfl }
  · exact .refl s

/-- `_DetachAndArmClosed` in `Request`. -/
theorem Sound.proceedDetach (h : s.Sound) {r : RequestId} {c : ConnectionId} {k : After}
    (hphase : (s.request r).phase = .detach c k) (t : Thread) :
    (s.proceedDetach r c k t).Sound := by
  have hstarting : (s.request r).phase.starting = some c := by rw [hphase]; rfl
  have hstage := (h.calls.starting r c hstarting).1
  have hdropped := h.connections.drop hstage ((s.forget c).armed t) (.request r k)
  have hforgotten : s.Alike (s.forget c) :=
    { (Same.refl s).toAlike with handler := fun _ => rfl }
  unfold HttpConnector.proceedDetach
  -- the guard may be armed in between
  have hsame := same_armClosed (s := s.forget c) t
  generalize (s.forget c).armClosed t = x at hsame
  obtain ⟨hconns, hdestroying⟩ := hsame.sets
  obtain ⟨hnextConnection, hnextRequest, hnextPooled⟩ := hsame.next
  obtain ⟨hidle, hcount, hpooled⟩ := hsame.idle
  obtain ⟨hstages, -, hpooledStage, hborrower, -, hdeleted, -⟩ := hsame.tables
  have hcalls : x.Calls := h.calls.of_eq hstages hsame.phase hsame.request hsame.works hnextRequest
  have hpool : (x.setStage c .dropped).Pool :=
    h.pool.of_eq hidle hcount hpooled hpooledStage hborrower hsame.phase hsame.works hnextPooled
  have hchannels : x.Channels := (h.channels.of_alike hforgotten).of_alike hsame.toAlike
  have hphase' : (x.request r).phase = .detach c k := (hsame.phase r).trans hphase
  have hmoved : ((x.setStage c .dropped).setPhase r (.dropping c k)).Pool := by
    have hold : ((x.setStage c .dropped).request r).phase = .detach c k := hphase'
    apply hpool.setRequest
    all_goals simp [hold, RequestPhase.borrowed, RequestPhase.unused]
  refine ⟨?_, hcalls.drop hphase' _, hmoved.post trivial, ?_, ?_⟩
  · refine hdropped.of_eq hconns hdestroying ?_ ?_ hnextConnection
    · exact congrArg (Function.update · c ConnectionStage.dropped) hstages
    · exact congrArg (List.cons _) hsame.works
  · exact (hchannels.drop hcalls hphase').of_alike
      { (Same.refl _).toAlike with handler := fun _ => rfl }
  · exact h.dead.of_eq hdeleted hsame.state

/-- A call of `Request` goes on. -/
theorem Sound.proceed (h : s.Sound) (r : RequestId) (t : Thread) (result : BCResult) :
    (s.proceed r t result).Sound := by
  have hreturns (s : HttpConnector) (h : s.Sound) (c : ConnectionId)
      (hphase : (s.request r).phase = .check c) : (s.returns r .success).Sound := by
    apply h.returns
    all_goals simp [hphase, RequestPhase.starting, RequestPhase.borrowed]
  unfold HttpConnector.proceed
  split
  · exact h
  · exact h
  · exact h
  · rename_i hphase
    exact h.proceedTake hphase
  · rename_i b hphase
    exact h.proceedInsert hphase
  · rename_i c hphase
    exact h.startFresh hphase result
  · rename_i c p hphase
    exact h.startReused hphase
  · rename_i c p hphase
    exact h.proceedAcquire hphase
  · rename_i c p hphase
    apply h.release
    all_goals simp [hphase, RequestPhase.starting, RequestPhase.borrowed, RequestPhase.Accepted]
  · rename_i c k hphase
    exact h.proceedDetach hphase t
  · rename_i p hphase
    exact h.closeBorrowed (.inr hphase) rfl rfl
  · rename_i hphase
    split
    · apply h.returns
      all_goals simp [hphase, RequestPhase.starting, RequestPhase.borrowed, RequestPhase.Accepted]
    · apply h.newFreshConnection
      all_goals simp [hphase, RequestPhase.starting, RequestPhase.borrowed, RequestPhase.Accepted]
  · rename_i c hphase
    split
    · have hcancel := same_cancel (s := s) c
      exact hreturns _ (h.of_same hcancel) c ((hcancel.phase r).trans hphase)
    · exact hreturns s h c hphase

end HttpConnector

end Http
