import TTSignal.Http.Guards

/-!
# What requests are told

A request that has been accepted is told its outcome at most once, and exactly once by the time
its connection is deleted; a request that has been refused is told nothing.
-/

namespace Http

open Tcp (BCResult)

/-- A call of `Request` in this phase has been accepted. -/
def RequestPhase.accepts : RequestPhase → Bool
  | .release _ _ | .check _ => true
  | .returned result => result = .success
  | _ => false

/-- A call of `Request` in this phase has returned. -/
def RequestPhase.isReturned : RequestPhase → Bool
  | .returned _ => true
  | _ => false

/-- A call of `Request` in this phase will return an error. -/
def RequestPhase.Refuses : RequestPhase → Prop
  | .detach _ (.giveUp result) | .dropping _ (.giveUp result) => result ≠ .success
  | _ => True

/-- An action accepts a request. -/
def Action.accepts (r : RequestId) : Action → Bool
  | .accepted r' _ => r' = r
  | _ => false

/-- An action ends a call of `Request`. -/
def Action.returns (r : RequestId) : Action → Bool
  | .returned r' _ => r' = r
  | _ => false

/-- An action tells a request its outcome. -/
def Action.answers (r : RequestId) : Action → Bool
  | .callback r' _ _ => r' = r
  | _ => false

/-- A handler is called for a connection that has been accepted. -/
def Action.Due (before : List Action) (a : Action) : Prop :=
  ∀ r c o, a = .callback r c o → .accepted r c ∈ before

/-- A request that has been accepted counts as accepted. -/
theorem RequestPhase.Accepted.accepts {phase : RequestPhase} {c : ConnectionId}
    (h : phase.Accepted c) : phase.accepts = true := by
  cases phase <;> simp_all [RequestPhase.Accepted, RequestPhase.accepts]

/-- A request that is starting is neither accepted nor returned. -/
theorem RequestPhase.accepts_of_starting {phase : RequestPhase} {c : ConnectionId}
    (h : phase.starting = some c) : phase.accepts = false ∧ phase.isReturned = false := by
  cases phase <;> simp_all [RequestPhase.starting, RequestPhase.accepts, RequestPhase.isReturned]

namespace HttpConnector

variable {s s' : HttpConnector}

/-- The record of the calls of `Request` agrees with their phases. -/
structure Recalled (s : HttpConnector) : Prop where
  /-- A call is accepted once. -/
  accepts : ∀ r, s.trace.countP (Action.accepts r) = (s.request r).phase.accepts.toNat
  /-- It is accepted with the connection it has made. -/
  accepted : ∀ r c, .accepted r c ∈ s.trace ↔
    (s.stage c).Accepted ∧ (s.connection c).request = r
  /-- A call returns once. -/
  returns : ∀ r, s.trace.countP (Action.returns r) = (s.request r).phase.isReturned.toNat
  /-- It returns its result. -/
  result : ∀ r result, .returned r result ∈ s.trace → (s.request r).phase = .returned result
  /-- A connection is given up with an error. -/
  refuses : ∀ r, (s.request r).phase.Refuses
  /-- Handlers are called for connections that have been accepted. -/
  due : Traces.Justified Action.Due s.trace

/-- Between two connectors no call of `Request` comes further. -/
structure Leaves (s s' : HttpConnector) : Prop where
  /-- The calls. -/
  phase : ∀ r, (s'.request r).phase = (s.request r).phase
  /-- The connections that have been accepted. -/
  stage : ∀ c, (s'.stage c).Accepted ↔ (s.stage c).Accepted
  /-- The calls that have made them. -/
  request : ∀ c, (s.stage c).Accepted → (s'.connection c).request = (s.connection c).request
  /-- The record. -/
  trace : Adds (fun a => a.kind ≠ .acceptance ∧ a.kind ≠ .returning ∧ ∀ r c o, a ≠ .callback r c o)
    s s'

/-- What is recalled stays so where the roll is left alone. -/
theorem Recalled.leaves (h : s.Recalled) (hleaves : s.Leaves s') : s'.Recalled := by
  obtain ⟨new, htrace, hnew⟩ := hleaves.trace
  have hnone (p : Action → Bool)
      (hp : ∀ a, p a = true → a.kind = .acceptance ∨ a.kind = .returning) : new.countP p = 0 := by
    apply List.countP_eq_zero.mpr
    intro a ha hpa
    rcases hp a hpa with hkind | hkind
    · exact (hnew a ha).1 hkind
    · exact (hnew a ha).2.1 hkind
  constructor
  case accepts =>
    intro r
    rw [htrace, List.countP_append, hnone, Nat.add_zero, h.accepts, hleaves.phase]
    intro a ha
    cases a <;> simp_all [Action.accepts, Action.kind]
  case accepted =>
    intro r c
    have hold := h.accepted r c
    have hnot : .accepted r c ∉ new := fun hmem => (hnew _ hmem).1 rfl
    rw [htrace, List.mem_append, or_iff_left hnot, hold, hleaves.stage]
    constructor
    · rintro ⟨hstage, hr⟩
      exact ⟨hstage, (hleaves.request c hstage).trans hr⟩
    · rintro ⟨hstage, hr⟩
      exact ⟨hstage, (hleaves.request c hstage).symm.trans hr⟩
  case returns =>
    intro r
    rw [htrace, List.countP_append, hnone, Nat.add_zero, h.returns, hleaves.phase]
    intro a ha
    cases a <;> simp_all [Action.returns, Action.kind]
  case result =>
    intro r result hmem
    rw [htrace] at hmem
    rcases List.mem_append.mp hmem with hmem | hmem
    · rw [hleaves.phase]
      exact h.result r result hmem
    · exact absurd rfl (hnew _ hmem).2.1
  case refuses =>
    intro r
    rw [hleaves.phase]
    exact h.refuses r
  case due =>
    rw [htrace]
    exact h.due.append fun a ha before r c o hcallback => absurd hcallback ((hnew a ha).2.2 r c o)

/-- Two parts that leave the roll alone leave it alone together. -/
theorem Leaves.trans {s'' : HttpConnector} (h : s.Leaves s') (h' : s'.Leaves s'') :
    s.Leaves s'' where
  phase r := (h'.phase r).trans (h.phase r)
  stage c := (h'.stage c).trans (h.stage c)
  request c hc := (h'.request c ((h.stage c).mpr hc)).trans (h.request c hc)
  trace := h.trace.trans h'.trace

/-- What the calls of `Request` and their connections speak of. -/
def roll (s : HttpConnector) := (s.request, s.stage, s.connection, s.trace)

/-- An equal roll is left alone. -/
theorem leaves_of_eq (h : s'.roll = s.roll) : s.Leaves s' := by
  simp only [roll, Prod.mk.injEq] at h
  obtain ⟨hrequest, hstage, hconnection, htrace⟩ := h
  constructor
  case trace => exact adds_of_eq htrace
  all_goals simp_all

/-- What comes behind with the same roll leaves it alone. -/
theorem Leaves.then {x : HttpConnector} (h : s.Leaves x) (heq : s'.roll = x.roll) : s.Leaves s' :=
  h.trans (leaves_of_eq heq)

/-- What comes before with the same roll leaves it alone. -/
theorem Leaves.after {x : HttpConnector} (h : x.Leaves s') (heq : x.roll = s.roll) : s.Leaves s' :=
  (leaves_of_eq heq).trans h

/-- A note that is no acceptance, no return and no callback. -/
theorem leaves_note {a : Action} (hkind : a.kind ≠ .acceptance ∧ a.kind ≠ .returning)
    (hcallback : ∀ r c o, a ≠ .callback r c o) : s.Leaves (s.note a) := by
  have hsame : s.Leaves s := leaves_of_eq rfl
  exact { hsame with trace := adds_note ⟨hkind.1, hkind.2, hcallback⟩ }

/-- A connection changes and belongs to the same call. -/
theorem leaves_setConnection {c : ConnectionId} {x : HttpConnection}
    (hrequest : x.request = (s.connection c).request) : s.Leaves (s.setConnection c x) := by
  have hsame : s.Leaves s := leaves_of_eq rfl
  refine { hsame with request := ?_, trace := adds_of_eq rfl }
  intro d _
  simp only [setConnection, Function.update_apply]
  split
  · subst d
    exact hrequest
  · rfl

/-- A connection comes further. -/
theorem leaves_setStage {c : ConnectionId} {stage : ConnectionStage}
    (hstage : stage.Accepted ↔ (s.stage c).Accepted) : s.Leaves (s.setStage c stage) := by
  have hsame : s.Leaves s := leaves_of_eq rfl
  refine { hsame with stage := ?_, trace := adds_of_eq rfl }
  intro d
  simp only [setStage, Function.update_apply]
  split
  · subst d
    exact hstage
  · rfl

/-- A connection is made. -/
theorem Sound.leaves_newConnection (h : s.Sound) (r : RequestId) (ch : ChannelId) :
    s.Leaves (s.newConnection r ch) := by
  have hunborn := (h.connections s.nextConnection).unborn le_rfl
  have hsame : s.Leaves s := leaves_of_eq rfl
  refine { hsame with stage := ?_, request := ?_, trace := adds_of_eq rfl }
  all_goals
    intro d
    simp only [newConnection, Function.update_apply, ConnectionStage.Accepted]
    grind

/-! ### Calls of `Request` that come further -/

/-- A call goes on and is neither accepted nor over. -/
theorem Recalled.setPhase (h : s.Recalled) {r : RequestId} {phase : RequestPhase}
    (haccepts : phase.accepts = (s.request r).phase.accepts)
    (hreturned : phase.isReturned = (s.request r).phase.isReturned)
    (hrefuses : phase.Refuses) (hgoes : (s.request r).phase.isReturned = false) :
    (s.setPhase r phase).Recalled := by
  constructor
  case accepts =>
    intro r'
    have hold := h.accepts r'
    simp only [HttpConnector.setPhase, Function.update_apply]
    grind
  case accepted => exact h.accepted
  case returns =>
    intro r'
    have hold := h.returns r'
    simp only [HttpConnector.setPhase, Function.update_apply]
    grind
  case result =>
    intro r' result hmem
    have hold := h.result r' result hmem
    have hne : r' ≠ r := by
      rintro rfl
      rw [hold] at hgoes
      cases hgoes
    simp [HttpConnector.setPhase, hne, hold]
  case refuses =>
    intro r'
    have hold := h.refuses r'
    simp only [HttpConnector.setPhase, Function.update_apply]
    grind
  case due => exact h.due

/-- A call returns. -/
theorem Recalled.returning (h : s.Recalled) {r : RequestId} {result : BCResult}
    (haccepts : decide (result = .success) = (s.request r).phase.accepts)
    (hgoes : (s.request r).phase.isReturned = false) : (s.returns r result).Recalled := by
  constructor
  case accepts =>
    intro r'
    have hold := h.accepts r'
    simp only [HttpConnector.returns, note, HttpConnector.setPhase, Function.update_apply,
      List.countP_append, List.countP_singleton, Action.accepts]
    grind [RequestPhase.accepts]
  case accepted =>
    intro r' c
    simpa [HttpConnector.returns, note, HttpConnector.setPhase] using h.accepted r' c
  case returns =>
    intro r'
    have hold := h.returns r'
    simp only [HttpConnector.returns, note, HttpConnector.setPhase, Function.update_apply,
      List.countP_append, List.countP_singleton, Action.returns]
    grind [RequestPhase.isReturned]
  case result =>
    intro r' result' hmem
    rcases List.mem_append.mp hmem with hmem | hmem
    · have hold := h.result r' result' hmem
      have hne : r' ≠ r := by
        rintro rfl
        rw [hold] at hgoes
        cases hgoes
      simp [HttpConnector.returns, note, HttpConnector.setPhase, hne, hold]
    · rw [List.mem_singleton, Action.returned.injEq] at hmem
      obtain ⟨rfl, rfl⟩ := hmem
      simp [HttpConnector.returns, note, HttpConnector.setPhase]
  case refuses =>
    intro r'
    have hold := h.refuses r'
    simp only [HttpConnector.returns, note, HttpConnector.setPhase, Function.update_apply]
    grind [RequestPhase.Refuses]
  case due => exact h.due.concat fun _ _ _ hcallback => by cases hcallback

/-- A call is accepted. -/
theorem Recalled.accept (h : s.Recalled) {r : RequestId} {c : ConnectionId} {phase : RequestPhase}
    (hstarting : (s.request r).phase.starting = some c) (hstage : s.stage c = .starting)
    (hrequest : (s.connection c).request = r) (haccepts : phase.accepts = true)
    (hreturned : phase.isReturned = false) (hrefuses : phase.Refuses) :
    (((s.setStage c .serving).setPhase r phase).note (.accepted r c)).Recalled := by
  obtain ⟨hold, hgoes⟩ := RequestPhase.accepts_of_starting hstarting
  constructor
  case accepts =>
    intro r'
    have := h.accepts r'
    simp only [note, HttpConnector.setPhase, setStage, Function.update_apply,
      List.countP_append, List.countP_singleton, Action.accepts]
    grind
  case accepted =>
    intro r' d
    have := h.accepted r' d
    simp only [note, HttpConnector.setPhase, setStage, Function.update_apply, List.mem_append,
      List.mem_singleton, Action.accepted.injEq, this]
    grind [ConnectionStage.Accepted]
  case returns =>
    intro r'
    have := h.returns r'
    simp only [note, HttpConnector.setPhase, setStage, Function.update_apply,
      List.countP_append, List.countP_singleton, Action.returns]
    grind
  case result =>
    intro r' result hmem
    rcases List.mem_append.mp hmem with hmem | hmem
    · have hsame := h.result r' result hmem
      have hne : r' ≠ r := by
        rintro rfl
        rw [hsame] at hgoes
        cases hgoes
      simp [note, HttpConnector.setPhase, setStage, hne, hsame]
    · simp at hmem
  case refuses =>
    intro r'
    have := h.refuses r'
    simp only [note, HttpConnector.setPhase, setStage, Function.update_apply]
    grind
  case due => exact h.due.concat fun _ _ _ hcallback => by cases hcallback

/-- A handler is called. -/
theorem Recalled.callback (h : s.Recalled) {c : ConnectionId} (o : Outcome)
    (hstage : s.stage c = .serving) :
    (s.note (.callback (s.connection c).request c o)).Recalled := by
  have hmem : .accepted (s.connection c).request c ∈ s.trace :=
    (h.accepted _ c).mpr ⟨.inl hstage, rfl⟩
  constructor
  case accepts =>
    intro r
    simpa [note, Action.accepts] using h.accepts r
  case accepted =>
    intro r d
    simpa [note] using h.accepted r d
  case returns =>
    intro r
    simpa [note, Action.returns] using h.returns r
  case result =>
    intro r result hreturned
    exact h.result r result (by simpa [note] using hreturned)
  case refuses => exact h.refuses
  case due =>
    refine h.due.concat ?_
    rintro r d o' hcallback
    rw [Action.callback.injEq] at hcallback
    obtain ⟨rfl, rfl, -⟩ := hcallback
    exact hmem

/-! ### Channels -/

/-- Delivering once does, but for the callback that it takes. -/
theorem leaves_deliverOnce (c : ConnectionId) (ch : ChannelId) (t : Thread)
    (closeResult : BCResult) (finishes : Bool) (next : Next) :
    s.Leaves (s.deliverOnce c ch t closeResult finishes next) := by
  obtain ⟨x, a, n, guards, hrequest, -, -, -, heq⟩ :=
    s.deliverOnce_eq c ch t closeResult finishes next
  rw [heq]
  have hset : s.Leaves (s.setConnection c x) := leaves_setConnection hrequest
  exact hset.then rfl

/-- Updates in place do. -/
theorem Updates.leaves {d : Prop} (h : Updates d s s') : s.Leaves s' := by
  refine h.within (leaves_of_eq rfl) Leaves.trans fun hupdate => ?_
  cases hupdate with
  | channel | logging | dnsWorkers => exact leaves_of_eq rfl
  | connection c x hrequest => exact leaves_setConnection hrequest
  | deliverOnce _ c ch t closeResult finishes next =>
    exact leaves_deliverOnce c ch t closeResult finishes next
  | note a ha =>
    apply leaves_note
    all_goals cases a <;> simp_all [Action.kind, Action.Heard]

/-- The end of a pooled channel does. -/
theorem leaves_onPooledClosed (p : PooledId) : s.Leaves (s.onPooledClosed p) := by
  obtain ⟨x, idle, n, works, -, heq⟩ := s.onPooledClosed_eq p
  rw [heq]
  exact leaves_of_eq rfl

/-- Its detachment does. -/
theorem leaves_onPooledDetached (p : PooledId) : s.Leaves (s.onPooledDetached p) := by
  obtain ⟨x, works, -, heq⟩ := s.onPooledDetached_eq p
  rw [heq]
  exact leaves_of_eq rfl

/-- Releasing it does. -/
theorem leaves_release (p : PooledId) : s.Leaves (s.release p) := by
  obtain ⟨x, works, -, heq⟩ := s.release_eq p
  rw [heq]
  exact leaves_of_eq rfl

/-- Adopting a channel does. -/
theorem leaves_onAdopt (ch : ChannelId) (failure : Option BCResult) :
    s.Leaves (s.onAdopt ch failure) := by
  have hsame : s.Leaves s := leaves_of_eq rfl
  unfold HttpConnector.onAdopt
  split
  · exact hsame
  rename_i c rest hadopts
  split
  · exact hsame
  split
  · have hset : s.Leaves ((s.setChannel ch
        { s.channel ch with
          adopts := rest
          parked := false
          handler := some (.connection c) }).setOwner ch (.connection c)) := leaves_of_eq rfl
    have hadopted : s.Leaves (s.adopted ch c rest) :=
      hset.trans (leaves_note (by simp [Action.kind]) (by simp))
    unfold HttpConnector.takeOver
    split
    · exact (hadopted.trans (leaves_onPooledDetached _)).trans
        (updates_onChannelReady c failure).leaves
    · exact hadopted.trans (updates_onChannelReady c failure).leaves
  · have hset : s.Leaves (s.setConnection c
        { s.connection c with channel := some s.nextChannel }) := leaves_setConnection rfl
    exact hset.then rfl

/-- The end of a channel does. -/
theorem leaves_onClosed (ch : ChannelId) (t : Thread) (result : BCResult) (finishes : Bool) :
    s.Leaves (s.onClosed ch t result finishes) := by
  have hclosed : s.Leaves (s.setChannel ch { s.channel ch with state := .closed }) :=
    leaves_of_eq rfl
  unfold HttpConnector.onClosed
  split
  · split
    · exact (leaves_deliverOnce _ ch t result finishes .detach).after rfl
    · exact hclosed.trans (leaves_onPooledClosed _)
    · exact hclosed
  · exact leaves_of_eq rfl

/-- Opening a fresh channel does. -/
theorem leaves_openFresh (c : ConnectionId) (ch : ChannelId) (closing : Bool) (t : Thread)
    (result : BCResult) : s.Leaves (s.openFresh c ch closing t result) := by
  have hfail (reason : BCResult) : s.Leaves
      ((s.setFailResult c reason).deliverOnce c ch t reason false .detach) := by
    have hset : s.Leaves (s.setFailResult c reason) := leaves_setConnection rfl
    exact hset.trans (leaves_deliverOnce c ch t reason false .detach)
  unfold HttpConnector.openFresh
  split
  · exact hfail shuttingDown
  split
  · exact hfail result
  split <;> exact leaves_of_eq rfl

/-- A channel's thread goes on in a connection. -/
theorem Recalled.resume (h : s.Recalled) (hsound : s.Sound) (c : ConnectionId) (t : Thread)
    (result : BCResult) : (s.resume c t result).Recalled := by
  unfold HttpConnector.resume
  split
  · exact h
  · rename_i ch t' o next hactivity
    have hserving := (hsound.channels.standing c).active (by simp [hactivity])
    split
    · exact (h.callback o hserving).leaves (leaves_of_eq rfl)
    · exact h
  · split
    · refine h.leaves (Leaves.trans ?_ (leaves_note (by simp [Action.kind]) (by simp)))
      exact leaves_of_eq rfl
    · exact h
  · rename_i ch hactivity
    have hset : s.Leaves (s.setConnection c { s.connection c with channel := none }) :=
      leaves_setConnection rfl
    unfold HttpConnector.returnToPool
    split <;> exact h.leaves (hset.then rfl)
  · rename_i ch hactivity
    have hserving := (hsound.channels.standing c).active (by simp [hactivity])
    have hcondemned : s.Leaves (s.setStage c .condemned) :=
      leaves_setStage (by simp [ConnectionStage.Accepted, hserving])
    exact h.leaves (hcondemned.then rfl)
  · exact h.leaves (leaves_openFresh c _ _ t result)

/-! ### `Request` -/

/-- A call of `Request` makes a connection. -/
theorem Recalled.newConnection (h : s.Recalled) (hsound : s.Sound) {r : RequestId}
    {b : Option PooledId} (ch : ChannelId) (haccepts : (s.request r).phase.accepts = false)
    (hgoes : (s.request r).phase.isReturned = false) :
    ((s.newConnection r ch).setPhase r (.start s.nextConnection b)).Recalled := by
  have hnew := h.leaves (hsound.leaves_newConnection r ch)
  exact hnew.setPhase haccepts.symm hgoes.symm trivial hgoes

/-- A request that starts a fresh connection is recalled. -/
theorem Recalled.newFreshConnection (h : s.Recalled) (hsound : s.Sound) {r : RequestId}
    (haccepts : (s.request r).phase.accepts = false)
    (hgoes : (s.request r).phase.isReturned = false) :
    ((s.newFreshConnection r).setPhase r (.start s.nextConnection none)).Recalled :=
  (h.newConnection hsound s.nextChannel haccepts hgoes).leaves (leaves_of_eq rfl)

/-- Going on with a request keeps what is recalled. -/
theorem Recalled.proceed (h : s.Recalled) (hsound : s.Sound) (r : RequestId) (t : Thread)
    (result : BCResult) : (s.proceed r t result).Recalled := by
  have hgiven (c : ConnectionId) (p : PooledId)
      (hphase : (s.request r).phase.accepts = false ∧ (s.request r).phase.isReturned = false) :
      (s.disown r c p).Recalled := by
    have hset : s.Leaves (s.setConnection c { s.connection c with channel := none }) :=
      leaves_setConnection rfl
    exact (h.leaves hset).setPhase hphase.1.symm hphase.2.symm trivial hphase.2
  unfold HttpConnector.proceed
  split
  · exact h
  · exact h
  · exact h
  · rename_i hphase
    have htake (b : Option PooledId) : (s.setPhase r (.insert b)).Recalled := by
      apply h.setPhase
      all_goals simp [hphase, RequestPhase.accepts, RequestPhase.isReturned, RequestPhase.Refuses]
    unfold HttpConnector.proceedTake
    split
    · exact htake none
    split
    · exact htake none
    · exact (htake (some _)).leaves (leaves_of_eq rfl)
  · rename_i b hphase
    have haccepts : (s.request r).phase.accepts = false := by rw [hphase]; rfl
    have hgoes : (s.request r).phase.isReturned = false := by rw [hphase]; rfl
    cases b with
    | none =>
      simp only [HttpConnector.proceedInsert]
      split
      · exact h.returning (by rw [haccepts]; rfl) hgoes
      · exact h.newFreshConnection hsound haccepts hgoes
    | some p =>
      simp only [HttpConnector.proceedInsert]
      split
      · have hreleased : s.Leaves ((s.closeChannel (s.pooled p).channel).release p) :=
          (leaves_release p).after rfl
        have hsame := hreleased.phase r
        exact (h.leaves hreleased).returning (by rw [hsame, haccepts]; rfl) (by rw [hsame, hgoes])
      · exact h.newConnection hsound (s.pooled p).channel haccepts hgoes
  · rename_i c hphase
    obtain ⟨hstage, hrequest⟩ := hsound.calls.starting r c (by rw [hphase]; rfl)
    unfold HttpConnector.startFresh
    split
    · exact h
    split
    · have haccepted : (((s.setStage c .serving).setPhase r (.check c)).note
          (.accepted r c)).Recalled :=
        h.accept (by rw [hphase]; rfl) hstage hrequest rfl rfl trivial
      exact haccepted.leaves (leaves_of_eq rfl)
    · rename_i hfailed
      apply h.setPhase
      all_goals simp [hphase, RequestPhase.accepts, RequestPhase.isReturned, RequestPhase.Refuses,
        hfailed]
  · rename_i c p hphase
    have hstarting : (s.request r).phase.starting = some c := by rw [hphase]; rfl
    have hneither := RequestPhase.accepts_of_starting hstarting
    unfold HttpConnector.startReused
    split
    · exact h
    split
    · exact h.setPhase hneither.1.symm hneither.2.symm trivial hneither.2
    · exact hgiven c p hneither
  · rename_i c p hphase
    obtain ⟨hstage, hrequest⟩ := hsound.calls.starting r c (by rw [hphase]; rfl)
    have hstarting : (s.request r).phase.starting = some c := by rw [hphase]; rfl
    have hneither := RequestPhase.accepts_of_starting hstarting
    unfold HttpConnector.proceedAcquire
    split
    · exact h
    split
    · exact hgiven c p hneither
    · have haccepted : (((s.setStage c .serving).setPhase r (.release c p)).note
          (.accepted r c)).Recalled :=
        h.accept hstarting hstage hrequest rfl rfl trivial
      exact haccepted.leaves (leaves_of_eq rfl)
  · rename_i c p hphase
    have hreleased := leaves_release (s := s) p
    have hsame := hreleased.phase r
    apply (h.leaves hreleased).setPhase
    all_goals simp [hsame, hphase, RequestPhase.accepts, RequestPhase.isReturned,
      RequestPhase.Refuses]
  · rename_i c k hphase
    obtain ⟨hstage, -⟩ := hsound.calls.starting r c (by rw [hphase]; rfl)
    have hdropped : s.Leaves (s.setStage c .dropped) :=
      leaves_setStage (by simp [ConnectionStage.Accepted, hstage])
    have hrefuses : (RequestPhase.dropping c k).Refuses := by
      have := h.refuses r
      rw [hphase] at this
      cases k <;> exact this
    have hset : ((s.setStage c .dropped).setPhase r (.dropping c k)).Recalled := by
      apply (h.leaves hdropped).setPhase
      case hrefuses => exact hrefuses
      all_goals
        have hsame := hdropped.phase r
        simp [hsame, hphase, RequestPhase.accepts, RequestPhase.isReturned]
    refine hset.leaves ?_
    unfold HttpConnector.proceedDetach HttpConnector.armClosed
    split <;> exact leaves_of_eq rfl
  · rename_i p hphase
    have hreleased : s.Leaves ((s.closeChannel (s.pooled p).channel).release p) :=
      (leaves_release p).after rfl
    have hsame := hreleased.phase r
    apply (h.leaves hreleased).setPhase
    all_goals simp [hsame, hphase, RequestPhase.accepts, RequestPhase.isReturned,
      RequestPhase.Refuses]
  · rename_i hphase
    have haccepts : (s.request r).phase.accepts = false := by rw [hphase]; rfl
    have hgoes : (s.request r).phase.isReturned = false := by rw [hphase]; rfl
    split
    · exact h.returning (by rw [haccepts]; rfl) hgoes
    · exact h.newFreshConnection hsound haccepts hgoes
  · rename_i c hphase
    have haccepts : (s.request r).phase.accepts = true := by rw [hphase]; rfl
    have hgoes : (s.request r).phase.isReturned = false := by rw [hphase]; rfl
    split
    · have hcancelled : s.Leaves (s.cancel c) := (updates_cancel c).leaves
      have hsame := hcancelled.phase r
      exact (h.leaves hcancelled).returning (by rw [hsame, haccepts]; rfl)
        (by rw [hsame, hgoes])
    · exact h.returning (by rw [haccepts]; rfl) hgoes

/-! ### Posted tasks and the rest -/

/-- A call of `Request` goes on after the deletion of its connection. -/
theorem Recalled.goOn (h : s.Recalled) {k : Cont}
    (hresumes : ∀ r a, k = .request r a → ∃ c, (s.request r).phase = .dropping c a) :
    (s.goOn k).Recalled := by
  cases k with
  | done => exact h
  | request r a =>
    obtain ⟨c, hphase⟩ := hresumes r a rfl
    cases a with
    | retry p =>
      apply h.setPhase
      all_goals simp [hphase, RequestPhase.accepts, RequestPhase.isReturned, RequestPhase.Refuses]
    | giveUp result =>
      have hrefuses : result ≠ .success := by
        have := h.refuses r
        rw [hphase] at this
        exact this
      apply h.returning
      all_goals simp [hphase, RequestPhase.accepts, RequestPhase.isReturned, hrefuses]
  | destructor =>
    simp only [HttpConnector.goOn]
    split <;> exact h.leaves (leaves_of_eq rfl)

/-- A notice, or the end of the work, keeps it. -/
theorem Recalled.notifyOr (h : s.Recalled) (t : Thread) : (s.notifyOr t .done).Recalled := by
  unfold HttpConnector.notifyOr
  split
  · exact h.leaves (leaves_of_eq rfl)
  · exact h

/-- So does the notice that everything is closed, whatever goes on behind it. -/
theorem Recalled.notifyClosedIfDrained (h : s.Recalled) (t : Thread) {k : Cont}
    (hresumes : ∀ r a, k = .request r a → ∃ c, (s.request r).phase = .dropping c a) :
    (s.notifyClosedIfDrained t k).Recalled := by
  unfold HttpConnector.notifyClosedIfDrained
  split
  · exact h.goOn hresumes
  split
  · exact h.goOn hresumes
  split
  · have hnotified : Recalled { s with closedNotified := true } := h.leaves (leaves_of_eq rfl)
    exact hnotified.goOn hresumes
  · exact h.leaves (leaves_of_eq rfl)

/-- Deleting a connection leaves it alone. -/
theorem leaves_deleteConnection (c : ConnectionId) : s.Leaves (s.deleteConnection c) := by
  unfold HttpConnector.deleteConnection
  split
  · exact leaves_note (by simp [Action.kind]) (by simp)
  · rename_i ch hch
    have hset : s.Leaves (s.setConnection c { s.connection c with channel := none }) :=
      leaves_setConnection rfl
    have hchannel := hset.trans
      (leaves_note (a := .deletedChannel ch (.connection c)) (by simp [Action.kind]) (by simp))
    have hconnection := hchannel.trans
      (leaves_note (a := .deletedConnection c) (by simp [Action.kind]) (by simp))
    exact hconnection.then rfl

/-- A connection is deleted. -/
theorem leaves_delete {c : ConnectionId} {stage : ConnectionStage}
    (hstage : stage.Accepted ↔ (s.stage c).Accepted) :
    s.Leaves ((s.deleteConnection c).setStage c stage) := by
  have hset : s.Leaves (s.setStage c stage) := leaves_setStage hstage
  have hdeleted := hset.trans (leaves_deleteConnection c)
  refine hdeleted.then ?_
  unfold HttpConnector.deleteConnection
  split
  · rename_i hnone
    have hnone' : ((s.setStage c stage).connection c).channel = none := hnone
    rw [hnone']
    rfl
  · rename_i ch hch
    have hch' : ((s.setStage c stage).connection c).channel = some ch := hch
    rw [hch']
    rfl

/-- Something posted or begun is done. -/
theorem Recalled.doWork (h : s.Recalled) (hsound : s.Sound) {w : Work} (hmem : w ∈ s.works)
    (t : Thread) : (HttpConnector.doWork { s with works := s.works.erase w } t w).Recalled := by
  have herased : Recalled { s with works := s.works.erase w } := h.leaves (leaves_of_eq rfl)
  have hresumes : ∀ r a, w.cont = .request r a → ∃ c, (s.request r).phase = .dropping c a :=
    fun r a hw => hsound.calls.resumed w hmem r a hw
  cases w with
  | deleteConnection c =>
    have hstage : s.stage c = .condemned := by
      have hcount := List.count_pos_iff.mpr hmem
      have := (hsound.connections c).count_delete
      grind
    have hiff : ConnectionStage.deleted.Accepted ↔ (s.stage c).Accepted := by
      simp [ConnectionStage.Accepted, hstage]
    have hdeleted := leaves_delete (s := { s with works := s.works.erase (.deleteConnection c) })
      hiff
    exact (herased.leaves hdeleted).leaves (leaves_of_eq rfl)
  | finishDestroy c =>
    have hstage : s.stage c = .deleted := by
      have hcount := List.count_pos_iff.mpr hmem
      have := (hsound.connections c).count_finish
      grind
    have hgone : s.Leaves (s.setStage c .gone) :=
      leaves_setStage (by simp [ConnectionStage.Accepted, hstage])
    have hforgotten : Recalled ((HttpConnector.forget
        { s with works := s.works.erase (.finishDestroy c) } c).setStage c .gone) :=
      h.leaves (hgone.then rfl)
    exact hforgotten.notifyOr t
  | deleteClosed p =>
    have hchannel := herased.leaves (leaves_note
      (a := .deletedChannel (s.pooled p).channel (.pooled p)) (by simp [Action.kind]) (by simp))
    have hpooled := hchannel.leaves
      (leaves_note (a := .deletedPooled p) (by simp [Action.kind]) (by simp))
    exact hpooled.leaves (leaves_of_eq rfl)
  | deleteDetached p =>
    have hpooled := herased.leaves
      (leaves_note (a := .deletedPooled p) (by simp [Action.kind]) (by simp))
    exact hpooled.leaves (leaves_of_eq rfl)
  | finishIdle p =>
    have hgone : Recalled (HttpConnector.setPooledStage
        { s with
          works := s.works.erase (.finishIdle p)
          idleDestroying := s.idleDestroying - 1 } p .gone) := h.leaves (leaves_of_eq rfl)
    exact hgone.notifyOr t
  | recheck c =>
    simp only [HttpConnector.doWork]
    split
    · exact herased.leaves (updates_cancel c).leaves
    · exact herased
  | notifyClosed k => exact herased.notifyClosedIfDrained t hresumes
  | drop c armed k =>
    have hstage : s.stage c = .dropped := by
      have hcount : 0 < s.works.countP (Work.drops c) :=
        List.countP_pos_iff.mpr ⟨_, hmem, by simp [Work.drops]⟩
      have := (hsound.connections c).count_drop
      grind
    have hiff : ConnectionStage.discarded.Accepted ↔ (s.stage c).Accepted := by
      simp [ConnectionStage.Accepted, hstage]
    have hleaves := leaves_delete (s := { s with works := s.works.erase (.drop c armed k) }) hiff
    have hdeleted := herased.leaves hleaves
    cases armed with
    | none =>
      refine hdeleted.goOn fun r a hk => ?_
      obtain ⟨d, hd⟩ := hresumes r a hk
      exact ⟨d, (hleaves.phase r).trans hd⟩
    | some t' => exact hdeleted.leaves (leaves_of_eq rfl)
  | onClosed t' k =>
    have hnoted := herased.leaves (leaves_note (a := .onClosed) (by simp [Action.kind]) (by simp))
    exact hnoted.leaves (leaves_of_eq rfl)
  | inOnClosed t' k =>
    have hdisarmed : Recalled (HttpConnector.disarm
        { s with works := s.works.erase (.inOnClosed t' k) } t' .closed) :=
      h.leaves (leaves_of_eq rfl)
    exact hdisarmed.goOn hresumes

/-- `Close` leaves it alone. -/
theorem leaves_close (k : Cont) : s.Leaves (s.close k) := by
  have hnoted : s.Leaves (s.note .closeCalled) := leaves_note (by simp [Action.kind]) (by simp)
  exact hnoted.then rfl

/-- A thread that ends leaves it alone. -/
theorem leaves_abandon (t : Thread) : s.Leaves (s.abandon t) := by
  have hsame : s.Leaves s := leaves_of_eq rfl
  refine { hsame with request := ?_, trace := adds_of_eq rfl }
  intro c _
  simp only [abandon, clearHandlers]
  split <;> rfl

/-- A request that is called is recalled. -/
theorem Recalled.call (h : s.Recalled) (hsound : s.Sound) (args : RequestArgs) :
    (s.call args).Recalled := by
  have hunborn := hsound.calls.unborn s.nextRequest le_rfl
  have hmade : Recalled
      { s with
        request := Function.update s.request s.nextRequest ⟨args.key, .take⟩
        nextRequest := s.nextRequest + 1 } := by
    have hset : (s.setPhase s.nextRequest .take).Recalled := by
      apply h.setPhase
      all_goals simp [hunborn, RequestPhase.accepts, RequestPhase.isReturned, RequestPhase.Refuses]
    have hphase : ∀ r, (Function.update s.request s.nextRequest ⟨args.key, .take⟩ r).phase =
        ((s.setPhase s.nextRequest .take).request r).phase := by
      intro r
      simp only [HttpConnector.setPhase, Function.update_apply]
      split <;> rfl
    have hsame : (s.setPhase s.nextRequest .take).Leaves
        { s with
          request := Function.update s.request s.nextRequest ⟨args.key, .take⟩
          nextRequest := s.nextRequest + 1 } :=
      ⟨hphase, fun _ => .rfl, fun _ _ => rfl, adds_of_eq rfl⟩
    exact hset.leaves hsame
  unfold HttpConnector.call
  split
  · rename_i hfails
    apply hmade.returning
    all_goals simp [RequestPhase.accepts, RequestPhase.isReturned, hfails]
  · exact hmade

/-- Every event that is handled keeps what is recalled. -/
theorem Recalled.handle (h : s.Recalled) (hsound : s.Sound) (t : Thread) (e : Event) :
    (s.handle t e).Recalled := by
  cases e with
  | call args =>
    simp only [HttpConnector.handle]
    split
    · exact h.call hsound args
    · exact h
  | proceed r result => exact h.proceed hsound r t result
  | adopt ch failure => exact h.leaves (leaves_onAdopt ch failure)
  | closed ch result finishes => exact h.leaves (leaves_onClosed ch t result finishes)
  | resume c result => exact h.resume hsound c t result
  | work w =>
    simp only [HttpConnector.handle]
    split
    · rename_i hmay
      exact h.doWork hsound hmay.1 t
    · exact h
  | close =>
    simp only [HttpConnector.handle]
    split
    · exact h.leaves (leaves_close .done)
    · exact h
  | destroy =>
    simp only [HttpConnector.handle, HttpConnector.destroy]
    split
    · exact h.leaves ((leaves_close .destructor).after rfl)
    · exact h
  | endWait =>
    simp only [HttpConnector.handle, HttpConnector.endWait]
    split
    · split
      · have hnoted : s.Leaves (s.note .destroyed) := leaves_note (by simp [Action.kind]) (by simp)
        exact h.leaves (hnoted.then rfl)
      · exact h.leaves (leaves_abandon t)
    · exact h
  | endAbandon =>
    simp only [HttpConnector.handle, HttpConnector.endAbandon]
    split <;> exact h.leaves (leaves_of_eq rfl)
  | clearSink =>
    simp only [HttpConnector.handle, HttpConnector.clearSink]
    split
    · have hnoted : s.Leaves (s.note .destroyed) := leaves_note (by simp [Action.kind]) (by simp)
      exact h.leaves (hnoted.then rfl)
    · exact h
  | _ => exact h.leaves (Updates.leaves (updates_handle t trivial))

/-- So does every step. -/
theorem Recalled.step (h : s.Recalled) (hsound : s.Sound) (e : Thread × Event) :
    (s.step e).Recalled := by
  unfold HttpConnector.step
  split
  · exact h
  · exact h.handle hsound e.1 e.2

/-- In the beginning there is nothing to be recalled. -/
theorem recalled_create (maxIdlePerKey : ℕ) (handler logSink : Bool) :
    (create maxIdlePerKey handler logSink).Recalled := by
  refine ⟨fun r => rfl, fun r c => ?_, fun r => rfl, ?_, fun r => trivial, Traces.justified_nil⟩
  · simp [create, ConnectionStage.Accepted]
  · intro r result hmem
    simp [create] at hmem

/-! ### What a request is told -/

/-- A request is told its outcome once if it has been accepted, and never if it has been
refused. -/
structure Answers (s : HttpConnector) : Prop where
  /-- A call of `Request` returns at most once. -/
  returns : ∀ r, s.trace.countP (Action.returns r) ≤ 1
  /-- It is told its outcome at most once. -/
  once : ∀ r, s.trace.countP (Action.answers r) ≤ 1
  /-- Its handler is called after it has been accepted. -/
  due : Traces.Justified Action.Due s.trace
  /-- It has been accepted, with one connection, if it returns success. -/
  success : ∀ r, .returned r .success ∈ s.trace → s.trace.countP (Action.accepts r) = 1
  /-- It has been told nothing if it returns an error. -/
  failure : ∀ r result, .returned r result ∈ s.trace → result ≠ .success →
    s.trace.countP (Action.accepts r) = 0 ∧ s.trace.countP (Action.answers r) = 0
  /-- It has been told its outcome when its connection is deleted, unless the destructor has
  given up. -/
  deleted : ∀ r c, .accepted r c ∈ s.trace → .deletedConnection c ∈ s.trace →
    s.abandoned = false →
      s.trace.countP (Action.answers r) = 1 ∧ s.trace.count (.callbackReturned c) = 1

variable {a : Dispatches.State Dispatch Thread}

/-- A callback comes for a request that has been accepted. -/
theorem Recalled.mem_of_callback (h : s.Recalled) {r : RequestId} {c : ConnectionId} {o : Outcome}
    (hmem : .callback r c o ∈ s.trace) : .accepted r c ∈ s.trace := by
  obtain ⟨before, after, hsplit⟩ := List.append_of_mem hmem
  have hdue := h.due before _ after hsplit r c o rfl
  rw [hsplit]
  exact List.mem_append_left _ hdue

/-- A request is accepted with one connection. -/
theorem Recalled.eq_of_accepted (h : s.Recalled) {r : RequestId} {c d : ConnectionId}
    (hc : .accepted r c ∈ s.trace) (hd : .accepted r d ∈ s.trace) : c = d := by
  have hle : s.trace.countP (Action.accepts r) ≤ 1 := (h.accepts r).trans_le (Bool.toNat_le _)
  have heq := Traces.eq_of_countP_le_one hle hc hd (by simp [Action.accepts])
    (by simp [Action.accepts])
  simpa using heq

/-- A request is told its outcome by the connection it has been accepted with. -/
theorem Recalled.answers_eq (h : s.Recalled) {r : RequestId} {c : ConnectionId}
    (hc : .accepted r c ∈ s.trace) :
    s.trace.countP (Action.answers r) = s.trace.countP (Action.tells c) := by
  apply List.countP_congr
  intro b hb
  cases b with
  | callback r' c' o =>
    have hmem := h.mem_of_callback hb
    simp only [Action.answers, Action.tells, decide_eq_true_eq]
    constructor
    · rintro rfl
      exact h.eq_of_accepted hmem hc
    · rintro rfl
      exact ((h.accepted r' c').mp hmem).2.symm.trans ((h.accepted r c').mp hc).2
  | _ => simp [Action.answers, Action.tells]

/-- A request that has not been accepted is told nothing. -/
theorem Recalled.answers_eq_zero (h : s.Recalled) {r : RequestId}
    (hnone : s.trace.countP (Action.accepts r) = 0) :
    s.trace.countP (Action.answers r) = 0 := by
  apply List.countP_eq_zero.mpr
  intro b hb hanswers
  cases b with
  | callback r' c o =>
    have hr : r' = r := of_decide_eq_true hanswers
    subst hr
    have := List.countP_eq_zero.mp hnone _ (h.mem_of_callback hb)
    simp [Action.accepts] at this
  | _ => cases hanswers

/-- A connection that has been served and deleted has told its handler the outcome. -/
theorem Counted.over_of_deleted (h : s.Counted a) (hsound : s.Sound) {c : ConnectionId}
    (hstage : (s.stage c).Over) (hkept : s.abandoned = false) :
    a.stage (.request c) = .returned := by
  have hdelivered := (hsound.channels.standing c).served hstage
  have hidle : s.activity c = .idle := by
    by_contra hne
    have := (hsound.channels.standing c).active hne
    rcases hstage with hstage | hstage | hstage <;> simp [hstage] at this
  obtain ⟨hwaiting, harmed, hcalling, hskipped, -⟩ := h.telling c
  cases hover : a.stage (.request c) with
  | waiting =>
    rw [hwaiting.mp hover] at hdelivered
    cases hdelivered
  | armed t =>
    have := (harmed t).mp hover
    rw [hidle] at this
    cases this
  | calling t =>
    have := (hcalling t).mp hover
    rw [hidle] at this
    cases this
  | returned => rfl
  | skipped =>
    rw [hskipped hover] at hkept
    cases hkept

/-- What is recalled and counted is answered. -/
theorem Recalled.answers (h : s.Recalled) (hsound : s.Sound) (hcounted : s.Counted a)
    (hrecorded : s.Recorded) : s.Answers where
  returns r := (h.returns r).trans_le (Bool.toNat_le _)
  once r := by
    by_cases hnone : s.trace.countP (Action.accepts r) = 0
    · rw [h.answers_eq_zero hnone]
      exact Nat.zero_le 1
    · obtain ⟨b, hb, haccepts⟩ := List.countP_pos_iff.mp (Nat.pos_of_ne_zero hnone)
      cases b with
      | accepted r' c =>
        have hr : r' = r := of_decide_eq_true haccepts
        subst hr
        rw [h.answers_eq hb, (hcounted.telling c).began]
        exact hcounted.coherent.began_le_one _
      | _ => cases haccepts
  due := h.due
  success r hmem := by
    rw [h.accepts, h.result r .success hmem]
    rfl
  failure r result hmem hresult := by
    have hnone : s.trace.countP (Action.accepts r) = 0 := by
      rw [h.accepts, h.result r result hmem]
      simp [RequestPhase.accepts, hresult]
    exact ⟨hnone, h.answers_eq_zero hnone⟩
  deleted r c hmem hdeleted hkept := by
    obtain ⟨haccepted, -⟩ := (h.accepted r c).mp hmem
    have hcount := hrecorded.connection c
    have hover : (s.stage c).Over := by
      have hpos := List.count_pos_iff.mpr hdeleted
      rcases haccepted with hstage | hstage | hstage | hstage
      · rw [hcount, hstage] at hpos
        exact absurd hpos (Nat.lt_irrefl 0)
      · exact .inl hstage
      · exact .inr (.inl hstage)
      · exact .inr (.inr hstage)
    have hstage := hcounted.over_of_deleted hsound hover hkept
    obtain ⟨-, -, -, -, -, hbegan, hended⟩ := hcounted.telling c
    rw [h.answers_eq hmem, hbegan, hended, hcounted.coherent.began, hcounted.coherent.ended, hstage]
    exact ⟨rfl, rfl⟩

/-- Everything is in order, and the calls of `Request` are recalled. -/
theorem recalled_run (maxIdlePerKey : ℕ) (handler logSink : Bool)
    (events : List (Thread × Event)) :
    (Runs.run step (create maxIdlePerKey handler logSink) events).Recalled := by
  have hrun : (Runs.run step (create maxIdlePerKey handler logSink) events).Sound ∧
      (Runs.run step (create maxIdlePerKey handler logSink) events).Recalled :=
    Runs.invariant (I := fun s : HttpConnector => s.Sound ∧ s.Recalled)
      (fun s e h => ⟨h.1.step e, h.2.step h.1 e⟩)
      ⟨sound_create _ _ _, recalled_create _ _ _⟩ events
  exact hrun.2

/-- Whatever the threads of a connector do: a request that has been accepted is told its outcome
at most once, and exactly once by the time its connection is deleted, unless the destructor has
given up; a request that has been refused is told nothing. -/
theorem answers_run (maxIdlePerKey : ℕ) (handler logSink : Bool)
    (events : List (Thread × Event)) :
    (Runs.run step (create maxIdlePerKey handler logSink) events).Answers := by
  obtain ⟨a, -, hcounted⟩ := counted_run maxIdlePerKey handler logSink events
  exact (recalled_run maxIdlePerKey handler logSink events).answers (sound_run _ _ _ _) hcounted
    (recorded_run _ _ _ _)

end HttpConnector

end Http
