import TTSignal.Http.Pool

/-!
# Who owns a channel, and whom it serves

A channel belongs to one object, which will delete it: the connection that has made or taken
it over, or the pooled channel that watches it. An open channel calls its owner. A connection
that is served waits for its channel or for the adoption of a channel, and is told its outcome
on the way out.
-/

namespace Http

open Tcp (BCResult)

/-- A connection in this stage may have a channel. -/
def ConnectionStage.Holds (stage : ConnectionStage) : Prop :=
  stage = .starting ∨ stage = .serving ∨ stage = .condemned ∨ stage = .dropped

/-- A connection in this stage has been told nothing. -/
def ConnectionStage.Fresh (stage : ConnectionStage) : Prop :=
  stage = .unborn ∨ stage = .starting ∨ stage = .dropped ∨ stage = .discarded

/-- A connection in this stage has been told its outcome. -/
def ConnectionStage.Over (stage : ConnectionStage) : Prop :=
  stage = .condemned ∨ stage = .deleted ∨ stage = .gone

/-- Where a channel's thread in the code of a connection is going. -/
inductive Course where
  /-- The channel goes to the pool. -/
  | parking
  /-- The connection is left. -/
  | leaving
  /-- The connection gets another channel. -/
  | reopening
  deriving DecidableEq

/-- Where it goes after `_DeliverOnce`. -/
def Next.course : Next → Course
  | .park => .parking
  | .detach => .leaving

/-- Where a channel's thread is going. -/
def Activity.course : Activity → Option Course
  | .idle => none
  | .armed _ _ _ next | .calling _ _ _ next => some next.course
  | .park _ => some .parking
  | .detach _ => some .leaving
  | .openFresh _ _ => some .reopening

/-- A call of `Request` starts a connection that has a channel of its own. -/
def RequestPhase.opens : RequestPhase → Bool
  | .start _ none | .detach _ (.giveUp _) => true
  | _ => false

/-- The borrowed channel of a connection that a call of `Request` starts. -/
def RequestPhase.reuses : RequestPhase → Option PooledId
  | .start _ b => b
  | .acquire _ p => some p
  | _ => none

/-- A call of `Request` has given the borrowed channel of its connection back. -/
def RequestPhase.disowns : RequestPhase → Bool
  | .detach _ (.retry _) => true
  | _ => false

namespace HttpConnector

variable (s : HttpConnector)

/-- The fields of a channel fit together. -/
structure Shaped (ch : ChannelId) : Prop where
  /-- A channel that has not been made. -/
  unborn : s.nextChannel ≤ ch → (s.channel ch).state = .idle ∧ s.deleted ch = false
  /-- A channel that has not been opened. -/
  idle : (s.channel ch).state = .idle →
    (s.channel ch).handler = none ∧ (s.channel ch).adopts = [] ∧ (s.channel ch).inside = none
  /-- A channel calls its owner. -/
  handler : (s.channel ch).state ≠ .idle → (s.channel ch).handler = some (s.owner ch)
  /-- A parked channel is watched. -/
  parked : (s.channel ch).parked = true ↔ ∃ p, (s.channel ch).handler = some (.pooled p)
  /-- A channel is poisoned while it is parked. -/
  poisoned : (s.channel ch).poisoned = true → (s.channel ch).parked = true

/-- A connection uses a channel that a pooled channel still owns. -/
def Borrows (c : ConnectionId) (ch : ChannelId) : Prop :=
  (s.stage c = .starting ∧ ∃ p,
    (s.request (s.connection c).request).phase.unused = some p ∧ (s.pooled p).channel = ch) ∨
    c ∈ (s.channel ch).adopts

/-- A connection and a channel agree on whether the one owns the other. -/
structure Holding (c : ConnectionId) (ch : ChannelId) : Prop where
  /-- The channel of a connection. -/
  channel : (s.connection c).channel = some ch →
    ch < s.nextChannel ∧ s.deleted ch = false ∧ (s.stage c).Holds ∧
      (s.owner ch = .connection c ∨ s.Borrows c ch)
  /-- A channel owned by a connection. -/
  connection : s.owner ch = .connection c → ch < s.nextChannel → s.deleted ch = false →
    (s.connection c).channel = some ch

/-- A pooled channel and its channel agree on whether the one owns the other. -/
structure Watching (p : PooledId) : Prop where
  /-- A channel owned by a pooled channel. -/
  pooled : ∀ ch, s.owner ch = .pooled p → ch < s.nextChannel → s.deleted ch = false →
    (s.pooled p).channel = ch ∧
      (s.pooledStage p = .pooled ∨ s.pooledStage p = .loose ∨ s.pooledStage p = .closed)
  /-- A pooled channel that watches its channel. -/
  watched : s.pooledStage p = .pooled ∨ s.pooledStage p = .loose →
    s.owner (s.pooled p).channel = .pooled p ∧ (s.pooled p).channel < s.nextChannel ∧
      s.deleted (s.pooled p).channel = false ∧
        ((s.channel (s.pooled p).channel).state = .ready ∨
          (s.channel (s.pooled p).channel).state = .closing)
  /-- A pooled channel whose channel has closed. -/
  closed : s.pooledStage p = .closed →
    s.owner (s.pooled p).channel = .pooled p ∧ (s.pooled p).channel < s.nextChannel ∧
      s.deleted (s.pooled p).channel = false ∧ (s.channel (s.pooled p).channel).state = .closed

/-- A connection waits for its channel: it is served, no thread is in its code, and it has
told nothing. -/
def Waits (c : ConnectionId) (ch : ChannelId) : Prop :=
  s.stage c = .serving ∧ s.activity c = .idle ∧ (s.connection c).delivered = false ∧
    (s.connection c).channel = some ch

/-- A channel and a connection agree on whether the one serves the other. -/
structure Serving (c : ConnectionId) (ch : ChannelId) : Prop where
  /-- A posted adoption. -/
  adopting : c ∈ (s.channel ch).adopts →
    (s.channel ch).adopts = [c] ∧
      ((s.channel ch).state = .ready ∨ (s.channel ch).state = .closing) ∧ s.Waits c ch ∧
        ∃ p, s.owner ch = .pooled p ∧ s.pooledStage p = .loose ∧
          s.borrower p = (s.connection c).request
  /-- A channel that is open. -/
  waits : s.owner ch = .connection c → (s.channel ch).Open → (s.channel ch).inside = none →
    s.Waits c ch
  /-- A channel's thread in a connection. -/
  inside : (s.channel ch).inside = some c ↔ (s.activity c).on = some ch
  /-- A channel on its way to the pool. -/
  parking : (s.activity c).on = some ch → (s.activity c).course = some .parking →
    (s.connection c).delivered = true ∧ s.owner ch = .connection c ∧
      (s.channel ch).state = .ready ∧ (s.connection c).channel = some ch
  /-- A connection that is left for good. -/
  leaving : (s.activity c).on = some ch → (s.activity c).course = some .leaving →
    (s.connection c).delivered = true ∧
      ((s.channel ch).state = .closed ∨ ∃ p, s.owner ch = .pooled p)
  /-- A connection that opens another channel. -/
  reopening : (s.activity c).on = some ch → (s.activity c).course = some .reopening →
    (s.connection c).delivered = false ∧ (∃ p, s.owner ch = .pooled p) ∧
      ∃ fresh, (s.connection c).channel = some fresh ∧ (s.channel fresh).state = .idle

/-- A connection fits its stage. -/
structure Standing (c : ConnectionId) : Prop where
  /-- Only a served connection is run. -/
  active : s.activity c ≠ .idle → s.stage c = .serving
  /-- A connection that is started with its own channel. -/
  opens : s.stage c = .starting →
    (s.request (s.connection c).request).phase.opens = true →
      ∃ ch, (s.connection c).channel = some ch ∧ (s.channel ch).state = .idle
  /-- A connection that is started with a borrowed channel. -/
  reuses : ∀ p, s.stage c = .starting →
    (s.request (s.connection c).request).phase.reuses = some p →
      (s.connection c).channel = some (s.pooled p).channel
  /-- A connection that has lost its borrowed channel. -/
  disowned : s.stage c = .starting →
    (s.request (s.connection c).request).phase.disowns = true → (s.connection c).channel = none
  /-- A connection that has not been served. -/
  fresh : (s.stage c).Fresh → (s.connection c).delivered = false
  /-- A connection that has been served. -/
  served : (s.stage c).Over → (s.connection c).delivered = true

/-- Channels are owned and serve their connections. -/
structure Channels : Prop where
  /-- The fields of each channel fit together. -/
  shaped : ∀ ch, s.Shaped ch
  /-- Connections own channels. -/
  holding : ∀ c ch, s.Holding c ch
  /-- Pooled channels own channels. -/
  watching : ∀ p, s.Watching p
  /-- Channels serve connections. -/
  serving : ∀ c ch, s.Serving c ch
  /-- Connections fit their stages. -/
  standing : ∀ c, s.Standing c

end HttpConnector

/-- A call that has been accepted holds its borrowed channel for an adoption, if at all. -/
theorem RequestPhase.Accepted.unused {phase : RequestPhase} {c : ConnectionId}
    (h : phase.Accepted c) : phase.unused = none := by
  cases phase <;> simp_all [RequestPhase.Accepted, RequestPhase.unused, RequestPhase.borrowed]

/-- A connection that reuses a channel has not adopted it. -/
theorem RequestPhase.unused_of_reuses {phase : RequestPhase} {p : PooledId}
    (h : phase.reuses = some p) : phase.unused = some p := by
  cases phase <;> simp_all [RequestPhase.reuses, RequestPhase.unused, RequestPhase.borrowed]

namespace HttpConnector

variable {s s' : HttpConnector}

/-! ### What the operations change -/

/-- Closing a channel changes neither its handler, nor its state, nor what it is parked for. -/
theorem close_eq (x : Channel) :
    x.close.handler = x.handler ∧ x.close.state = x.state ∧ x.close.parked = x.parked ∧
      x.close.poisoned = x.poisoned ∧ x.close.adopts = x.adopts ∧ x.close.inside = x.inside := by
  unfold Channel.close
  split <;> simp

/-- `OnChannelDetached` of a pooled channel changes nothing but that pooled channel. -/
theorem onPooledDetached_eq (s : HttpConnector) (p : PooledId) :
    ∃ x works, x.channel = (s.pooled p).channel ∧
      s.onPooledDetached p =
        { s with
          pooledStage := Function.update s.pooledStage p .detached
          pooled := Function.update s.pooled p x
          works := works } := by
  unfold HttpConnector.onPooledDetached
  split
  · exact ⟨{ s.pooled p with pending := .detached }, s.works, rfl, rfl⟩
  · refine ⟨s.pooled p, .deleteDetached p :: s.works, rfl, ?_⟩
    rw [Function.update_eq_self]
    rfl

/-- `OnChannelClosed` of a pooled channel changes nothing but the pool and that pooled
channel. -/
theorem onPooledClosed_eq (s : HttpConnector) (p : PooledId) :
    ∃ x idle n works, x.channel = (s.pooled p).channel ∧
      s.onPooledClosed p =
        { s with
          idle := idle
          idleDestroying := n
          pooledStage := Function.update s.pooledStage p .closed
          pooled := Function.update s.pooled p x
          works := works } := by
  unfold HttpConnector.onPooledClosed
  split
  · exact ⟨{ s.pooled p with pending := .closed }, s.idle.erase ((s.pooled p).key, p),
      s.idleDestroying + 1, s.works, rfl, rfl⟩
  · refine ⟨s.pooled p, s.idle.erase ((s.pooled p).key, p), s.idleDestroying + 1,
      .deleteClosed p :: s.works, rfl, ?_⟩
    rw [Function.update_eq_self]
    rfl

/-- `Release` changes nothing but the pooled channel and the posted tasks. -/
theorem release_eq (s : HttpConnector) (p : PooledId) :
    ∃ x works, x.channel = (s.pooled p).channel ∧
      s.release p = { s with pooled := Function.update s.pooled p x, works := works } := by
  unfold HttpConnector.release
  cases (s.pooled p).pending
  · exact ⟨{ s.pooled p with held := false }, s.works, rfl, rfl⟩
  · exact ⟨{ s.pooled p with held := false }, .deleteClosed p :: s.works, rfl, rfl⟩
  · exact ⟨{ s.pooled p with held := false }, .deleteDetached p :: s.works, rfl, rfl⟩

/-- `Cancel` closes the channel of a connection, if it has one. -/
theorem cancel_eq (s : HttpConnector) (c : ConnectionId) :
    ∃ channel : ChannelId → Channel,
      (∀ ch, channel ch = s.channel ch ∨ channel ch = (s.channel ch).close) ∧
        s.cancel c = { s with channel := channel } := by
  unfold HttpConnector.cancel
  cases (s.connection c).channel with
  | none => exact ⟨s.channel, fun _ => .inl rfl, rfl⟩
  | some ch =>
    refine ⟨Function.update s.channel ch (s.channel ch).close, ?_, rfl⟩
    intro ch'
    rw [Function.update_apply]
    split
    · subst ch'
      exact .inr rfl
    · exact .inl rfl

/-- `_DeliverOnce` changes the connection, its activity and the guards. -/
theorem deliverOnce_eq (s : HttpConnector) (c : ConnectionId) (ch : ChannelId) (t : Thread)
    (closeResult : BCResult) (finishes : Bool) (next : Next) :
    ∃ x a n guards, x.request = (s.connection c).request ∧ x.channel = (s.connection c).channel ∧
      x.delivered = true ∧ (a = next.activity ch ∨ ∃ o, a = .armed ch t o next) ∧
        s.deliverOnce c ch t closeResult finishes next =
          { s with
            connection := Function.update s.connection c x
            activity := Function.update s.activity c a
            callbacksInFlight := n
            guards := guards } := by
  unfold HttpConnector.deliverOnce
  split
  case isTrue hdelivered =>
    refine ⟨s.connection c, next.activity ch, s.callbacksInFlight, s.guards, rfl, rfl, hdelivered,
      .inl rfl, ?_⟩
    rw [Function.update_eq_self]
    rfl
  case isFalse =>
    split
    · exact ⟨deliver (s.connection c) closeResult finishes, next.activity ch, s.callbacksInFlight,
        s.guards, rfl, rfl, rfl, .inl rfl, rfl⟩
    · exact ⟨deliver (s.connection c) closeResult finishes,
        .armed ch t (outcome (deliver (s.connection c) closeResult finishes) closeResult) next,
        s.callbacksInFlight + 1, ⟨t, .request c⟩ :: s.guards, rfl, rfl, rfl, .inr ⟨_, rfl⟩, rfl⟩

/-! ### Frames -/

/-- Two connectors differ in nothing that concerns the ownership of channels. -/
structure Alike (s s' : HttpConnector) : Prop where
  /-- `channel_` of the connections. -/
  channel : ∀ c, (s'.connection c).channel = (s.connection c).channel
  /-- The calls that have made the connections. -/
  request : ∀ c, (s'.connection c).request = (s.connection c).request
  /-- `delivered_` of the connections. -/
  delivered : ∀ c, (s'.connection c).delivered = (s.connection c).delivered
  /-- `channel_` of the pooled channels. -/
  pooled : ∀ p, (s'.pooled p).channel = (s.pooled p).channel
  /-- The channels, up to `closes`. -/
  handler : ∀ ch, (s'.channel ch).handler = (s.channel ch).handler
  /-- `state_`. -/
  state : ∀ ch, (s'.channel ch).state = (s.channel ch).state
  /-- `parked_`. -/
  parked : ∀ ch, (s'.channel ch).parked = (s.channel ch).parked
  /-- `poisoned_`. -/
  poisoned : ∀ ch, (s'.channel ch).poisoned = (s.channel ch).poisoned
  /-- The posted adoptions. -/
  adopts : ∀ ch, (s'.channel ch).adopts = (s.channel ch).adopts
  /-- The threads of the channels. -/
  inside : ∀ ch, (s'.channel ch).inside = (s.channel ch).inside
  /-- The phases of the calls. -/
  phase : ∀ r, (s'.request r).phase = (s.request r).phase
  /-- The stages, the activities, the borrowers, the owners, the deletions and the next channel. -/
  tables : s'.stage = s.stage ∧ s'.activity = s.activity ∧ s'.pooledStage = s.pooledStage ∧
    s'.borrower = s.borrower ∧ s'.owner = s.owner ∧ s'.deleted = s.deleted ∧
      s'.nextChannel = s.nextChannel

/-- What is alike to something alike is alike. -/
theorem Alike.trans {s'' : HttpConnector} (h : s.Alike s') (h' : s'.Alike s'') : s.Alike s'' where
  channel c := (h'.channel c).trans (h.channel c)
  request c := (h'.request c).trans (h.request c)
  delivered c := (h'.delivered c).trans (h.delivered c)
  pooled p := (h'.pooled p).trans (h.pooled p)
  handler ch := (h'.handler ch).trans (h.handler ch)
  state ch := (h'.state ch).trans (h.state ch)
  parked ch := (h'.parked ch).trans (h.parked ch)
  poisoned ch := (h'.poisoned ch).trans (h.poisoned ch)
  adopts ch := (h'.adopts ch).trans (h.adopts ch)
  inside ch := (h'.inside ch).trans (h.inside ch)
  phase r := (h'.phase r).trans (h.phase r)
  tables := by
    obtain ⟨hstage, hactivity, hpooledStage, hborrower, howner, hdeleted, hnext⟩ := h.tables
    obtain ⟨hstage', hactivity', hpooledStage', hborrower', howner', hdeleted', hnext'⟩ :=
      h'.tables
    exact ⟨hstage'.trans hstage, hactivity'.trans hactivity, hpooledStage'.trans hpooledStage,
      hborrower'.trans hborrower, howner'.trans howner, hdeleted'.trans hdeleted,
      hnext'.trans hnext⟩

/-- Alike channels are open together. -/
theorem Alike.open_iff (h : s.Alike s') (ch : ChannelId) :
    (s'.channel ch).Open ↔ (s.channel ch).Open := by
  unfold Channel.Open
  rw [h.state]

/-- A connection waits for alike channels alike. -/
theorem Alike.waits_iff (h : s.Alike s') (c : ConnectionId) (ch : ChannelId) :
    s'.Waits c ch ↔ s.Waits c ch := by
  obtain ⟨hstage, hactivity, -⟩ := h.tables
  unfold Waits
  rw [hstage, hactivity, h.delivered, h.channel]

/-- Nothing else matters. -/
theorem Channels.of_alike (h : s.Channels) (ha : s.Alike s') : s'.Channels := by
  obtain ⟨hstage, hactivity, hpooledStage, hborrower, howner, hdeleted, hnext⟩ := ha.tables
  have hborrows : ∀ c ch, s'.Borrows c ch ↔ s.Borrows c ch := by
    intro c ch
    unfold Borrows
    simp only [hstage, ha.request, ha.phase, ha.pooled, ha.adopts]
  refine ⟨fun ch => ?_, fun c ch => ?_, fun p => ?_, fun c ch => ?_, fun c => ?_⟩
  · obtain ⟨h1, h2, h3, h4, h5⟩ := h.shaped ch
    constructor
    all_goals simp only [hnext, ha.state, hdeleted, ha.handler, ha.adopts, ha.inside, howner,
      ha.parked, ha.poisoned]
    all_goals assumption
  · obtain ⟨h1, h2⟩ := h.holding c ch
    constructor
    all_goals simp only [hnext, ha.channel, hdeleted, hstage, howner, hborrows]
    all_goals assumption
  · obtain ⟨h1, h2, h3⟩ := h.watching p
    constructor
    all_goals simp only [hnext, hdeleted, howner, ha.pooled, hpooledStage, ha.state]
    all_goals assumption
  · obtain ⟨h1, h2, h3, h4, h5, h6⟩ := h.serving c ch
    constructor
    all_goals simp only [ha.inside, hactivity, ha.delivered, howner, ha.state, ha.channel,
      ha.adopts, ha.request, hpooledStage, hborrower, ha.waits_iff, ha.open_iff]
    all_goals assumption
  · obtain ⟨h1, h2, h3, h4, h5, h6⟩ := h.standing c
    constructor
    all_goals simp only [hactivity, hstage, ha.delivered, ha.state, ha.channel, ha.request,
      ha.phase, ha.pooled]
    all_goals assumption

/-- A call goes on and does not lose the channel of a connection that it starts. -/
theorem Channels.setPhase (h : s.Channels) {r : RequestId} {phase : RequestPhase}
    (hkeep : ∀ c, s.stage c = .starting → (s.connection c).request = r →
      phase.unused = (s.request r).phase.unused ∧ phase.opens = (s.request r).phase.opens ∧
        (phase.reuses = none ∨ phase.reuses = (s.request r).phase.reuses) ∧
          phase.disowns = false) :
    (s.setPhase r phase).Channels := by
  refine ⟨fun ch => ?_, fun c ch => ?_, fun p => ?_, fun c ch => ?_, fun c => ?_⟩
  · obtain ⟨h1, h2, h3, h4, h5⟩ := h.shaped ch
    exact ⟨h1, h2, h3, h4, h5⟩
  · obtain ⟨h1, h2⟩ := h.holding c ch
    refine ⟨fun hc => ?_, h2⟩
    have hold := h1 hc
    have := hkeep c
    simp only [HttpConnector.setPhase, Function.update_apply, Borrows]
    grind [Borrows]
  · obtain ⟨h1, h2, h3⟩ := h.watching p
    exact ⟨h1, h2, h3⟩
  · obtain ⟨h1, h2, h3, h4, h5, h6⟩ := h.serving c ch
    exact ⟨h1, h2, h3, h4, h5, h6⟩
  · obtain ⟨h1, h2, h3, h4, h5, h6⟩ := h.standing c
    have := hkeep c
    constructor
    all_goals simp only [HttpConnector.setPhase, Function.update_apply]
    all_goals grind

/-- A call that starts no connection goes on. -/
theorem Channels.setPhase_of_none (h : s.Channels) (hcalls : s.Calls) {r : RequestId}
    {phase : RequestPhase} (hnone : (s.request r).phase.starting = none) :
    (s.setPhase r phase).Channels := by
  apply h.setPhase
  intro c hc hr
  have hstarting := hcalls.started c hc
  rw [hr, hnone] at hstarting
  cases hstarting

end HttpConnector

end Http
