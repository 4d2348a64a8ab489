import TTSignal.Http.Channels

/-!
# Handing a channel over

Every step keeps each channel with one owner: making a connection, opening its channel,
posting an adoption, taking a parked channel over or refusing it, parking a channel, and
deleting a connection or a pooled channel.
-/

namespace Http

open Tcp (BCResult)

namespace HttpConnector

variable {s s' : HttpConnector}

/-- A change of a channel that its users may notice only by its state. -/
structure Progress (x y : Channel) : Prop where
  /-- The handler stays. -/
  handler : y.handler = x.handler
  /-- It stays parked or not. -/
  parked : y.parked = x.parked
  /-- It is poisoned only while it is parked. -/
  poisoned : y.poisoned = true → x.poisoned = true ∨ x.parked = true
  /-- The posted adoptions stay. -/
  adopts : y.adopts = x.adopts
  /-- No thread enters a connection. -/
  inside : y.inside = x.inside
  /-- Its state goes on while no thread is in a connection. -/
  state : y.state = x.state ∨ x.inside = none ∧
    (x.state = .opening ∧ y.state = .ready ∨
      (x.state = .opening ∨ x.state = .ready) ∧ y.state = .closing)

/-- A channel becomes ready, is poisoned or starts to close. -/
theorem Channels.progress (h : s.Channels) {ch : ChannelId} {x : Channel}
    (hx : Progress (s.channel ch) x) : (s.setChannel ch x).Channels := by
  obtain ⟨hhandler, hparked, hpoisoned, hadopts, hinside, hstate⟩ := hx
  have hshaped := h.shaped ch
  refine ⟨fun ch' => ?_, fun c ch' => ?_, fun p => ?_, fun c ch' => ?_, fun c => ?_⟩
  · obtain ⟨h1, h2, h3, h4, h5⟩ := h.shaped ch'
    constructor
    all_goals simp only [setChannel, Function.update_apply]
    all_goals grind
  · obtain ⟨h1, h2⟩ := h.holding c ch'
    constructor
    all_goals simp only [setChannel, Function.update_apply, Borrows]
    all_goals grind [Borrows]
  · obtain ⟨h1, h2, h3⟩ := h.watching p
    constructor
    all_goals simp only [setChannel, Function.update_apply]
    all_goals grind
  · obtain ⟨h1, h2, h3, h4, h5, h6⟩ := h.serving c ch'
    have hidle := hshaped.idle
    constructor
    all_goals simp only [setChannel, Function.update_apply, Waits, Channel.Open]
    all_goals grind [Waits, Channel.Open]
  · obtain ⟨h1, h2, h3, h4, h5, h6⟩ := h.standing c
    constructor
    all_goals simp only [setChannel, Function.update_apply]
    all_goals grind

/-- `Request` is called. -/
theorem Channels.call (h : s.Channels) (hcalls : s.Calls) (key : String) :
    Channels
      { s with
        request := Function.update s.request s.nextRequest ⟨key, .take⟩
        nextRequest := s.nextRequest + 1 } := by
  have hborn : ∀ c, s.stage c = .starting → (s.connection c).request ≠ s.nextRequest := by
    intro c hc hr
    have hstarting := hcalls.started c hc
    rw [hr, hcalls.unborn _ le_rfl] at hstarting
    cases hstarting
  refine ⟨fun ch => ?_, fun c ch => ?_, fun p => ?_, fun c ch => ?_, fun c => ?_⟩
  · obtain ⟨h1, h2, h3, h4, h5⟩ := h.shaped ch
    exact ⟨h1, h2, h3, h4, h5⟩
  · obtain ⟨h1, h2⟩ := h.holding c ch
    refine ⟨fun hc => ?_, h2⟩
    have hold := h1 hc
    simp only [Function.update_apply, Borrows]
    grind [Borrows]
  · obtain ⟨h1, h2, h3⟩ := h.watching p
    exact ⟨h1, h2, h3⟩
  · obtain ⟨h1, h2, h3, h4, h5, h6⟩ := h.serving c ch
    exact ⟨h1, h2, h3, h4, h5, h6⟩
  · obtain ⟨h1, h2, h3, h4, h5, h6⟩ := h.standing c
    have := hborn c
    constructor
    all_goals simp only [Function.update_apply]
    all_goals grind

/-- No thread is in the code of a connection that has not been made. -/
theorem Channels.idle_of_unborn (h : s.Channels) {c : ConnectionId} (hc : s.stage c = .unborn) :
    s.activity c = .idle := by
  by_contra hne
  rw [(h.standing c).active hne] at hc
  cases hc

/-- A channel that has not been made runs nothing. -/
theorem Channels.on_ne_nextChannel (h : s.Channels) (c : ConnectionId) :
    (s.activity c).on ≠ some s.nextChannel := by
  intro hon
  have hshaped := h.shaped s.nextChannel
  have hinside := (h.serving c s.nextChannel).inside.mpr hon
  rw [(hshaped.idle (hshaped.unborn le_rfl).1).2.2] at hinside
  cases hinside

/-- A connection that has not been made has no channel. -/
theorem Channels.channel_of_unborn (h : s.Channels) {c : ConnectionId} (hc : s.stage c = .unborn)
    (ch : ChannelId) : (s.connection c).channel ≠ some ch := by
  intro hch
  have hholds := ((h.holding c ch).channel hch).2.2.1
  simp [hc, ConnectionStage.Holds] at hholds

/-- A call that starts no connection has made none that is being started. -/
theorem Calls.request_ne (h : s.Calls) {r : RequestId}
    (hnone : (s.request r).phase.starting = none) {c : ConnectionId} (hc : s.stage c = .starting) :
    (s.connection c).request ≠ r := by
  intro hr
  have hstarting := h.started c hc
  rw [hr, hnone] at hstarting
  cases hstarting

/-- A call makes a connection with a channel of its own. -/
theorem Channels.newFreshConnection (h : s.Channels) (hconnections : s.Connections)
    (hcalls : s.Calls) {r : RequestId} (hnone : (s.request r).phase.starting = none) :
    ((s.newFreshConnection r).setPhase r (.start s.nextConnection none)).Channels := by
  have hunborn := (hconnections s.nextConnection).unborn le_rfl
  have hidle := h.idle_of_unborn hunborn
  have hnew := (h.shaped s.nextChannel).unborn le_rfl
  have hempty := (h.shaped s.nextChannel).idle hnew.1
  refine ⟨fun ch => ?_, fun c ch => ?_, fun p => ?_, fun c ch => ?_, fun c => ?_⟩
  · obtain ⟨h1, h2, h3, h4, h5⟩ := h.shaped ch
    constructor
    all_goals simp only [HttpConnector.newFreshConnection, HttpConnector.newConnection, newChannel,
      HttpConnector.setPhase, Function.update_apply]
    all_goals grind
  · obtain ⟨h1, h2⟩ := h.holding c ch
    have hold := (h.holding s.nextConnection ch).connection
    have hnot := h.channel_of_unborn hunborn ch
    have hrequest := fun hc => hcalls.request_ne hnone (c := c) hc
    constructor
    all_goals simp only [HttpConnector.newFreshConnection, HttpConnector.newConnection, newChannel,
      HttpConnector.setPhase, Function.update_apply, Borrows]
    all_goals grind [Borrows, ConnectionStage.Holds]
  · obtain ⟨h1, h2, h3⟩ := h.watching p
    constructor
    all_goals simp only [HttpConnector.newFreshConnection, HttpConnector.newConnection, newChannel,
      HttpConnector.setPhase, Function.update_apply]
    all_goals grind
  · obtain ⟨h1, h2, h3, h4, h5, h6⟩ := h.serving c ch
    have hold := (h.serving s.nextConnection ch).waits
    constructor
    all_goals simp only [HttpConnector.newFreshConnection, HttpConnector.newConnection, newChannel,
      HttpConnector.setPhase, Function.update_apply, Waits, Channel.Open]
    all_goals grind [Waits, Channel.Open, Activity.on]
  · obtain ⟨h1, h2, h3, h4, h5, h6⟩ := h.standing c
    have hrequest := fun hc => hcalls.request_ne hnone (c := c) hc
    constructor
    all_goals simp only [HttpConnector.newFreshConnection, HttpConnector.newConnection, newChannel,
      HttpConnector.setPhase, Function.update_apply]
    all_goals
      grind [ConnectionStage.Fresh, ConnectionStage.Over, RequestPhase.reuses,
        RequestPhase.disowns]

/-- A call makes a connection with a borrowed channel. -/
theorem Channels.newReusedConnection (h : s.Channels) (hconnections : s.Connections)
    (hcalls : s.Calls) (hpool : s.Pool) {r : RequestId} {p : PooledId}
    (hphase : (s.request r).phase = .insert (some p)) :
    ((s.newConnection r (s.pooled p).channel).setPhase r
      (.start s.nextConnection (some p))).Channels := by
  have hnone : (s.request r).phase.starting = none := by rw [hphase]; rfl
  have hunused := hpool.unused r p (by rw [hphase]; rfl)
  have hunborn := (hconnections s.nextConnection).unborn le_rfl
  have hidle := h.idle_of_unborn hunborn
  have hwatched := (h.watching p).watched
  have hclosed := (h.watching p).closed
  refine ⟨fun ch => ?_, fun c ch => ?_, fun q => ?_, fun c ch => ?_, fun c => ?_⟩
  · obtain ⟨h1, h2, h3, h4, h5⟩ := h.shaped ch
    exact ⟨h1, h2, h3, h4, h5⟩
  · obtain ⟨h1, h2⟩ := h.holding c ch
    have hold := (h.holding s.nextConnection ch).connection
    have hnot := h.channel_of_unborn hunborn ch
    have hrequest := fun hc => hcalls.request_ne hnone (c := c) hc
    constructor
    all_goals simp only [HttpConnector.newConnection, HttpConnector.setPhase, Function.update_apply,
      Borrows]
    all_goals grind [Borrows, ConnectionStage.Holds, RequestPhase.unused, RequestPhase.borrowed]
  · obtain ⟨h1, h2, h3⟩ := h.watching q
    exact ⟨h1, h2, h3⟩
  · obtain ⟨h1, h2, h3, h4, h5, h6⟩ := h.serving c ch
    have hold := (h.serving s.nextConnection ch).waits
    constructor
    all_goals simp only [HttpConnector.newConnection, HttpConnector.setPhase, Function.update_apply,
      Waits]
    all_goals grind [Waits, Activity.on]
  · obtain ⟨h1, h2, h3, h4, h5, h6⟩ := h.standing c
    have hrequest := fun hc => hcalls.request_ne hnone (c := c) hc
    constructor
    all_goals simp only [HttpConnector.newConnection, HttpConnector.setPhase, Function.update_apply]
    all_goals grind [ConnectionStage.Fresh, ConnectionStage.Over, RequestPhase.reuses,
      RequestPhase.opens, RequestPhase.disowns]

/-- A channel that has not been opened belongs to the connection that has it. -/
theorem Channels.owner_of_idle (h : s.Channels) (hpool : s.Pool) {c : ConnectionId}
    {ch : ChannelId} (hch : (s.connection c).channel = some ch)
    (hstate : (s.channel ch).state = .idle) : s.owner ch = .connection c := by
  obtain ⟨-, -, -, howner | ⟨-, p, hp, hpch⟩ | hadopts⟩ := (h.holding c ch).channel hch
  · exact howner
  · exfalso
    have hwatched := (h.watching p).watched
    have hclosed := (h.watching p).closed
    have hunused := hpool.unused _ p hp
    grind
  · rw [((h.shaped ch).idle hstate).2.1] at hadopts
    cases hadopts

/-- A connection has opened its own channel. -/
theorem Channels.startFresh (h : s.Channels) (hcalls : s.Calls) (hpool : s.Pool) {r : RequestId}
    {c : ConnectionId} {ch : ChannelId} (hphase : (s.request r).phase = .start c none)
    (hch : (s.connection c).channel = some ch) :
    (((s.opened ch c).setStage c .serving).setPhase r (.check c)).Channels := by
  have hstarting : (s.request r).phase.starting = some c := by rw [hphase]; rfl
  obtain ⟨hstage, hrequest⟩ := hcalls.starting r c hstarting
  have hstanding := h.standing c
  obtain ⟨ch', hch', hstate⟩ := hstanding.opens hstage (by rw [hrequest, hphase]; rfl)
  cases hch.symm.trans hch'
  have hheld := (h.holding c ch).channel hch
  have hshaped := (h.shaped ch).idle hstate
  have howner := h.owner_of_idle hpool hch hstate
  have hunique : ∀ d, (s.connection d).channel = some ch → d = c := by
    intro d hd
    have hother := h.owner_of_idle hpool hd hstate
    rw [howner, ChannelHandler.connection.injEq] at hother
    exact hother.symm
  have hactivity : s.activity c = .idle := by
    by_contra hne
    rw [hstanding.active hne] at hstage
    cases hstage
  refine ⟨fun ch' => ?_, fun d ch' => ?_, fun p => ?_, fun d ch' => ?_, fun d => ?_⟩
  · obtain ⟨h1, h2, h3, h4, h5⟩ := h.shaped ch'
    constructor
    all_goals simp only [opened, setChannel, setStage, HttpConnector.setPhase,
      Function.update_apply]
    all_goals grind
  · obtain ⟨h1, h2⟩ := h.holding d ch'
    have hone := hcalls.started d
    constructor
    all_goals simp only [opened, setChannel, setStage, HttpConnector.setPhase,
      Function.update_apply, Borrows]
    all_goals grind [Borrows, ConnectionStage.Holds]
  · obtain ⟨h1, h2, h3⟩ := h.watching p
    constructor
    all_goals simp only [opened, setChannel, setStage, HttpConnector.setPhase,
      Function.update_apply]
    all_goals grind
  · obtain ⟨h1, h2, h3, h4, h5, h6⟩ := h.serving d ch'
    have hfresh := hstanding.fresh
    constructor
    all_goals simp only [opened, setChannel, setStage, HttpConnector.setPhase,
      Function.update_apply, Waits, Channel.Open]
    all_goals grind [Waits, Channel.Open, Activity.on, ConnectionStage.Fresh]
  · obtain ⟨h1, h2, h3, h4, h5, h6⟩ := h.standing d
    have hone := hcalls.started d
    constructor
    all_goals simp only [opened, setChannel, setStage, HttpConnector.setPhase,
      Function.update_apply]
    all_goals grind [ConnectionStage.Fresh, ConnectionStage.Over]

/-- The adoption of a borrowed channel is posted. -/
theorem Channels.acquire (h : s.Channels) (hcalls : s.Calls) (hpool : s.Pool) {r : RequestId}
    {c : ConnectionId} {p : PooledId} {ch : ChannelId}
    (hphase : (s.request r).phase = .acquire c p) (hch : (s.connection c).channel = some ch)
    (hstate : (s.channel ch).state ≠ .closed) :
    (((s.setChannel ch { s.channel ch with adopts := (s.channel ch).adopts ++ [c] }).setStage c
      .serving).setPhase r (.release c p)).Channels := by
  have hstarting : (s.request r).phase.starting = some c := by rw [hphase]; rfl
  obtain ⟨hstage, hrequest⟩ := hcalls.starting r c hstarting
  have hstanding := h.standing c
  have hreuses := hstanding.reuses p hstage (by rw [hrequest, hphase]; rfl)
  obtain rfl : ch = (s.pooled p).channel := Option.some.inj (hch.symm.trans hreuses)
  have hunused : (s.request r).phase.unused = some p := by rw [hphase]; rfl
  have hborrower := (hpool.borrowed r p (RequestPhase.borrowed_of_unused hunused)).2
  have hloose : s.pooledStage p = .loose := by
    rcases hpool.unused r p hunused with hp | hp
    · exact hp
    · exact absurd ((h.watching p).closed hp).2.2.2 hstate
  have hwatched := (h.watching p).watched (.inr hloose)
  have hempty : (s.channel (s.pooled p).channel).adopts = [] := by
    by_contra hne
    obtain ⟨d, hd⟩ := List.exists_mem_of_ne_nil _ hne
    obtain ⟨-, -, ⟨hserving, -⟩, q, hq, -, hb⟩ := (h.serving d _).adopting hd
    have haccepted := (hcalls.accepted d (.inl hserving)).unused
    grind
  have hactivity : s.activity c = .idle := by
    by_contra hne
    rw [hstanding.active hne] at hstage
    cases hstage
  refine ⟨fun ch' => ?_, fun d ch' => ?_, fun q => ?_, fun d ch' => ?_, fun d => ?_⟩
  · obtain ⟨h1, h2, h3, h4, h5⟩ := h.shaped ch'
    constructor
    all_goals simp only [setChannel, setStage, HttpConnector.setPhase, Function.update_apply]
    all_goals grind
  · obtain ⟨h1, h2⟩ := h.holding d ch'
    have hone := hcalls.started d
    constructor
    all_goals simp only [setChannel, setStage, HttpConnector.setPhase, Function.update_apply,
      Borrows]
    all_goals grind [Borrows, ConnectionStage.Holds]
  · obtain ⟨h1, h2, h3⟩ := h.watching q
    constructor
    all_goals simp only [setChannel, setStage, HttpConnector.setPhase, Function.update_apply]
    all_goals grind
  · obtain ⟨h1, h2, h3, h4, h5, h6⟩ := h.serving d ch'
    have hfresh := hstanding.fresh
    constructor
    all_goals simp only [setChannel, setStage, HttpConnector.setPhase, Function.update_apply, Waits,
      Channel.Open]
    all_goals grind [Waits, Channel.Open, Activity.on, ConnectionStage.Fresh]
  · obtain ⟨h1, h2, h3, h4, h5, h6⟩ := h.standing d
    have hone := hcalls.started d
    constructor
    all_goals simp only [setChannel, setStage, HttpConnector.setPhase, Function.update_apply]
    all_goals grind [ConnectionStage.Fresh, ConnectionStage.Over]

/-- An adoption has failed at once: the connection gives the borrowed channel back. -/
theorem Channels.disown (h : s.Channels) (hcalls : s.Calls) (hpool : s.Pool) {r : RequestId}
    {c : ConnectionId} {p : PooledId} (hstarting : (s.request r).phase.starting = some c)
    (hreuses : (s.request r).phase.reuses = some p)
    (hunused : (s.request r).phase.unused = some p) : (s.disown r c p).Channels := by
  obtain ⟨hstage, hrequest⟩ := hcalls.starting r c hstarting
  have hstanding := h.standing c
  have hch := hstanding.reuses p hstage (by rw [hrequest, hreuses])
  have hwatched := (h.watching p).watched
  have hclosed := (h.watching p).closed
  have hstages := hpool.unused r p hunused
  have hactivity : s.activity c = .idle := by
    by_contra hne
    rw [hstanding.active hne] at hstage
    cases hstage
  refine ⟨fun ch' => ?_, fun d ch' => ?_, fun q => ?_, fun d ch' => ?_, fun d => ?_⟩
  · obtain ⟨h1, h2, h3, h4, h5⟩ := h.shaped ch'
    exact ⟨h1, h2, h3, h4, h5⟩
  · obtain ⟨h1, h2⟩ := h.holding d ch'
    have hone := hcalls.started d
    constructor
    all_goals simp only [HttpConnector.disown, setConnection, HttpConnector.setPhase,
      Function.update_apply, Borrows]
    all_goals grind [Borrows]
  · obtain ⟨h1, h2, h3⟩ := h.watching q
    exact ⟨h1, h2, h3⟩
  · obtain ⟨h1, h2, h3, h4, h5, h6⟩ := h.serving d ch'
    constructor
    all_goals simp only [HttpConnector.disown, setConnection, HttpConnector.setPhase,
      Function.update_apply, Waits]
    all_goals grind [Waits, Activity.on]
  · obtain ⟨h1, h2, h3, h4, h5, h6⟩ := h.standing d
    have hone := hcalls.started d
    constructor
    all_goals simp only [HttpConnector.disown, setConnection, HttpConnector.setPhase,
      Function.update_apply]
    all_goals grind [ConnectionStage.Fresh, ConnectionStage.Over, RequestPhase.opens,
      RequestPhase.reuses, RequestPhase.disowns]

/-- A call gives up its connection. -/
theorem Channels.drop (h : s.Channels) (hcalls : s.Calls) {r : RequestId} {c : ConnectionId}
    {k : After} (hphase : (s.request r).phase = .detach c k) :
    ((s.setStage c .dropped).setPhase r (.dropping c k)).Channels := by
  have hstarting : (s.request r).phase.starting = some c := by rw [hphase]; rfl
  obtain ⟨hstage, hrequest⟩ := hcalls.starting r c hstarting
  have hstanding := h.standing c
  have hactivity : s.activity c = .idle := by
    by_contra hne
    rw [hstanding.active hne] at hstage
    cases hstage
  have howner : ∀ ch, (s.connection c).channel = some ch → s.owner ch = .connection c := by
    intro ch hch
    cases k with
    | retry p => rw [hstanding.disowned hstage (by rw [hrequest, hphase]; rfl)] at hch; cases hch
    | giveUp result =>
      obtain ⟨ch', hch', hstate⟩ := hstanding.opens hstage (by rw [hrequest, hphase]; rfl)
      cases hch.symm.trans hch'
      obtain ⟨-, -, -, howner | ⟨-, p, hp, -⟩ | hadopts⟩ := (h.holding c ch).channel hch
      · exact howner
      · rw [hrequest, hphase] at hp
        cases hp
      · rw [((h.shaped ch).idle hstate).2.1] at hadopts
        cases hadopts
  refine ⟨fun ch' => ?_, fun d ch' => ?_, fun q => ?_, fun d ch' => ?_, fun d => ?_⟩
  · obtain ⟨h1, h2, h3, h4, h5⟩ := h.shaped ch'
    exact ⟨h1, h2, h3, h4, h5⟩
  · obtain ⟨h1, h2⟩ := h.holding d ch'
    have hone := hcalls.started d
    constructor
    all_goals simp only [setStage, HttpConnector.setPhase, Function.update_apply, Borrows]
    all_goals grind [Borrows, ConnectionStage.Holds]
  · obtain ⟨h1, h2, h3⟩ := h.watching q
    exact ⟨h1, h2, h3⟩
  · obtain ⟨h1, h2, h3, h4, h5, h6⟩ := h.serving d ch'
    constructor
    all_goals simp only [setStage, HttpConnector.setPhase, Function.update_apply, Waits]
    all_goals grind [Waits, Activity.on]
  · obtain ⟨h1, h2, h3, h4, h5, h6⟩ := h.standing d
    have hone := hcalls.started d
    constructor
    all_goals simp only [setStage, HttpConnector.setPhase, Function.update_apply]
    all_goals grind [ConnectionStage.Fresh, ConnectionStage.Over]

/-- A posted adoption that nothing else has been posted with. -/
theorem Channels.adopting (h : s.Channels) {ch : ChannelId} {c : ConnectionId}
    {rest : List ConnectionId} (hadopts : (s.channel ch).adopts = c :: rest) :
    rest = [] ∧ s.Waits c ch ∧ ∃ p, s.owner ch = .pooled p ∧ s.pooledStage p = .loose ∧
      s.borrower p = (s.connection c).request := by
  obtain ⟨hone, -, hwaits, hp⟩ := (h.serving c ch).adopting (by simp [hadopts])
  rw [hadopts, List.cons.injEq] at hone
  exact ⟨hone.2, hwaits, hp⟩

/-- No call of `Request` holds a channel for a connection of its own while its adoption for an
accepted one is posted. -/
theorem Calls.unused_ne (h : s.Calls) (hpool : s.Pool) {c : ConnectionId} {p : PooledId}
    (hc : s.stage c = .serving) (hp : s.borrower p = (s.connection c).request) (r : RequestId) :
    (s.request r).phase.unused ≠ some p := by
  intro hr
  have hborrower := (hpool.borrowed r p (RequestPhase.borrowed_of_unused hr)).2
  have haccepted := (h.accepted c (.inl hc)).unused
  rw [← hp, hborrower, hr] at haccepted
  cases haccepted

/-- A connection takes a parked channel over. -/
theorem Channels.takeOver (h : s.Channels) (hcalls : s.Calls) (hpool : s.Pool) {ch : ChannelId}
    {c : ConnectionId} {p : PooledId} (hadopts : (s.channel ch).adopts = [c])
    (hinside : (s.channel ch).inside = none) (howner : s.owner ch = .pooled p)
    (hparked : (s.channel ch).ParkedAndUsable) :
    ((s.adopted ch c []).onPooledDetached p).Channels := by
  obtain ⟨-, hwaits, q, hq, hloose, hborrower⟩ := h.adopting hadopts
  cases howner.symm.trans hq
  obtain ⟨hstage, hactivity, hdelivered, hch⟩ := id hwaits
  obtain ⟨hpark, hpoisoned, hstate⟩ := hparked
  have hwatched := (h.watching p).watched (.inr hloose)
  have hpch := ((h.watching p).pooled ch howner ((h.holding c ch).channel hch).1
    ((h.holding c ch).channel hch).2.1).1
  have hunused := fun r => hcalls.unused_ne hpool hstage hborrower r
  obtain ⟨x, works, hx, heq⟩ := (s.adopted ch c []).onPooledDetached_eq p
  rw [heq]
  have hxch : x.channel = (s.pooled p).channel := hx
  refine ⟨fun ch' => ?_, fun d ch' => ?_, fun q => ?_, fun d ch' => ?_, fun d => ?_⟩
  · obtain ⟨h1, h2, h3, h4, h5⟩ := h.shaped ch'
    constructor
    all_goals simp only [HttpConnector.adopted, setChannel, setOwner, note, Function.update_apply]
    all_goals grind
  · obtain ⟨h1, h2⟩ := h.holding d ch'
    have hother := fun q => hpool.unused (s.connection d).request q
    have hall := fun q => (h.watching q).watched
    have hallc := fun q => (h.watching q).closed
    constructor
    all_goals simp only [HttpConnector.adopted, setChannel, setOwner, note, Function.update_apply,
      Borrows]
    all_goals grind [Borrows]
  · obtain ⟨h1, h2, h3⟩ := h.watching q
    constructor
    all_goals simp only [HttpConnector.adopted, setChannel, setOwner, note, Function.update_apply]
    all_goals grind
  · obtain ⟨h1, h2, h3, h4, h5, h6⟩ := h.serving d ch'
    have hsame := (h.watching p).pooled ch'
    have hheld := (h.holding d ch').channel
    constructor
    all_goals simp only [HttpConnector.adopted, setChannel, setOwner, note, Function.update_apply,
      Waits, Channel.Open]
    all_goals grind [Waits, Channel.Open]
  · obtain ⟨h1, h2, h3, h4, h5, h6⟩ := h.standing d
    constructor
    all_goals simp only [HttpConnector.adopted, setChannel, setOwner, note, Function.update_apply]
    all_goals grind

/-- A connection is refused its parked channel and makes another one. -/
theorem Channels.refuse (h : s.Channels) {ch : ChannelId} {c : ConnectionId}
    (hadopts : (s.channel ch).adopts = [c]) (hinside : (s.channel ch).inside = none) :
    ((s.setChannel ch { s.channel ch with adopts := [], closes := true }).onChannelAdoptFailed c
      ch).Channels := by
  obtain ⟨-, hwaits, p, howner, hloose, hborrower⟩ := h.adopting hadopts
  obtain ⟨hstage, hactivity, hdelivered, hch⟩ := id hwaits
  have hheld := (h.holding c ch).channel hch
  have hnew := (h.shaped s.nextChannel).unborn le_rfl
  have hempty := (h.shaped s.nextChannel).idle hnew.1
  refine ⟨fun ch' => ?_, fun d ch' => ?_, fun q => ?_, fun d ch' => ?_, fun d => ?_⟩
  · obtain ⟨h1, h2, h3, h4, h5⟩ := h.shaped ch'
    constructor
    all_goals simp only [onChannelAdoptFailed, newChannel, setChannel, setConnection, setActivity,
      setInside, Function.update_apply]
    all_goals grind
  · obtain ⟨h1, h2⟩ := h.holding d ch'
    constructor
    all_goals simp only [onChannelAdoptFailed, newChannel, setChannel, setConnection, setActivity,
      setInside, Function.update_apply, Borrows]
    all_goals grind [Borrows, ConnectionStage.Holds]
  · obtain ⟨h1, h2, h3⟩ := h.watching q
    constructor
    all_goals simp only [onChannelAdoptFailed, newChannel, setChannel, setConnection, setActivity,
      setInside, Function.update_apply]
    all_goals grind
  · obtain ⟨h1, h2, h3, h4, h5, h6⟩ := h.serving d ch'
    have hother := (h.holding d ch').connection
    have hon := h.on_ne_nextChannel d
    constructor
    all_goals simp only [onChannelAdoptFailed, newChannel, setChannel, setConnection, setActivity,
      setInside, Function.update_apply, Waits, Channel.Open]
    all_goals grind [Waits, Channel.Open, Activity.on, Activity.course]
  · obtain ⟨h1, h2, h3, h4, h5, h6⟩ := h.standing d
    constructor
    all_goals simp only [onChannelAdoptFailed, newChannel, setChannel, setConnection, setActivity,
      setInside, Function.update_apply]
    all_goals grind [ConnectionStage.Fresh, ConnectionStage.Over]

/-- A connection that was refused its parked channel has opened the other one. -/
theorem Channels.reopen (h : s.Channels) (hpool : s.Pool) {c : ConnectionId} {ch fresh : ChannelId}
    {closing : Bool} (hactivity : s.activity c = .openFresh ch closing)
    (hch : (s.connection c).channel = some fresh) :
    (((s.opened fresh c).setActivity c .idle).setInside ch none).Channels := by
  have hon : (s.activity c).on = some ch := by rw [hactivity]; rfl
  have hcourse : (s.activity c).course = some .reopening := by rw [hactivity]; rfl
  have hserving := h.serving c ch
  obtain ⟨hdelivered, ⟨p, howner⟩, fresh', hfresh, hstate⟩ := hserving.reopening hon hcourse
  cases hch.symm.trans hfresh
  have hinside := hserving.inside.mpr hon
  have hstage := (h.standing c).active (by simp [hactivity])
  have hown := h.owner_of_idle hpool hch hstate
  have hlt := ((h.holding c fresh).channel hch).1
  have hne : ch ≠ fresh := by
    rintro rfl
    rw [howner] at hown
    cases hown
  have hempty := (h.shaped fresh).idle hstate
  have hunique : ∀ d, (s.connection d).channel = some fresh → d = c := by
    intro d hd
    have hother := h.owner_of_idle hpool hd hstate
    rw [hown, ChannelHandler.connection.injEq] at hother
    exact hother.symm
  refine ⟨fun ch' => ?_, fun d ch' => ?_, fun q => ?_, fun d ch' => ?_, fun d => ?_⟩
  · obtain ⟨h1, h2, h3, h4, h5⟩ := h.shaped ch'
    constructor
    all_goals simp only [opened, setChannel, setActivity, setInside, Function.update_apply,
      if_neg hne]
    all_goals grind
  · obtain ⟨h1, h2⟩ := h.holding d ch'
    constructor
    all_goals simp only [opened, setChannel, setActivity, setInside, Function.update_apply,
      if_neg hne, Borrows]
    all_goals grind [Borrows]
  · obtain ⟨h1, h2, h3⟩ := h.watching q
    constructor
    all_goals simp only [opened, setChannel, setActivity, setInside, Function.update_apply,
      if_neg hne]
    all_goals grind
  · obtain ⟨h1, h2, h3, h4, h5, h6⟩ := h.serving d ch'
    have hshaped := (h.shaped ch').idle
    constructor
    all_goals simp only [opened, setChannel, setActivity, setInside, Function.update_apply,
      if_neg hne, Waits, Channel.Open]
    case reopening =>
      intro hd hcourse'
      by_cases hdc : d = c
      · simp [hdc, Activity.on] at hd
      · rw [if_neg hdc] at hd hcourse'
        obtain ⟨hdel, hparked, other, hother, hidle⟩ := h6 hd hcourse'
        have hfar : other ≠ fresh := by
          rintro rfl
          exact hdc (hunique d hother)
        exact ⟨hdel, hparked, other, hother, by grind⟩
    all_goals grind [Waits, Channel.Open, Activity.on]
  · obtain ⟨h1, h2, h3, h4, h5, h6⟩ := h.standing d
    constructor
    all_goals simp only [opened, setChannel, setActivity, setInside, Function.update_apply,
      if_neg hne]
    all_goals grind

/-- A connection with a complete response delivers it on the way to the pool. -/
theorem Channels.deliverParking (h : s.Channels) {c : ConnectionId} {ch : ChannelId}
    (howner : s.owner ch = .connection c) (hstate : (s.channel ch).state = .ready)
    (hinside : (s.channel ch).inside = none) (t : Thread) (result : BCResult) (finishes : Bool) :
    ((s.setInside ch (some c)).deliverOnce c ch t result finishes .park).Channels := by
  obtain ⟨hstage, hactivity, hdelivered, hch⟩ := (h.serving c ch).waits howner (.inr (.inl hstate))
    hinside
  obtain ⟨x, a, n, guards, hrequest, hxch, hxdelivered, ha, heq⟩ :=
    (s.setInside ch (some c)).deliverOnce_eq c ch t result finishes .park
  replace hrequest : x.request = (s.connection c).request := hrequest
  replace hxch : x.channel = (s.connection c).channel := hxch
  have haon : a.on = some ch ∧ a.course = some .parking ∧ a ≠ .idle := by
    rcases ha with rfl | ⟨o, rfl⟩ <;>
      simp [Next.activity, Activity.on, Activity.course, Next.course]
  rw [heq]
  refine ⟨fun ch' => ?_, fun d ch' => ?_, fun q => ?_, fun d ch' => ?_, fun d => ?_⟩
  · obtain ⟨h1, h2, h3, h4, h5⟩ := h.shaped ch'
    constructor
    all_goals simp only [setInside, setChannel, Function.update_apply]
    all_goals grind
  · obtain ⟨h1, h2⟩ := h.holding d ch'
    constructor
    all_goals simp only [setInside, setChannel, Function.update_apply, Borrows]
    all_goals grind [Borrows]
  · obtain ⟨h1, h2, h3⟩ := h.watching q
    constructor
    all_goals simp only [setInside, setChannel, Function.update_apply]
    all_goals grind
  · obtain ⟨h1, h2, h3, h4, h5, h6⟩ := h.serving d ch'
    have hother := (h.holding d ch').connection
    constructor
    all_goals simp only [setInside, setChannel, Function.update_apply, Waits, Channel.Open]
    all_goals grind [Waits, Channel.Open, Activity.on]
  · obtain ⟨h1, h2, h3, h4, h5, h6⟩ := h.standing d
    constructor
    all_goals simp only [setInside, setChannel, Function.update_apply]
    all_goals grind [ConnectionStage.Fresh, ConnectionStage.Over]

/-- A connection whose channel has closed delivers its outcome on the way out. -/
theorem Channels.deliverClosed (h : s.Channels) {c : ConnectionId} {ch : ChannelId}
    (howner : s.owner ch = .connection c) (hstate : (s.channel ch).state = .closing)
    (hinside : (s.channel ch).inside = none) (t : Thread) (result : BCResult) (finishes : Bool) :
    ((s.setChannel ch { s.channel ch with state := .closed }).onConnectionClosed c ch t result
      finishes).Channels := by
  obtain ⟨hstage, hactivity, hdelivered, hch⟩ := (h.serving c ch).waits howner (.inr (.inr hstate))
    hinside
  obtain ⟨x, a, n, guards, hrequest, hxch, hxdelivered, ha, heq⟩ :=
    ((s.setChannel ch { s.channel ch with state := .closed }).setInside ch (some c)).deliverOnce_eq
      c ch t result finishes .detach
  replace hrequest : x.request = (s.connection c).request := hrequest
  replace hxch : x.channel = (s.connection c).channel := hxch
  have haon : a.on = some ch ∧ a.course = some .leaving ∧ a ≠ .idle := by
    rcases ha with rfl | ⟨o, rfl⟩ <;>
      simp [Next.activity, Activity.on, Activity.course, Next.course]
  rw [onConnectionClosed, heq]
  refine ⟨fun ch' => ?_, fun d ch' => ?_, fun q => ?_, fun d ch' => ?_, fun d => ?_⟩
  · obtain ⟨h1, h2, h3, h4, h5⟩ := h.shaped ch'
    constructor
    all_goals simp only [setInside, setChannel, Function.update_apply]
    all_goals grind
  · obtain ⟨h1, h2⟩ := h.holding d ch'
    constructor
    all_goals simp only [setInside, setChannel, Function.update_apply, Borrows]
    all_goals grind [Borrows]
  · obtain ⟨h1, h2, h3⟩ := h.watching q
    constructor
    all_goals simp only [setInside, setChannel, Function.update_apply]
    all_goals grind
  · obtain ⟨h1, h2, h3, h4, h5, h6⟩ := h.serving d ch'
    have hother := (h.holding d ch').connection
    constructor
    all_goals simp only [setInside, setChannel, Function.update_apply, Waits, Channel.Open]
    all_goals grind [Waits, Channel.Open, Activity.on]
  · obtain ⟨h1, h2, h3, h4, h5, h6⟩ := h.standing d
    constructor
    all_goals simp only [setInside, setChannel, Function.update_apply]
    all_goals grind [ConnectionStage.Fresh, ConnectionStage.Over]

/-- A connection that cannot open another channel delivers its outcome on the way out. -/
theorem Channels.deliverRefused (h : s.Channels) {c : ConnectionId} {ch : ChannelId}
    {closing : Bool} (hactivity : s.activity c = .openFresh ch closing) (t : Thread)
    (result : BCResult) :
    ((s.setFailResult c result).deliverOnce c ch t result false .detach).Channels := by
  have hon : (s.activity c).on = some ch := by rw [hactivity]; rfl
  have hcourse : (s.activity c).course = some .reopening := by rw [hactivity]; rfl
  obtain ⟨hdelivered, ⟨p, howner⟩, fresh, hfresh, hstate⟩ := (h.serving c ch).reopening hon hcourse
  have hstage := (h.standing c).active (by simp [hactivity])
  obtain ⟨x, a, n, guards, hrequest, hxch, hxdelivered, ha, heq⟩ :=
    (s.setFailResult c result).deliverOnce_eq c ch t result false .detach
  replace hrequest : x.request = (s.connection c).request := by
    simpa [setFailResult, setConnection] using hrequest
  replace hxch : x.channel = (s.connection c).channel := by
    simpa [setFailResult, setConnection] using hxch
  have haon : a.on = some ch ∧ a.course = some .leaving ∧ a ≠ .idle := by
    rcases ha with rfl | ⟨o, rfl⟩ <;>
      simp [Next.activity, Activity.on, Activity.course, Next.course]
  rw [heq]
  refine ⟨fun ch' => ?_, fun d ch' => ?_, fun q => ?_, fun d ch' => ?_, fun d => ?_⟩
  · obtain ⟨h1, h2, h3, h4, h5⟩ := h.shaped ch'
    exact ⟨h1, h2, h3, h4, h5⟩
  · obtain ⟨h1, h2⟩ := h.holding d ch'
    constructor
    all_goals simp only [setFailResult, setConnection, Function.update_apply, Borrows]
    all_goals grind [Borrows]
  · obtain ⟨h1, h2, h3⟩ := h.watching q
    exact ⟨h1, h2, h3⟩
  · obtain ⟨h1, h2, h3, h4, h5, h6⟩ := h.serving d ch'
    constructor
    all_goals simp only [setFailResult, setConnection, Function.update_apply, Waits]
    all_goals grind [Waits, Activity.on]
  · obtain ⟨h1, h2, h3, h4, h5, h6⟩ := h.standing d
    constructor
    all_goals simp only [setFailResult, setConnection, Function.update_apply]
    all_goals grind [ConnectionStage.Fresh, ConnectionStage.Over]

/-- A channel's thread goes on in the same direction. -/
theorem Channels.setActivity (h : s.Channels) {c : ConnectionId} {a : Activity}
    (hbusy : s.activity c ≠ .idle) (hon : a.on = (s.activity c).on)
    (hcourse : a.course = (s.activity c).course) : (s.setActivity c a).Channels := by
  refine ⟨fun ch' => ?_, fun d ch' => ?_, fun q => ?_, fun d ch' => ?_, fun d => ?_⟩
  · obtain ⟨h1, h2, h3, h4, h5⟩ := h.shaped ch'
    exact ⟨h1, h2, h3, h4, h5⟩
  · obtain ⟨h1, h2⟩ := h.holding d ch'
    exact ⟨h1, h2⟩
  · obtain ⟨h1, h2, h3⟩ := h.watching q
    exact ⟨h1, h2, h3⟩
  · obtain ⟨h1, h2, h3, h4, h5, h6⟩ := h.serving d ch'
    constructor
    all_goals simp only [HttpConnector.setActivity, Function.update_apply, Waits]
    all_goals grind [Waits]
  · obtain ⟨h1, h2, h3, h4, h5, h6⟩ := h.standing d
    have hstage := (h.standing c).active hbusy
    constructor
    all_goals simp only [HttpConnector.setActivity, Function.update_apply]
    all_goals grind

end HttpConnector

end Http
