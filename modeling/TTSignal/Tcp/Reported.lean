import TTSignal.Tcp.Firm
import TTSignal.Tcp.Physical

/-!
# The binding that a channel reports

`BoundIfIndex` and `PinMethod` of a channel that is ready tell whether its socket has been pinned
and to which interface. `Open` writes the interface before it is known whether the socket can be
pinned; the look at the routes and the result of the pin take it back. Under the policy of the
operating system `Open` leaves the interface as it is, so that the one of an earlier call that
has failed is pinned after all.
-/

namespace Tcp

open Runs

/-- The last pin, and its result. -/
def TcpChannel.lastPin (s : TcpChannel) : Option (ℤ × UInt32 × TTPinResult) := s.pins.getLast?

/-- `tt_socket_pin` names its method when it succeeds. -/
def NamesMethod (a : PinningAnswers) : Prop := a.pin = .ok → a.pinMethod ≠ ""

/-- What a channel reports about its interface is so, where `A` are the answers it has got. -/
structure Bound (A : PinningAnswers → Prop) (s : TcpChannel) : Prop where
  /-- Without an interface there is no method, and no pin has succeeded. -/
  free : s.boundIfindex = 0 →
    s.pinMethod = "" ∧ ∀ fd ifIndex, s.lastPin ≠ some (fd, ifIndex, .ok)
  /-- With an interface the socket is pinned to it, with a method. -/
  pinned : s.boundIfindex ≠ 0 →
    s.pinMethod ≠ "" ∧ ∃ fd, s.socket = some fd ∧ s.lastPin = some (fd, s.boundIfindex, .ok)
  /-- Under the policy that prefers the physical interface the routes have been looked at. -/
  kept : s.config.policy = .preferPhysical → s.boundIfindex ≠ 0 →
    ∃ a, A a ∧ .scopedLookup s.boundIfindex a.scopedIf ∈ s.trace ∧
      .globalLookup a.globalIf ∈ s.trace ∧
        ttVpnPinRecheck .preferPhysical s.boundIfindex a.scopedIf a.globalIf a.peerClass = true

/-- A channel that has not got its address yet. -/
structure Early (s : TcpChannel) : Prop where
  /-- Its state. -/
  state_eq : s.state = .idle ∨ s.state = .resolving
  /-- There is no method. -/
  method_eq : s.pinMethod = ""
  /-- Nothing has been pinned. -/
  pins_eq : s.pins = []
  /-- Under the policy of the operating system there is no interface. -/
  fresh : s.state = .resolving → s.config.policy = .os → s.boundIfindex = 0

/-- How far a channel has come with its interface. -/
structure Choosing (A : PinningAnswers → Prop) (s : TcpChannel) : Prop where
  /-- Under the policy of the operating system nothing is pinned. -/
  os : s.config.policy = .os → s.pins = []
  /-- It has not chosen yet, it is closing, or it has chosen. -/
  stage : s.closing = true ∨ Early s ∨ s.state.Behind ∧ Bound A s

variable {X509 : Type*} {p : Platform X509} {A : PinningAnswers → Prop} {s s' : TcpChannel}

/-- What leaves the binding alone leaves the report. -/
theorem Bound.firm (h : Bound A s) (hfirm : Firm s s') (hopen : s'.closing = false) :
    Bound A s' := by
  have hsocket : s'.socket = s.socket := by
    rcases hfirm.socket_eq with hsame | hclosing
    · exact hsame
    · rw [hopen] at hclosing
      cases hclosing
  have hlast : s'.lastPin = s.lastPin := congrArg List.getLast? hfirm.pins_eq
  constructor
  · rw [hfirm.bound_eq, hfirm.method_eq, hlast]
    exact h.free
  · rw [hfirm.bound_eq, hfirm.method_eq, hsocket, hlast]
    exact h.pinned
  · rw [hfirm.bound_eq, hfirm.policy_eq]
    intro hpolicy hbound
    obtain ⟨a, ha, hscoped, hglobal, hkept⟩ := h.kept hpolicy hbound
    exact ⟨a, ha, hfirm.trace_sub _ hscoped, hfirm.trace_sub _ hglobal, hkept⟩

/-- What leaves the binding alone gets no further with it. -/
theorem Choosing.firm (h : Choosing A s) (hfirm : Firm s s') : Choosing A s' where
  os hpolicy := by
    rw [hfirm.policy_eq] at hpolicy
    exact hfirm.pins_eq.trans (h.os hpolicy)
  stage := by
    cases hclosing : s'.closing with
    | true => exact .inl rfl
    | false =>
      have hopen : s.closing ≠ true := by
        intro hclosed
        rw [hfirm.closing_kept hclosed] at hclosing
        cases hclosing
      rcases h.stage with hclosed | hearly | ⟨hbehind, hbound⟩
      · exact absurd hclosed hopen
      · have hstate : s'.state = s.state := by
          rcases hfirm.state_eq with hsame | ⟨hbehind, -⟩ | hclosed
          · exact hsame
          · rcases hearly.state_eq with hs | hs <;> rw [hs] at hbehind <;> exact hbehind.elim
          · rw [hclosing] at hclosed
            cases hclosed
        refine .inr (.inl ⟨by rw [hstate]; exact hearly.state_eq,
          hfirm.method_eq.trans hearly.method_eq, hfirm.pins_eq.trans hearly.pins_eq, ?_⟩)
        rw [hstate, hfirm.policy_eq, hfirm.bound_eq]
        exact hearly.fresh
      · refine .inr (.inr ⟨?_, hbound.firm hfirm hclosing⟩)
        rcases hfirm.state_eq with hsame | ⟨-, hbehind'⟩ | hclosed
        · rw [hsame]
          exact hbehind
        · exact hbehind'
        · rw [hclosing] at hclosed
          cases hclosed

/-! ### The choice -/

/-- The interface that is left when the routes have been looked at. -/
structure Chosen (A : PinningAnswers → Prop) (a : PinningAnswers) (s : TcpChannel) : Prop where
  /-- There is no method yet. -/
  method_eq : s.pinMethod = ""
  /-- Nothing has been pinned yet. -/
  pins_eq : s.pins = []
  /-- The socket. -/
  socket_eq : s.socket = some a.fd
  /-- Under the policy of the operating system there is no interface. -/
  os : s.config.policy = .os → s.boundIfindex = 0
  /-- Under the policy that prefers the physical interface the routes lead through it. -/
  kept : s.config.policy = .preferPhysical → s.boundIfindex ≠ 0 →
    .scopedLookup s.boundIfindex a.scopedIf ∈ s.trace ∧ .globalLookup a.globalIf ∈ s.trace ∧
      ttVpnPinRecheck .preferPhysical s.boundIfindex a.scopedIf a.globalIf a.peerClass = true

/-- A function succeeds with a property, or closes the channel under another policy than that of
the operating system. -/
def Goes (r : TcpChannel × BCResult) (P : TcpChannel → Prop) : Prop :=
  r.2 = .success ∧ P r.1 ∨ r.2 ≠ .success ∧ r.1.closing = true ∧ r.1.config.policy ≠ .os

/-- On other systems than Android the interface is the only target. -/
theorem hasBindTarget_iff (hp : p.osAndroid = false) (s : TcpChannel) :
    s.HasBindTarget p ↔ s.boundIfindex ≠ 0 := by
  unfold TcpChannel.HasBindTarget
  rw [hp]
  simp

/-- The looks at the routes are no pins. -/
theorem firm_lookup (s : TcpChannel) (a : PinningAnswers) : Firm s (s.lookup a) :=
  (s.firm_note (a := .scopedLookup s.boundIfindex a.scopedIf) rfl).trans
    (TcpChannel.firm_note _ rfl)

/-- The looks at the routes are recorded. -/
theorem mem_lookup (s : TcpChannel) (a : PinningAnswers) :
    .scopedLookup s.boundIfindex a.scopedIf ∈ (s.lookup a).trace ∧
      .globalLookup a.globalIf ∈ (s.lookup a).trace := by
  constructor
  · exact List.mem_append_left _ (List.mem_append_right _ (List.mem_singleton_self _))
  · exact List.mem_append_right _ (List.mem_singleton_self _)

/-- `_DecidePinBeforeConnect` chooses the interface. -/
theorem decidePinBeforeConnect_goes (hp : p.osAndroid = false) (a : PinningAnswers)
    (hmethod : s.pinMethod = "") (hpins : s.pins = []) (hsocket : s.socket = some a.fd)
    (hos : s.config.policy = .os → s.boundIfindex = 0) :
    Goes (s.decidePinBeforeConnect p a) (Chosen A a) := by
  have hlooked := firm_lookup s a
  have hpins' : (s.lookup a).pins = [] := hlooked.pins_eq.trans hpins
  obtain ⟨hscoped, hglobal⟩ := mem_lookup s a
  unfold TcpChannel.decidePinBeforeConnect
  split
  · rename_i hnone
    have hzero : s.boundIfindex = 0 := not_not.mp (mt (hasBindTarget_iff hp s).mpr hnone)
    exact .inl ⟨rfl, hmethod, hpins, hsocket, hos, fun _ hbound => absurd hzero hbound⟩
  · split
    · rename_i hforce
      split
      · refine .inl ⟨rfl, hmethod, hpins', hsocket, hos, fun hprefer _ => ?_⟩
        have hprefer' : s.config.policy = .preferPhysical := hprefer
        rw [hforce] at hprefer'
        cases hprefer'
      · refine .inr ⟨nofun, TcpChannel.closing_fail _ _ _, ?_⟩
        rw [(TcpChannel.firm_fail _ _ _).policy_eq, hlooked.policy_eq, hforce]
        nofun
    · split
      · rename_i hkept
        refine .inl ⟨rfl, hmethod, hpins', hsocket, hos, fun hprefer _ => ⟨hscoped, hglobal, ?_⟩⟩
        have hprefer' : s.config.policy = .preferPhysical := hprefer
        rw [hprefer'] at hkept
        exact hkept
      · exact .inl ⟨rfl, rfl, hpins', hsocket, fun _ => rfl, fun _ hbound => absurd rfl hbound⟩

/-- `_PinSocket` pins the socket to the interface that has been chosen, or gives it up. -/
theorem Chosen.pinSocket_goes {a : PinningAnswers} (h : Chosen A a s) (hp : p.osAndroid = false)
    (ha : A a) (hnamed : NamesMethod a) :
    Goes (s.pinSocket p a) fun t => Bound A t ∧ (t.config.policy = .os → t.pins = []) := by
  have hcalled : (s.callPin a).pins = [(a.fd, s.boundIfindex, a.pin)] := by
    unfold TcpChannel.pins TcpChannel.callPin TcpChannel.note
    rw [List.filterMap_append]
    exact congrArg (· ++ [(a.fd, s.boundIfindex, a.pin)]) h.pins_eq
  unfold TcpChannel.pinSocket
  split
  · rename_i hnone
    have hzero : s.boundIfindex = 0 := not_not.mp (mt (hasBindTarget_iff hp s).mpr hnone)
    refine .inl ⟨rfl, ⟨fun _ => ⟨h.method_eq, fun fd ifIndex => ?_⟩,
      fun hbound => absurd hzero hbound, fun _ hbound => absurd hzero hbound⟩, fun _ => h.pins_eq⟩
    unfold TcpChannel.lastPin
    rw [h.pins_eq]
    nofun
  · rename_i hsome
    have hbound : s.boundIfindex ≠ 0 := (hasBindTarget_iff hp s).mp (not_not.mp hsome)
    split
    · rename_i hok
      refine .inl ⟨rfl, ⟨fun hzero => absurd hzero hbound,
        fun _ => ⟨hnamed hok, a.fd, h.socket_eq, ?_⟩, fun hprefer hb => ?_⟩,
        fun hos => absurd (h.os hos) hbound⟩
      · change (s.callPin a).pins.getLast? = _
        rw [hcalled, hok]
        rfl
      · obtain ⟨hscoped, hglobal, hkept⟩ := h.kept hprefer hb
        exact ⟨a, ha, List.mem_append_left _ hscoped, List.mem_append_left _ hglobal, hkept⟩
    · rename_i hfailed
      split
      · rename_i hforce
        refine .inr ⟨nofun, TcpChannel.closing_fail _ _ _, ?_⟩
        rw [(TcpChannel.firm_fail _ _ _).policy_eq]
        change s.config.policy ≠ .os
        rw [hforce]
        nofun
      · refine .inl ⟨rfl, ⟨fun _ => ⟨rfl, fun fd ifIndex hlast => ?_⟩, fun hb => absurd rfl hb,
          fun _ hb => absurd rfl hb⟩, fun hos => absurd (h.os hos) hbound⟩
        have hlast' : (s.callPin a).pins.getLast? = some (fd, ifIndex, .ok) := hlast
        rw [hcalled, List.getLast?_singleton, Option.some.injEq, Prod.mk.injEq, Prod.mk.injEq]
          at hlast'
        exact hfailed hlast'.2.2

/-- A transition leaves the report. -/
theorem Bound.setState (h : Bound A s) (next : State) : Bound A (s.setState next) := by
  unfold TcpChannel.setState
  split
  · exact h
  · have hnoted := s.firm_note (a := .setState s.state next) rfl
    have hlast : (s.note (.setState s.state next)).lastPin = s.lastPin :=
      congrArg List.getLast? hnoted.pins_eq
    refine ⟨fun hzero => ?_, fun hbound => ?_, fun hprefer hbound => ?_⟩
    · obtain ⟨hmethod, hnone⟩ := h.free hzero
      exact ⟨hmethod, fun fd ifIndex heq => hnone fd ifIndex (hlast.symm.trans heq)⟩
    · obtain ⟨hmethod, fd, hsocket, heq⟩ := h.pinned hbound
      exact ⟨hmethod, fd, hsocket, hlast.trans heq⟩
    · obtain ⟨a, ha, hscoped, hglobal, hkept⟩ := h.kept hprefer hbound
      exact ⟨a, ha, List.mem_append_left _ hscoped, List.mem_append_left _ hglobal, hkept⟩

/-- The end of `_EnterPinning`. -/
theorem Bound.connectSocket (h : Bound A s) (hos : s.config.policy = .os → s.pins = [])
    (a : PinningAnswers) : Choosing A (s.connectSocket a) := by
  have hset : (s.setState .connecting).state = .connecting ∧
      (s.setState .connecting).config = s.config ∧ (s.setState .connecting).pins = s.pins := by
    unfold TcpChannel.setState
    split
    · rename_i hsame
      exact ⟨hsame, rfl, rfl⟩
    · exact ⟨rfl, rfl, (s.firm_note (a := .setState s.state .connecting) rfl).pins_eq⟩
  obtain ⟨hstate, hconfig, hpins⟩ := hset
  have hbegun : Choosing A (s.setState .connecting) := by
    refine ⟨fun hpolicy => ?_, .inr (.inr ⟨by rw [hstate]; trivial, h.setState .connecting⟩)⟩
    rw [hconfig] at hpolicy
    exact hpins.trans (hos hpolicy)
  refine (hbegun.firm (TcpChannel.firm_note _ (a := .connect a.fd) rfl)).firm ?_
  change Firm _ (((s.setState .connecting).note (.connect a.fd)).onConnectCalled a.connect)
  unfold TcpChannel.onConnectCalled
  split
  · exact TcpChannel.firm_set _ _ _ _ _ _ _ _ _ _ _ _ _ _
  · exact TcpChannel.firm_fail _ _ _

/-- A function that goes lets the next one be called. -/
theorem Goes.andThen {r : TcpChannel × BCResult} {P : TcpChannel → Prop} (h : Goes r P)
    {f : TcpChannel → TcpChannel} (hf : ∀ t, P t → Choosing A (f t)) :
    Choosing A (TcpChannel.andThen r f) := by
  rcases h with ⟨hok, hP⟩ | ⟨hfailed, hclosing, hpolicy⟩
  · unfold TcpChannel.andThen
    rw [if_neg (not_not.mpr hok)]
    exact hf r.1 hP
  · rw [andThen_failure hfailed]
    exact ⟨fun hos => absurd hos hpolicy, .inl hclosing⟩

/-- A failure of a channel that has pinned nothing. -/
theorem choosing_fail (hpins : s.pins = []) (result : BCResult) (reason : Reason) :
    Choosing A (s.fail result reason) :=
  ⟨fun _ => (s.firm_fail result reason).pins_eq.trans hpins,
    .inl (TcpChannel.closing_fail s result reason)⟩

/-- The part of `_EnterPinning` that makes the socket. -/
theorem openSocket_choosing (hp : p.osAndroid = false) {a : PinningAnswers} (ha : A a)
    (hnamed : NamesMethod a) (hmethod : s.pinMethod = "") (hpins : s.pins = [])
    (hos : s.config.policy = .os → s.boundIfindex = 0) : Choosing A (s.openSocket p a) := by
  unfold TcpChannel.openSocket
  split
  · exact choosing_fail (s := { s with socket := none }) hpins _ _
  · have hdecided := decidePinBeforeConnect_goes (A := A) (s := { s with socket := some a.fd }) hp a
      hmethod hpins rfl hos
    refine hdecided.andThen fun t ht => ?_
    exact (ht.pinSocket_goes hp ha hnamed).andThen fun u hu => hu.1.connectSocket hu.2 a

/-- `_EnterPinning`. -/
theorem enterPinning_choosing (hp : p.osAndroid = false) {a : PinningAnswers} (ha : A a)
    (hnamed : NamesMethod a) (hmethod : s.pinMethod = "") (hpins : s.pins = [])
    (hos : s.config.policy = .os → s.boundIfindex = 0) : Choosing A (s.enterPinning p a) := by
  have hset : (s.setState .pinning).pinMethod = s.pinMethod ∧
      (s.setState .pinning).pins = s.pins ∧ (s.setState .pinning).config = s.config ∧
        (s.setState .pinning).boundIfindex = s.boundIfindex := by
    unfold TcpChannel.setState
    split
    · exact ⟨rfl, rfl, rfl, rfl⟩
    · exact ⟨rfl, (s.firm_note (a := .setState s.state .pinning) rfl).pins_eq, rfl, rfl⟩
  obtain ⟨hmethod', hpins', hconfig, hbound⟩ := hset
  unfold TcpChannel.enterPinning
  rw [← hmethod'] at hmethod
  rw [← hpins'] at hpins
  rw [← hconfig, ← hbound] at hos
  generalize s.setState .pinning = t at hmethod hpins hos
  unfold TcpChannel.pinning
  split
  · obtain ⟨sslCtx, ssl, sslLayer, hok | ⟨result, reason, hne, hfailed⟩⟩ := setupTls_cases t a
    · rw [hok, andThen_success]
      exact openSocket_choosing (s := { t with sslCtx := sslCtx, ssl := ssl, sslLayer := sslLayer })
        hp ha hnamed hmethod hpins hos
    · rw [hfailed, andThen_failure hne]
      exact choosing_fail (s := { t with sslCtx := sslCtx, ssl := ssl, sslLayer := sslLayer })
        hpins result reason
  · exact openSocket_choosing hp ha hnamed hmethod hpins hos

/-- The address of a channel is there. -/
theorem Early.onResolveDone (h : Early s) (hp : p.osAndroid = false) (hstate : s.state = .resolving)
    (hopen : s.closing = false) {a : PinningAnswers} (ha : A a)
    (hnamed : NamesMethod a) (r : DnsResult) :
    Choosing A (s.onResolveDone p r a) := by
  have hgoes : ¬ (s.dnsOver.closing = true ∨ s.dnsOver.state ≠ .resolving) := by
    rintro (hclosing | hother)
    · have hclosed : s.closing = true := hclosing
      rw [hopen] at hclosed
      cases hclosed
    · exact hother hstate
  unfold TcpChannel.onResolveDone
  rw [if_neg hgoes]
  unfold TcpChannel.onResolved
  split
  · exact choosing_fail (s := s.dnsOver) h.pins_eq _ _
  · rename_i addr addrs _
    split
    · exact choosing_fail (s := s.dnsOver) h.pins_eq _ _
    · exact enterPinning_choosing
        (s := { s.dnsOver with peerAddr := some { addr with port := s.config.port } }) hp ha hnamed
        h.method_eq h.pins_eq (h.fresh hstate)

/-! ### `Open` -/

/-- What `Open` returns leaves a channel that has not got its address as it is. -/
theorem Early.opened (h : Early s) (result : BCResult) : Early (s.note (.opened result)) :=
  { h with
    pins_eq := (s.firm_note (a := .opened result) rfl).pins_eq.trans h.pins_eq }

/-- A channel that waits for `Open` may take any configuration and any interface. -/
theorem Early.configured (h : Early s) (hidle : s.state = .idle) (config : TcpChannelConfig)
    (ifIndex : UInt32) : Early { s with config := config, boundIfindex := ifIndex } :=
  { h with
    fresh := fun hstate => by
      have hresolving : s.state = .resolving := hstate
      rw [hidle] at hresolving
      cases hresolving }

/-- Resolution begins. -/
theorem Early.startResolving (h : Early s) (hidle : s.state = .idle)
    (hos : s.config.policy = .os → s.boundIfindex = 0) (handler : HandlerId) (a : OpenAnswers) :
    Early (s.startResolving p handler a) := by
  have hset : TcpChannel.setState
      { s with queueCreated := true, handler := some handler, connectTimer := true } .resolving =
        { s.note (.setState .idle .resolving) with
          queueCreated := true
          handler := some handler
          connectTimer := true
          state := .resolving } := by
    simp [TcpChannel.setState, TcpChannel.note, hidle]
  have hpins : (s.note (.setState .idle .resolving)).pins = [] :=
    (s.firm_note (a := .setState .idle .resolving) rfl).pins_eq.trans h.pins_eq
  have hresolving : Early (TcpChannel.setState
      { s with queueCreated := true, handler := some handler, connectTimer := true }
      .resolving) := by
    rw [hset]
    exact ⟨.inr rfl, h.method_eq, hpins, fun _ => hos⟩
  unfold TcpChannel.startResolving TcpChannel.resolve
  split
  · exact { hresolving with }
  · split
    · exact { hresolving with }
    · exact { hresolving with }

/-- `Open` with its interface chosen. -/
theorem Early.openBound (h : Early s) (hidle : s.state = .idle) (handler : HandlerId)
    {a : OpenAnswers}
    (hos : a.queueCreate = .success → s.config.policy = .os → s.boundIfindex = 0) :
    Early (s.openBound p handler a) := by
  unfold TcpChannel.openBound
  split
  · exact h.opened _
  · split
    · exact h.opened _
    · rename_i hqueue
      exact (h.startResolving hidle (hos (not_not.mp hqueue)) handler a).opened _

/-- `Open` takes the call up: its configuration is one, and there is an event queue. -/
def Taken (p : Platform X509) (cfg : TcpChannelConfig) (a : OpenAnswers) : Prop :=
  cfg.host ≠ "" ∧ cfg.port ≠ 0 ∧
    (cfg.resolvedIp = "" ∨ p.parseIpLiteral cfg.resolvedIp cfg.port ≠ none) ∧
      a.queueCreate = .success

/-- `Open` under the policy of the operating system finds no interface from an earlier call. -/
def OpensUnbound (p : Platform X509) (s : TcpChannel) (e : Event X509) : Prop :=
  ∀ handler cfg answers, e = .openChannel (some handler) cfg answers → s.state = .idle →
    Taken p cfg answers → (TcpChannel.storedConfig p cfg).policy = .os → s.boundIfindex = 0

/-- The stored configuration differs in its policy only. -/
theorem literal_storedConfig (s : TcpChannel) (cfg : TcpChannelConfig) :
    TcpChannel.literal p { s with config := TcpChannel.storedConfig p cfg } =
      if cfg.resolvedIp = "" then none else p.parseIpLiteral cfg.resolvedIp cfg.port := by
  unfold TcpChannel.literal TcpChannel.storedConfig
  split
  · rfl
  · rfl

/-- The stored configuration has the literal that it was given. -/
theorem resolvedIp_storedConfig (cfg : TcpChannelConfig) :
    (TcpChannel.storedConfig p cfg).resolvedIp = cfg.resolvedIp := by
  unfold TcpChannel.storedConfig
  split
  · rfl
  · rfl

/-- `Open` of an idle channel. -/
theorem Early.openChannel (h : Early s) (hidle : s.state = .idle) {handler : Option HandlerId}
    {cfg : TcpChannelConfig} {a : OpenAnswers}
    (hunbound : OpensUnbound p s (.openChannel handler cfg a)) :
    Early (s.openChannel p handler cfg a) := by
  have hstored := h.configured hidle (TcpChannel.storedConfig p cfg)
  cases handler with
  | none => exact h.opened _
  | some handler =>
    have hgoes : ¬ s.state ≠ .idle := not_not.mpr hidle
    unfold TcpChannel.openChannel
    dsimp only
    rw [if_neg hgoes]
    split
    · exact h.opened _
    · rename_i hnamed
      obtain ⟨hhost, hport⟩ := not_or.mp hnamed
      unfold TcpChannel.openConfigured
      split
      · exact (hstored s.boundIfindex).opened _
      · rename_i hliteral
        split
        · refine (hstored s.boundIfindex).openBound hidle handler fun hqueue hos => ?_
          refine hunbound handler cfg a rfl hidle ⟨hhost, hport, ?_, hqueue⟩ hos
          rw [literal_storedConfig, resolvedIp_storedConfig] at hliteral
          by_cases hempty : cfg.resolvedIp = ""
          · exact .inl hempty
          · rw [if_neg hempty] at hliteral
            exact .inr fun hnone => hliteral ⟨hempty, hnone⟩
        · rename_i hother
          exact (hstored _).openBound hidle handler fun _ hos => absurd hos hother

/-! ### Runs -/

/-- An open channel that is not behind its connect call has not got its address. -/
theorem Choosing.early (h : Choosing A s) (hopen : s.closing = false) (hbefore : ¬ s.state.Behind) :
    Early s := by
  rcases h.stage with hclosing | hearly | ⟨hbehind, -⟩
  · rw [hopen] at hclosing
    cases hclosing
  · exact hearly
  · exact absurd hbehind hbefore

/-- The result of the resolution comes to a channel that waits for it. -/
theorem Choosing.resolved (h : Choosing A s) (hp : p.osAndroid = false)
    (hstate : s.state = .resolving) (hopen : s.closing = false) {a : PinningAnswers} (ha : A a)
    (hnamed : NamesMethod a) (sends : ℕ → BCResult) (r : DnsResult) (tasks : List Task) :
    Choosing A (TcpChannel.perform p { s with tasks := tasks } a sends (.resolveDone r)) := by
  have hearly : Early s := h.early hopen (by rw [hstate]; exact not_false)
  have hreleased : Early (TcpChannel.releasePendingTask { s with tasks := tasks }) :=
    { hearly with }
  exact hreleased.onResolveDone hp hstate hopen ha hnamed r

/-- `Open` is called. -/
theorem Choosing.openChannel (h : Choosing A s) (hup : Upright s) (hidle : s.state = .idle)
    {handler : Option HandlerId} {cfg : TcpChannelConfig} {a : OpenAnswers}
    (hunbound : OpensUnbound p s (.openChannel handler cfg a)) :
    Choosing A (s.openChannel p handler cfg a) := by
  have hopen := hup.sound.open_of_state (by simp [hidle]) (by simp [hidle])
  have hearly : Early s := h.early hopen (by rw [hidle]; exact not_false)
  have hopened := hearly.openChannel hidle hunbound
  exact ⟨fun _ => hopened.pins_eq, .inr (.inl hopened)⟩

/-- A step of a channel. -/
theorem Choosing.step (h : Choosing A s) (hup : Upright s) (hp : p.osAndroid = false)
    {e : Event X509} (hA : ∀ a sends, e = .runTask a sends → A a ∧ NamesMethod a)
    (hunbound : OpensUnbound p s e) : Choosing A (TcpChannel.step p s e) := by
  by_cases hdecides : s.Decides e
  · unfold TcpChannel.step
    split
    · exact h
    · cases e with
      | openChannel handler cfg a => exact h.openChannel hup hdecides hunbound
      | runTask a sends =>
        obtain ⟨hempty, hopen, hstate, r, tasks, htasks⟩ := hdecides
        obtain ⟨ha, hnamed⟩ := hA a sends rfl
        have hrun : s.runTask p a sends =
            TcpChannel.perform p { s with tasks := tasks } a sends (.resolveDone r) := by
          unfold TcpChannel.runTask
          rw [htasks]
        change Choosing A (s.dispatched fun s => s.runTask p a sends)
        unfold TcpChannel.dispatched
        rw [if_pos hempty]
        dsimp only
        rw [hrun]
        exact h.resolved hp hstate hopen ha hnamed sends r tasks
      | _ => exact hdecides.elim
  · exact h.firm (TcpChannel.firm_step hdecides)

/-- A constructed channel. -/
theorem choosing_create (config : TcpChannelConfig) : Choosing A (TcpChannel.create config) where
  os _ := rfl
  stage := .inr (.inl ⟨.inl rfl, rfl, rfl, nofun⟩)

/-- The answers that the tasks of a run get. -/
def Answered (events : List (Event X509)) (a : PinningAnswers) : Prop :=
  ∃ sends, .runTask a sends ∈ events

/-- What a channel that is ready reports is so. -/
structure Reports (events : List (Event X509)) (s : TcpChannel) : Prop where
  /-- There is an interface exactly if the last pin of the socket has succeeded. -/
  bound_iff : s.boundIfindex ≠ 0 ↔
    ∃ fd ifIndex, s.socket = some fd ∧ s.lastPin = some (fd, ifIndex, .ok)
  /-- Then the socket is pinned to it, with a method. -/
  pinned : s.boundIfindex ≠ 0 →
    s.pinMethod ≠ "" ∧ ∃ fd, s.socket = some fd ∧ s.lastPin = some (fd, s.boundIfindex, .ok)
  /-- Otherwise there is no method. -/
  free : s.boundIfindex = 0 → s.pinMethod = ""
  /-- Under the policy that prefers the physical interface, the look at the routes has told to
  keep it. -/
  kept : s.config.policy = .preferPhysical → s.boundIfindex ≠ 0 →
    ∃ a, Answered events a ∧ .scopedLookup s.boundIfindex a.scopedIf ∈ s.trace ∧
      .globalLookup a.globalIf ∈ s.trace ∧
        ttVpnPinRecheck .preferPhysical s.boundIfindex a.scopedIf a.globalIf a.peerClass = true

/-- The report of a channel that has chosen. -/
theorem Bound.reports {events : List (Event X509)} (h : Bound (Answered events) s) :
    Reports events s where
  bound_iff := by
    constructor
    · intro hbound
      obtain ⟨-, fd, hsocket, hlast⟩ := h.pinned hbound
      exact ⟨fd, s.boundIfindex, hsocket, hlast⟩
    · rintro ⟨fd, ifIndex, -, hlast⟩ hzero
      exact (h.free hzero).2 fd ifIndex hlast
  pinned := h.pinned
  free hzero := (h.free hzero).1
  kept := h.kept

/-- A channel that is ready has chosen. -/
theorem Choosing.bound (h : Choosing A s) (hup : Upright s) (hready : s.state = .ready) :
    Bound A s := by
  have hopen := hup.sound.open_of_state (by simp [hready]) (by simp [hready])
  rcases h.stage with hclosing | hearly | ⟨-, hbound⟩
  · rw [hopen] at hclosing
    cases hclosing
  · rcases hearly.state_eq with hstate | hstate
    · rw [hready] at hstate
      cases hstate
    · rw [hready] at hstate
      cases hstate
  · exact hbound

/-- A run whose pins name their method. -/
theorem choosing_run (hp : p.osAndroid = false) (config : TcpChannelConfig)
    {events : List (Event X509)} (hnames : ∀ a, Answered events a → NamesMethod a)
    (hmeets : Meets (TcpChannel.step p) (OpensUnbound p) (TcpChannel.create config) events) :
    Choosing (Answered events) (run (TcpChannel.step p) (TcpChannel.create config) events) ∧
      Upright (run (TcpChannel.step p) (TcpChannel.create config) events) := by
  have hanswered (e : Event X509) (he : e ∈ events) (a : PinningAnswers) (sends : ℕ → BCResult)
      (hrun : e = .runTask a sends) : Answered events a ∧ NamesMethod a := by
    have hanswer : Answered events a := ⟨sends, hrun ▸ he⟩
    exact ⟨hanswer, hnames a hanswer⟩
  apply invariant_of_meets (C := fun s e => OpensUnbound p s e ∧
    ∀ a sends, e = .runTask a sends → Answered events a ∧ NamesMethod a)
    (I := fun s => Choosing (Answered events) s ∧ Upright s)
  · rintro s e ⟨h, hup⟩ ⟨hunbound, hall⟩
    exact ⟨h.step hup hp hall hunbound, hup.step e⟩
  · exact ⟨choosing_create config, upright_create config⟩
  · exact hmeets.and_forall hanswered

/-- The report of a channel is so when it is ready, and under the policy of the operating system
its socket is never pinned. -/
def Truthful (events : List (Event X509)) (s : TcpChannel) : Prop :=
  (s.state = .ready → Reports events s) ∧ (s.config.policy = .os → s.pins = [])

/-- On other systems than Android, for every policy and all answers, the report of a channel is
so, if every `Open` that is taken up under the policy of the operating system finds no interface
of an earlier call. -/
theorem truthful_run (p : Platform X509) (hp : p.osAndroid = false) (config : TcpChannelConfig)
    (events : List (Event X509)) (hnames : ∀ a, Answered events a → NamesMethod a)
    (hmeets : Meets (TcpChannel.step p) (OpensUnbound p) (TcpChannel.create config) events) :
    Truthful events (run (TcpChannel.step p) (TcpChannel.create config) events) := by
  obtain ⟨h, hup⟩ := choosing_run hp config hnames hmeets
  exact ⟨fun hready => (h.bound hup hready).reports, h.os⟩

/-- A system with one address. -/
def desktop : Platform Unit where
  osAndroid := false
  hasPathMonitor := false
  platformDefault := .os
  parseIpLiteral _ port := some ⟨false, [192, 0, 2, 1], port⟩
  pem _ := .noBio
  x509 := ⟨fun _ => none, fun _ => none, fun _ => true, fun _ _ _ => none, fun _ _ => true⟩

/-- A connection to that address, through the interface 5. -/
def throughFive (policy : TTVpnPolicy) : TcpChannelConfig where
  host := "a"
  port := 80
  tls := false
  resolvedIp := "192.0.2.1"
  policy := policy
  ifIndex := 5
  androidNetHandle := 0
  dns := ⟨.os, 0, 0⟩
  tlsCfg := ⟨[], []⟩
  connectTimeoutMs := 10000

/-- The routes lead through the interface 5, and the socket can be pinned to it. -/
def pinnedToFive : PinningAnswers where
  sslCtx := none
  sslNew := true
  prepareSsl := (.success, "")
  sslLayer := .success
  socketCreate := .success
  fd := 3
  scopedIf := 5
  globalIf := 5
  peerClass := 0
  pin := .ok
  pinMethod := "IP_BOUND_IF"
  pinErrno := 0
  connect := .inProgress

/-- From the resolved address to the channel that is ready. -/
def untilReady : List (Event Unit) :=
  [.runTask pinnedToFive fun _ => .success, .connectDone .success .inProgress]

/-- The pin of these steps names its method. -/
theorem namesMethod_untilReady {opens : List (Event Unit)}
    (hopens : ∀ a sends, .runTask a sends ∉ opens) (a : PinningAnswers)
    (ha : Answered (opens ++ untilReady) a) : NamesMethod a := by
  obtain ⟨sends, hmem⟩ := ha
  rcases List.mem_append.mp hmem with hopen | hlater
  · exact absurd hopen (hopens a sends)
  · simp only [untilReady, List.mem_cons, Event.runTask.injEq, reduceCtorEq, List.not_mem_nil,
      or_false] at hlater
    rw [hlater.1]
    intro _
    decide

/-- A connection that prefers the physical interface. -/
theorem truthful_run_prefer :
    Truthful
      ([.openChannel (some 0) (throughFive .preferPhysical) ⟨0, .success, true⟩] ++ untilReady)
      (run (TcpChannel.step desktop) (TcpChannel.create (throughFive .os))
        ([.openChannel (some 0) (throughFive .preferPhysical) ⟨0, .success, true⟩] ++
          untilReady)) := by
  apply truthful_run desktop rfl
  · apply namesMethod_untilReady
    simp
  · refine ⟨?_, ?_, ?_, trivial⟩
    · rintro handler cfg answers heq - - hos
      cases heq
      cases hos
    · intro handler cfg answers heq
      cases heq
    · intro handler cfg answers heq
      cases heq

/-- `Open` finds an interface and gets no event queue; called again under the policy of the
operating system, it leaves that interface, and the socket is pinned to it. -/
theorem not_truthful_stale : ¬ ∀ (p : Platform Unit) (config : TcpChannelConfig)
    (events : List (Event Unit)), p.osAndroid = false →
      (∀ a, Answered events a → NamesMethod a) →
        Truthful events (run (TcpChannel.step p) (TcpChannel.create config) events) := by
  intro h
  have hnames := @namesMethod_untilReady
    [.openChannel (some 0) (throughFive .preferPhysical) ⟨0, .failure, true⟩,
      .openChannel (some 0) (throughFive .os) ⟨0, .success, true⟩] (by simp)
  have hpins := (h desktop (throughFive .os) _ rfl hnames).2 (by decide +kernel)
  revert hpins
  decide +kernel

end Tcp
