import TTSignal.Tcp.Lifecycle

/-!
# Verification before use

A TLS channel is used, that is announced as ready, given application data to send, or asked
to deliver received data, only after its handshake has completed, and with a pin only after
the certificate of the peer has been checked against it.
-/

namespace Tcp

open Runs Traces

/-- The channel is announced or used: `OnChannelReady`, `OnChannelData` or `SSL_write`. -/
def Action.Uses : Action → Prop
  | .callback _ .onChannelReady => True
  | .callback _ (.onChannelData _) => True
  | .sslWrite _ => True
  | _ => False

/-- Work that uses the channel when it goes on. -/
def Instr.Uses : Instr → Prop
  | .adoptReady => True
  | .writeSSL _ => True
  | .sslWrite _ => True
  | _ => False

/-- The channel becomes ready. -/
def Action.MakesReady : Action → Prop
  | .setState _ next => next = .ready
  | _ => False

/-- The handshake has completed, and the pin has been checked if there is one. -/
def Verified (s : TcpChannel) : Prop :=
  s.config.tls = true →
    .handshake ∈ s.trace ∧ (s.config.tlsCfg.spkiPin ≠ [] → .verifySpkiPin true ∈ s.trace)

/-- The channel has neither been used nor been refused. -/
structure Unused (s : TcpChannel) : Prop where
  /-- No action uses it. -/
  trace_free : ∀ a ∈ s.trace, ¬ a.Uses ∧ ¬ a.MakesReady ∧ a ≠ .verifySpkiPin false
  /-- No work that is left uses it. -/
  stack_free : ∀ i ∈ s.stack, ¬ i.Uses

/-- The channel has not been ready yet. -/
def State.Early (state : State) : Prop := state ≠ .ready ∧ state ≠ .closing ∧ state ≠ .closed

/-- A TLS channel is verified before use. -/
structure Secured (s : TcpChannel) : Prop where
  /-- A channel that has not been ready is unused. -/
  unused : s.state.Early → Unused s
  /-- A channel that connects has its TLS layer. -/
  connecting : s.state = .connecting → s.config.tls = true →
    s.sslLayer.isSome = true ∨ s.closing = true
  /-- A ready channel is verified. -/
  ready : s.state = .ready → Verified s
  /-- A channel that is being used is verified. -/
  using_stack : ∀ i ∈ s.stack, i.Uses → Verified s
  /-- The handshake comes before every use. -/
  handshake_first : s.config.tls = true → Preceded Action.Uses (· = .handshake) s.trace
  /-- The check of the pin comes before every use. -/
  pin_first : s.config.tls = true → s.config.tlsCfg.spkiPin ≠ [] →
    Preceded Action.Uses (· = .verifySpkiPin true) s.trace
  /-- After a failed check the channel is closing and has never been ready. -/
  pin_failed : .verifySpkiPin false ∈ s.trace →
    s.closing = true ∧ ∀ a ∈ s.trace, ¬ a.MakesReady

/-- What steps have in common that do not use the channel. -/
structure Apart (s s' : TcpChannel) : Prop where
  /-- TLS is used or not as before. -/
  tls_eq : s'.config.tls = s.config.tls
  /-- The pin stays. -/
  pin_eq : s'.config.tlsCfg = s.config.tlsCfg
  /-- The state stays or goes on, but not to the ready one. -/
  state_eq : s'.state = s.state ∨ s'.state = .closing ∨ s'.state = .closed ∨
    s.state.Early ∧ s'.state.Early ∧
      (s'.state = .connecting → s'.config.tls = true → s'.sslLayer.isSome = true)
  /-- The layer stays while the channel connects. -/
  layer_kept : s.state = .connecting → s.sslLayer.isSome = true →
    s'.sslLayer.isSome = true ∨ s'.closing = true
  /-- A closing channel stays one. -/
  closing_kept : s.closing = true → s'.closing = true
  /-- Nothing new uses the channel. -/
  stack_append : ∀ i ∈ s'.stack, i.Uses → i ∈ s.stack
  /-- The channel is not used. -/
  trace_append : ∃ new, s'.trace = s.trace ++ new ∧
    ∀ a ∈ new, ¬ a.Uses ∧ ¬ a.MakesReady ∧ a ≠ .verifySpkiPin false

variable {X509 : Type*} {p : Platform X509} {s s' s'' : TcpChannel}

/-- What has been verified stays verified. -/
theorem Verified.mono (h : Verified s) (htls : s'.config.tls = s.config.tls)
    (hpin : s'.config.tlsCfg = s.config.tlsCfg) (htrace : ∀ a ∈ s.trace, a ∈ s'.trace) :
    Verified s' := by
  intro htls'
  obtain ⟨hhandshake, hchecked⟩ := h (htls ▸ htls')
  refine ⟨htrace _ hhandshake, fun hne => htrace _ (hchecked ?_)⟩
  rwa [hpin] at hne

/-- Where the state can have come from. -/
theorem Apart.early (h : Apart s s') (hearly : s'.state.Early) : s.state.Early := by
  rcases h.state_eq with hsame | hgone | hgone | ⟨hbefore, -, -⟩
  · exact hsame ▸ hearly
  · exact absurd hgone hearly.2.1
  · exact absurd hgone hearly.2.2
  · exact hbefore

/-- A channel that is not used stays secured. -/
theorem Secured.apart (h : Secured s) (hapart : Apart s s') : Secured s' := by
  obtain ⟨new, hnew, hnone⟩ := hapart.trace_append
  have hmono : ∀ a ∈ s.trace, a ∈ s'.trace := by
    intro a ha
    rw [hnew]
    exact List.mem_append_left _ ha
  refine ⟨?_, ?_, ?_, ?_, ?_, ?_, ?_⟩
  · intro hearly
    have hunused := h.unused (hapart.early hearly)
    refine ⟨?_, fun i hi huses => hunused.stack_free i (hapart.stack_append i hi huses) huses⟩
    intro a ha
    rw [hnew] at ha
    exact (List.mem_append.mp ha).elim (hunused.trace_free a) (hnone a)
  · intro hconnecting htls
    rcases hapart.state_eq with hsame | hgone | hgone | ⟨-, -, hlayer⟩
    · have hbefore := hsame ▸ hconnecting
      rcases h.connecting hbefore (hapart.tls_eq ▸ htls) with hlayer | hclosing
      · exact hapart.layer_kept hbefore hlayer
      · exact Or.inr (hapart.closing_kept hclosing)
    · rw [hgone] at hconnecting
      cases hconnecting
    · rw [hgone] at hconnecting
      cases hconnecting
    · exact Or.inl (hlayer hconnecting htls)
  · intro hready
    rcases hapart.state_eq with hsame | hgone | hgone | ⟨-, ⟨hearly, -⟩, -⟩
    · exact (h.ready (hsame ▸ hready)).mono hapart.tls_eq hapart.pin_eq hmono
    · rw [hgone] at hready
      cases hready
    · rw [hgone] at hready
      cases hready
    · exact absurd hready hearly
  · intro i hi huses
    exact (h.using_stack i (hapart.stack_append i hi huses) huses).mono hapart.tls_eq
      hapart.pin_eq hmono
  · intro htls
    rw [hnew]
    exact (h.handshake_first (hapart.tls_eq ▸ htls)).append fun a ha => (hnone a ha).1
  · intro htls hpin
    rw [hnew]
    apply (h.pin_first (hapart.tls_eq ▸ htls) ?_).append fun a ha => (hnone a ha).1
    rwa [hapart.pin_eq] at hpin
  · intro hfailed
    rw [hnew] at hfailed
    rcases List.mem_append.mp hfailed with hfailed | hfailed
    · obtain ⟨hclosing, hnever⟩ := h.pin_failed hfailed
      refine ⟨hapart.closing_kept hclosing, fun a ha => ?_⟩
      rw [hnew] at ha
      exact (List.mem_append.mp ha).elim (hnever a) fun ha => (hnone a ha).2.1
    · exact absurd rfl (hnone _ hfailed).2.2

/-- Quiet work does not use the channel. -/
theorem Quiet.apart (h : Quiet s s') : Apart s s' where
  tls_eq := by rw [h.config_eq]
  pin_eq := by rw [h.config_eq]
  state_eq := by
    rcases h.state_eq with hsame | hclosing | hclosed
    · exact Or.inl hsame
    · exact Or.inr (Or.inl hclosing)
    · exact Or.inr (Or.inr (Or.inl hclosed))
  layer_kept := fun _ => h.layer_kept
  closing_kept := fun hclosing => (h.closing_kept hclosing).1
  stack_append := by
    obtain ⟨new, hnew, hquiet⟩ := h.stack_append
    intro i hi huses
    rw [hnew] at hi
    rcases List.mem_append.mp hi with hi | hi
    · have hq := hquiet i hi
      cases i <;> first | exact hq.elim | exact huses.elim
    · exact hi
  trace_append := by
    obtain ⟨new, hnew, hquiet⟩ := h.trace_append
    refine ⟨new, hnew, ?_⟩
    intro a ha
    have hq := hquiet a ha
    refine ⟨?_, ?_, ?_⟩
    · intro huses
      cases a <;> first | exact hq.elim | exact huses.elim
    · intro hready
      cases a <;> try exact hready.elim
      rw [show _ = State.ready from hready] at hq
      rcases hq with hq | hq <;> cases hq
    · rintro rfl
      exact hq.elim

/-- Quiet work keeps the channel secured. -/
theorem Secured.quiet (h : Secured s) (hquiet : Quiet s s') : Secured s' := h.apart hquiet.apart

/-- Preparations of a channel that does not connect yet do not use it. -/
theorem Preparing.apart (h : Preparing s s') (hstate : s.state ≠ .connecting) : Apart s s' where
  tls_eq := by rw [h.config_eq]
  pin_eq := by rw [h.config_eq]
  state_eq := Or.inl h.state_eq
  layer_kept := fun hconnecting => absurd hconnecting hstate
  closing_kept := fun hclosing => h.closing_eq.trans hclosing
  stack_append := by
    intro i hi _
    rwa [h.stack_eq] at hi
  trace_append := by
    obtain ⟨new, hnew, hprepares⟩ := h.trace_append
    refine ⟨new, hnew, ?_⟩
    intro a ha
    have hp := hprepares a ha
    cases a <;> first | exact hp.elim | exact ⟨not_false, not_false, by simp⟩

/-- An early transition does not use the channel. -/
theorem apart_setState (s : TcpChannel) {next : State} (hearly : s.state.Early)
    (hnext : next.Early)
    (hlayer : next = .connecting → s.config.tls = true → s.sslLayer.isSome = true) :
    Apart s (s.setState next) := by
  unfold TcpChannel.setState
  split
  · exact (Quiet.refl s).apart
  · refine ⟨rfl, rfl, Or.inr (Or.inr (Or.inr ⟨hearly, hnext, hlayer⟩)), fun _ => Or.inl, id,
      fun i hi _ => hi, [.setState s.state next], rfl, ?_⟩
    intro a ha
    cases List.mem_singleton.mp ha
    exact ⟨not_false, hnext.1, by simp⟩

/-- Recording an action that does not use the channel. -/
theorem apart_note (s : TcpChannel) {a : Action} (huses : ¬ a.Uses) (hready : ¬ a.MakesReady)
    (hfailed : a ≠ .verifySpkiPin false) : Apart s (s.note a) := by
  refine ⟨rfl, rfl, Or.inl rfl, fun _ => Or.inl, id, fun i hi _ => hi, [a], rfl, ?_⟩
  intro b hb
  cases List.mem_singleton.mp hb
  exact ⟨huses, hready, hfailed⟩

/-- Putting work on the stack that does not use the channel. -/
theorem apart_push (s : TcpChannel) {instrs : List Instr} (hinstrs : ∀ i ∈ instrs, ¬ i.Uses) :
    Apart s (s.push instrs) := by
  refine ⟨rfl, rfl, Or.inl rfl, fun _ => Or.inl, id, ?_, [], by simp [TcpChannel.push], by simp⟩
  intro i hi huses
  rcases List.mem_append.mp hi with hi | hi
  · exact absurd huses (hinstrs i hi)
  · exact hi

/-- What is not looked at before the channel is used may be set. -/
theorem apart_set (s : TcpChannel) (handler : Option HandlerId)
    (queueCreated parked poisoned connectTimer shutdownPending : Bool) (boundIfindex : UInt32) :
    Apart s
      { s with
        handler := handler
        queueCreated := queueCreated
        parked := parked
        poisoned := poisoned
        connectTimer := connectTimer
        shutdownPending := shutdownPending
        boundIfindex := boundIfindex } :=
  ⟨rfl, rfl, Or.inl rfl, fun _ => Or.inl, id, fun _ hi _ => hi, [], by simp, by simp⟩

/-- Calling a handler for another reason than the use of the channel. -/
theorem Secured.callHandler (h : Secured s) (handler : HandlerId) {c : Callback}
    (hc : ¬ (Action.callback handler c).Uses) : Secured (s.callHandler handler c) :=
  (h.apart (apart_note s hc not_false (by simp))).apart (apart_push _ (by simp [Instr.Uses]))

/-- Something is taken off the stack. -/
theorem Secured.pop (h : Secured s) {i : Instr} {stack : List Instr}
    (hstack : s.stack = i :: stack) : Secured { s with stack := stack } := by
  apply h.apart
  refine ⟨rfl, rfl, Or.inl rfl, fun _ => Or.inl, id, ?_, [], by simp, by simp⟩
  intro j hj _
  rw [hstack]
  exact List.mem_cons_of_mem _ hj

/-- A verified channel that has been ready is used. -/
theorem Secured.use (h : Secured s) (hverified : Verified s) (hlate : ¬ s.state.Early)
    {a : Action} (hready : ¬ a.MakesReady) (hfailed : a ≠ .verifySpkiPin false) :
    Secured (s.note a) := by
  have hstays : Verified (s.note a) :=
    hverified.mono rfl rfl fun b hb => List.mem_append_left _ hb
  refine ⟨fun hearly => absurd hearly hlate, h.connecting, fun _ => hstays,
    fun _ _ _ => hstays, ?_, ?_, ?_⟩
  · intro htls
    exact (h.handshake_first htls).concat fun _ => ⟨_, (hverified htls).1, rfl⟩
  · intro htls hpin
    exact (h.pin_first htls hpin).concat fun _ => ⟨_, (hverified htls).2 hpin, rfl⟩
  · intro hmem
    rcases List.mem_append.mp hmem with hmem | hmem
    · obtain ⟨hclosing, hnever⟩ := h.pin_failed hmem
      refine ⟨hclosing, fun b hb => ?_⟩
      rcases List.mem_append.mp hb with hb | hb
      · exact hnever b hb
      · rw [List.mem_singleton.mp hb]
        exact hready
    · exact absurd (List.mem_singleton.mp hmem).symm hfailed

/-- Work that uses a verified channel is put on the stack. -/
theorem Secured.push (h : Secured s) (hverified : Verified s) (hlate : ¬ s.state.Early)
    (instrs : List Instr) : Secured (s.push instrs) :=
  ⟨fun hearly => absurd hearly hlate, h.connecting, h.ready, fun _ _ _ => hverified,
    h.handshake_first, h.pin_first, h.pin_failed⟩

/-- A ready channel is not early. -/
theorem not_early_of_ready {state : State} (hready : state = .ready) : ¬ state.Early :=
  fun hearly => hearly.1 hready

/-- A verified channel calls its handler. -/
theorem Secured.useHandler (h : Secured s) (hverified : Verified s) (hlate : ¬ s.state.Early)
    (handler : HandlerId) (c : Callback) : Secured (s.callHandler handler c) :=
  (h.use hverified hlate (a := .callback handler c) not_false (by simp)).apart
    (apart_push _ (by simp [Instr.Uses]))

/-- `OnRecvDataFromSSL`. -/
theorem Secured.onRecvDataFromSSL (h : Secured s) (bytes : List UInt8) :
    Secured (s.onRecvDataFromSSL bytes) := by
  unfold TcpChannel.onRecvDataFromSSL
  split
  · exact h
  · split
    · exact h.apart (apart_set s _ _ _ _ _ _ _)
    · split
      · exact h
      · split
        · exact h
        · rename_i hready
          have hready := not_not.mp hready
          exact h.useHandler (h.ready hready) (not_early_of_ready hready) _ _

/-- `_EnterReady` of an open and verified channel. -/
theorem Secured.enterReady (h : Secured s) (hopen : s.closing = false)
    (hverified : Verified s) : Secured s.enterReady := by
  have hset : Secured (s.setState .ready) ∧ Verified (s.setState .ready) ∧
      (s.setState .ready).state = .ready := by
    unfold TcpChannel.setState
    split
    · rename_i hready
      exact ⟨h, hverified, hready⟩
    · have hstays : Verified { s.note (.setState s.state .ready) with state := .ready } :=
        hverified.mono rfl rfl fun b hb => List.mem_append_left _ hb
      refine ⟨⟨fun hearly => absurd rfl hearly.1, nofun, fun _ => hstays, fun _ _ _ => hstays,
        ?_, ?_, ?_⟩, hstays, rfl⟩
      · exact fun htls => (h.handshake_first htls).concat False.elim
      · exact fun htls hpin => (h.pin_first htls hpin).concat False.elim
      · intro hmem
        rcases List.mem_append.mp hmem with hmem | hmem
        · exact absurd (hopen.symm.trans (h.pin_failed hmem).1) Bool.false_ne_true
        · cases List.mem_singleton.mp hmem
  obtain ⟨hsecured, hstays, hready⟩ := hset
  have htimer : Secured (s.setState .ready).unscheduleTimer :=
    hsecured.apart (apart_set _ _ _ _ _ _ _ _)
  change Secured (s.setState .ready).unscheduleTimer.tellReady
  unfold TcpChannel.tellReady
  split
  · exact htimer
  · exact htimer.useHandler hstays (not_early_of_ready hready) _ _

/-- A failed check of the pin stops a channel that has not been used. -/
theorem Secured.refuse (h : Secured s) (hsound : Sound s) (hearly : s.state.Early)
    (result : BCResult) (reason : Reason) :
    Secured ((s.note (.verifySpkiPin false)).fail result reason) := by
  have hnoted : Sound (s.note (.verifySpkiPin false)) := hsound.note trivial
  have hclosing := TcpChannel.closing_fail (s.note (.verifySpkiPin false)) result reason
  have hstate := (hnoted.fail result reason).closing_iff.mp hclosing
  have hquiet := (s.note (.verifySpkiPin false)).quiet_fail result reason
  generalize (s.note (.verifySpkiPin false)).fail result reason = s' at hclosing hstate hquiet ⊢
  obtain ⟨new, hnew, hnone⟩ := hquiet.apart.trace_append
  have hunused := h.unused hearly
  have hfree : ∀ a ∈ s'.trace, ¬ a.Uses ∧ ¬ a.MakesReady := by
    intro a ha
    rw [hnew] at ha
    rcases List.mem_append.mp ha with ha | ha
    · rcases List.mem_append.mp ha with ha | ha
      · exact ⟨(hunused.trace_free a ha).1, (hunused.trace_free a ha).2.1⟩
      · rw [List.mem_singleton.mp ha]
        exact ⟨not_false, not_false⟩
    · exact ⟨(hnone a ha).1, (hnone a ha).2.1⟩
  have hunspoiled {q : Action → Prop} : Preceded Action.Uses q s'.trace :=
    preceded_nil.append fun a ha => (hfree a ha).1
  refine ⟨?_, ?_, ?_, ?_, fun _ => hunspoiled, fun _ _ => hunspoiled,
    fun _ => ⟨hclosing, fun a ha => (hfree a ha).2⟩⟩
  · rintro ⟨-, hnot, hnot'⟩
    exact hstate.elim (fun hgone => absurd hgone hnot) fun hgone => absurd hgone hnot'
  · exact fun _ _ => Or.inr hclosing
  · intro hready
    rw [hready] at hstate
    simp at hstate
  · intro i hi huses
    exact absurd huses (hunused.stack_free i (hquiet.apart.stack_append i hi huses))

/-- `OnSSLReady`, after the handshake. -/
theorem Secured.onSSLReady (h : Secured s) (hsound : Sound s) (hhandshake : .handshake ∈ s.trace)
    (leaf : Option X509) : Secured (s.onSSLReady p leaf) := by
  unfold TcpChannel.onSSLReady
  split
  · exact h
  · rename_i hgo
    have hopen : s.closing = false := open_of_not_or hgo
    have hstate : s.state = .tlsHandshake := by
      by_contra hne
      exact hgo (Or.inr hne)
    rcases verifySpkiPin_cases p s leaf with ⟨hr, hpin⟩ | hr | ⟨reason, hr⟩
    · rw [hr]
      exact h.enterReady hopen fun _ => ⟨hhandshake, fun hne => absurd hpin hne⟩
    · rw [hr]
      have hnoted : Secured (s.note (.verifySpkiPin true)) :=
        h.apart (apart_note s not_false not_false (by simp))
      apply hnoted.enterReady hopen
      intro _
      refine ⟨List.mem_append_left _ hhandshake, fun _ => ?_⟩
      exact List.mem_append_right _ (List.mem_singleton_self _)
    · rw [hr]
      apply h.refuse hsound
      rw [hstate]
      simp [State.Early]

/-- `SSL_connect` returns. -/
theorem Secured.onSslConnect (h : Secured s) (hsound : Sound s) (result : Tls.HandshakeResult)
    (leaf : Option X509) (badVerify : Bool) :
    Secured (s.onSslConnect p result leaf badVerify) := by
  cases result with
  | done =>
    have hnoted : Secured (s.note .handshake) :=
      h.apart (apart_note s not_false not_false (by simp))
    have hsnoted : Sound (s.note .handshake) := hsound.note trivial
    apply Secured.onSSLReady
    · apply hnoted.apart
      refine ⟨rfl, rfl, Or.inl rfl, fun _ hlayer => Or.inl ?_, id, fun _ hi _ => hi, [], ?_, ?_⟩
      · simpa [TcpChannel.note] using hlayer
      · simp
      · simp
    · exact { hsnoted with }
    · exact List.mem_append_right _ (List.mem_singleton_self _)
  | shutdown => exact h
  | failed reported =>
    cases reported with
    | true => exact h.quiet (s.quiet_onSSLError _)
    | false => exact h

/-- Handing over plaintext. -/
theorem Secured.deliver (h : Secured s) (blocks : List (List UInt8)) (finished : Bool) :
    Secured (s.deliver blocks finished) := by
  cases blocks with
  | cons block blocks =>
    exact (h.apart (apart_push s (by simp [Instr.Uses]))).onRecvDataFromSSL block
  | nil =>
    cases finished with
    | true => exact h.quiet s.quiet_onSSLFinished
    | false => exact h

/-- Writing application data. -/
theorem Secured.writeSSL (h : Secured s) (hverified : Verified s) (hlate : ¬ s.state.Early)
    (blocks : List (List UInt8)) : Secured (s.writeSSL blocks) := by
  cases blocks with
  | cons block blocks =>
    apply (h.use hverified hlate (a := .sslWrite block) not_false (by simp)).push
    · exact hverified.mono rfl rfl fun b hb => List.mem_append_left _ hb
    · exact hlate
  | nil => exact h

/-- `_OnConnectDone`. -/
theorem Secured.onConnectDone (h : Secured s) (result rearm : BCResult) :
    Secured (s.onConnectDone result rearm) := by
  unfold TcpChannel.onConnectDone
  split
  · exact h.quiet (s.quiet_fail _ _)
  · split
    · exact h
    · rename_i hgo
      have hopen : s.closing = false := open_of_not_or hgo
      have hstate : s.state = .connecting := by
        by_contra hne
        exact hgo (Or.inr hne)
      split
      · have hset : Secured (s.setState .tlsHandshake) := by
          apply h.apart
          apply apart_setState
          · rw [hstate]
            simp [State.Early]
          · simp [State.Early]
          · nofun
        have hrecv := hset.quiet (TcpChannel.quiet_tcpRecv _ rearm)
        unfold TcpChannel.startHandshake
        split
        · exact hrecv.quiet (TcpChannel.quiet_enterSsl _ (by simp [Instr.Quiet]))
        · exact hrecv.quiet (TcpChannel.quiet_crash _)
      · rename_i hlayer
        have hpush : Secured (s.push [.tcpRecv]) :=
          h.apart (apart_push s (by simp [Instr.Uses]))
        apply hpush.enterReady hopen
        intro htls
        rcases h.connecting hstate htls with hsome | hclosing
        · exact absurd hsome hlayer
        · exact absurd (hopen.symm.trans hclosing) Bool.false_ne_true

/-- `_OnRecvDone`. -/
theorem Secured.onRecvDone (h : Secured s) (bytes : List UInt8) :
    Secured (s.onRecvDone bytes) := by
  unfold TcpChannel.onRecvDone
  split
  · rename_i l hl
    have hfilled :=
      s.quiet_mapLayer (fun l => { l with buffer := some (l.buffer.getD [] ++ bytes) })
      fun _ => rfl
    rw [hl] at hfilled
    exact (h.quiet hfilled).quiet (TcpChannel.quiet_enterSsl _ (by simp [Instr.Quiet]))
  · exact h.onRecvDataFromSSL bytes

/-- `_ConnectDoneCallback`. -/
theorem Secured.connectDoneCallback (h : Secured s) (result rearm : BCResult) :
    Secured (s.connectDoneCallback result rearm) := by
  have hover : Quiet s s.connectOver :=
    (s.quiet_counting _ _ _ _ _ _ _).trans (TcpChannel.quiet_push _ (by simp [Instr.Quiet]))
  exact (h.quiet hover).onConnectDone result rearm

/-- `_RecvDoneCallback`. -/
theorem Secured.recvDoneCallback (h : Secured s) (result : RecvResult) :
    Secured (s.recvDoneCallback result) := by
  have hover : Quiet s s.recvOver :=
    (s.quiet_counting _ _ _ _ _ _ _).trans (TcpChannel.quiet_push _ (by simp [Instr.Quiet]))
  have hsecured := h.quiet hover
  cases result with
  | success bytes =>
    change Secured (if bytes = [] then _ else _)
    split
    · exact hsecured.quiet (TcpChannel.quiet_onPeerClosed _)
    · exact (hsecured.apart (apart_push _ (by simp [Instr.Uses]))).onRecvDone bytes
  | eof => exact hsecured.quiet (TcpChannel.quiet_onPeerClosed _)
  | canceled => exact hsecured
  | failed result => exact hsecured.quiet (TcpChannel.quiet_fail _ _ _)

/-- The task of `Send`. -/
theorem Secured.sendTask (h : Secured s) (sends : ℕ → BCResult) (buf : List (List UInt8)) :
    Secured (s.sendTask sends buf) := by
  unfold TcpChannel.sendTask
  split
  · exact h.quiet s.quiet_maybeFinishClose
  · rename_i hready
    have hready := not_not.mp hready
    split
    · have hcount : Quiet s { s with counters.sslDepth := s.counters.sslDepth + 1 } :=
        s.quiet_counting _ _ _ _ _ _ _
      exact (h.quiet hcount).push (h.ready hready) (not_early_of_ready hready) _
    · exact h.quiet (s.quiet_sendRaw _ _)

/-- The task of `Adopt`. -/
theorem Secured.adoptTask (h : Secured s) (handler : HandlerId) :
    Secured (s.adoptTask handler) := by
  unfold TcpChannel.adoptTask
  split
  · exact (h.apart (apart_push s (by simp [Instr.Uses]))).callHandler handler not_false
  · rename_i husable
    obtain ⟨-, -, hready⟩ := not_not.mp husable
    have hlate := not_early_of_ready hready
    have hadopted : Secured { s with parked := false, handler := some handler } :=
      h.apart (apart_set s _ _ _ _ _ _ _)
    split
    · exact hadopted.useHandler (h.ready hready) hlate _ _
    · exact (hadopted.push (h.ready hready) hlate _).callHandler _ not_false

/-- What follows a preparation. -/
theorem Attempt.secured_andThen {r : TcpChannel × BCResult} {f : TcpChannel → TcpChannel}
    (hattempt : Attempt s r) (h : Secured s) (hstate : s.state ≠ .connecting)
    (hf : r.2 = .success → Preparing s r.1 → Secured r.1 → Secured (f r.1)) :
    Secured (TcpChannel.andThen r f) := by
  rcases hattempt with ⟨hok, hprepare⟩ | ⟨hne, s', result, reason, hprepare, hr⟩
  · apply andThen_cases
    · exact fun hne => absurd hok hne
    · exact fun _ => hf hok hprepare (h.apart (hprepare.apart hstate))
  · apply andThen_cases
    · intro _
      rw [hr]
      exact (h.apart (hprepare.apart hstate)).quiet (s'.quiet_fail _ _)
    · exact fun hok => absurd hok hne

/-- `_DecidePinBeforeConnect` leaves the TLS layer alone, if it succeeds. -/
theorem sslLayer_decidePinBeforeConnect (s : TcpChannel) (a : PinningAnswers)
    (hok : (s.decidePinBeforeConnect p a).2 = .success) :
    (s.decidePinBeforeConnect p a).1.sslLayer = s.sslLayer := by
  unfold TcpChannel.decidePinBeforeConnect at hok ⊢
  split
  · rfl
  · rename_i htarget
    rw [if_neg htarget] at hok
    split
    · rename_i hforce
      rw [if_pos hforce] at hok
      split
      · rfl
      · rename_i hroute
        rw [if_neg hroute] at hok
        cases hok
    · split <;> rfl

/-- `_PinSocket` leaves the TLS layer alone, if it succeeds. -/
theorem sslLayer_pinSocket (s : TcpChannel) (a : PinningAnswers)
    (hok : (s.pinSocket p a).2 = .success) : (s.pinSocket p a).1.sslLayer = s.sslLayer := by
  unfold TcpChannel.pinSocket at hok ⊢
  split
  · rfl
  · rename_i htarget
    rw [if_neg htarget] at hok
    split
    · rfl
    · rename_i hpin
      rw [if_neg hpin] at hok
      split
      · rename_i hforce
        rw [if_pos hforce] at hok
        cases hok
      · rfl

/-- `_SetupTls` makes the TLS layer, if it succeeds. -/
theorem sslLayer_setupTls (s : TcpChannel) (a : PinningAnswers)
    (hok : (s.setupTls a).2 = .success) : (s.setupTls a).1.sslLayer.isSome = true := by
  unfold TcpChannel.setupTls at hok ⊢
  cases hctx : a.sslCtx with
  | some err =>
    rw [hctx] at hok
    cases hok
  | none =>
    rw [hctx] at hok
    dsimp only at hok ⊢
    split
    · rename_i hnew
      rw [if_pos hnew] at hok
      cases hok
    · rename_i hnew
      rw [if_neg hnew] at hok
      split
      · rename_i hprepare
        rw [if_pos hprepare] at hok
        exact absurd hok hprepare
      · rename_i hprepare
        rw [if_neg hprepare] at hok
        split
        · rename_i hlayer
          rw [if_pos hlayer] at hok
          exact absurd hok hlayer
        · rfl

/-- The end of `_EnterPinning`, with a TLS layer if one is needed. -/
theorem Secured.connectSocket (h : Secured s) (hstate : s.state = .pinning)
    (hlayer : s.config.tls = true → s.sslLayer.isSome = true) (a : PinningAnswers) :
    Secured (s.connectSocket a) := by
  have hset : Secured (s.setState .connecting) := by
    apply h.apart
    apply apart_setState
    · rw [hstate]
      simp [State.Early]
    · simp [State.Early]
    · exact fun _ => hlayer
  have hnoted := hset.apart
    (apart_note _ (a := .connect a.fd) not_false not_false (by simp))
  change Secured (TcpChannel.onConnectCalled _ _)
  unfold TcpChannel.onConnectCalled
  split
  · exact hnoted.quiet (TcpChannel.quiet_counting _ _ _ _ _ _ _ _)
  · exact hnoted.quiet (TcpChannel.quiet_fail _ _ _)

/-- The part of `_EnterPinning` that makes the socket. -/
theorem Secured.openSocket (h : Secured s) (hstate : s.state = .pinning)
    (hlayer : s.config.tls = true → s.sslLayer.isSome = true) (a : PinningAnswers) :
    Secured (s.openSocket p a) := by
  have hnot {s : TcpChannel} (hstate : s.state = .pinning) : s.state ≠ .connecting := by
    rw [hstate]
    simp
  unfold TcpChannel.openSocket
  split
  · have hnone : Preparing s { s with socket := none } := preparing_set s _ _ _ _ _ _ _ _
    exact (h.apart (hnone.apart (hnot hstate))).quiet (TcpChannel.quiet_fail _ _ _)
  · have hsome : Preparing s { s with socket := some a.fd } := preparing_set s _ _ _ _ _ _ _ _
    apply (attempt_decidePinBeforeConnect p _ a).secured_andThen
      (h.apart (hsome.apart (hnot hstate))) (hnot hstate)
    intro hdecided hprepared hsecured
    have hpinning := hprepared.state_eq.trans hstate
    apply (attempt_pinSocket p _ a).secured_andThen hsecured (hnot hpinning)
    intro hpinned hprepared' hsecured'
    apply hsecured'.connectSocket (hprepared'.state_eq.trans hpinning)
    intro htls
    rw [sslLayer_pinSocket _ a hpinned, sslLayer_decidePinBeforeConnect _ a hdecided]
    apply hlayer
    rw [hprepared'.config_eq, hprepared.config_eq] at htls
    exact htls

/-- `_EnterPinning`. -/
theorem Secured.enterPinning (h : Secured s) (hstate : s.state = .resolving)
    (a : PinningAnswers) : Secured (s.enterPinning p a) := by
  have hset : Secured (s.setState .pinning) := by
    apply h.apart
    apply apart_setState
    · rw [hstate]
      simp [State.Early]
    · simp [State.Early]
    · nofun
  have hpinning : (s.setState .pinning).state = .pinning := by
    simp [TcpChannel.setState, hstate]
  change Secured ((s.setState .pinning).pinning p a)
  unfold TcpChannel.pinning
  split
  · apply (attempt_setupTls _ a).secured_andThen hset
    · rw [hpinning]
      simp
    · intro hok hprepared hsecured
      apply hsecured.openSocket (hprepared.state_eq.trans hpinning)
      exact fun _ => sslLayer_setupTls _ a hok
  · rename_i htls
    exact hset.openSocket hpinning (fun htls' => absurd htls' htls) a

/-- `_OnResolveDone`. -/
theorem Secured.onResolveDone (h : Secured s) (r : DnsResult) (a : PinningAnswers) :
    Secured (s.onResolveDone p r a) := by
  have hover : Quiet s s.dnsOver := s.quiet_counting _ _ _ _ _ _ _
  have hsecured := h.quiet hover
  unfold TcpChannel.onResolveDone
  split
  · exact hsecured.quiet (TcpChannel.quiet_maybeFinishClose _)
  · rename_i hgo
    have hstate : s.dnsOver.state = .resolving := by
      by_contra hne
      exact hgo (Or.inr hne)
    unfold TcpChannel.onResolved
    split
    · exact hsecured.quiet (TcpChannel.quiet_fail _ _ _)
    · split
      · exact hsecured.quiet (TcpChannel.quiet_fail _ _ _)
      · rename_i addr _ _ _
        have hpeer : Preparing s.dnsOver
            { s.dnsOver with peerAddr := some { addr with port := s.dnsOver.config.port } } :=
          preparing_set s.dnsOver _ _ _ _ _ _ _ _
        have hnot : s.dnsOver.state ≠ .connecting := by
          rw [hstate]
          simp
        exact (hsecured.apart (hpeer.apart hnot)).enterPinning hstate a

/-- A posted task. -/
theorem Secured.perform (h : Secured s) (a : PinningAnswers) (sends : ℕ → BCResult) (t : Task) :
    Secured (s.perform p a sends t) := by
  have hreleased := h.quiet (s.quiet_counting _ _ _ _ _ _ _ : Quiet s s.releasePendingTask)
  cases t with
  | call c =>
    cases c with
    | send buf => exact hreleased.sendTask sends buf
    | close => exact hreleased.quiet (TcpChannel.quiet_fail _ _ _)
    | adopt handler => exact hreleased.adoptTask handler
  | resolveDone r => exact hreleased.onResolveDone r a
  | noDnsExecutor => exact hreleased.quiet (TcpChannel.quiet_fail _ _ _)

/-- An unused channel may be given another configuration. -/
theorem Unused.secured (h : Unused s) (hstate : s.state = .idle) : Secured s where
  unused := fun _ => h
  connecting := by
    intro hconnecting
    rw [hstate] at hconnecting
    cases hconnecting
  ready := by
    intro hready
    rw [hstate] at hready
    cases hready
  using_stack := fun i hi huses => absurd huses (h.stack_free i hi)
  handshake_first := fun _ => preceded_nil.append fun a ha => (h.trace_free a ha).1
  pin_first := fun _ _ => preceded_nil.append fun a ha => (h.trace_free a ha).1
  pin_failed := fun hmem => absurd rfl (h.trace_free _ hmem).2.2

/-- The end of `Open`, with an event queue. -/
theorem Secured.startResolving (h : Secured s) (hidle : s.state = .idle) (handler : HandlerId)
    (a : OpenAnswers) : Secured (s.startResolving p handler a) := by
  set created : TcpChannel :=
    { s with queueCreated := true, handler := some handler, connectTimer := true }
  have hcreated : Secured created := h.apart (apart_set s _ _ _ _ _ _ _)
  have hset : Secured (created.setState .resolving) := by
    apply hcreated.apart
    apply apart_setState
    · rw [show created.state = .idle from hidle]
      simp [State.Early]
    · simp [State.Early]
    · nofun
  change Secured (TcpChannel.resolve p (created.setState .resolving) a)
  unfold TcpChannel.resolve
  split
  · exact hset.quiet (TcpChannel.quiet_postCounted _ _)
  · split
    · exact hset.quiet (TcpChannel.quiet_counting _ _ _ _ _ _ _ _)
    · exact hset.quiet (TcpChannel.quiet_postCounted _ _)

/-- `Open`. -/
theorem Secured.openChannel (h : Secured s) (handler : Option HandlerId)
    (cfg : TcpChannelConfig) (a : OpenAnswers) : Secured (s.openChannel p handler cfg a) := by
  have hreturn {s : TcpChannel} (h : Secured s) (result : BCResult) :
      Secured (s.note (.opened result)) :=
    h.apart (apart_note s not_false not_false (by simp))
  unfold TcpChannel.openChannel
  split
  · exact hreturn h _
  · rename_i handler
    split
    · exact hreturn h _
    · rename_i hidle
      have hidle := not_not.mp hidle
      have hbound {s : TcpChannel} (h : Secured s) (hidle : s.state = .idle) :
          Secured (s.openBound p handler a) := by
        unfold TcpChannel.openBound
        split
        · exact hreturn h _
        · split
          · exact hreturn h _
          · exact hreturn (h.startResolving hidle handler a) _
      split
      · exact hreturn h _
      · have hunused : Unused s := by
          apply h.unused
          rw [hidle]
          simp [State.Early]
        have hstored : Secured { s with config := TcpChannel.storedConfig p cfg } :=
          Unused.secured ⟨hunused.trace_free, hunused.stack_free⟩ hidle
        unfold TcpChannel.openConfigured
        split
        · exact hreturn hstored _
        · split
          · exact hbound hstored hidle
          · exact hbound (hstored.apart (apart_set _ _ _ _ _ _ _ _)) hidle

/-- The next thing on the stack is done. -/
theorem Secured.continueWith (h : Secured s) (hsound : Sound s) {i : Instr}
    (huse : i.Uses → Verified s ∧ ¬ s.state.Early) {answer : Answer X509}
    (hdone : s.continueWith p answer i = some s') : Secured s' := by
  have hpush {j : Instr} (hj : j.Uses → i.Uses) : Secured (s.push [j]) := by
    by_cases huses : j.Uses
    · obtain ⟨hverified, hlate⟩ := huse (hj huses)
      exact h.push hverified hlate _
    · exact h.apart (apart_push s (by simpa using huses))
  cases i with
  | maybeFinishClose =>
    cases answer <;> cases hdone
    exact h.quiet s.quiet_maybeFinishClose
  | leaveSsl =>
    cases answer <;> cases hdone
    exact h.quiet s.quiet_leaveSsl
  | tcpRecv =>
    cases answer <;> cases hdone
    exact h.quiet (s.quiet_tcpRecv _)
  | connectSSL =>
    cases answer <;> cases hdone
    exact h.quiet s.quiet_connectSSL
  | sslConnect =>
    cases answer <;> cases hdone
    · exact (hpush id).quiet (TcpChannel.quiet_onSSLWrite _ _ _)
    · exact (hpush id).quiet (TcpChannel.quiet_sockRead _ _)
    · exact h.onSslConnect hsound _ _ _
  | readSSL =>
    cases answer <;> cases hdone
    exact h.quiet s.quiet_readSSL
  | sslRead =>
    cases answer <;> cases hdone
    · exact (hpush id).quiet (TcpChannel.quiet_onSSLWrite _ _ _)
    · exact (hpush id).quiet (TcpChannel.quiet_sockRead _ _)
    · exact h.quiet (s.quiet_onSslRead _ _)
  | deliver blocks finished =>
    cases answer <;> cases hdone
    exact h.deliver _ _
  | writeSSL blocks =>
    cases answer <;> cases hdone
    obtain ⟨hverified, hlate⟩ := huse trivial
    exact h.writeSSL hverified hlate _
  | sslWrite blocks =>
    cases answer <;> cases hdone
    · exact (hpush id).quiet (TcpChannel.quiet_onSSLWrite _ _ _)
    · exact (hpush id).quiet (TcpChannel.quiet_sockRead _ _)
    · exact hpush id
  | inHandler =>
    cases answer <;> cases hdone
    exact h
  | adoptFailed =>
    cases answer <;> cases hdone
    exact h.quiet (s.quiet_fail _ _)
  | adoptReady =>
    cases answer <;> cases hdone
    obtain ⟨hverified, hlate⟩ := huse trivial
    unfold TcpChannel.adoptReady
    split
    · exact h.quiet s.quiet_crash
    · exact h.useHandler hverified hlate _ _

/-- The channel's thread goes on. -/
theorem Secured.resume (h : Secured s) (hsound : Sound s) (answer : Answer X509) :
    Secured (s.resume p answer) := by
  unfold TcpChannel.resume
  split
  · exact h
  · rename_i i stack hstack
    cases hdone : TcpChannel.continueWith p { s with stack := stack } answer i with
    | none => exact h
    | some s' =>
      change Secured s'
      have hpop := h.pop hstack
      by_cases hleave : i = .leaveSsl
      · subst hleave
        cases answer <;> cases hdone
        exact hpop.quiet (TcpChannel.quiet_leaveSsl _)
      · apply hpop.continueWith (hsound.pop hstack hleave) _ hdone
        intro huses
        have hmem : i ∈ s.stack := by
          rw [hstack]
          exact List.mem_cons_self
        have hverified := h.using_stack i hmem huses
        exact ⟨hverified, fun hearly => (h.unused hearly).stack_free i hmem huses⟩

/-- The shutdown callback of the queue. -/
theorem Secured.onEventProcShutdown (h : Secured s) : Secured s.onEventProcShutdown := by
  have hshut : Secured { s with shutdownPending := false } := h.apart (apart_set s _ _ _ _ _ _ _)
  unfold TcpChannel.onEventProcShutdown
  split
  · unfold TcpChannel.tellClosed
    split
    · exact hshut
    · have hleft : Secured { s with shutdownPending := false, handler := none } :=
        h.apart (apart_set s _ _ _ _ _ _ _)
      exact hleft.callHandler _ not_false
  · exact hshut

/-- Every step keeps a channel secured. -/
theorem Secured.step (h : Secured s) (hsound : Sound s) (e : Event X509) :
    Secured (TcpChannel.step p s e) := by
  have hdispatched {f : TcpChannel → TcpChannel} (hf : Secured (f s)) :
      Secured (s.dispatched f) := by
    unfold TcpChannel.dispatched
    split
    · exact hf
    · exact h
  unfold TcpChannel.step
  split
  · exact h
  · cases e with
    | openChannel handler cfg a => exact h.openChannel handler cfg a
    | call c => exact h.quiet (s.quiet_call c)
    | acquire i => exact h.quiet (s.quiet_acquire i)
    | post i => exact h.quiet (s.quiet_post i)
    | park watcher =>
      change Secured (s.park watcher)
      unfold TcpChannel.park
      split
      · exact h
      · exact h.apart (apart_set s _ _ _ _ _ _ _)
    | dnsStart => exact h.quiet s.quiet_dnsStart
    | dnsDone r => exact h.quiet (s.quiet_dnsDone r)
    | runTask a sends =>
      apply hdispatched
      unfold TcpChannel.runTask
      split
      · exact h
      · rename_i t tasks _
        have htaken : Secured { s with tasks := tasks } :=
          h.quiet (s.quiet_counting _ _ _ _ _ _ _)
        exact htaken.perform a sends t
    | connectDone result rearm =>
      apply hdispatched
      split
      · exact h.connectDoneCallback result rearm
      · exact h
    | recvDone result =>
      apply hdispatched
      split
      · exact h.recvDoneCallback result
      · exact h
    | sendDone result =>
      apply hdispatched
      split
      · exact h.quiet (s.quiet_sendDoneCallback result)
      · exact h
    | timeout => exact hdispatched (h.quiet s.quiet_timeout)
    | shutdown =>
      apply hdispatched
      split
      · exact h.onEventProcShutdown
      · exact h
    | resume answer => exact h.resume hsound answer

/-- Every channel is secured at any time. -/
theorem secured_run (p : Platform X509) (config : TcpChannelConfig) (events : List (Event X509)) :
    Secured (run (TcpChannel.step p) (TcpChannel.create config) events) := by
  have hcreate : Secured (TcpChannel.create config) :=
    Unused.secured ⟨by simp [TcpChannel.create], by simp [TcpChannel.create]⟩ rfl
  have hstep (s : TcpChannel) (e : Event X509) (h : Upright s ∧ Secured s) :
      Upright (TcpChannel.step p s e) ∧ Secured (TcpChannel.step p s e) :=
    ⟨h.1.step e, h.2.step h.1.sound e⟩
  have hrun := invariant (I := fun s => Upright s ∧ Secured s) hstep
    ⟨upright_create config, hcreate⟩ events
  exact hrun.2

/-- What a TLS channel owes to its user. -/
structure VerifiedBeforeUse (s : TcpChannel) : Prop where
  /-- It is used only after the handshake. -/
  handshake_first : s.config.tls = true → Preceded Action.Uses (· = .handshake) s.trace
  /-- With a pin it is used only after the certificate of the peer has passed the check. -/
  pin_first : s.config.tls = true → s.config.tlsCfg.spkiPin ≠ [] →
    Preceded Action.Uses (· = .verifySpkiPin true) s.trace
  /-- If the check has failed, it is not ready and has never been. -/
  pin_failed : .verifySpkiPin false ∈ s.trace →
    s.state ≠ .ready ∧ ∀ a ∈ s.trace, ¬ a.MakesReady

/-- Over any order of events a TLS channel is verified before use. -/
theorem verifiedBeforeUse_run (p : Platform X509) (config : TcpChannelConfig)
    (events : List (Event X509)) :
    VerifiedBeforeUse (run (TcpChannel.step p) (TcpChannel.create config) events) := by
  have hsecured := secured_run p config events
  have hsound := (upright_run p config events).sound
  generalize run (TcpChannel.step p) (TcpChannel.create config) events = s at hsecured hsound ⊢
  refine ⟨hsecured.handshake_first, hsecured.pin_first, ?_⟩
  intro hfailed
  obtain ⟨hclosing, hnever⟩ := hsecured.pin_failed hfailed
  refine ⟨?_, hnever⟩
  intro hready
  have hopen := hsound.open_of_ready hready
  exact absurd (hopen.symm.trans hclosing) Bool.false_ne_true

end Tcp
