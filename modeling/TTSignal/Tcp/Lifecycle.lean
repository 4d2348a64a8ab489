import TTSignal.Runs
import TTSignal.Tcp.Sound

/-!
# The life of a TCP channel

Every step of a channel keeps its bookkeeping right, and whenever nothing is pending in a
closing channel, the work that finishes it is still on the stack. So over every run the
transitions are legal, the handler is told once that the channel is closed and nothing
after that, and a channel that closes never gets stuck.
-/

namespace Tcp

open Runs Traces

/-- The channel's thread has gone on with right bookkeeping: nothing new is left to be
finished, and the work on the stack is still there. -/
structure Onward (s s' : TcpChannel) : Prop where
  /-- The bookkeeping is right. -/
  sound : Sound s'
  /-- The channel can be finished only if it could before. -/
  awake : s'.MayFinish → s.MayFinish
  /-- The stack has grown. -/
  stack_append : ∃ new, s'.stack = new ++ s.stack ∧ Instr.adoptReady ∉ new

/-- While a handler is told that its channel has been adopted, nothing else is done. -/
def AdoptWaits (s : TcpChannel) : Prop :=
  .adoptReady ∈ s.stack →
    s.closing = false ∧ (s.stack = [.inHandler, .adoptReady] ∨ s.stack = [.adoptReady])

variable {X509 : Type*} {p : Platform X509} {s s' s'' : TcpChannel}

/-- Nothing has been done. -/
theorem Onward.refl (h : Sound s) : Onward s s := ⟨h, id, [], rfl, by simp⟩

/-- The thread goes on. -/
theorem Onward.trans (h : Onward s s') (h' : Onward s' s'') : Onward s s'' := by
  obtain ⟨new, hnew, hfree⟩ := h.stack_append
  obtain ⟨new', hnew', hfree'⟩ := h'.stack_append
  refine ⟨h'.sound, fun hmay => h.awake (h'.awake hmay), new' ++ new, ?_, ?_⟩
  · rw [hnew', hnew, List.append_assoc]
  · simp [hfree, hfree']

/-- Quiet work that settles the channel. -/
theorem Onward.of_settled (hquiet : Quiet s s') (h : Settled s') : Onward s s' := by
  obtain ⟨new, hnew, hall⟩ := hquiet.stack_append
  exact ⟨h.sound, fun hmay => absurd hmay h.finished, new, hnew, fun hmem => hall _ hmem⟩

/-- Work is put on the stack. -/
theorem Sound.onward_push (h : Sound s) {instrs : List Instr} (hleave : Instr.leaveSsl ∉ instrs)
    (hadopt : Instr.adoptReady ∉ instrs) : Onward s (s.push instrs) :=
  ⟨h.push hleave, id, instrs, rfl, hadopt⟩

/-- A silent action is recorded. -/
theorem Sound.onward_note (h : Sound s) {a : Action} (ha : a.Silent) : Onward s (s.note a) :=
  ⟨h.note ha, id, [], rfl, by simp⟩

/-- A handler is called. -/
theorem Sound.onward_callHandler (h : Sound s) (hnot : s.closedNotified = false) {c : Callback}
    (handler : HandlerId) (hc : ¬ (Action.callback handler c).TellsClosed) :
    Onward s (s.callHandler handler c) :=
  ⟨h.callHandler hnot handler hc, id, [.inHandler], rfl, by simp⟩

/-- `_Fail`. -/
theorem Sound.onward_fail (h : Sound s) (result : BCResult) (reason : Reason) :
    Onward s (s.fail result reason) :=
  Onward.of_settled (s.quiet_fail result reason) (h.settled_fail result reason)

/-- A call of the TLS layer is entered. -/
theorem Sound.settled_enterSsl (h : Sound s) (hopen : s.closedNotified = false)
    {instrs : List Instr} (hleave : Instr.leaveSsl ∉ instrs) : Settled (s.enterSsl instrs) := by
  refine ⟨?_, ?_⟩
  · exact
      { h with
        counters_zero := by
          intro hnotified
          rw [show (s.enterSsl instrs).closedNotified = s.closedNotified from rfl, hopen]
            at hnotified
          cases hnotified
        depth_eq := by
          change s.counters.sslDepth + 1 =
            ((instrs ++ [Instr.leaveSsl]) ++ s.stack).count Instr.leaveSsl
          rw [List.count_append, List.count_append, List.count_eq_zero_of_not_mem hleave,
            ← h.depth_eq]
          simp
          omega }
  · apply not_mayFinish_of_pending
    intro hzero
    have hdepth := congrArg Counters.sslDepth hzero
    exact absurd hdepth (Nat.succ_ne_zero _)

/-- A send operation is started by an open channel. -/
theorem Sound.sendStarted (h : Sound s) (hopen : s.closing = false) :
    Sound { s with
      counters.pendingSend := s.counters.pendingSend + 1
      ops.sends := s.ops.sends + 1 } :=
  { h with
    counters_zero := fun hnotified =>
      absurd ((h.not_notified hopen).symm.trans hnotified) Bool.false_ne_true
    sends_eq := by
      change s.counters.pendingSend + 1 = s.ops.sends + 1
      rw [h.sends_eq] }

/-- A receive operation is started by an open channel. -/
theorem Sound.recvStarted (h : Sound s) (hopen : s.closing = false) :
    Sound { s with
      counters.pendingRecv := s.counters.pendingRecv + 1
      ops.recvs := s.ops.recvs + 1 } :=
  { h with
    counters_zero := fun hnotified =>
      absurd ((h.not_notified hopen).symm.trans hnotified) Bool.false_ne_true
    recvs_eq := by
      change s.counters.pendingRecv + 1 = s.ops.recvs + 1
      rw [h.recvs_eq] }

/-- The send calls of an open channel. -/
theorem Sound.settled_sendSlices (h : Sound s) (hopen : s.closing = false)
    (sends : ℕ → BCResult) (k : ℕ) (slices : List (List (List UInt8))) :
    Settled (TcpChannel.sendSlices sends k slices s) := by
  induction slices generalizing s k with
  | nil => exact h.settled hopen
  | cons slice rest ih =>
    unfold TcpChannel.sendSlices
    split
    · exact h.settled hopen
    · split
      · apply ih
        · exact h.sendStarted hopen
        · exact hopen
      · exact h.settled_fail _ _

/-- `_SendRaw`. -/
theorem Sound.onward_sendRaw (h : Sound s) (sends : ℕ → BCResult) (buf : List (List UInt8)) :
    Onward s (s.sendRaw sends buf) := by
  have hquiet := s.quiet_sendRaw sends buf
  unfold TcpChannel.sendRaw at hquiet ⊢
  split
  · exact Onward.refl h
  · rename_i hsend
    rw [if_neg hsend] at hquiet
    have hopen : s.closing = false := open_of_not_or hsend
    exact Onward.of_settled hquiet (h.settled_sendSlices hopen _ _ _)

/-- `OnSSLWrite`. -/
theorem Sound.onward_onSSLWrite (h : Sound s) (sends : ℕ → BCResult) (data : List UInt8) :
    Onward s (s.onSSLWrite sends data) := by
  unfold TcpChannel.onSSLWrite
  split
  · exact Onward.refl h
  · split
    · exact Onward.refl h
    · exact h.onward_sendRaw _ _

/-- `_TcpRecv`. -/
theorem Sound.onward_tcpRecv (h : Sound s) (result : BCResult) : Onward s (s.tcpRecv result) := by
  have hquiet := s.quiet_tcpRecv result
  unfold TcpChannel.tcpRecv at hquiet ⊢
  split
  · exact Onward.refl h
  · rename_i hrecv
    rw [if_neg hrecv] at hquiet
    have hopen : s.closing = false := open_of_not_or hrecv
    apply Onward.of_settled hquiet
    split
    · exact (h.recvStarted hopen).settled hopen
    · exact h.settled_fail _ _

/-- `_OnPeerClosed`. -/
theorem Sound.settled_onPeerClosed (h : Sound s) : Settled s.onPeerClosed := by
  unfold TcpChannel.onPeerClosed
  split
  · exact h.settled_fail _ _
  · split
    · exact h.settled_fail _ _
    · exact h.settled_fail _ _

/-- `OnRecvDataFromSSL`. -/
theorem Sound.onward_onRecvDataFromSSL (h : Sound s) (bytes : List UInt8) :
    Onward s (s.onRecvDataFromSSL bytes) := by
  unfold TcpChannel.onRecvDataFromSSL
  split
  · exact Onward.refl h
  · split
    · exact ⟨{ h with }, id, [], rfl, by simp⟩
    · split
      · exact Onward.refl h
      · split
        · exact Onward.refl h
        · rename_i hready
          have hopen := h.open_of_ready (not_not.mp hready)
          exact h.onward_callHandler (h.not_notified hopen) _ not_false

/-- What the next function does, after one that has succeeded or not. -/
theorem andThen_cases {P : TcpChannel → Prop} {r : TcpChannel × BCResult}
    {f : TcpChannel → TcpChannel} (hfail : r.2 ≠ .success → P r.1)
    (hok : r.2 = .success → P (f r.1)) : P (TcpChannel.andThen r f) := by
  unfold TcpChannel.andThen
  split
  · rename_i hne
    exact hfail hne
  · rename_i heq
    exact hok (not_not.mp heq)

/-- `_EnterReady`, from a state that may become ready. -/
theorem Sound.onward_enterReady (h : Sound s) (hopen : s.closing = false)
    (hlegal : isLegalTransition s.state .ready = true) : Onward s s.enterReady := by
  have hready : Sound (s.setState .ready) := h.setState hopen hlegal (by simp) (by simp)
  have hclosing : (s.setState .ready).closing = false := by
    unfold TcpChannel.setState
    split <;> exact hopen
  have hstack : (s.setState .ready).stack = s.stack := by
    unfold TcpChannel.setState
    split <;> rfl
  have htimer : Sound (s.setState .ready).unscheduleTimer := { hready with }
  have hstart : Onward s (s.setState .ready).unscheduleTimer :=
    ⟨htimer, fun hmay => absurd hmay (not_mayFinish_of_open hclosing), [], hstack, by simp⟩
  apply hstart.trans
  change Onward _ (s.setState .ready).unscheduleTimer.tellReady
  unfold TcpChannel.tellReady
  split
  · exact Onward.refl htimer
  · exact htimer.onward_callHandler (htimer.not_notified hclosing) _ not_false

/-- `_VerifySpkiPin` fails or changes nothing but the record. -/
theorem verifySpkiPin_cases (p : Platform X509) (s : TcpChannel) (leaf : Option X509) :
    s.verifySpkiPin p leaf = (s, .success) ∧ s.config.tlsCfg.spkiPin = [] ∨
      s.verifySpkiPin p leaf = (s.note (.verifySpkiPin true), .success) ∨
        ∃ reason, s.verifySpkiPin p leaf =
          ((s.note (.verifySpkiPin false)).fail .tlsVerifyFailed reason, .tlsVerifyFailed) := by
  unfold TcpChannel.verifySpkiPin
  split
  · rename_i hpin
    exact Or.inl ⟨rfl, hpin⟩
  · right
    split
    · exact Or.inr ⟨_, rfl⟩
    · split
      · exact Or.inr ⟨_, rfl⟩
      · exact Or.inl rfl

/-- `OnSSLReady`. -/
theorem Sound.onward_onSSLReady (h : Sound s) (leaf : Option X509) :
    Onward s (s.onSSLReady p leaf) := by
  unfold TcpChannel.onSSLReady
  split
  · exact Onward.refl h
  · rename_i hgo
    have hopen : s.closing = false := open_of_not_or hgo
    have hstate : s.state = .tlsHandshake := by
      by_contra hne
      exact hgo (Or.inr hne)
    have hlegal : isLegalTransition s.state .ready = true := by rw [hstate]; rfl
    rcases verifySpkiPin_cases p s leaf with ⟨hr, -⟩ | hr | ⟨reason, hr⟩
    · rw [hr]
      exact h.onward_enterReady hopen hlegal
    · rw [hr]
      have hnote : Onward s (s.note (.verifySpkiPin true)) := h.onward_note trivial
      exact hnote.trans (hnote.sound.onward_enterReady hopen hlegal)
    · rw [hr]
      have hnote : Onward s (s.note (.verifySpkiPin false)) := h.onward_note trivial
      exact hnote.trans (hnote.sound.onward_fail _ _)

/-- `SSL_connect` returns. -/
theorem Sound.onward_onSslConnect (h : Sound s) (result : Tls.HandshakeResult)
    (leaf : Option X509) (badVerify : Bool) :
    Onward s (s.onSslConnect p result leaf badVerify) := by
  cases result with
  | done =>
    set ready : TcpChannel :=
      { s.note .handshake with sslLayer := s.sslLayer.map fun l => { l with isReady := true } }
    have hnote : Sound (s.note .handshake) := h.note trivial
    have hready : Onward s ready := ⟨{ hnote with }, id, [], rfl, by simp⟩
    exact hready.trans (hready.sound.onward_onSSLReady leaf)
  | shutdown => exact Onward.refl h
  | failed reported =>
    cases reported with
    | true => exact h.onward_fail _ _
    | false => exact Onward.refl h

/-- `ConnectSSL`. -/
theorem Sound.onward_connectSSL (h : Sound s) : Onward s s.connectSSL := by
  unfold TcpChannel.connectSSL
  split
  · exact ⟨{ h with }, id, [], rfl, by simp⟩
  · split
    · exact Onward.refl h
    · exact h.onward_push (by simp) (by simp)

/-- Taking the collected plaintext. -/
theorem Sound.onward_startDeliver (h : Sound s) (finished : Bool) :
    Onward s (s.startDeliver finished) := by
  set taken : TcpChannel := { s with sslLayer := s.sslLayer.map fun l => { l with data := [] } }
  have htaken : Onward s taken := ⟨{ h with }, id, [], rfl, by simp⟩
  exact htaken.trans (htaken.sound.onward_push (by simp) (by simp))

/-- The test of the read loop. -/
theorem Sound.onward_readSSL (h : Sound s) : Onward s s.readSSL := by
  unfold TcpChannel.readSSL
  split
  · exact ⟨{ h with }, id, [], rfl, by simp⟩
  · split
    · exact Onward.refl h
    · split
      · exact h.onward_startDeliver _
      · exact h.onward_push (by simp) (by simp)

/-- `SSL_read` returns. -/
theorem Sound.onward_onSslRead (h : Sound s) (result : Tls.ReadResult) (badVerify : Bool) :
    Onward s (s.onSslRead result badVerify) := by
  cases result with
  | received bytes =>
    set collected : TcpChannel :=
      { s with sslLayer := s.sslLayer.map fun l => { l with data := l.data ++ bytes } }
    have hcollected : Onward s collected := ⟨{ h with }, id, [], rfl, by simp⟩
    exact hcollected.trans (hcollected.sound.onward_push (by simp) (by simp))
  | failed reported =>
    have hpush : Onward s (s.push [.readSSL]) := h.onward_push (by simp) (by simp)
    cases reported with
    | true => exact hpush.trans (hpush.sound.onward_fail _ _)
    | false => exact hpush
  | closed => exact h.onward_startDeliver _

/-- Handing over plaintext. -/
theorem Sound.onward_deliver (h : Sound s) (blocks : List (List UInt8)) (finished : Bool) :
    Onward s (s.deliver blocks finished) := by
  cases blocks with
  | cons block blocks =>
    have hpush : Onward s (s.push [.deliver blocks finished]) := h.onward_push (by simp) (by simp)
    exact hpush.trans (hpush.sound.onward_onRecvDataFromSSL block)
  | nil =>
    cases finished with
    | true =>
      have hclean : Sound { s with tlsShutdownClean := true } := { h with }
      exact Onward.of_settled s.quiet_onSSLFinished hclean.settled_onPeerClosed
    | false => exact Onward.refl h

/-- Writing application data. -/
theorem Sound.onward_writeSSL (h : Sound s) (blocks : List (List UInt8)) :
    Onward s (s.writeSSL blocks) := by
  cases blocks with
  | cons block blocks =>
    have hnote : Onward s (s.note (.sslWrite block)) := h.onward_note trivial
    exact hnote.trans (hnote.sound.onward_push (by simp) (by simp))
  | nil => exact Onward.refl h

/-- What goes on from an open channel leaves nothing to be finished. -/
theorem Onward.settled (h : Onward s s') (hopen : s.closing = false) : Settled s' :=
  ⟨h.sound, fun hmay => not_mayFinish_of_open hopen (h.awake hmay)⟩

/-- What is done to prepare a connection. -/
def Action.Prepares : Action → Prop
  | .scopedLookup _ _ => True
  | .globalLookup _ => True
  | .pin _ _ _ _ => True
  | _ => False

/-- The preparations for a connection leave the life of the channel alone. -/
structure Preparing (s s' : TcpChannel) : Prop where
  /-- Of the configuration only the network handle may change. -/
  config_eq : s'.config = { s.config with androidNetHandle := s'.config.androidNetHandle }
  /-- The handler stays. -/
  handler_eq : s'.handler = s.handler
  /-- The state stays. -/
  state_eq : s'.state = s.state
  /-- An open channel stays open. -/
  closing_eq : s'.closing = s.closing
  /-- The connect timer stays. -/
  timer_eq : s'.connectTimer = s.connectTimer
  /-- The stack stays. -/
  stack_eq : s'.stack = s.stack
  /-- Lookups and pinning are recorded. -/
  trace_append : ∃ new, s'.trace = s.trace ++ new ∧ ∀ a ∈ new, a.Prepares
  /-- The bookkeeping stays right. -/
  onward : Sound s → Onward s s'

/-- A preparation that may fail. -/
def Attempt (s : TcpChannel) (r : TcpChannel × BCResult) : Prop :=
  r.2 = .success ∧ Preparing s r.1 ∨
    r.2 ≠ .success ∧ ∃ s' result reason, Preparing s s' ∧ r.1 = s'.fail result reason

/-- Nothing is prepared. -/
theorem Preparing.refl (s : TcpChannel) : Preparing s s :=
  ⟨rfl, rfl, rfl, rfl, rfl, rfl, ⟨[], by simp, by simp⟩, Onward.refl⟩

/-- Preparations follow each other. -/
theorem Preparing.trans (h : Preparing s s') (h' : Preparing s' s'') : Preparing s s'' where
  config_eq := by
    rw [h'.config_eq, h.config_eq]
  handler_eq := h'.handler_eq.trans h.handler_eq
  state_eq := h'.state_eq.trans h.state_eq
  closing_eq := h'.closing_eq.trans h.closing_eq
  timer_eq := h'.timer_eq.trans h.timer_eq
  stack_eq := h'.stack_eq.trans h.stack_eq
  trace_append := by
    obtain ⟨new, hnew, hall⟩ := h.trace_append
    obtain ⟨new', hnew', hall'⟩ := h'.trace_append
    refine ⟨new ++ new', by rw [hnew', hnew, List.append_assoc], ?_⟩
    intro a ha
    exact (List.mem_append.mp ha).elim (hall a) (hall' a)
  onward := fun hs => (h.onward hs).trans (h'.onward (h.onward hs).sound)

/-- A lookup or a pinning is recorded. -/
theorem preparing_note (s : TcpChannel) {a : Action} (ha : a.Prepares) :
    Preparing s (s.note a) := by
  have hsilent : a.Silent := by
    cases a <;> first | exact ha.elim | trivial
  exact ⟨rfl, rfl, rfl, rfl, rfl, rfl, ⟨[a], rfl, by simpa using ha⟩,
    fun h => h.onward_note hsilent⟩

/-- The TLS objects, the socket, the address and the interface are prepared. -/
theorem preparing_set (s : TcpChannel) (handle : UInt64) (socket : Option ℤ)
    (peerAddr : Option SockAddr) (boundIfindex : UInt32) (pinMethod : String) (sslCtx ssl : Bool)
    (sslLayer : Option SSLayer) :
    Preparing s
      { s with
        config.androidNetHandle := handle
        socket := socket
        peerAddr := peerAddr
        boundIfindex := boundIfindex
        pinMethod := pinMethod
        sslCtx := sslCtx
        ssl := ssl
        sslLayer := sslLayer } :=
  ⟨rfl, rfl, rfl, rfl, rfl, rfl, ⟨[], by simp, by simp⟩,
    fun h => ⟨{ h with }, id, [], rfl, by simp⟩⟩

/-- `_SetupTls`. -/
theorem attempt_setupTls (s : TcpChannel) (a : PinningAnswers) : Attempt s (s.setupTls a) := by
  unfold TcpChannel.setupTls
  split
  · exact Or.inr ⟨by simp, s, _, _, Preparing.refl s, rfl⟩
  · split
    · exact Or.inr ⟨by simp, _, _, _, preparing_set s _ _ _ _ _ _ _ _, rfl⟩
    · split
      · rename_i hprepare
        exact Or.inr ⟨hprepare, _, _, _, preparing_set s _ _ _ _ _ _ _ _, rfl⟩
      · split
        · rename_i hlayer
          exact Or.inr ⟨hlayer, _, _, _, preparing_set s _ _ _ _ _ _ _ _, rfl⟩
        · exact Or.inl ⟨rfl, preparing_set s _ _ _ _ _ _ _ _⟩

/-- The lookups of `_DecidePinBeforeConnect`. -/
theorem preparing_lookup (s : TcpChannel) (a : PinningAnswers) : Preparing s (s.lookup a) :=
  (preparing_note s (a := .scopedLookup s.boundIfindex a.scopedIf) trivial).trans
    (preparing_note _ (a := .globalLookup a.globalIf) trivial)

/-- `_DecidePinBeforeConnect`. -/
theorem attempt_decidePinBeforeConnect (p : Platform X509) (s : TcpChannel)
    (a : PinningAnswers) : Attempt s (s.decidePinBeforeConnect p a) := by
  have hlookup := preparing_lookup s a
  unfold TcpChannel.decidePinBeforeConnect
  split
  · exact Or.inl ⟨rfl, Preparing.refl s⟩
  · split
    · split
      · exact Or.inl ⟨rfl, hlookup⟩
      · exact Or.inr ⟨by simp, _, _, _, hlookup, rfl⟩
    · split
      · exact Or.inl ⟨rfl, hlookup⟩
      · exact Or.inl ⟨rfl, hlookup.trans (preparing_set _ _ _ _ _ _ _ _ _)⟩

/-- `_PinSocket`. -/
theorem attempt_pinSocket (p : Platform X509) (s : TcpChannel) (a : PinningAnswers) :
    Attempt s (s.pinSocket p a) := by
  have hpin : Preparing s (s.callPin a) := preparing_note s trivial
  unfold TcpChannel.pinSocket
  split
  · exact Or.inl ⟨rfl, Preparing.refl s⟩
  · split
    · exact Or.inl ⟨rfl, hpin.trans (preparing_set _ _ _ _ _ _ _ _ _)⟩
    · split
      · exact Or.inr ⟨by simp, _, _, _, hpin, rfl⟩
      · exact Or.inl ⟨rfl, hpin.trans (preparing_set _ _ _ _ _ _ _ _ _)⟩

/-- What follows a preparation. -/
theorem Attempt.onward_andThen {r : TcpChannel × BCResult} {f : TcpChannel → TcpChannel}
    (hattempt : Attempt s r) (h : Sound s)
    (hf : ∀ s', Preparing s s' → Sound s' → Onward s' (f s')) :
    Onward s (TcpChannel.andThen r f) := by
  apply andThen_cases
  · intro hne
    rcases hattempt with ⟨hok, -⟩ | ⟨-, s', result, reason, hprepare, hr⟩
    · exact absurd hok hne
    · rw [hr]
      have honward := hprepare.onward h
      exact honward.trans (honward.sound.onward_fail _ _)
  · intro hok
    rcases hattempt with ⟨-, hprepare⟩ | ⟨hne, -⟩
    · have honward := hprepare.onward h
      exact honward.trans (hf r.1 hprepare honward.sound)
    · exact absurd hok hne

/-- A transition between open states. -/
theorem Sound.onward_setState (h : Sound s) {next : State} (hopen : s.closing = false)
    (hlegal : isLegalTransition s.state next = true) (hclosing : next ≠ .closing)
    (hclosed : next ≠ .closed) :
    Onward s (s.setState next) ∧ (s.setState next).closing = false ∧
      (s.setState next).state = next := by
  have hsound := h.setState hopen hlegal hclosing hclosed
  unfold TcpChannel.setState at hsound ⊢
  split
  · rename_i heq
    exact ⟨Onward.refl h, hopen, heq⟩
  · rename_i hne
    rw [if_neg hne] at hsound
    exact ⟨⟨hsound, id, [], rfl, by simp⟩, hopen, rfl⟩

/-- The result of the connect call of an open channel. -/
theorem Sound.onward_onConnectCalled (h : Sound s) (hopen : s.closing = false)
    (result : BCResult) : Onward s (s.onConnectCalled result) := by
  unfold TcpChannel.onConnectCalled
  split
  · have hstarted : Sound { s with
        counters.pendingConnect := s.counters.pendingConnect + 1
        ops.connects := s.ops.connects + 1 } :=
      { h with
        counters_zero := fun hnotified =>
          absurd ((h.not_notified hopen).symm.trans hnotified) Bool.false_ne_true
        connects_eq := by
          change s.counters.pendingConnect + 1 = s.ops.connects + 1
          rw [h.connects_eq] }
    exact ⟨hstarted, fun hmay => absurd hmay (not_mayFinish_of_open hopen), [], rfl, by simp⟩
  · exact h.onward_fail _ _

/-- The end of `_EnterPinning`. -/
theorem Sound.onward_connectSocket (h : Sound s) (hopen : s.closing = false)
    (hstate : s.state = .pinning) (a : PinningAnswers) : Onward s (s.connectSocket a) := by
  have hlegal : isLegalTransition s.state .connecting = true := by rw [hstate]; rfl
  obtain ⟨hset, hclosing, -⟩ := h.onward_setState hopen hlegal (by simp) (by simp)
  have hnote : Onward _ ((s.setState .connecting).note (.connect a.fd)) :=
    hset.sound.onward_note trivial
  exact (hset.trans hnote).trans (hnote.sound.onward_onConnectCalled hclosing _)

/-- The part of `_EnterPinning` that makes the socket. -/
theorem Sound.onward_openSocket (h : Sound s) (hopen : s.closing = false)
    (hstate : s.state = .pinning) (a : PinningAnswers) : Onward s (s.openSocket p a) := by
  unfold TcpChannel.openSocket
  split
  · have hnone : Preparing s { s with socket := none } := preparing_set s _ _ _ _ _ _ _ _
    exact (hnone.onward h).trans ((hnone.onward h).sound.onward_fail _ _)
  · have hsome : Preparing s { s with socket := some a.fd } := preparing_set s _ _ _ _ _ _ _ _
    apply (hsome.onward h).trans
    apply (attempt_decidePinBeforeConnect p _ a).onward_andThen (hsome.onward h).sound
    intro s₁ hdecided hsound₁
    apply (attempt_pinSocket p s₁ a).onward_andThen hsound₁
    intro s₂ hpinned hsound₂
    apply hsound₂.onward_connectSocket
    · rw [hpinned.closing_eq, hdecided.closing_eq]
      exact hopen
    · rw [hpinned.state_eq, hdecided.state_eq]
      exact hstate

/-- `_EnterPinning`. -/
theorem Sound.onward_enterPinning (h : Sound s) (hopen : s.closing = false)
    (hstate : s.state = .resolving) (a : PinningAnswers) : Onward s (s.enterPinning p a) := by
  have hlegal : isLegalTransition s.state .pinning = true := by rw [hstate]; rfl
  obtain ⟨hset, hclosing, hpinning⟩ := h.onward_setState hopen hlegal (by simp) (by simp)
  apply hset.trans
  change Onward _ ((s.setState .pinning).pinning p a)
  unfold TcpChannel.pinning
  split
  · apply (attempt_setupTls _ a).onward_andThen hset.sound
    intro s₁ hprepared hsound₁
    apply hsound₁.onward_openSocket
    · rw [hprepared.closing_eq]
      exact hclosing
    · rw [hprepared.state_eq]
      exact hpinning
  · exact hset.sound.onward_openSocket hclosing hpinning a

/-- The end of a DNS request. -/
theorem Sound.dnsOver (h : Sound s) : Sound s.dnsOver :=
  { h with
    counters_zero := by
      intro hnotified
      change ({ s.counters with pendingDns := s.counters.pendingDns - 1 } : Counters) = _
      rw [h.counters_zero hnotified]
      rfl }

/-- The channel's thread has gone on, and nothing is left to be finished. -/
structure Completes (s s' : TcpChannel) : Prop where
  /-- The bookkeeping is right, and nothing is left to be finished. -/
  settled : Settled s'
  /-- The stack has grown. -/
  stack_append : ∃ new, s'.stack = new ++ s.stack ∧ Instr.adoptReady ∉ new

/-- An open channel has gone on. -/
theorem Onward.completes (h : Onward s s') (hopen : s.closing = false) : Completes s s' :=
  ⟨h.settled hopen, h.stack_append⟩

/-- Quiet work that settles the channel completes the step. -/
theorem Completes.of_settled (hquiet : Quiet s s') (h : Settled s') : Completes s s' :=
  ⟨h, (Onward.of_settled hquiet h).stack_append⟩

/-- `_OnResolveDone`. -/
theorem Sound.completes_onResolveDone (h : Sound s) (r : DnsResult) (a : PinningAnswers) :
    Completes s (s.onResolveDone p r a) := by
  have hover : Quiet s s.dnsOver := s.quiet_counting _ _ _ _ _ _ _
  unfold TcpChannel.onResolveDone
  split
  · exact .of_settled (hover.trans (TcpChannel.quiet_maybeFinishClose _))
      h.dnsOver.settled_maybeFinishClose
  · rename_i hgo
    have hopen : s.dnsOver.closing = false := open_of_not_or hgo
    have hstate : s.dnsOver.state = .resolving := by
      by_contra hne
      exact hgo (Or.inr hne)
    have honward : Onward s.dnsOver (s.dnsOver.onResolved p r a) := by
      unfold TcpChannel.onResolved
      split
      · exact h.dnsOver.onward_fail _ _
      · split
        · exact h.dnsOver.onward_fail _ _
        · have hpeer := (preparing_set s.dnsOver s.config.androidNetHandle s.socket
            (some { ‹SockAddr› with port := s.config.port }) s.boundIfindex s.pinMethod s.sslCtx
            s.ssl s.sslLayer).onward h.dnsOver
          exact hpeer.trans (hpeer.sound.onward_enterPinning hopen hstate a)
    exact ⟨honward.settled hopen, honward.stack_append⟩

/-- The task of `Send`. -/
theorem Sound.completes_sendTask (h : Sound s) (sends : ℕ → BCResult)
    (buf : List (List UInt8)) : Completes s (s.sendTask sends buf) := by
  unfold TcpChannel.sendTask
  split
  · exact .of_settled s.quiet_maybeFinishClose h.settled_maybeFinishClose
  · rename_i hready
    have hopen := h.open_of_ready (not_not.mp hready)
    split
    · exact ⟨h.settled_enterSsl (h.not_notified hopen) (by simp), [.writeSSL buf, .leaveSsl], rfl,
        by simp⟩
    · exact (h.onward_sendRaw _ _).completes hopen

/-- The next task is taken off the queue and no longer counted. -/
theorem Sound.released (h : Sound s) {t : Task} {tasks : List Task}
    (htasks : s.tasks = t :: tasks) :
    Sound (TcpChannel.releasePendingTask { s with tasks := tasks }) ∧ s.closedNotified = false := by
  have hcount := h.tasks_eq
  rw [htasks, List.length_cons] at hcount
  have hnot : s.closedNotified = false := by
    apply h.not_notified_of_pending
    intro hzero
    rw [hzero] at hcount
    exact absurd hcount (by simp [Counters.zero])
  refine ⟨?_, hnot⟩
  exact
    { h with
      counters_zero := fun hnotified => absurd (hnot.symm.trans hnotified) Bool.false_ne_true
      tasks_eq := by
        change s.counters.pendingTasks - 1 = s.accepted.length + tasks.length
        omega }

/-- The end of a task that is not an adoption. -/
theorem Sound.completes_perform (h : Sound s) {t : Task} {tasks : List Task}
    (htasks : s.tasks = t :: tasks) (hcall : ∀ handler, t ≠ .call (.adopt handler))
    (a : PinningAnswers) (sends : ℕ → BCResult) :
    Completes s (TcpChannel.perform p { s with tasks := tasks } a sends t) := by
  obtain ⟨hreleased, -⟩ := h.released htasks
  cases t with
  | call c =>
    cases c with
    | send buf =>
      have hsend := hreleased.completes_sendTask sends buf
      exact ⟨hsend.settled, hsend.stack_append⟩
    | close =>
      have hfail := (hreleased.onward_fail .success .closedByCaller).stack_append
      exact ⟨hreleased.settled_fail _ _, hfail⟩
    | adopt handler => exact absurd rfl (hcall handler)
  | resolveDone r =>
    have hresolve : Completes _ _ := hreleased.completes_onResolveDone (p := p) r a
    exact ⟨hresolve.settled, hresolve.stack_append⟩
  | noDnsExecutor =>
    have hfail := (hreleased.onward_fail .dnsFailed .noDnsExecutor).stack_append
    exact ⟨hreleased.settled_fail _ _, hfail⟩

/-- What holds between two steps of a channel. -/
structure Upright (s : TcpChannel) : Prop where
  /-- The bookkeeping is right. -/
  sound : Sound s
  /-- If the channel can be finished, what is on the stack will do so. -/
  live : Live s
  /-- Nothing else is done while an adoption is told. -/
  adopt : AdoptWaits s

/-- A piece of work is over. -/
theorem Completes.upright (h : Completes s s') (hfree : .adoptReady ∉ s.stack) : Upright s' := by
  obtain ⟨new, hnew, hnone⟩ := h.stack_append
  refine ⟨h.settled.sound, h.settled.live, ?_⟩
  intro hmem
  rw [hnew] at hmem
  rcases List.mem_append.mp hmem with hmem | hmem
  · exact absurd hmem hnone
  · exact absurd hmem hfree

/-- A completion callback, which calls `_MaybeFinishClose` at its end. -/
theorem Onward.upright (h : Onward s s') (hstack : s.stack = [.maybeFinishClose]) : Upright s' := by
  obtain ⟨new, hnew, hfree⟩ := h.stack_append
  rw [hstack] at hnew
  refine ⟨h.sound, ?_, ?_⟩
  · intro _
    exact ⟨.maybeFinishClose, by rw [hnew]; simp, trivial⟩
  · intro hmem
    rw [hnew] at hmem
    simp [hfree] at hmem

/-- The task of `Adopt`. -/
theorem Upright.adoptTask (h : Sound s) (hnot : s.closedNotified = false)
    (hstack : s.stack = []) (handler : HandlerId) : Upright (s.adoptTask handler) := by
  unfold TcpChannel.adoptTask
  split
  · have hpush : Sound (s.push [.adoptFailed]) := h.push (by simp)
    refine ⟨hpush.callHandler hnot _ not_false, ?_, ?_⟩
    · intro _
      exact ⟨.adoptFailed, List.mem_cons_of_mem _ List.mem_cons_self, trivial⟩
    · intro hmem
      change Instr.adoptReady ∈ [.inHandler] ++ ([.adoptFailed] ++ s.stack) at hmem
      simp [hstack] at hmem
  · rename_i husable
    obtain ⟨-, -, hready⟩ := not_not.mp husable
    have hopen := h.open_of_ready hready
    have hadopted : Sound { s with parked := false, handler := some handler } := { h with }
    split
    · have honward := hadopted.onward_callHandler (c := .onChannelReady) hnot handler not_false
      apply (honward.completes hopen).upright
      rw [show TcpChannel.stack { s with parked := false, handler := some handler } = []
        from hstack]
      simp
    · rename_i watcher _
      have hpush : Sound (TcpChannel.push
          { s with parked := false, handler := some handler } [.adoptReady]) :=
        hadopted.push (by simp)
      have htold := hpush.callHandler (c := .onChannelDetached) hnot watcher not_false
      refine ⟨htold, (htold.settled hopen).live, ?_⟩
      · intro _
        refine ⟨hopen, Or.inl ?_⟩
        change [Instr.inHandler] ++ ([.adoptReady] ++ s.stack) = _
        rw [hstack]
        rfl

/-- A posted task. -/
theorem Upright.runTask (h : Upright s) (hstack : s.stack = []) (a : PinningAnswers)
    (sends : ℕ → BCResult) : Upright (s.runTask p a sends) := by
  unfold TcpChannel.runTask
  split
  · exact h
  · rename_i t tasks htasks
    obtain ⟨hreleased, hnot⟩ := h.sound.released htasks
    by_cases hadopt : ∃ handler, t = .call (.adopt handler)
    · obtain ⟨handler, rfl⟩ := hadopt
      exact Upright.adoptTask hreleased hnot hstack handler
    · have hcall : ∀ handler, t ≠ .call (.adopt handler) := fun handler heq =>
        hadopt ⟨handler, heq⟩
      exact (h.sound.completes_perform htasks hcall a sends).upright (by simp [hstack])

/-- A step of another thread changes neither the stack nor the flags. -/
structure Aside (s s' : TcpChannel) : Prop where
  /-- The bookkeeping is right. -/
  sound : Sound s → Sound s'
  /-- The channel can be finished only if it could before. -/
  awake : s'.MayFinish → s.MayFinish
  /-- An open channel stays open. -/
  closing_eq : s'.closing = s.closing
  /-- The stack stays. -/
  stack_eq : s'.stack = s.stack

/-- A step of another thread. -/
theorem Aside.upright (h : Aside s s') (hs : Upright s) : Upright s' := by
  refine ⟨h.sound hs.sound, ?_, ?_⟩
  · intro hmay
    rw [h.stack_eq]
    exact hs.live (h.awake hmay)
  · intro hmem
    rw [h.stack_eq] at hmem ⊢
    rw [h.closing_eq]
    exact hs.adopt hmem

/-- A silent action that is recorded stands aside. -/
theorem aside_note (s : TcpChannel) {a : Action} (ha : a.Silent) : Aside s (s.note a) :=
  ⟨fun h => h.note ha, id, rfl, rfl⟩

/-- The first test of a call. -/
theorem aside_call (s : TcpChannel) (c : Call) : Aside s (s.call c) := by
  unfold TcpChannel.call
  split
  · exact ⟨fun h => { h with }, id, rfl, rfl⟩
  · exact aside_note s trivial

/-- A task is counted. -/
theorem not_mayFinish_of_counted (s : TcpChannel) (n : ℕ) :
    ¬ TcpChannel.MayFinish { s with counters.pendingTasks := n + 1 } := by
  apply not_mayFinish_of_pending
  intro hzero
  exact absurd (congrArg Counters.pendingTasks hzero) (Nat.succ_ne_zero _)

/-- `_AcquirePendingTask` of a call. -/
theorem aside_acquire (s : TcpChannel) (i : ℕ) : Aside s (s.acquire i) := by
  unfold TcpChannel.acquire
  split
  · exact ⟨id, id, rfl, rfl⟩
  · split
    · refine ⟨fun h => ?_, id, rfl, rfl⟩
      have hcaller : Sound { s with callers := s.callers.eraseIdx i } := { h with }
      exact hcaller.note trivial
    · rename_i c _ hnot
      refine ⟨fun h => ?_, fun hmay => ?_, rfl, rfl⟩
      · exact
          { h with
            counters_zero := fun hnotified => absurd hnotified hnot
            tasks_eq := by
              change s.counters.pendingTasks + 1 = (s.accepted ++ [c]).length + s.tasks.length
              rw [h.tasks_eq, List.length_append]
              simp
              omega }
      · exact absurd hmay (not_mayFinish_of_counted
          { s with callers := s.callers.eraseIdx i, accepted := s.accepted ++ [c] } _)

/-- Posting the task of a call. -/
theorem aside_post (s : TcpChannel) (i : ℕ) : Aside s (s.post i) := by
  unfold TcpChannel.post
  split
  · exact ⟨id, id, rfl, rfl⟩
  · rename_i c hget
    have hlt : i < s.accepted.length := (List.getElem?_eq_some_iff.mp hget).1
    refine ⟨fun h => Sound.note ?_ trivial, id, rfl, rfl⟩
    exact
      { h with
        tasks_eq := by
          change s.counters.pendingTasks =
            (s.accepted.eraseIdx i).length + (s.tasks ++ [Task.call c]).length
          rw [h.tasks_eq, List.length_eraseIdx_of_lt hlt, List.length_append]
          simp
          omega }

/-- `Park`. -/
theorem aside_park (s : TcpChannel) (watcher : Option HandlerId) : Aside s (s.park watcher) := by
  unfold TcpChannel.park
  split
  · exact ⟨id, id, rfl, rfl⟩
  · exact ⟨fun h => { h with }, id, rfl, rfl⟩

/-- The start of `_RunDnsRequest`. -/
theorem aside_dnsStart (s : TcpChannel) : Aside s s.dnsStart := by
  unfold TcpChannel.dnsStart
  split
  · exact ⟨fun h => { h with }, id, rfl, rfl⟩
  · exact ⟨id, id, rfl, rfl⟩

/-- A task of the channel itself is counted and posted. -/
theorem Sound.postCounted (h : Sound s) (hnot : s.closedNotified = false) (t : Task) :
    Sound (s.postCounted t) :=
  { h with
    counters_zero := fun hnotified => absurd (hnot.symm.trans hnotified) Bool.false_ne_true
    tasks_eq := by
      change (if s.closedNotified then s.counters.pendingTasks else s.counters.pendingTasks + 1) =
        s.accepted.length + (s.tasks ++ [t]).length
      rw [hnot, h.tasks_eq, List.length_append]
      simp
      omega }

/-- A task that is counted is pending. -/
theorem not_mayFinish_postCounted (s : TcpChannel) (t : Task) :
    ¬ (s.postCounted t).MayFinish := by
  rintro ⟨-, hnot, hzero⟩
  have hcount := congrArg Counters.pendingTasks hzero
  change s.closedNotified = false at hnot
  change (if s.closedNotified then s.counters.pendingTasks else s.counters.pendingTasks + 1) = 0
    at hcount
  rw [hnot] at hcount
  exact absurd hcount (Nat.succ_ne_zero _)

/-- The end of `_RunDnsRequest`. -/
theorem aside_dnsDone (s : TcpChannel) (r : DnsResult) : Aside s (s.dnsDone r) := by
  unfold TcpChannel.dnsDone
  split
  · rename_i host cfg abandoned _
    split
    · exact ⟨fun h => { h with }, id, rfl, rfl⟩
    · rename_i hgo
      have hnot : s.closedNotified = false := by
        rw [← Bool.not_eq_true]
        exact fun hnotified => hgo (Or.inr hnotified)
      refine ⟨fun h => ?_, fun hmay => absurd hmay (not_mayFinish_postCounted _ _), rfl, rfl⟩
      have hover : Sound { s with request := some ⟨host, cfg, abandoned, .finished⟩ } := { h with }
      exact hover.postCounted hnot _
  · exact ⟨id, id, rfl, rfl⟩

/-- The start of resolution in an open channel. -/
theorem aside_resolve (s : TcpChannel) (hnot : s.closedNotified = false) (a : OpenAnswers) :
    Aside s (s.resolve p a) := by
  unfold TcpChannel.resolve
  split
  · exact ⟨fun h => h.postCounted hnot _, fun hmay => absurd hmay (not_mayFinish_postCounted _ _),
      rfl, rfl⟩
  · split
    · refine ⟨fun h => ?_, fun hmay => ?_, rfl, rfl⟩
      · exact
          { h with
            counters_zero := fun hnotified =>
              absurd (hnot.symm.trans hnotified) Bool.false_ne_true }
      · exact absurd (congrArg Counters.pendingDns hmay.2.2) (Nat.succ_ne_zero _)
    · exact ⟨fun h => h.postCounted hnot _,
        fun hmay => absurd hmay (not_mayFinish_postCounted _ _), rfl, rfl⟩

/-- The end of `Open`, with an event queue. -/
theorem Upright.startResolving (h : Upright s) (hidle : s.state = .idle) (handler : HandlerId)
    (a : OpenAnswers) : Upright (s.startResolving p handler a) := by
  have hopen : s.closing = false := h.sound.open_of_state (by simp [hidle]) (by simp [hidle])
  set created : TcpChannel :=
    { s with queueCreated := true, handler := some handler, connectTimer := true }
  have hcreated : Sound created := { h.sound with }
  have hlegal : isLegalTransition created.state .resolving = true := by
    change isLegalTransition s.state .resolving = true
    rw [hidle]
    rfl
  obtain ⟨hset, hclosing, -⟩ := hcreated.onward_setState hopen hlegal (by simp) (by simp)
  have hstack : (created.setState .resolving).stack = s.stack := by
    unfold TcpChannel.setState
    split <;> rfl
  have haside : Aside created (created.setState .resolving) :=
    ⟨fun _ => hset.sound, hset.awake, hclosing.trans hopen.symm, hstack⟩
  have hupright : Upright created := ⟨hcreated, h.live, h.adopt⟩
  exact (aside_resolve _ (hset.sound.not_notified hclosing) a).upright (haside.upright hupright)

/-- `Open`. -/
theorem Upright.openChannel (h : Upright s) (handler : Option HandlerId)
    (cfg : TcpChannelConfig) (a : OpenAnswers) : Upright (s.openChannel p handler cfg a) := by
  have hreturn (s : TcpChannel) (h : Upright s) (result : BCResult) :
      Upright (s.note (.opened result)) :=
    (aside_note s (a := .opened result) trivial).upright h
  unfold TcpChannel.openChannel
  split
  · exact hreturn s h _
  · rename_i handler
    split
    · exact hreturn s h _
    · rename_i hidle
      have hbound (s : TcpChannel) (h : Upright s) (hidle : s.state = .idle) :
          Upright (s.openBound p handler a) := by
        unfold TcpChannel.openBound
        split
        · exact hreturn s h _
        · split
          · exact hreturn s h _
          · exact hreturn _ (h.startResolving hidle handler a) _
      have hstored : Upright { s with config := TcpChannel.storedConfig p cfg } :=
        ⟨{ h.sound with }, h.live, h.adopt⟩
      split
      · exact hreturn s h _
      · unfold TcpChannel.openConfigured
        split
        · exact hreturn _ hstored _
        · split
          · exact hbound _ hstored (not_not.mp hidle)
          · apply hbound
            · exact ⟨{ hstored.sound with }, hstored.live, hstored.adopt⟩
            · exact not_not.mp hidle

/-- An instruction other than the end of an `SslReentryGuard` is taken off the stack. -/
theorem Sound.pop (h : Sound s) {i : Instr} {stack : List Instr} (hstack : s.stack = i :: stack)
    (hi : i ≠ .leaveSsl) : Sound { s with stack := stack } :=
  { h with
    depth_eq := by
      change s.counters.sslDepth = stack.count Instr.leaveSsl
      rw [h.depth_eq, hstack, List.count_cons_of_ne hi] }

/-- The end of an `SslReentryGuard`. -/
theorem Sound.settled_leaveSsl (h : Sound s) {stack : List Instr}
    (hstack : s.stack = .leaveSsl :: stack) :
    Settled (TcpChannel.leaveSsl { s with stack := stack }) := by
  have hdepth : s.counters.sslDepth = stack.count .leaveSsl + 1 := by
    rw [h.depth_eq, hstack, List.count_cons_self]
  have hleft : Sound (TcpChannel.sslLeft { s with stack := stack }) :=
    { h with
      counters_zero := by
        intro hnotified
        have hzero := h.counters_zero hnotified
        rw [hzero] at hdepth
        exact absurd hdepth (by simp [Counters.zero])
      depth_eq := by
        change s.counters.sslDepth - 1 = stack.count Instr.leaveSsl
        omega }
  unfold TcpChannel.leaveSsl
  split
  · exact hleft.settled_maybeFinishClose
  · rename_i hne
    refine ⟨hleft, not_mayFinish_of_pending ?_⟩
    intro hzero
    exact hne (congrArg Counters.sslDepth hzero)

/-- The thread has gone on with what was left on the stack. -/
theorem Onward.upright_of_pop {i : Instr} {stack : List Instr} (hs : Upright s)
    (hstack : s.stack = i :: stack) (hkeeps : ¬ i.Rechecks) (hfree : .adoptReady ∉ stack)
    (h : Onward { s with stack := stack } s') : Upright s' := by
  obtain ⟨new, hnew, hnone⟩ := h.stack_append
  refine ⟨h.sound, ?_, ?_⟩
  · intro hmay
    obtain ⟨j, hj, hrechecks⟩ := hs.live (h.awake hmay)
    rw [hstack] at hj
    rcases List.mem_cons.mp hj with rfl | hj
    · exact absurd hrechecks hkeeps
    · exact ⟨j, by rw [hnew]; exact List.mem_append_right _ hj, hrechecks⟩
  · intro hmem
    rw [hnew] at hmem
    rcases List.mem_append.mp hmem with hmem | hmem
    · exact absurd hmem hnone
    · exact absurd hmem hfree

/-- The next thing on the stack is done. What rechecks leaves nothing to be finished. -/
theorem Sound.continueWith (h : Sound s) {i : Instr} (hleave : i ≠ .leaveSsl)
    (hadopt : i ≠ .adoptReady) {answer : Answer X509}
    (hdone : s.continueWith p answer i = some s') :
    Onward s s' ∧ (i.Rechecks → ¬ s'.MayFinish) := by
  have hpush (j : Instr) (hj : .leaveSsl ≠ j) (hj' : .adoptReady ≠ j) : Onward s (s.push [j]) :=
    h.onward_push (by simpa using hj) (by simpa using hj')
  have hwrites (j : Instr) (hj : .leaveSsl ≠ j) (hj' : .adoptReady ≠ j) (sends : ℕ → BCResult)
      (data : List UInt8) : Onward s ((s.push [j]).onSSLWrite sends data) :=
    (hpush j hj hj').trans ((hpush j hj hj').sound.onward_onSSLWrite sends data)
  have hreads (j : Instr) (hj : .leaveSsl ≠ j) (hj' : .adoptReady ≠ j) (size : ℕ) :
      Onward s ((s.push [j]).sockRead size) :=
    (hpush j hj hj').trans ⟨{ (hpush j hj hj').sound with }, id, [], rfl, by simp⟩
  cases i with
  | maybeFinishClose =>
    cases answer <;> cases hdone
    exact ⟨.of_settled s.quiet_maybeFinishClose h.settled_maybeFinishClose,
      fun _ => not_mayFinish_maybeFinishClose s⟩
  | leaveSsl => exact absurd rfl hleave
  | tcpRecv =>
    cases answer <;> cases hdone
    exact ⟨h.onward_tcpRecv _, False.elim⟩
  | connectSSL =>
    cases answer <;> cases hdone
    exact ⟨h.onward_connectSSL, False.elim⟩
  | sslConnect =>
    cases answer <;> cases hdone
    · exact ⟨hwrites _ (by simp) (by simp) _ _, False.elim⟩
    · exact ⟨hreads _ (by simp) (by simp) _, False.elim⟩
    · exact ⟨h.onward_onSslConnect _ _ _, False.elim⟩
  | readSSL =>
    cases answer <;> cases hdone
    exact ⟨h.onward_readSSL, False.elim⟩
  | sslRead =>
    cases answer <;> cases hdone
    · exact ⟨hwrites _ (by simp) (by simp) _ _, False.elim⟩
    · exact ⟨hreads _ (by simp) (by simp) _, False.elim⟩
    · exact ⟨h.onward_onSslRead _ _, False.elim⟩
  | deliver blocks finished =>
    cases answer <;> cases hdone
    exact ⟨h.onward_deliver _ _, False.elim⟩
  | writeSSL blocks =>
    cases answer <;> cases hdone
    exact ⟨h.onward_writeSSL _, False.elim⟩
  | sslWrite blocks =>
    cases answer <;> cases hdone
    · exact ⟨hwrites _ (by simp) (by simp) _ _, False.elim⟩
    · exact ⟨hreads _ (by simp) (by simp) _, False.elim⟩
    · exact ⟨hpush _ (by simp) (by simp), False.elim⟩
  | inHandler =>
    cases answer <;> cases hdone
    exact ⟨Onward.refl h, False.elim⟩
  | adoptFailed =>
    cases answer <;> cases hdone
    exact ⟨h.onward_fail _ _, fun _ => not_mayFinish_fail _ _ _⟩
  | adoptReady => exact absurd rfl hadopt

/-- The channel's thread goes on. -/
theorem Upright.resume (h : Upright s) (answer : Answer X509) : Upright (s.resume p answer) := by
  unfold TcpChannel.resume
  split
  · exact h
  · rename_i i stack hstack
    cases hdone : TcpChannel.continueWith p { s with stack := stack } answer i with
    | none => exact h
    | some s' =>
      change Upright s'
      by_cases hmem : Instr.adoptReady ∈ s.stack
      · obtain ⟨hopen, htelling | hready⟩ := h.adopt hmem
        · rw [hstack] at htelling
          cases htelling
          cases answer <;> cases hdone
          have hpop := h.sound.pop hstack (by simp)
          exact ⟨hpop, (hpop.settled hopen).live, fun _ => ⟨hopen, Or.inr rfl⟩⟩
        · rw [hstack] at hready
          cases hready
          cases answer <;> cases hdone
          have hpop := h.sound.pop hstack (by simp)
          have honward :
              Onward { s with stack := [] } (TcpChannel.adoptReady { s with stack := [] }) := by
            unfold TcpChannel.adoptReady
            split
            · exact ⟨{ hpop with }, id, [], rfl, by simp⟩
            · exact hpop.onward_callHandler (hpop.not_notified hopen) _ not_false
          exact (honward.completes hopen).upright (by simp)
      · rw [hstack] at hmem
        have hfree : Instr.adoptReady ∉ stack := fun hin => hmem (List.mem_cons_of_mem _ hin)
        have hadopt : i ≠ .adoptReady := by
          rintro rfl
          exact hmem List.mem_cons_self
        by_cases hleave : i = .leaveSsl
        · subst hleave
          cases answer <;> cases hdone
          have hcompletes : Completes { s with stack := stack } _ :=
            .of_settled (TcpChannel.quiet_leaveSsl _) (h.sound.settled_leaveSsl hstack)
          exact hcompletes.upright hfree
        · obtain ⟨honward, hfinished⟩ :=
            (h.sound.pop hstack hleave).continueWith hleave hadopt hdone
          by_cases hrechecks : i.Rechecks
          · have hcompletes : Completes { s with stack := stack } s' :=
              ⟨⟨honward.sound, hfinished hrechecks⟩, honward.stack_append⟩
            exact hcompletes.upright hfree
          · exact Onward.upright_of_pop h hstack hrechecks hfree honward

/-- The start of closing does not finish it. -/
theorem closedNotified_startClosing (s : TcpChannel) (result : BCResult) (reason : Reason) :
    (s.startClosing result reason).closedNotified = s.closedNotified := by
  unfold TcpChannel.startClosing TcpChannel.cancelIo TcpChannel.cancelOps
  split <;> unfold TcpChannel.abandonDns <;> split <;> unfold TcpChannel.unscheduleTimer
    TcpChannel.setState <;> split <;> rfl

/-- A finished channel has released its TLS layer. -/
theorem released_maybeFinishClose (hnot : s.closedNotified = false)
    (hfinished : s.maybeFinishClose.closedNotified = true) :
    s.maybeFinishClose.sslLayer = none := by
  unfold TcpChannel.maybeFinishClose at hfinished ⊢
  split
  · rfl
  · rename_i hmay
    rw [if_neg hmay, hnot] at hfinished
    cases hfinished

/-- A channel that is finished by a failure has released its TLS layer. -/
theorem released_tcpRecv (hnot : s.closedNotified = false) (result : BCResult)
    (hfinished : (s.tcpRecv result).closedNotified = true) :
    (s.tcpRecv result).sslLayer = none := by
  unfold TcpChannel.tcpRecv at hfinished ⊢
  split
  · rename_i hskip
    rw [if_pos hskip, hnot] at hfinished
    cases hfinished
  · rename_i hskip
    rw [if_neg hskip] at hfinished
    split
    · rename_i hstarted
      rw [if_pos hstarted] at hfinished
      exact absurd (hnot.symm.trans hfinished) Bool.false_ne_true
    · rename_i hstarted
      rw [if_neg hstarted] at hfinished
      unfold TcpChannel.fail at hfinished ⊢
      split
      · rename_i hclosing
        rw [if_pos hclosing] at hfinished
        exact released_maybeFinishClose hnot hfinished
      · rename_i hclosing
        rw [if_neg hclosing] at hfinished
        refine released_maybeFinishClose ?_ hfinished
        rw [closedNotified_startClosing, hnot]

/-- `_OnConnectDone`. -/
theorem Sound.onward_onConnectDone (h : Sound s) (result rearm : BCResult) :
    Onward s (s.onConnectDone result rearm) := by
  unfold TcpChannel.onConnectDone
  split
  · exact h.onward_fail _ _
  · split
    · exact Onward.refl h
    · rename_i hgo
      have hopen : s.closing = false := open_of_not_or hgo
      have hstate : s.state = .connecting := by
        by_contra hne
        exact hgo (Or.inr hne)
      split
      · have hlegal : isLegalTransition s.state .tlsHandshake = true := by rw [hstate]; rfl
        obtain ⟨hset, hclosing, -⟩ := h.onward_setState hopen hlegal (by simp) (by simp)
        have hrecv := hset.trans (hset.sound.onward_tcpRecv rearm)
        have hreleased := released_tcpRecv (hset.sound.not_notified hclosing) rearm
        apply hrecv.trans
        unfold TcpChannel.startHandshake
        split
        · rename_i hlayer
          have hnot : ((s.setState .tlsHandshake).tcpRecv rearm).closedNotified = false := by
            rw [← Bool.not_eq_true]
            intro hfinished
            rw [hreleased hfinished] at hlayer
            cases hlayer
          exact Onward.of_settled (TcpChannel.quiet_enterSsl _ (by simp [Instr.Quiet]))
            (hrecv.sound.settled_enterSsl hnot (by simp))
        · exact ⟨{ hrecv.sound with }, id, [], rfl, by simp⟩
      · have hlegal : isLegalTransition s.state .ready = true := by rw [hstate]; rfl
        have hpush : Onward s (s.push [.tcpRecv]) := h.onward_push (by simp) (by simp)
        exact hpush.trans (hpush.sound.onward_enterReady hopen hlegal)

/-- `_OnRecvDone` of a channel that is not closed. -/
theorem Sound.onward_onRecvDone (h : Sound s) (hnot : s.closedNotified = false)
    (bytes : List UInt8) : Onward s (s.onRecvDone bytes) := by
  unfold TcpChannel.onRecvDone
  split
  · rename_i l _
    set filled : TcpChannel :=
      { s with sslLayer := some { l with buffer := some (l.buffer.getD [] ++ bytes) } }
    have hfilled : Sound filled := { h with }
    refine ⟨(hfilled.settled_enterSsl hnot (by simp)).sound, fun hmay =>
      absurd hmay (hfilled.settled_enterSsl hnot (by simp)).finished, _, rfl, by simp⟩
  · exact h.onward_onRecvDataFromSSL bytes

/-- `_OnSendDone` of a channel that is not closed. -/
theorem Sound.onward_onSendDone (h : Sound s) (hnot : s.closedNotified = false) :
    Onward s s.onSendDone := by
  have hquiet := s.quiet_onSendDone
  unfold TcpChannel.onSendDone at hquiet ⊢
  split
  · rename_i hgo
    rw [if_pos hgo] at hquiet
    exact Onward.of_settled hquiet (h.settled_enterSsl hnot (by simp))
  · exact Onward.refl h

/-- A channel with an operation in flight is not closed. -/
theorem Sound.not_notified_of_ops (h : Sound s)
    (hops : 0 < s.ops.connects + s.ops.recvs + s.ops.sends) : s.closedNotified = false := by
  apply h.not_notified_of_pending
  intro hzero
  have hconnects := h.connects_eq
  have hrecvs := h.recvs_eq
  have hsends := h.sends_eq
  rw [hzero] at hconnects hrecvs hsends
  simp only [Counters.zero] at hconnects hrecvs hsends
  omega

/-- A connect operation is over. -/
theorem Sound.connectOver (h : Sound s) (hops : 0 < s.ops.connects) :
    Sound s.connectOver ∧ s.closedNotified = false := by
  have hnot := h.not_notified_of_ops (by omega)
  refine ⟨Sound.push ?_ (by simp), hnot⟩
  exact
    { h with
      counters_zero := fun hnotified => absurd (hnot.symm.trans hnotified) Bool.false_ne_true
      connects_eq := by
        change s.counters.pendingConnect - 1 = s.ops.connects - 1
        rw [h.connects_eq] }

/-- A receive operation is over. -/
theorem Sound.recvOver (h : Sound s) (hops : 0 < s.ops.recvs) :
    Sound s.recvOver ∧ s.closedNotified = false := by
  have hnot := h.not_notified_of_ops (by omega)
  refine ⟨Sound.push ?_ (by simp), hnot⟩
  exact
    { h with
      counters_zero := fun hnotified => absurd (hnot.symm.trans hnotified) Bool.false_ne_true
      recvs_eq := by
        change s.counters.pendingRecv - 1 = s.ops.recvs - 1
        rw [h.recvs_eq] }

/-- A send operation is over. -/
theorem Sound.sendOver (h : Sound s) (hops : 0 < s.ops.sends) :
    Sound s.sendOver ∧ s.closedNotified = false := by
  have hnot := h.not_notified_of_ops (by omega)
  refine ⟨Sound.push ?_ (by simp), hnot⟩
  exact
    { h with
      counters_zero := fun hnotified => absurd (hnot.symm.trans hnotified) Bool.false_ne_true
      sends_eq := by
        change s.counters.pendingSend - 1 = s.ops.sends - 1
        rw [h.sends_eq] }

/-- `_ConnectDoneCallback`. -/
theorem Upright.connectDoneCallback (h : Upright s) (hstack : s.stack = [])
    (hops : 0 < s.ops.connects) (result rearm : BCResult) :
    Upright (s.connectDoneCallback result rearm) := by
  obtain ⟨hover, -⟩ := h.sound.connectOver hops
  apply (hover.onward_onConnectDone result rearm).upright
  change [Instr.maybeFinishClose] ++ s.stack = _
  rw [hstack]
  rfl

/-- `_RecvDoneCallback`. -/
theorem Upright.recvDoneCallback (h : Upright s) (hstack : s.stack = [])
    (hops : 0 < s.ops.recvs) (result : RecvResult) : Upright (s.recvDoneCallback result) := by
  obtain ⟨hover, hnot⟩ := h.sound.recvOver hops
  have hrest : s.recvOver.stack = [.maybeFinishClose] := by
    change [Instr.maybeFinishClose] ++ s.stack = _
    rw [hstack]
    rfl
  have hpeer : Onward s.recvOver s.recvOver.onPeerClosed :=
    Onward.of_settled (TcpChannel.quiet_onPeerClosed _) hover.settled_onPeerClosed
  cases result with
  | success bytes =>
    change Upright (if bytes = [] then _ else _)
    split
    · exact hpeer.upright hrest
    · have hpush : Onward s.recvOver (s.recvOver.push [.tcpRecv]) :=
        hover.onward_push (by simp) (by simp)
      exact (hpush.trans (hpush.sound.onward_onRecvDone hnot bytes)).upright hrest
  | eof => exact hpeer.upright hrest
  | canceled => exact (Onward.refl hover).upright hrest
  | failed result => exact (hover.onward_fail _ _).upright hrest

/-- `_SendDoneCallback`. -/
theorem Upright.sendDoneCallback (h : Upright s) (hstack : s.stack = [])
    (hops : 0 < s.ops.sends) (result : SendResult) : Upright (s.sendDoneCallback result) := by
  obtain ⟨hover, hnot⟩ := h.sound.sendOver hops
  have hrest : s.sendOver.stack = [.maybeFinishClose] := by
    change [Instr.maybeFinishClose] ++ s.stack = _
    rw [hstack]
    rfl
  cases result with
  | success => exact (hover.onward_onSendDone hnot).upright hrest
  | canceled => exact (Onward.refl hover).upright hrest
  | failed result => exact (hover.onward_fail _ _).upright hrest

/-- The connect timer runs out. -/
theorem Upright.timeout (h : Upright s) (hstack : s.stack = []) : Upright s.timeout := by
  have hquiet := s.quiet_timeout
  unfold TcpChannel.timeout at hquiet ⊢
  split
  · rename_i htimer
    rw [if_pos htimer] at hquiet
    have htimer : Sound s.unscheduleTimer := { h.sound with }
    exact (Completes.of_settled hquiet (htimer.settled_fail _ _)).upright (by simp [hstack])
  · exact h

/-- The shutdown callback of the queue. -/
theorem Upright.onEventProcShutdown (h : Upright s) (hstack : s.stack = [])
    (hpending : s.shutdownPending = true) : Upright s.onEventProcShutdown := by
  have hnotified := h.sound.shutdown_notified hpending
  have hnever : ∀ b ∈ s.trace, ¬ b.TellsClosed := by
    intro b hb htells
    exact absurd (h.sound.told ⟨b, hb, htells⟩).2 (by simp [hpending])
  have hshut : Sound { s with shutdownPending := false } :=
    { h.sound with
      shutdown_notified := fun _ => hnotified
      told := fun htold => ⟨hnotified, rfl⟩ }
  unfold TcpChannel.onEventProcShutdown
  rw [if_pos hnotified]
  unfold TcpChannel.tellClosed
  split
  · refine ⟨hshut, ?_, ?_⟩
    · intro hmay
      exact absurd (hnotified.symm.trans hmay.2.1) (by simp)
    · intro hmem
      rw [show TcpChannel.stack { s with shutdownPending := false } = [] from hstack] at hmem
      cases hmem
  · rename_i handler _
    have htold : Sound (TcpChannel.note { s with shutdownPending := false, handler := none }
        (.callback handler (.onChannelClosed s.closeResult s.closeReason))) :=
      { hshut with
        told := fun _ => ⟨hnotified, rfl⟩
        legal := by
          intro cur next hmem
          exact h.sound.legal cur next (by simpa [TcpChannel.note] using hmem)
        told_last := h.sound.told_last.concat fun _ => hnever
        notified_when := by
          intro closing counters hmem
          exact h.sound.notified_when closing counters (by simpa [TcpChannel.note] using hmem)
        notified_once := h.sound.notified_once.concat_other not_false
        notified_recorded := by
          intro _
          obtain ⟨b, hb, hnotifies⟩ := h.sound.notified_recorded hnotified
          exact ⟨b, List.mem_append_left _ hb, hnotifies⟩ }
    refine ⟨htold.push (by simp), ?_, ?_⟩
    · intro hmay
      exact absurd (hnotified.symm.trans hmay.2.1) (by simp)
    · intro hmem
      change Instr.adoptReady ∈ [Instr.inHandler] ++ s.stack at hmem
      simp [hstack] at hmem

/-- Every step keeps the bookkeeping right and the channel live. -/
theorem Upright.step (h : Upright s) (e : Event X509) : Upright (TcpChannel.step p s e) := by
  have hdispatched {f : TcpChannel → TcpChannel} (hf : s.stack = [] → Upright (f s)) :
      Upright (s.dispatched f) := by
    unfold TcpChannel.dispatched
    split
    · rename_i hstack
      exact hf hstack
    · exact h
  unfold TcpChannel.step
  split
  · exact h
  · cases e with
    | openChannel handler cfg a => exact h.openChannel handler cfg a
    | call c => exact (aside_call s c).upright h
    | acquire i => exact (aside_acquire s i).upright h
    | post i => exact (aside_post s i).upright h
    | park watcher => exact (aside_park s watcher).upright h
    | dnsStart => exact (aside_dnsStart s).upright h
    | dnsDone r => exact (aside_dnsDone s r).upright h
    | runTask a sends => exact hdispatched fun hstack => h.runTask hstack a sends
    | connectDone result rearm =>
      apply hdispatched
      intro hstack
      split
      · rename_i hops
        exact h.connectDoneCallback hstack hops result rearm
      · exact h
    | recvDone result =>
      apply hdispatched
      intro hstack
      split
      · rename_i hops
        exact h.recvDoneCallback hstack hops result
      · exact h
    | sendDone result =>
      apply hdispatched
      intro hstack
      split
      · rename_i hops
        exact h.sendDoneCallback hstack hops result
      · exact h
    | timeout => exact hdispatched fun hstack => h.timeout hstack
    | shutdown =>
      apply hdispatched
      intro hstack
      split
      · rename_i hpending
        exact h.onEventProcShutdown hstack hpending
      · exact h
    | resume answer => exact h.resume answer

/-- A new channel. -/
theorem upright_create (config : TcpChannelConfig) : Upright (TcpChannel.create config) where
  sound :=
    { closing_iff := by simp [TcpChannel.create]
      notified_iff := by simp [TcpChannel.create]
      counters_zero := fun _ => rfl
      depth_eq := rfl
      tasks_eq := rfl
      connects_eq := rfl
      recvs_eq := rfl
      sends_eq := rfl
      shutdown_notified := by simp [TcpChannel.create]
      told := by simp [TcpChannel.create]
      legal := by simp [TcpChannel.create]
      told_last := noneAfter_nil
      notified_when := by simp [TcpChannel.create]
      notified_once := noneAfter_nil
      notified_recorded := by simp [TcpChannel.create] }
  live := by
    rintro ⟨hclosing, -, -⟩
    cases hclosing
  adopt := by simp [AdoptWaits, TcpChannel.create]

/-- Every channel is upright at any time. -/
theorem upright_run (p : Platform X509) (config : TcpChannelConfig) (events : List (Event X509)) :
    Upright (run (TcpChannel.step p) (TcpChannel.create config) events) :=
  invariant (fun _ e h => h.step e) (upright_create config) events

/-- The life of a channel so far has followed its rules. -/
structure LivesByRules (s : TcpChannel) : Prop where
  /-- Every transition was legal. -/
  legal : ∀ cur next, .setState cur next ∈ s.trace → isLegalTransition cur next = true
  /-- `closed_notified_` is true when it has become so. -/
  notified_iff : s.closedNotified = true ↔ ∃ a ∈ s.trace, a.Notifies
  /-- It became so once. -/
  notified_once : NoneAfter Action.Notifies Action.Notifies s.trace
  /-- It became so in a closing channel with nothing pending. -/
  notified_when : ∀ closing counters, .notified closing counters ∈ s.trace →
    closing = true ∧ counters = Counters.zero
  /-- After `OnChannelClosed` no handler is called, in particular not with that again. -/
  told_last : NoneAfter Action.TellsClosed Action.CallsHandler s.trace
  /-- A closing channel with nothing pending and outside all callbacks has been finished. -/
  not_stuck : s.closing = true → s.counters.pendingDns = 0 → s.counters.pendingConnect = 0 →
    s.counters.pendingRecv = 0 → s.counters.pendingSend = 0 → s.counters.pendingTasks = 0 →
      s.stack = [] → s.closedNotified = true

/-- Over any order of events a channel lives by its rules. -/
theorem livesByRules_run (p : Platform X509) (config : TcpChannelConfig)
    (events : List (Event X509)) :
    LivesByRules (run (TcpChannel.step p) (TcpChannel.create config) events) := by
  have h := upright_run p config events
  generalize run (TcpChannel.step p) (TcpChannel.create config) events = s at h ⊢
  have hsound := h.sound
  refine ⟨hsound.legal, ⟨hsound.notified_recorded, ?_⟩, hsound.notified_once, ?_,
    hsound.told_last, ?_⟩
  · rintro ⟨a, ha, hnotifies⟩
    cases a <;> try exact hnotifies.elim
    exact (hsound.notified_when _ _ ha).2.2
  · intro closing counters hmem
    obtain ⟨hclosing, hzero, -⟩ := hsound.notified_when closing counters hmem
    exact ⟨hclosing, hzero⟩
  · intro hclosing hdns hconnect hrecv hsend htasks hstack
    by_contra hnot
    have hdepth := hsound.depth_eq
    rw [hstack, List.count_nil] at hdepth
    have hzero : s.counters = Counters.zero := by
      cases hcounters : s.counters
      simp_all [Counters.zero]
    obtain ⟨i, hi, -⟩ := h.live ⟨hclosing, Bool.eq_false_iff.mpr hnot, hzero⟩
    rw [hstack] at hi
    cases hi

end Tcp
