import TTSignal.Tcp.Steps

/-!
# What leaves the binding alone

The interface of a channel and its pin method are written by `Open` and on the way from the
resolved address to the connect call. Everything else leaves them, the socket while the channel
is not closing, and the record of pins as they are, and takes no channel to a state behind its
connect call.
-/

namespace Tcp

/-- The states of a channel that is behind its connect call or closing. -/
def State.Behind : State → Prop
  | .idle => False
  | .resolving => False
  | .pinning => False
  | _ => True

/-- A pin of a socket to an interface, and its result. -/
def Action.pin? : Action → Option (ℤ × UInt32 × TTPinResult)
  | .pin fd ifIndex _ result => some (fd, ifIndex, result)
  | _ => none

/-- The pins so far. -/
def TcpChannel.pins (s : TcpChannel) : List (ℤ × UInt32 × TTPinResult) :=
  s.trace.filterMap Action.pin?

/-- What steps have in common that do not decide about the interface. -/
structure Firm (s s' : TcpChannel) : Prop where
  /-- The interface stays. -/
  bound_eq : s'.boundIfindex = s.boundIfindex
  /-- The pin method stays. -/
  method_eq : s'.pinMethod = s.pinMethod
  /-- The policy stays. -/
  policy_eq : s'.config.policy = s.config.policy
  /-- The socket stays while the channel is not closing. -/
  socket_eq : s'.socket = s.socket ∨ s'.closing = true
  /-- A closing channel stays one. -/
  closing_kept : s.closing = true → s'.closing = true
  /-- A channel that is not behind its connect call does not get there. -/
  state_eq : s'.state = s.state ∨ s.state.Behind ∧ s'.state.Behind ∨ s'.closing = true
  /-- Nothing is pinned. -/
  pins_eq : s'.pins = s.pins
  /-- The record only grows. -/
  trace_sub : ∀ a ∈ s.trace, a ∈ s'.trace

namespace Firm

variable {s s' s'' : TcpChannel}

/-- Nothing is done. -/
theorem refl (s : TcpChannel) : Firm s s :=
  ⟨rfl, rfl, rfl, .inl rfl, id, .inl rfl, rfl, fun _ => id⟩

/-- One thing is done after the other. -/
theorem trans (h : Firm s s') (h' : Firm s' s'') : Firm s s'' where
  bound_eq := h'.bound_eq.trans h.bound_eq
  method_eq := h'.method_eq.trans h.method_eq
  policy_eq := h'.policy_eq.trans h.policy_eq
  socket_eq := by
    rcases h'.socket_eq with hsame | hclosing
    · rcases h.socket_eq with hsame' | hclosing
      · exact .inl (hsame.trans hsame')
      · exact .inr (h'.closing_kept hclosing)
    · exact .inr hclosing
  closing_kept := fun hclosing => h'.closing_kept (h.closing_kept hclosing)
  state_eq := by
    rcases h'.state_eq with hsame' | ⟨hbehind, hbehind'⟩ | hclosing
    · rw [hsame']
      exact h.state_eq.imp_right fun hrest => hrest.imp_right h'.closing_kept
    · rcases h.state_eq with hsame | ⟨hfirst, -⟩ | hclosing
      · rw [hsame] at hbehind
        exact .inr (.inl ⟨hbehind, hbehind'⟩)
      · exact .inr (.inl ⟨hfirst, hbehind'⟩)
      · exact .inr (.inr (h'.closing_kept hclosing))
    · exact .inr (.inr hclosing)
  pins_eq := h'.pins_eq.trans h.pins_eq
  trace_sub := fun a ha => h'.trace_sub a (h.trace_sub a ha)

end Firm

namespace TcpChannel

variable {X509 : Type*} {p : Platform X509} {s : TcpChannel}

/-- An action that is no pin is recorded. -/
theorem firm_note (s : TcpChannel) {a : Action} (ha : a.pin? = none) : Firm s (s.note a) :=
  { Firm.refl s with
    pins_eq := by
      unfold pins note
      rw [List.filterMap_append, List.filterMap_cons_none ha, List.filterMap_nil, List.append_nil]
    trace_sub := fun _ => List.mem_append_left _ }

/-- Only what is done next changes. -/
theorem firm_push (s : TcpChannel) (instrs : List Instr) : Firm s (s.push instrs) :=
  { Firm.refl s with }

/-- A handler is called. -/
theorem firm_callHandler (s : TcpChannel) (handler : HandlerId) (c : Callback) :
    Firm s (s.callHandler handler c) :=
  (s.firm_note (a := .callback handler c) rfl).trans (firm_push _ _)

/-- What does not decide about the interface is set. -/
theorem firm_set (s : TcpChannel) (handler : Option HandlerId) (parked poisoned : Bool)
    (sslLayer : Option SSLayer) (counters : Counters) (ops : SocketOps)
    (connectTimer shutdownPending : Bool) (tasks : List Task) (callers accepted : List Call)
    (request : Option TcpDnsRequest) (dnsRequest : Bool) :
    Firm s
      { s with
        handler := handler
        parked := parked
        poisoned := poisoned
        sslLayer := sslLayer
        counters := counters
        ops := ops
        connectTimer := connectTimer
        shutdownPending := shutdownPending
        tasks := tasks
        callers := callers
        accepted := accepted
        request := request
        dnsRequest := dnsRequest } :=
  { Firm.refl s with }

/-- A transition of a channel behind its connect call. -/
theorem firm_setState (hstate : s.state.Behind) {next : State} (hnext : next.Behind) :
    Firm s (s.setState next) := by
  unfold setState
  split
  · exact Firm.refl s
  · have hnote := s.firm_note (a := .setState s.state next) rfl
    exact hnote.trans { Firm.refl _ with state_eq := .inr (.inl ⟨hstate, hnext⟩) }

/-- A transition of a closing channel. -/
theorem firm_setState_closing (hclosing : s.closing = true) (next : State) :
    Firm s (s.setState next) := by
  unfold setState
  split
  · exact Firm.refl s
  · have hnote := s.firm_note (a := .setState s.state next) rfl
    exact hnote.trans { Firm.refl _ with state_eq := .inr (.inr hclosing) }

/-- `_Cleanup` of a closing channel. -/
theorem firm_cleanup (hclosing : s.closing = true) : Firm s s.cleanup :=
  { Firm.refl s with socket_eq := .inr hclosing }

/-- `Detach` of the event queue. -/
theorem firm_detach (s : TcpChannel) : Firm s s.detach := { Firm.refl s with }

/-- `_MaybeFinishClose`. -/
theorem firm_maybeFinishClose (s : TcpChannel) : Firm s s.maybeFinishClose := by
  unfold maybeFinishClose
  split
  · rename_i hmay
    have hnote := s.firm_note (a := .notified s.closing s.counters) rfl
    have hflag : Firm (s.note (.notified s.closing s.counters))
        { s.note (.notified s.closing s.counters) with closedNotified := true } :=
      { Firm.refl _ with }
    have hclosed := firm_setState_closing
      (s := { s.note (.notified s.closing s.counters) with closedNotified := true }) hmay.1 .closed
    have hall := (hnote.trans hflag).trans hclosed
    have hclosing := hall.closing_kept hmay.1
    exact (hall.trans (firm_cleanup hclosing)).trans (firm_detach _)
  · exact Firm.refl s

/-- `_AbandonDns`. -/
theorem firm_abandonDns (s : TcpChannel) : Firm s s.abandonDns := by
  unfold abandonDns
  split
  · exact firm_set s _ _ _ _ _ _ _ _ _ _ _ _ _
  · exact Firm.refl s

/-- `_CancelIo`. -/
theorem firm_cancelIo (s : TcpChannel) : Firm s s.cancelIo := by
  have htimer : Firm s s.unscheduleTimer := firm_set s _ _ _ _ _ _ _ _ _ _ _ _ _
  apply (htimer.trans (firm_abandonDns _)).trans
  unfold cancelIo cancelOps
  split
  · exact firm_note _ rfl
  · exact Firm.refl _

/-- `_Fail`. -/
theorem firm_fail (s : TcpChannel) (result : BCResult) (reason : Reason) :
    Firm s (s.fail result reason) := by
  unfold fail
  split
  · exact s.firm_maybeFinishClose
  · have hstarted : Firm s
        { s.note (.stopped result reason) with
          closing := true
          closeResult := result
          closeReason := some reason } :=
      (s.firm_note (a := .stopped result reason) rfl).trans
        { Firm.refl _ with
          closing_kept := fun _ => rfl
          socket_eq := .inl rfl
          state_eq := .inl rfl }
    exact ((hstarted.trans (firm_setState_closing rfl .closing)).trans (firm_cancelIo _)).trans
      (firm_maybeFinishClose _)

/-- `_SendRaw`. -/
theorem firm_sendSlices (s : TcpChannel) (sends : ℕ → BCResult) (k : ℕ)
    (slices : List (List (List UInt8))) : Firm s (sendSlices sends k slices s) := by
  induction slices generalizing s k with
  | nil => exact Firm.refl s
  | cons slice rest ih =>
    unfold sendSlices
    split
    · exact Firm.refl s
    · split
      · exact Firm.trans (firm_set s _ _ _ _ _ _ _ _ _ _ _ _ _) (ih _ _)
      · exact s.firm_fail _ _

/-- `_SendRaw` is firm, for what it sends is. -/
theorem firm_sendRaw (s : TcpChannel) (sends : ℕ → BCResult) (buf : List (List UInt8)) :
    Firm s (s.sendRaw sends buf) := by
  unfold sendRaw
  split
  · exact Firm.refl s
  · exact s.firm_sendSlices _ _ _

/-- `_TcpRecv`. -/
theorem firm_tcpRecv (s : TcpChannel) (result : BCResult) : Firm s (s.tcpRecv result) := by
  unfold tcpRecv
  split
  · exact Firm.refl s
  · split
    · exact firm_set s _ _ _ _ _ _ _ _ _ _ _ _ _
    · exact s.firm_fail _ _

/-- A call of the TLS layer is entered. -/
theorem firm_enterSsl (s : TcpChannel) (instrs : List Instr) : Firm s (s.enterSsl instrs) :=
  Firm.trans (firm_set s _ _ _ _ { s.counters with sslDepth := s.counters.sslDepth + 1 }
    _ _ _ _ _ _ _ _) (firm_push _ _)

/-- The end of an `SslReentryGuard`. -/
theorem firm_leaveSsl (s : TcpChannel) : Firm s s.leaveSsl := by
  have hleft : Firm s s.sslLeft := firm_set s _ _ _ _ _ _ _ _ _ _ _ _ _
  unfold leaveSsl
  split
  · exact hleft.trans (firm_maybeFinishClose _)
  · exact hleft

/-- `OnSSLWrite`. -/
theorem firm_onSSLWrite (s : TcpChannel) (sends : ℕ → BCResult) (data : List UInt8) :
    Firm s (s.onSSLWrite sends data) := by
  unfold onSSLWrite
  split
  · exact Firm.refl s
  · split
    · exact Firm.refl s
    · exact s.firm_sendRaw _ _

/-- `_OnPeerClosed`. -/
theorem firm_onPeerClosed (s : TcpChannel) : Firm s s.onPeerClosed := by
  unfold onPeerClosed
  split
  · exact s.firm_fail _ _
  · split
    · exact s.firm_fail _ _
    · exact s.firm_fail _ _

/-- `OnSSLFinished`. -/
theorem firm_onSSLFinished (s : TcpChannel) : Firm s s.onSSLFinished := by
  have hclean : Firm s { s with tlsShutdownClean := true } := { Firm.refl s with }
  exact hclean.trans (firm_onPeerClosed _)

/-- `_SendDoneCallback`. -/
theorem firm_sendDoneCallback (s : TcpChannel) (result : SendResult) :
    Firm s (s.sendDoneCallback result) := by
  have hover : Firm s s.sendOver :=
    Firm.trans (firm_set s _ _ _ _ _ _ _ _ _ _ _ _ _) (firm_push _ _)
  cases result with
  | success =>
    apply hover.trans
    change Firm s.sendOver s.sendOver.onSendDone
    unfold onSendDone
    split
    · exact firm_enterSsl _ _
    · exact Firm.refl _
  | canceled => exact hover
  | failed result => exact hover.trans (firm_fail _ _ _)

/-- The first test of a call. -/
theorem firm_call (s : TcpChannel) (c : Call) : Firm s (s.call c) := by
  unfold call
  split
  · exact firm_set s _ _ _ _ _ _ _ _ _ _ _ _ _
  · exact s.firm_note rfl

/-- `_AcquirePendingTask` of a call. -/
theorem firm_acquire (s : TcpChannel) (i : ℕ) : Firm s (s.acquire i) := by
  unfold acquire
  split
  · exact Firm.refl s
  · split
    · exact Firm.trans (firm_set s _ _ _ _ _ _ _ _ _ _ _ _ _) (firm_note _ rfl)
    · exact firm_set s _ _ _ _ _ _ _ _ _ _ _ _ _

/-- The task of a call is posted. -/
theorem firm_post (s : TcpChannel) (i : ℕ) : Firm s (s.post i) := by
  unfold post
  split
  · exact Firm.refl s
  · exact Firm.trans (firm_set s _ _ _ _ _ _ _ _ _ _ _ _ _) (firm_note _ rfl)

/-- The start of `_RunDnsRequest`. -/
theorem firm_dnsStart (s : TcpChannel) : Firm s s.dnsStart := by
  unfold dnsStart
  split
  · exact firm_set s _ _ _ _ _ _ _ _ _ _ _ _ _
  · exact Firm.refl s

/-- The end of `_RunDnsRequest`. -/
theorem firm_dnsDone (s : TcpChannel) (r : DnsResult) : Firm s (s.dnsDone r) := by
  unfold dnsDone
  split
  · split
    · exact firm_set s _ _ _ _ _ _ _ _ _ _ _ _ _
    · exact firm_set s _ _ _ _ _ _ _ _ _ _ _ _ _
  · exact Firm.refl s

/-- The connect timer. -/
theorem firm_timeout (s : TcpChannel) : Firm s s.timeout := by
  unfold timeout
  split
  · exact Firm.trans (firm_set s _ _ _ _ _ _ _ _ _ _ _ _ _) (firm_fail s.unscheduleTimer _ _)
  · exact Firm.refl s

/-- The TLS library reads ciphertext. -/
theorem firm_sockRead (s : TcpChannel) (size : ℕ) : Firm s (s.sockRead size) :=
  firm_set s _ _ _ _ _ _ _ _ _ _ _ _ _

/-- `ConnectSSL`. -/
theorem firm_connectSSL (s : TcpChannel) : Firm s s.connectSSL := by
  unfold connectSSL
  split
  · exact { Firm.refl s with }
  · split
    · exact Firm.refl s
    · exact firm_push s _

/-- The collected plaintext is taken. -/
theorem firm_startDeliver (s : TcpChannel) (finished : Bool) : Firm s (s.startDeliver finished) :=
  Firm.trans (firm_set s _ _ _ _ _ _ _ _ _ _ _ _ _) (firm_push _ _)

/-- The test of the read loop. -/
theorem firm_readSSL (s : TcpChannel) : Firm s s.readSSL := by
  unfold readSSL
  split
  · exact { Firm.refl s with }
  · split
    · exact Firm.refl s
    · split
      · exact s.firm_startDeliver _
      · exact firm_push s _

/-- `SSL_read` returns. -/
theorem firm_onSslRead (s : TcpChannel) (result : Tls.ReadResult) (badVerify : Bool) :
    Firm s (s.onSslRead result badVerify) := by
  cases result with
  | received bytes =>
    exact Firm.trans (firm_set s _ _ _ _ _ _ _ _ _ _ _ _ _) (firm_push _ _)
  | failed reported =>
    cases reported with
    | true => exact (firm_push s [.readSSL]).trans (firm_fail _ _ _)
    | false => exact firm_push s _
  | closed => exact s.firm_startDeliver _

/-- `_EnterReady` behind the connect call. -/
theorem firm_enterReady (hstate : s.state.Behind) : Firm s s.enterReady := by
  have hset : Firm s (s.setState .ready) := firm_setState hstate trivial
  have htimer : Firm (s.setState .ready) (s.setState .ready).unscheduleTimer :=
    firm_set _ _ _ _ _ _ _ _ _ _ _ _ _ _
  apply (hset.trans htimer).trans
  change Firm _ (s.setState .ready).unscheduleTimer.tellReady
  unfold tellReady
  split
  · exact Firm.refl _
  · exact firm_callHandler _ _ _

/-- `OnRecvDataFromSSL`. -/
theorem firm_onRecvDataFromSSL (s : TcpChannel) (bytes : List UInt8) :
    Firm s (s.onRecvDataFromSSL bytes) := by
  unfold onRecvDataFromSSL
  split
  · exact Firm.refl s
  · split
    · exact firm_set s _ _ _ _ _ _ _ _ _ _ _ _ _
    · split
      · exact Firm.refl s
      · split
        · exact Firm.refl s
        · exact firm_callHandler s _ _

/-- `_VerifySpkiPin`. -/
theorem firm_verifySpkiPin (s : TcpChannel) (leaf : Option X509) :
    Firm s (s.verifySpkiPin p leaf).1 ∧
      ((s.verifySpkiPin p leaf).2 = .success → (s.verifySpkiPin p leaf).1.state = s.state) := by
  unfold verifySpkiPin
  split
  · exact ⟨Firm.refl s, fun _ => rfl⟩
  · split
    · exact ⟨(s.firm_note rfl).trans (firm_fail _ _ _), nofun⟩
    · split
      · exact ⟨(s.firm_note rfl).trans (firm_fail _ _ _), nofun⟩
      · exact ⟨s.firm_note rfl, fun _ => rfl⟩

/-- `OnSSLReady`. -/
theorem firm_onSSLReady (s : TcpChannel) (leaf : Option X509) : Firm s (s.onSSLReady p leaf) := by
  unfold onSSLReady
  split
  · exact Firm.refl s
  · rename_i hgoes
    obtain ⟨hfirm, hsame⟩ := firm_verifySpkiPin (p := p) s leaf
    unfold andThen
    split
    · exact hfirm
    · rename_i hok
      have hstate : (s.verifySpkiPin p leaf).1.state = .tlsHandshake :=
        (hsame (not_not.mp hok)).trans (not_not.mp (not_or.mp hgoes).2)
      exact hfirm.trans (firm_enterReady (by rw [hstate]; trivial))

/-- `SSL_connect` returns. -/
theorem firm_onSslConnect (s : TcpChannel) (result : Tls.HandshakeResult) (leaf : Option X509)
    (badVerify : Bool) : Firm s (s.onSslConnect p result leaf badVerify) := by
  cases result with
  | done =>
    have hnote : Firm s (s.note .handshake) := s.firm_note rfl
    have hready : Firm (s.note .handshake)
        { s.note .handshake with
          sslLayer := s.sslLayer.map fun l => { l with isReady := true } } :=
      firm_set _ _ _ _ _ _ _ _ _ _ _ _ _ _
    exact (hnote.trans hready).trans (firm_onSSLReady _ leaf)
  | shutdown => exact Firm.refl s
  | failed reported =>
    cases reported with
    | true => exact s.firm_fail _ _
    | false => exact Firm.refl s

/-- Plaintext is handed over. -/
theorem firm_deliver (s : TcpChannel) (blocks : List (List UInt8)) (finished : Bool) :
    Firm s (s.deliver blocks finished) := by
  cases blocks with
  | cons block blocks => exact (firm_push s _).trans (firm_onRecvDataFromSSL _ block)
  | nil =>
    cases finished with
    | true => exact s.firm_onSSLFinished
    | false => exact Firm.refl s

/-- `_ConnectDoneCallback`. -/
theorem firm_connectDoneCallback (s : TcpChannel) (result rearm : BCResult) :
    Firm s (s.connectDoneCallback result rearm) := by
  have hover : Firm s s.connectOver :=
    Firm.trans (firm_set s _ _ _ _ _ _ _ _ _ _ _ _ _) (firm_push _ _)
  apply hover.trans
  change Firm s.connectOver (s.connectOver.onConnectDone result rearm)
  unfold onConnectDone
  split
  · exact firm_fail _ _ _
  · split
    · exact Firm.refl _
    · rename_i hgoes
      have hstate : s.connectOver.state.Behind := by
        rw [not_not.mp (not_or.mp hgoes).2]
        trivial
      split
      · have hset : Firm s.connectOver (s.connectOver.setState .tlsHandshake) :=
          firm_setState hstate trivial
        apply (hset.trans (firm_tcpRecv _ rearm)).trans
        unfold startHandshake
        split
        · exact firm_enterSsl _ _
        · exact { Firm.refl _ with }
      · exact (firm_push s.connectOver [.tcpRecv]).trans (firm_enterReady hstate)

/-- `_RecvDoneCallback`. -/
theorem firm_recvDoneCallback (s : TcpChannel) (result : RecvResult) :
    Firm s (s.recvDoneCallback result) := by
  have hover : Firm s s.recvOver :=
    Firm.trans (firm_set s _ _ _ _ _ _ _ _ _ _ _ _ _) (firm_push _ _)
  cases result with
  | success bytes =>
    change Firm s (if bytes = [] then _ else _)
    split
    · exact hover.trans (firm_onPeerClosed _)
    · apply (hover.trans (firm_push _ _)).trans
      unfold onRecvDone
      split
      · exact Firm.trans (firm_set _ _ _ _ _ _ _ _ _ _ _ _ _ _) (firm_enterSsl _ _)
      · exact firm_onRecvDataFromSSL _ bytes
  | eof => exact hover.trans (firm_onPeerClosed _)
  | canceled => exact hover
  | failed result => exact hover.trans (firm_fail _ _ _)

/-- The task of `Send`. -/
theorem firm_sendTask (s : TcpChannel) (sends : ℕ → BCResult) (buf : List (List UInt8)) :
    Firm s (s.sendTask sends buf) := by
  unfold sendTask
  split
  · exact s.firm_maybeFinishClose
  · split
    · exact firm_enterSsl s _
    · exact s.firm_sendRaw _ _

/-- The task of `Adopt`. -/
theorem firm_adoptTask (s : TcpChannel) (handler : HandlerId) : Firm s (s.adoptTask handler) := by
  unfold adoptTask
  split
  · exact (firm_push s _).trans (firm_callHandler _ _ _)
  · have hadopted : Firm s { s with parked := false, handler := some handler } :=
      firm_set s _ _ _ _ _ _ _ _ _ _ _ _ _
    split
    · exact hadopted.trans (firm_callHandler _ _ _)
    · exact (hadopted.trans (firm_push _ _)).trans (firm_callHandler _ _ _)

/-- A posted task that does not go on with the connection. -/
theorem firm_perform (s : TcpChannel) (a : PinningAnswers) (sends : ℕ → BCResult) (t : Task)
    (ht : ∀ r, t = .resolveDone r → s.closing = true ∨ s.state ≠ .resolving) :
    Firm s (s.perform p a sends t) := by
  have hreleased : Firm s s.releasePendingTask := firm_set s _ _ _ _ _ _ _ _ _ _ _ _ _
  cases t with
  | call c =>
    cases c with
    | send buf => exact hreleased.trans (firm_sendTask _ sends buf)
    | close => exact hreleased.trans (firm_fail _ _ _)
    | adopt handler => exact hreleased.trans (firm_adoptTask _ handler)
  | resolveDone r =>
    have hover : Firm s s.releasePendingTask.dnsOver :=
      hreleased.trans (firm_set _ _ _ _ _ _ _ _ _ _ _ _ _ _)
    apply hover.trans
    change Firm _ (s.releasePendingTask.onResolveDone p r a)
    have hskip : s.releasePendingTask.dnsOver.closing = true ∨
        s.releasePendingTask.dnsOver.state ≠ .resolving := ht r rfl
    unfold onResolveDone
    rw [if_pos hskip]
    exact firm_maybeFinishClose _
  | noDnsExecutor => exact hreleased.trans (firm_fail _ _ _)

/-- The next thing on the stack is done. -/
theorem firm_continueWith {s' : TcpChannel} {answer : Answer X509} {i : Instr}
    (hdone : s.continueWith p answer i = some s') : Firm s s' := by
  have hwrites (j : Instr) (sends : ℕ → BCResult) (data : List UInt8) :
      Firm s ((s.push [j]).onSSLWrite sends data) :=
    (firm_push s [j]).trans (firm_onSSLWrite _ _ _)
  have hreads (j : Instr) (size : ℕ) : Firm s ((s.push [j]).sockRead size) :=
    (firm_push s [j]).trans (firm_sockRead _ _)
  cases i with
  | maybeFinishClose =>
    cases answer <;> cases hdone
    exact s.firm_maybeFinishClose
  | leaveSsl =>
    cases answer <;> cases hdone
    exact s.firm_leaveSsl
  | tcpRecv =>
    cases answer <;> cases hdone
    exact s.firm_tcpRecv _
  | connectSSL =>
    cases answer <;> cases hdone
    exact s.firm_connectSSL
  | sslConnect =>
    cases answer <;> cases hdone
    · exact hwrites _ _ _
    · exact hreads _ _
    · exact firm_onSslConnect s _ _ _
  | readSSL =>
    cases answer <;> cases hdone
    exact s.firm_readSSL
  | sslRead =>
    cases answer <;> cases hdone
    · exact hwrites _ _ _
    · exact hreads _ _
    · exact s.firm_onSslRead _ _
  | deliver blocks finished =>
    cases answer <;> cases hdone
    exact firm_deliver s _ _
  | writeSSL blocks =>
    cases answer <;> cases hdone
    unfold writeSSL
    split
    · exact (s.firm_note rfl).trans (firm_push _ _)
    · exact Firm.refl s
  | sslWrite blocks =>
    cases answer <;> cases hdone
    · exact hwrites _ _ _
    · exact hreads _ _
    · exact firm_push s _
  | inHandler =>
    cases answer <;> cases hdone
    exact Firm.refl s
  | adoptFailed =>
    cases answer <;> cases hdone
    exact s.firm_fail _ _
  | adoptReady =>
    cases answer <;> cases hdone
    unfold adoptReady
    split
    · exact { Firm.refl s with }
    · exact firm_callHandler s _ _

/-- The shutdown callback of the queue. -/
theorem firm_onEventProcShutdown (s : TcpChannel) : Firm s s.onEventProcShutdown := by
  unfold onEventProcShutdown
  split
  · unfold tellClosed
    split
    · exact firm_set s _ _ _ _ _ _ _ _ _ _ _ _ _
    · have hleft : Firm s { s with shutdownPending := false, handler := none } :=
        firm_set s _ _ _ _ _ _ _ _ _ _ _ _ _
      exact hleft.trans (firm_callHandler _ _ _)
  · exact firm_set s _ _ _ _ _ _ _ _ _ _ _ _ _

/-- The steps that may decide about the interface. -/
def Decides (s : TcpChannel) : Event X509 → Prop
  | .openChannel _ _ _ => s.state = .idle
  | .runTask _ _ => s.stack = [] ∧ s.closing = false ∧ s.state = .resolving ∧
      ∃ r tasks, s.tasks = .resolveDone r :: tasks
  | _ => False

/-- A step that does not decide about the interface leaves the binding alone. -/
theorem firm_step {e : Event X509} (he : ¬ s.Decides e) : Firm s (TcpChannel.step p s e) := by
  have hdispatched {f : TcpChannel → TcpChannel} (hf : s.stack = [] → Firm s (f s)) :
      Firm s (s.dispatched f) := by
    unfold dispatched
    split
    · rename_i hempty
      exact hf hempty
    · exact Firm.refl s
  unfold step
  split
  · exact Firm.refl s
  · cases e with
    | openChannel handler cfg a =>
      change Firm s (s.openChannel p handler cfg a)
      unfold openChannel
      split
      · exact s.firm_note rfl
      · have hrunning : s.state ≠ .idle := he
        rw [if_pos hrunning]
        exact s.firm_note rfl
    | call c => exact s.firm_call c
    | acquire i => exact s.firm_acquire i
    | post i => exact s.firm_post i
    | park watcher =>
      change Firm s (s.park watcher)
      unfold park
      split
      · exact Firm.refl s
      · exact firm_set s _ _ _ _ _ _ _ _ _ _ _ _ _
    | dnsStart => exact s.firm_dnsStart
    | dnsDone r => exact s.firm_dnsDone r
    | runTask a sends =>
      apply hdispatched
      intro hempty
      unfold runTask
      split
      · exact Firm.refl s
      · rename_i t tasks htasks
        have htaken : Firm s { s with tasks := tasks } := firm_set s _ _ _ _ _ _ _ _ _ _ _ _ _
        refine htaken.trans (firm_perform { s with tasks := tasks } a sends t fun r ht => ?_)
        by_contra hgoes
        obtain ⟨hopen, hstate⟩ := not_or.mp hgoes
        exact he ⟨hempty, by simpa using hopen, not_not.mp hstate, r, tasks, by rw [htasks, ht]⟩
    | connectDone result rearm =>
      apply hdispatched
      intro _
      split
      · exact firm_connectDoneCallback s result rearm
      · exact Firm.refl s
    | recvDone result =>
      apply hdispatched
      intro _
      split
      · exact firm_recvDoneCallback s result
      · exact Firm.refl s
    | sendDone result =>
      apply hdispatched
      intro _
      split
      · exact s.firm_sendDoneCallback result
      · exact Firm.refl s
    | timeout => exact hdispatched fun _ => s.firm_timeout
    | shutdown =>
      apply hdispatched
      intro _
      split
      · exact firm_onEventProcShutdown s
      · exact Firm.refl s
    | resume answer =>
      change Firm s (s.resume p answer)
      unfold resume
      split
      · exact Firm.refl s
      · rename_i i stack _
        have hpop : Firm s { s with stack := stack } := { Firm.refl s with }
        cases hdone : continueWith p { s with stack := stack } answer i with
        | none => exact Firm.refl s
        | some s' => exact hpop.trans (firm_continueWith hdone)

end TcpChannel

end Tcp
