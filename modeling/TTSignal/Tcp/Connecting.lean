import TTSignal.Tcp.Lifecycle

/-!
# After the connect call

`Connect` of the socket is called once, when the address is known and the channel has been
prepared. Whatever happens afterwards, the channel does not go back to a state before it
and does not call `Connect` again.
-/

namespace Tcp

open Runs Traces

/-- `Connect` of the socket is called. -/
def Action.Connects : Action → Prop
  | .connect _ => True
  | _ => False

/-- The states a channel can be in after it has called `Connect`. -/
def State.Late : State → Prop
  | .connecting => True
  | .tlsHandshake => True
  | .ready => True
  | .closing => True
  | .closed => True
  | _ => False

/-- What steps have in common that do not call `Connect`. -/
structure Past (s s' : TcpChannel) : Prop where
  /-- The policy stays. -/
  policy_eq : s'.config.policy = s.config.policy
  /-- The channel does not go back. -/
  late : s.state.Late → s'.state.Late
  /-- `Connect` is not called. -/
  trace_append : ∃ new, s'.trace = s.trace ++ new ∧ ∀ a ∈ new, ¬ a.Connects

variable {X509 : Type*} {p : Platform X509} {s s' s'' : TcpChannel}

/-- Nothing is done. -/
theorem Past.refl (s : TcpChannel) : Past s s := ⟨rfl, id, [], by simp, by simp⟩

/-- One thing is done after the other. -/
theorem Past.trans (h : Past s s') (h' : Past s' s'') : Past s s'' := by
  obtain ⟨new, hnew, hnone⟩ := h.trace_append
  obtain ⟨new', hnew', hnone'⟩ := h'.trace_append
  refine ⟨h'.policy_eq.trans h.policy_eq, fun hlate => h'.late (h.late hlate), new ++ new', ?_, ?_⟩
  · rw [hnew', hnew, List.append_assoc]
  · intro a ha
    exact (List.mem_append.mp ha).elim (hnone a) (hnone' a)

/-- Quiet work does not call `Connect`. -/
theorem Quiet.past (h : Quiet s s') : Past s s' where
  policy_eq := by rw [h.config_eq]
  late := by
    intro hlate
    rcases h.state_eq with hsame | hgone | hgone
    · rwa [hsame]
    · rw [hgone]
      trivial
    · rw [hgone]
      trivial
  trace_append := by
    obtain ⟨new, hnew, hquiet⟩ := h.trace_append
    refine ⟨new, hnew, ?_⟩
    intro a ha hconnects
    have hq := hquiet a ha
    cases a <;> first | exact hq.elim | exact hconnects.elim

/-- An action other than the call of `Connect` is recorded. -/
theorem past_note (s : TcpChannel) {a : Action} (ha : ¬ a.Connects) : Past s (s.note a) :=
  ⟨rfl, id, [a], rfl, by simpa using ha⟩

/-- Only what is done next changes. -/
theorem past_push (s : TcpChannel) (instrs : List Instr) : Past s (s.push instrs) :=
  ⟨rfl, id, [], by simp [TcpChannel.push], by simp⟩

/-- A handler is called. -/
theorem past_callHandler (s : TcpChannel) (handler : HandlerId) (c : Callback) :
    Past s (s.callHandler handler c) :=
  (past_note s (a := .callback handler c) not_false).trans (past_push _ _)

/-- Setting what does not decide about connecting. -/
theorem past_set (s : TcpChannel) (handler : Option HandlerId) (parked poisoned : Bool)
    (sslLayer : Option SSLayer) (counters : Counters) (connectTimer shutdownPending : Bool)
    (tasks : List Task) :
    Past s
      { s with
        handler := handler
        parked := parked
        poisoned := poisoned
        sslLayer := sslLayer
        counters := counters
        connectTimer := connectTimer
        shutdownPending := shutdownPending
        tasks := tasks } :=
  ⟨rfl, id, [], by simp, by simp⟩

/-- A transition to a state after the connect call. -/
theorem past_setState (s : TcpChannel) {next : State} (hnext : next.Late) :
    Past s (s.setState next) := by
  unfold TcpChannel.setState
  split
  · exact Past.refl s
  · exact ⟨rfl, fun _ => hnext, [.setState s.state next], rfl, by simp [Action.Connects]⟩

/-- A call of the TLS layer is entered. -/
theorem past_enterSsl (s : TcpChannel) (instrs : List Instr) : Past s (s.enterSsl instrs) :=
  (past_set s s.handler s.parked s.poisoned s.sslLayer
    { s.counters with sslDepth := s.counters.sslDepth + 1 } s.connectTimer s.shutdownPending
    s.tasks).trans (past_push _ _)

/-- `_EnterReady`. -/
theorem past_enterReady (s : TcpChannel) : Past s s.enterReady := by
  have hset : Past s (s.setState .ready) := past_setState s trivial
  have htimer : Past (s.setState .ready) (s.setState .ready).unscheduleTimer :=
    past_set _ _ _ _ _ _ _ _ _
  apply (hset.trans htimer).trans
  change Past _ (s.setState .ready).unscheduleTimer.tellReady
  unfold TcpChannel.tellReady
  split
  · exact Past.refl _
  · exact past_callHandler _ _ _

/-- `OnRecvDataFromSSL`. -/
theorem past_onRecvDataFromSSL (s : TcpChannel) (bytes : List UInt8) :
    Past s (s.onRecvDataFromSSL bytes) := by
  unfold TcpChannel.onRecvDataFromSSL
  split
  · exact Past.refl s
  · split
    · exact past_set s _ _ _ _ _ _ _ _
    · split
      · exact Past.refl s
      · split
        · exact Past.refl s
        · exact past_callHandler s _ _

/-- `OnSSLReady`. -/
theorem past_onSSLReady (s : TcpChannel) (leaf : Option X509) : Past s (s.onSSLReady p leaf) := by
  unfold TcpChannel.onSSLReady
  split
  · exact Past.refl s
  · rcases verifySpkiPin_cases p s leaf with ⟨hr, -⟩ | hr | ⟨reason, hr⟩
    · rw [hr]
      exact past_enterReady s
    · rw [hr]
      exact (past_note s (a := .verifySpkiPin true) not_false).trans (past_enterReady _)
    · rw [hr]
      exact (past_note s (a := .verifySpkiPin false) not_false).trans
        (TcpChannel.quiet_fail _ _ _).past

/-- `SSL_connect` returns. -/
theorem past_onSslConnect (s : TcpChannel) (result : Tls.HandshakeResult) (leaf : Option X509)
    (badVerify : Bool) : Past s (s.onSslConnect p result leaf badVerify) := by
  cases result with
  | done =>
    have hnote : Past s (s.note .handshake) := past_note s not_false
    have hready : Past (s.note .handshake)
        { s.note .handshake with
          sslLayer := s.sslLayer.map fun l => { l with isReady := true } } :=
      past_set _ _ _ _ _ _ _ _ _
    exact (hnote.trans hready).trans (past_onSSLReady _ leaf)
  | shutdown => exact Past.refl s
  | failed reported =>
    cases reported with
    | true => exact (s.quiet_onSSLError _).past
    | false => exact Past.refl s

/-- Handing over plaintext. -/
theorem past_deliver (s : TcpChannel) (blocks : List (List UInt8)) (finished : Bool) :
    Past s (s.deliver blocks finished) := by
  cases blocks with
  | cons block blocks => exact (past_push s _).trans (past_onRecvDataFromSSL _ block)
  | nil =>
    cases finished with
    | true => exact s.quiet_onSSLFinished.past
    | false => exact Past.refl s

/-- Writing application data. -/
theorem past_writeSSL (s : TcpChannel) (blocks : List (List UInt8)) :
    Past s (s.writeSSL blocks) := by
  cases blocks with
  | cons block blocks =>
    exact (past_note s (a := .sslWrite block) not_false).trans (past_push _ _)
  | nil => exact Past.refl s

/-- `_OnConnectDone`. -/
theorem past_onConnectDone (s : TcpChannel) (result rearm : BCResult) :
    Past s (s.onConnectDone result rearm) := by
  unfold TcpChannel.onConnectDone
  split
  · exact (s.quiet_fail _ _).past
  · split
    · exact Past.refl s
    · split
      · have hset : Past s (s.setState .tlsHandshake) := past_setState s trivial
        apply (hset.trans (TcpChannel.quiet_tcpRecv _ rearm).past).trans
        unfold TcpChannel.startHandshake
        split
        · exact past_enterSsl _ _
        · exact (TcpChannel.quiet_crash _).past
      · exact (past_push s _).trans (past_enterReady _)

/-- `_ConnectDoneCallback`. -/
theorem past_connectDoneCallback (s : TcpChannel) (result rearm : BCResult) :
    Past s (s.connectDoneCallback result rearm) := by
  have hover : Quiet s s.connectOver :=
    (s.quiet_counting _ _ _ _ _ _ _).trans (TcpChannel.quiet_push _ (by simp [Instr.Quiet]))
  exact hover.past.trans (past_onConnectDone _ _ _)

/-- `_OnRecvDone`. -/
theorem past_onRecvDone (s : TcpChannel) (bytes : List UInt8) : Past s (s.onRecvDone bytes) := by
  unfold TcpChannel.onRecvDone
  split
  · exact (past_set s _ _ _ _ _ _ _ _).trans (past_enterSsl _ _)
  · exact past_onRecvDataFromSSL s bytes

/-- `_RecvDoneCallback`. -/
theorem past_recvDoneCallback (s : TcpChannel) (result : RecvResult) :
    Past s (s.recvDoneCallback result) := by
  have hover : Quiet s s.recvOver :=
    (s.quiet_counting _ _ _ _ _ _ _).trans (TcpChannel.quiet_push _ (by simp [Instr.Quiet]))
  cases result with
  | success bytes =>
    change Past s (if bytes = [] then _ else _)
    split
    · exact hover.past.trans (TcpChannel.quiet_onPeerClosed _).past
    · exact (hover.past.trans (past_push _ _)).trans (past_onRecvDone _ bytes)
  | eof => exact hover.past.trans (TcpChannel.quiet_onPeerClosed _).past
  | canceled => exact hover.past
  | failed result => exact hover.past.trans (TcpChannel.quiet_fail _ _ _).past

/-- The task of `Send`. -/
theorem past_sendTask (s : TcpChannel) (sends : ℕ → BCResult) (buf : List (List UInt8)) :
    Past s (s.sendTask sends buf) := by
  unfold TcpChannel.sendTask
  split
  · exact s.quiet_maybeFinishClose.past
  · split
    · exact past_enterSsl s _
    · exact (s.quiet_sendRaw _ _).past

/-- The task of `Adopt`. -/
theorem past_adoptTask (s : TcpChannel) (handler : HandlerId) : Past s (s.adoptTask handler) := by
  unfold TcpChannel.adoptTask
  split
  · exact (past_push s _).trans (past_callHandler _ _ _)
  · have hadopted : Past s { s with parked := false, handler := some handler } :=
      past_set s _ _ _ _ _ _ _ _
    split
    · exact hadopted.trans (past_callHandler _ _ _)
    · exact (hadopted.trans (past_push _ _)).trans (past_callHandler _ _ _)

/-- `_OnResolveDone`, when nobody waits for it any more. -/
theorem past_onResolveDone (s : TcpChannel) (hstate : s.state ≠ .resolving) (r : DnsResult)
    (a : PinningAnswers) : Past s (s.onResolveDone p r a) := by
  have hover : Quiet s s.dnsOver := s.quiet_counting _ _ _ _ _ _ _
  have hskip : s.dnsOver.closing = true ∨ s.dnsOver.state ≠ .resolving := Or.inr hstate
  unfold TcpChannel.onResolveDone
  rw [if_pos hskip]
  exact hover.past.trans (TcpChannel.quiet_maybeFinishClose _).past

/-- A posted task that does not go on with the connection. -/
theorem past_perform (s : TcpChannel) (hstate : s.state ≠ .resolving) (a : PinningAnswers)
    (sends : ℕ → BCResult) (t : Task) : Past s (s.perform p a sends t) := by
  have hreleased : Past s s.releasePendingTask := past_set s _ _ _ _ _ _ _ _
  cases t with
  | call c =>
    cases c with
    | send buf => exact hreleased.trans (past_sendTask _ sends buf)
    | close => exact hreleased.trans (TcpChannel.quiet_fail _ _ _).past
    | adopt handler => exact hreleased.trans (past_adoptTask _ handler)
  | resolveDone r => exact hreleased.trans (past_onResolveDone s.releasePendingTask hstate r a)
  | noDnsExecutor => exact hreleased.trans (TcpChannel.quiet_fail _ _ _).past

/-- The next thing on the stack is done. -/
theorem past_continueWith {answer : Answer X509} {i : Instr}
    (hdone : s.continueWith p answer i = some s') : Past s s' := by
  have hwrites (j : Instr) (sends : ℕ → BCResult) (data : List UInt8) :
      Past s ((s.push [j]).onSSLWrite sends data) :=
    (past_push s [j]).trans (TcpChannel.quiet_onSSLWrite _ _ _).past
  have hreads (j : Instr) (size : ℕ) : Past s ((s.push [j]).sockRead size) :=
    (past_push s [j]).trans (TcpChannel.quiet_sockRead _ _).past
  cases i with
  | maybeFinishClose =>
    cases answer <;> cases hdone
    exact s.quiet_maybeFinishClose.past
  | leaveSsl =>
    cases answer <;> cases hdone
    exact s.quiet_leaveSsl.past
  | tcpRecv =>
    cases answer <;> cases hdone
    exact (s.quiet_tcpRecv _).past
  | connectSSL =>
    cases answer <;> cases hdone
    exact s.quiet_connectSSL.past
  | sslConnect =>
    cases answer <;> cases hdone
    · exact hwrites _ _ _
    · exact hreads _ _
    · exact past_onSslConnect s _ _ _
  | readSSL =>
    cases answer <;> cases hdone
    exact s.quiet_readSSL.past
  | sslRead =>
    cases answer <;> cases hdone
    · exact hwrites _ _ _
    · exact hreads _ _
    · exact (s.quiet_onSslRead _ _).past
  | deliver blocks finished =>
    cases answer <;> cases hdone
    exact past_deliver s _ _
  | writeSSL blocks =>
    cases answer <;> cases hdone
    exact past_writeSSL s _
  | sslWrite blocks =>
    cases answer <;> cases hdone
    · exact hwrites _ _ _
    · exact hreads _ _
    · exact past_push s _
  | inHandler =>
    cases answer <;> cases hdone
    exact Past.refl s
  | adoptFailed =>
    cases answer <;> cases hdone
    exact (s.quiet_fail _ _).past
  | adoptReady =>
    cases answer <;> cases hdone
    unfold TcpChannel.adoptReady
    split
    · exact s.quiet_crash.past
    · exact past_callHandler s _ _

/-- The shutdown callback of the queue. -/
theorem past_onEventProcShutdown (s : TcpChannel) : Past s s.onEventProcShutdown := by
  unfold TcpChannel.onEventProcShutdown
  split
  · unfold TcpChannel.tellClosed
    split
    · exact past_set s _ _ _ _ _ _ _ _
    · have hleft : Past s { s with shutdownPending := false, handler := none } :=
        past_set s _ _ _ _ _ _ _ _
      exact hleft.trans (past_callHandler _ _ _)
  · exact past_set s _ _ _ _ _ _ _ _

/-- After the connect call no step calls `Connect` or goes back. -/
theorem past_step (hlate : s.state.Late) (e : Event X509) : Past s (TcpChannel.step p s e) := by
  have hidle : s.state ≠ .idle := by
    intro hidle
    rw [hidle] at hlate
    exact hlate
  have hresolving : s.state ≠ .resolving := by
    intro hresolving
    rw [hresolving] at hlate
    exact hlate
  have hdispatched {f : TcpChannel → TcpChannel} (hf : Past s (f s)) : Past s (s.dispatched f) := by
    unfold TcpChannel.dispatched
    split
    · exact hf
    · exact Past.refl s
  unfold TcpChannel.step
  split
  · exact Past.refl s
  · cases e with
    | openChannel handler cfg a =>
      change Past s (s.openChannel p handler cfg a)
      unfold TcpChannel.openChannel
      split
      · exact past_note s not_false
      · rw [if_pos hidle]
        exact past_note s not_false
    | call c => exact (s.quiet_call c).past
    | acquire i => exact (s.quiet_acquire i).past
    | post i => exact (s.quiet_post i).past
    | park watcher =>
      change Past s (s.park watcher)
      unfold TcpChannel.park
      split
      · exact Past.refl s
      · exact past_set s _ _ _ _ _ _ _ _
    | dnsStart => exact s.quiet_dnsStart.past
    | dnsDone r => exact (s.quiet_dnsDone r).past
    | runTask a sends =>
      apply hdispatched
      unfold TcpChannel.runTask
      split
      · exact Past.refl s
      · rename_i t tasks _
        have htaken : Past s { s with tasks := tasks } := past_set s _ _ _ _ _ _ _ _
        exact htaken.trans (past_perform { s with tasks := tasks } hresolving a sends t)
    | connectDone result rearm =>
      apply hdispatched
      split
      · exact past_connectDoneCallback s result rearm
      · exact Past.refl s
    | recvDone result =>
      apply hdispatched
      split
      · exact past_recvDoneCallback s result
      · exact Past.refl s
    | sendDone result =>
      apply hdispatched
      split
      · exact (s.quiet_sendDoneCallback result).past
      · exact Past.refl s
    | timeout => exact hdispatched s.quiet_timeout.past
    | shutdown =>
      apply hdispatched
      split
      · exact past_onEventProcShutdown s
      · exact Past.refl s
    | resume answer =>
      change Past s (s.resume p answer)
      unfold TcpChannel.resume
      split
      · exact Past.refl s
      · rename_i i stack _
        have hpop : Past s { s with stack := stack } := ⟨rfl, id, [], by simp, by simp⟩
        cases hdone : TcpChannel.continueWith p { s with stack := stack } answer i with
        | none => exact Past.refl s
        | some s' => exact hpop.trans (past_continueWith hdone)

end Tcp
