import TTSignal.Tcp.Lifecycle

/-!
# Inside the TLS layer

The methods of `SSLayer` are called between the ends of an `SslReentryGuard`. So whatever the
channel's thread does, below every piece of work of the layer on its stack stands the end of a
guard, and as long as that is there, the channel is not finished.
-/

namespace Tcp

/-- Work of the TLS layer. -/
def Instr.InLayer : Instr → Prop
  | .connectSSL => True
  | .sslConnect => True
  | .readSSL => True
  | .sslRead => True
  | .deliver _ _ => True
  | .writeSSL _ => True
  | .sslWrite _ => True
  | _ => False

instance : DecidablePred Instr.InLayer := fun i => by
  cases i <;> unfold Instr.InLayer <;> infer_instance

/-- Below every piece of work of the layer stands the end of a guard. -/
def Nested : List Instr → Prop
  | [] => True
  | i :: rest => (i.InLayer → .leaveSsl ∈ rest) ∧ Nested rest

variable {X509 : Type*} {p : Platform X509} {s s' : TcpChannel}

/-- Work outside the layer is put on a stack. -/
theorem Nested.append {stack : List Instr} (h : Nested stack) (instrs : List Instr)
    (hinstrs : ∀ i ∈ instrs, ¬ i.InLayer) : Nested (instrs ++ stack) := by
  induction instrs with
  | nil => exact h
  | cons i instrs ih =>
    refine ⟨fun hi => absurd hi (hinstrs i List.mem_cons_self), ih ?_⟩
    intro j hj
    exact hinstrs j (List.mem_cons_of_mem i hj)

/-- Work of any kind is put on a stack with the end of a guard. -/
theorem Nested.append_inside {stack : List Instr} (h : Nested stack)
    (hleave : .leaveSsl ∈ stack) (instrs : List Instr) : Nested (instrs ++ stack) := by
  induction instrs with
  | nil => exact h
  | cons i instrs ih => exact ⟨fun _ => List.mem_append_right _ hleave, ih⟩

namespace TcpChannel

/-- The stack stays in a transition. -/
@[simp] theorem stack_setState (s : TcpChannel) (next : State) :
    (s.setState next).stack = s.stack := by
  unfold setState
  split <;> rfl

/-- The stack stays in `_MaybeFinishClose`. -/
@[simp] theorem stack_maybeFinishClose (s : TcpChannel) :
    s.maybeFinishClose.stack = s.stack := by
  unfold maybeFinishClose
  split
  · exact stack_setState _ _
  · rfl

/-- The stack stays in `_AbandonDns`. -/
@[simp] theorem stack_abandonDns (s : TcpChannel) : s.abandonDns.stack = s.stack := by
  unfold abandonDns
  split <;> rfl

/-- The stack stays when operations are cancelled. -/
@[simp] theorem stack_cancelOps (s : TcpChannel) : s.cancelOps.stack = s.stack := by
  unfold cancelOps
  split <;> rfl

/-- The stack stays when closing starts. -/
@[simp] theorem stack_startClosing (s : TcpChannel) (result : BCResult) (reason : Reason) :
    (s.startClosing result reason).stack = s.stack := by
  unfold startClosing cancelIo
  rw [stack_cancelOps, stack_abandonDns]
  exact stack_setState _ _

/-- The stack stays in `_Fail`. -/
@[simp] theorem stack_fail (s : TcpChannel) (result : BCResult) (reason : Reason) :
    (s.fail result reason).stack = s.stack := by
  unfold fail
  split
  · exact stack_maybeFinishClose s
  · rw [stack_maybeFinishClose, stack_startClosing]

/-- The stack stays in `_TcpRecv`. -/
@[simp] theorem stack_tcpRecv (s : TcpChannel) (result : BCResult) :
    (s.tcpRecv result).stack = s.stack := by
  unfold tcpRecv
  split
  · rfl
  · split
    · rfl
    · exact stack_fail _ _ _

/-- The stack stays in the send calls. -/
theorem stack_sendSlices (sends : ℕ → BCResult) (k : ℕ) (slices : List (List (List UInt8)))
    (s : TcpChannel) : (sendSlices sends k slices s).stack = s.stack := by
  induction slices generalizing s k with
  | nil => rfl
  | cons slice rest ih =>
    unfold sendSlices
    split
    · rfl
    · split
      · exact ih _ _
      · exact stack_fail _ _ _

/-- The stack stays in `_SendRaw`. -/
@[simp] theorem stack_sendRaw (s : TcpChannel) (sends : ℕ → BCResult)
    (buf : List (List UInt8)) : (s.sendRaw sends buf).stack = s.stack := by
  unfold sendRaw
  split
  · rfl
  · exact stack_sendSlices _ _ _ _

/-- The stack stays in `OnSSLWrite`. -/
@[simp] theorem stack_onSSLWrite (s : TcpChannel) (sends : ℕ → BCResult) (data : List UInt8) :
    (s.onSSLWrite sends data).stack = s.stack := by
  unfold onSSLWrite
  split
  · rfl
  · split
    · rfl
    · exact stack_sendRaw _ _ _

/-- The stack stays at the end of an `SslReentryGuard`. -/
@[simp] theorem stack_leaveSsl (s : TcpChannel) : s.leaveSsl.stack = s.stack := by
  unfold leaveSsl
  split
  · exact stack_maybeFinishClose _
  · rfl

/-- The stack stays in `_OnPeerClosed`. -/
@[simp] theorem stack_onPeerClosed (s : TcpChannel) : s.onPeerClosed.stack = s.stack := by
  unfold onPeerClosed
  split
  · exact stack_fail _ _ _
  · split
    · exact stack_fail _ _ _
    · exact stack_fail _ _ _

/-- The stack stays when the connect timer runs out. -/
@[simp] theorem stack_timeout (s : TcpChannel) : s.timeout.stack = s.stack := by
  unfold timeout
  split
  · exact stack_fail _ _ _
  · rfl

end TcpChannel

/-- The stack after a preparation and what follows it. -/
theorem Attempt.stack_andThen {r : TcpChannel × BCResult} {f : TcpChannel → TcpChannel}
    (h : Attempt s r) (hf : ∀ s', (f s').stack = s'.stack) :
    (TcpChannel.andThen r f).stack = s.stack := by
  apply andThen_cases (P := fun s' => s'.stack = s.stack)
  · intro hne
    rcases h with ⟨hok, -⟩ | ⟨-, s', result, reason, hprepare, hr⟩
    · exact absurd hok hne
    · rw [hr, TcpChannel.stack_fail, hprepare.stack_eq]
  · intro hok
    rcases h with ⟨-, hprepare⟩ | ⟨hne, -⟩
    · rw [hf, hprepare.stack_eq]
    · exact absurd hok hne

namespace TcpChannel

/-- The stack stays at the end of `_EnterPinning`. -/
theorem stack_connectSocket (s : TcpChannel) (a : PinningAnswers) :
    (s.connectSocket a).stack = s.stack := by
  unfold connectSocket onConnectCalled
  split
  · exact stack_setState _ _
  · rw [stack_fail]
    exact stack_setState _ _

/-- The stack stays when the socket is made. -/
theorem stack_openSocket (s : TcpChannel) (a : PinningAnswers) :
    (s.openSocket p a).stack = s.stack := by
  unfold openSocket
  split
  · exact stack_fail _ _ _
  · apply (attempt_decidePinBeforeConnect p { s with socket := some a.fd } a).stack_andThen
    intro s₁
    apply (attempt_pinSocket p s₁ a).stack_andThen
    intro s₂
    exact stack_connectSocket s₂ a

/-- The stack stays in `_EnterPinning`. -/
theorem stack_enterPinning (s : TcpChannel) (a : PinningAnswers) :
    (s.enterPinning p a).stack = s.stack := by
  unfold enterPinning pinning
  split
  · rw [(attempt_setupTls _ a).stack_andThen fun s' => stack_openSocket s' a, stack_setState]
  · rw [stack_openSocket, stack_setState]

/-- The stack stays in `_OnResolveDone`. -/
theorem stack_onResolveDone (s : TcpChannel) (r : DnsResult) (a : PinningAnswers) :
    (s.onResolveDone p r a).stack = s.stack := by
  unfold onResolveDone
  split
  · exact stack_maybeFinishClose _
  · unfold onResolved
    split
    · exact stack_fail _ _ _
    · split
      · exact stack_fail _ _ _
      · exact stack_enterPinning _ _

/-- The stack stays in `Open`. -/
theorem stack_openChannel (s : TcpChannel) (handler : Option HandlerId) (cfg : TcpChannelConfig)
    (a : OpenAnswers) : (s.openChannel p handler cfg a).stack = s.stack := by
  have hresolve (s : TcpChannel) : (s.resolve p a).stack = s.stack := by
    unfold resolve
    split
    · rfl
    · split <;> rfl
  have hbound (s : TcpChannel) (handler : HandlerId) :
      (s.openBound p handler a).stack = s.stack := by
    unfold openBound
    split
    · rfl
    · split
      · rfl
      · change (s.startResolving p handler a).stack = s.stack
        unfold startResolving
        rw [hresolve, stack_setState]
  unfold openChannel
  split
  · rfl
  · split
    · rfl
    · split
      · rfl
      · unfold openConfigured
        split
        · rfl
        · split
          · exact hbound _ _
          · exact hbound _ _

end TcpChannel

/-- A handler is called. -/
theorem Nested.callHandler (h : Nested s.stack) (handler : HandlerId) (c : Callback) :
    Nested (s.callHandler handler c).stack :=
  h.append [.inHandler] (by simp [Instr.InLayer])

/-- `_EnterReady`. -/
theorem Nested.enterReady (h : Nested s.stack) : Nested s.enterReady.stack := by
  have hset : Nested (s.setState .ready).unscheduleTimer.stack := by
    change Nested (s.setState .ready).stack
    rwa [TcpChannel.stack_setState]
  change Nested (s.setState .ready).unscheduleTimer.tellReady.stack
  unfold TcpChannel.tellReady
  split
  · exact hset
  · exact hset.callHandler _ _

/-- `OnRecvDataFromSSL`. -/
theorem Nested.onRecvDataFromSSL (h : Nested s.stack) (bytes : List UInt8) :
    Nested (s.onRecvDataFromSSL bytes).stack := by
  unfold TcpChannel.onRecvDataFromSSL
  split
  · exact h
  · split
    · exact h
    · split
      · exact h
      · split
        · exact h
        · exact h.callHandler _ _

/-- A call of the TLS layer is entered. -/
theorem Nested.enterSsl (h : Nested s.stack) (instrs : List Instr) :
    Nested (s.enterSsl instrs).stack := by
  change Nested ((instrs ++ [Instr.leaveSsl]) ++ s.stack)
  rw [List.append_assoc]
  apply Nested.append_inside
  · exact h.append [.leaveSsl] (by simp [Instr.InLayer])
  · exact List.mem_cons_self

/-- `OnSSLReady`. -/
theorem Nested.onSSLReady (h : Nested s.stack) (leaf : Option X509) :
    Nested (s.onSSLReady p leaf).stack := by
  unfold TcpChannel.onSSLReady
  split
  · exact h
  · rcases verifySpkiPin_cases p s leaf with ⟨hr, -⟩ | hr | ⟨reason, hr⟩
    · rw [hr]
      exact h.enterReady
    · rw [hr]
      exact Nested.enterReady (s := s.note (.verifySpkiPin true)) h
    · rw [hr]
      change Nested ((s.note (.verifySpkiPin false)).fail .tlsVerifyFailed reason).stack
      rw [TcpChannel.stack_fail]
      exact h

/-- `SSL_connect` returns. -/
theorem Nested.onSslConnect (h : Nested s.stack) (result : Tls.HandshakeResult)
    (leaf : Option X509) (badVerify : Bool) :
    Nested (s.onSslConnect p result leaf badVerify).stack := by
  cases result with
  | done => exact Nested.onSSLReady (by exact h) leaf
  | shutdown => exact h
  | failed reported =>
    cases reported with
    | true =>
      change Nested (s.fail _ _).stack
      rwa [TcpChannel.stack_fail]
    | false => exact h

/-- `_OnConnectDone`. -/
theorem Nested.onConnectDone (h : Nested s.stack) (result rearm : BCResult) :
    Nested (s.onConnectDone result rearm).stack := by
  unfold TcpChannel.onConnectDone
  split
  · rwa [TcpChannel.stack_fail]
  · split
    · exact h
    · split
      · have hrecv : Nested ((s.setState .tlsHandshake).tcpRecv rearm).stack := by
          rwa [TcpChannel.stack_tcpRecv, TcpChannel.stack_setState]
        unfold TcpChannel.startHandshake
        split
        · exact hrecv.enterSsl _
        · exact hrecv
      · apply Nested.enterReady
        exact h.append [.tcpRecv] (by simp [Instr.InLayer])

/-- `_OnRecvDone`. -/
theorem Nested.onRecvDone (h : Nested s.stack) (bytes : List UInt8) :
    Nested (s.onRecvDone bytes).stack := by
  unfold TcpChannel.onRecvDone
  split
  · exact Nested.enterSsl (by exact h) _
  · exact h.onRecvDataFromSSL bytes

/-- `_RecvDoneCallback`. -/
theorem Nested.recvDoneCallback (h : Nested s.stack) (result : RecvResult) :
    Nested (s.recvDoneCallback result).stack := by
  have hover : Nested s.recvOver.stack :=
    h.append [.maybeFinishClose] (by simp [Instr.InLayer])
  cases result with
  | success bytes =>
    change Nested (if bytes = [] then _ else _ : TcpChannel).stack
    split
    · rwa [TcpChannel.stack_onPeerClosed]
    · apply Nested.onRecvDone
      exact hover.append [.tcpRecv] (by simp [Instr.InLayer])
  | eof =>
    change Nested s.recvOver.onPeerClosed.stack
    rwa [TcpChannel.stack_onPeerClosed]
  | canceled => exact hover
  | failed result =>
    change Nested (s.recvOver.fail _ _).stack
    rwa [TcpChannel.stack_fail]

/-- `_SendDoneCallback`. -/
theorem Nested.sendDoneCallback (h : Nested s.stack) (result : SendResult) :
    Nested (s.sendDoneCallback result).stack := by
  have hover : Nested s.sendOver.stack :=
    h.append [.maybeFinishClose] (by simp [Instr.InLayer])
  cases result with
  | success =>
    change Nested s.sendOver.onSendDone.stack
    unfold TcpChannel.onSendDone
    split
    · exact hover.enterSsl _
    · exact hover
  | canceled => exact hover
  | failed result =>
    change Nested (s.sendOver.fail _ _).stack
    rwa [TcpChannel.stack_fail]

/-- The task of `Send`. -/
theorem Nested.sendTask (h : Nested s.stack) (sends : ℕ → BCResult) (buf : List (List UInt8)) :
    Nested (s.sendTask sends buf).stack := by
  unfold TcpChannel.sendTask
  split
  · rwa [TcpChannel.stack_maybeFinishClose]
  · split
    · exact h.enterSsl _
    · rwa [TcpChannel.stack_sendRaw]

/-- The task of `Adopt`. -/
theorem Nested.adoptTask (h : Nested s.stack) (handler : HandlerId) :
    Nested (s.adoptTask handler).stack := by
  unfold TcpChannel.adoptTask
  split
  · apply Nested.callHandler
    exact h.append [.adoptFailed] (by simp [Instr.InLayer])
  · split
    · exact Nested.callHandler (by exact h) _ _
    · apply Nested.callHandler
      exact h.append [.adoptReady] (by simp [Instr.InLayer])

/-- A posted task. -/
theorem Nested.perform (h : Nested s.stack) (a : PinningAnswers) (sends : ℕ → BCResult)
    (t : Task) : Nested (s.perform p a sends t).stack := by
  have hreleased : Nested s.releasePendingTask.stack := h
  cases t with
  | call c =>
    cases c with
    | send buf => exact hreleased.sendTask sends buf
    | close =>
      change Nested (s.releasePendingTask.fail _ _).stack
      rwa [TcpChannel.stack_fail]
    | adopt handler => exact hreleased.adoptTask handler
  | resolveDone r =>
    change Nested (s.releasePendingTask.onResolveDone p r a).stack
    rwa [TcpChannel.stack_onResolveDone]
  | noDnsExecutor =>
    change Nested (s.releasePendingTask.fail _ _).stack
    rwa [TcpChannel.stack_fail]

/-- The next thing on the stack is done. -/
theorem Nested.continueWith (h : Nested s.stack) {i : Instr}
    (hi : i.InLayer → .leaveSsl ∈ s.stack) {answer : Answer X509}
    (hdone : s.continueWith p answer i = some s') : Nested s'.stack := by
  have hwrites (hleave : .leaveSsl ∈ s.stack) (j : Instr) (sends : ℕ → BCResult)
      (data : List UInt8) : Nested ((s.push [j]).onSSLWrite sends data).stack := by
    rw [TcpChannel.stack_onSSLWrite]
    exact h.append_inside hleave [j]
  have hpush (hleave : .leaveSsl ∈ s.stack) (j : Instr) : Nested (s.push [j]).stack :=
    h.append_inside hleave [j]
  cases i with
  | maybeFinishClose =>
    cases answer <;> cases hdone
    rwa [TcpChannel.stack_maybeFinishClose]
  | leaveSsl =>
    cases answer <;> cases hdone
    rwa [TcpChannel.stack_leaveSsl]
  | tcpRecv =>
    cases answer <;> cases hdone
    rwa [TcpChannel.stack_tcpRecv]
  | connectSSL =>
    cases answer <;> cases hdone
    unfold TcpChannel.connectSSL
    split
    · exact h
    · split
      · exact h
      · exact hpush (hi trivial) _
  | sslConnect =>
    cases answer <;> cases hdone
    · exact hwrites (hi trivial) _ _ _
    · exact hpush (hi trivial) .sslConnect
    · exact h.onSslConnect _ _ _
  | readSSL =>
    cases answer <;> cases hdone
    unfold TcpChannel.readSSL
    split
    · exact h
    · split
      · exact h
      · split
        · exact hpush (hi trivial) (.deliver s.collected false)
        · exact hpush (hi trivial) _
  | sslRead =>
    cases answer with
    | writes data sends =>
      cases hdone
      exact hwrites (hi trivial) _ _ _
    | reads size =>
      cases hdone
      exact hpush (hi trivial) .sslRead
    | read result badVerify =>
      cases hdone
      cases result with
      | received bytes => exact hpush (hi trivial) .readSSL
      | failed reported =>
        cases reported with
        | true =>
          change Nested ((s.push [.readSSL]).fail _ _).stack
          rw [TcpChannel.stack_fail]
          exact hpush (hi trivial) .readSSL
        | false => exact hpush (hi trivial) .readSSL
      | closed => exact hpush (hi trivial) (.deliver s.collected true)
    | _ => cases hdone
  | deliver blocks finished =>
    cases answer <;> cases hdone
    cases blocks with
    | cons block blocks =>
      exact Nested.onRecvDataFromSSL (hpush (hi trivial) (.deliver blocks finished)) block
    | nil =>
      cases finished with
      | true =>
        change Nested (TcpChannel.onPeerClosed { s with tlsShutdownClean := true }).stack
        rwa [TcpChannel.stack_onPeerClosed]
      | false => exact h
  | writeSSL blocks =>
    cases answer <;> cases hdone
    cases blocks with
    | cons block blocks => exact hpush (hi trivial) (.sslWrite blocks)
    | nil => exact h
  | sslWrite blocks =>
    cases answer <;> cases hdone
    · exact hwrites (hi trivial) _ _ _
    · exact hpush (hi trivial) (.sslWrite blocks)
    · exact hpush (hi trivial) (.writeSSL blocks)
  | inHandler =>
    cases answer <;> cases hdone
    exact h
  | adoptFailed =>
    cases answer <;> cases hdone
    rwa [TcpChannel.stack_fail]
  | adoptReady =>
    cases answer <;> cases hdone
    unfold TcpChannel.adoptReady
    split
    · exact h
    · exact h.callHandler _ _

/-- Every step keeps the work of the layer above the end of its guard. -/
theorem Nested.step (h : Nested s.stack) (e : Event X509) :
    Nested (TcpChannel.step p s e).stack := by
  have hdispatched {f : TcpChannel → TcpChannel} (hf : Nested (f s).stack) :
      Nested (s.dispatched f).stack := by
    unfold TcpChannel.dispatched
    split
    · exact hf
    · exact h
  unfold TcpChannel.step
  split
  · exact h
  · cases e with
    | openChannel handler cfg a =>
      change Nested (s.openChannel p handler cfg a).stack
      rwa [TcpChannel.stack_openChannel]
    | call c =>
      change Nested (s.call c).stack
      rwa [(aside_call s c).stack_eq]
    | acquire i =>
      change Nested (s.acquire i).stack
      rwa [(aside_acquire s i).stack_eq]
    | post i =>
      change Nested (s.post i).stack
      rwa [(aside_post s i).stack_eq]
    | park watcher =>
      change Nested (s.park watcher).stack
      rwa [(aside_park s watcher).stack_eq]
    | dnsStart =>
      change Nested s.dnsStart.stack
      rwa [(aside_dnsStart s).stack_eq]
    | dnsDone r =>
      change Nested (s.dnsDone r).stack
      rwa [(aside_dnsDone s r).stack_eq]
    | runTask a sends =>
      apply hdispatched
      unfold TcpChannel.runTask
      split
      · exact h
      · exact Nested.perform (by exact h) a sends _
    | connectDone result rearm =>
      apply hdispatched
      split
      · apply Nested.onConnectDone
        exact h.append [.maybeFinishClose] (by simp [Instr.InLayer])
      · exact h
    | recvDone result =>
      apply hdispatched
      split
      · exact h.recvDoneCallback result
      · exact h
    | sendDone result =>
      apply hdispatched
      split
      · exact h.sendDoneCallback result
      · exact h
    | timeout =>
      apply hdispatched
      rwa [TcpChannel.stack_timeout]
    | shutdown =>
      apply hdispatched
      split
      · unfold TcpChannel.onEventProcShutdown
        split
        · unfold TcpChannel.tellClosed
          split
          · exact h
          · exact Nested.callHandler (by exact h) _ _
        · exact h
      · exact h
    | resume answer =>
      change Nested (s.resume p answer).stack
      unfold TcpChannel.resume
      split
      · exact h
      · rename_i i stack hstack
        cases hdone : TcpChannel.continueWith p { s with stack := stack } answer i with
        | none => exact h
        | some s' =>
          rw [hstack] at h
          exact Nested.continueWith (s := { s with stack := stack }) h.2 h.1 hdone

/-- Inside the TLS layer a channel is not finished. -/
theorem Sound.not_notified_inside (h : Sound s) (hleave : .leaveSsl ∈ s.stack) :
    s.closedNotified = false := by
  apply h.not_notified_of_pending
  intro hzero
  have hdepth := h.depth_eq
  rw [hzero] at hdepth
  have hcount := List.count_pos_iff.mpr hleave
  rw [← hdepth] at hcount
  exact absurd hcount (by simp [Counters.zero])

end Tcp
