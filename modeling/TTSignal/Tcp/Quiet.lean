import TTSignal.Tcp.Steps

/-!
# What most steps leave alone

Most of what a channel does only counts operations, or closes the channel. Such work is
called quiet: it keeps the configuration, the handler and the interface, it changes the
state only towards the closed one, and it neither calls a handler nor touches the network
interface, the handshake or application data.
-/

namespace Tcp

/-- Actions that are part of counting and closing. -/
def Action.Quiet : Action → Prop
  | .setState _ next => next = .closing ∨ next = .closed
  | .returned _ _ => True
  | .cancel _ _ _ => True
  | .stopped _ _ => True
  | .notified _ _ => True
  | _ => False

/-- What is put on the stack outside the tasks of `Send` and `Adopt`. -/
def Instr.Quiet : Instr → Prop
  | .adoptReady => False
  | .writeSSL _ => False
  | .sslWrite _ => False
  | _ => True

/-- Only counting and closing happens between two states. -/
structure Quiet (s s' : TcpChannel) : Prop where
  /-- The configuration stays. -/
  config_eq : s'.config = s.config
  /-- The handler stays. -/
  handler_eq : s'.handler = s.handler
  /-- The interface stays. -/
  bound_eq : s'.boundIfindex = s.boundIfindex
  /-- The state stays or goes towards the closed one. -/
  state_eq : s'.state = s.state ∨ s'.state = .closing ∨ s'.state = .closed
  /-- The layer has come no further in its handshake. -/
  layer_ready : ∀ l', s'.sslLayer = some l' → ∃ l, s.sslLayer = some l ∧ l'.isReady = l.isReady
  /-- The layer stays while the channel is not closing. -/
  layer_kept : s.sslLayer.isSome = true → s'.sslLayer.isSome = true ∨ s'.closing = true
  /-- The connect timer stays while the channel is not closing. -/
  timer_kept : s.connectTimer = true → s'.connectTimer = true ∨ s'.closing = true
  /-- A closing channel stays one, with its result and reason. -/
  closing_kept : s.closing = true →
    s'.closing = true ∧ s'.closeResult = s.closeResult ∧ s'.closeReason = s.closeReason
  /-- The start of closing is recorded. -/
  stopped : s.closing = false → s'.closing = true →
    ∃ reason, s'.closeReason = some reason ∧ .stopped s'.closeResult reason ∈ s'.trace
  /-- What is on the stack stays there. -/
  stack_append : ∃ new, s'.stack = new ++ s.stack ∧ ∀ i ∈ new, i.Quiet
  /-- What happened is kept. -/
  trace_append : ∃ new, s'.trace = s.trace ++ new ∧ ∀ a ∈ new, a.Quiet

namespace Quiet

variable {s s' s'' : TcpChannel}

/-- Doing nothing is quiet. -/
theorem refl (s : TcpChannel) : Quiet s s where
  config_eq := rfl
  handler_eq := rfl
  bound_eq := rfl
  state_eq := Or.inl rfl
  layer_ready := fun l hl => ⟨l, hl, rfl⟩
  layer_kept := Or.inl
  timer_kept := Or.inl
  closing_kept := fun h => ⟨h, rfl, rfl⟩
  stopped := by
    intro hopen hclosing
    rw [hopen] at hclosing
    cases hclosing
  stack_append := ⟨[], rfl, by simp⟩
  trace_append := ⟨[], by simp, by simp⟩

/-- Quiet work goes on quietly. -/
theorem trans (h : Quiet s s') (h' : Quiet s' s'') : Quiet s s'' where
  config_eq := h'.config_eq.trans h.config_eq
  handler_eq := h'.handler_eq.trans h.handler_eq
  bound_eq := h'.bound_eq.trans h.bound_eq
  state_eq := by
    rcases h'.state_eq with hsame | hclosed
    · rw [hsame]
      exact h.state_eq
    · exact Or.inr hclosed
  layer_ready := by
    intro l'' hl''
    obtain ⟨l', hl', hready'⟩ := h'.layer_ready l'' hl''
    obtain ⟨l, hl, hready⟩ := h.layer_ready l' hl'
    exact ⟨l, hl, hready'.trans hready⟩
  layer_kept := by
    intro hlayer
    rcases h.layer_kept hlayer with hlayer' | hclosing
    · exact h'.layer_kept hlayer'
    · exact Or.inr (h'.closing_kept hclosing).1
  timer_kept := by
    intro htimer
    rcases h.timer_kept htimer with htimer' | hclosing
    · exact h'.timer_kept htimer'
    · exact Or.inr (h'.closing_kept hclosing).1
  closing_kept := by
    intro hclosing
    obtain ⟨hclosing', hresult, hreason⟩ := h.closing_kept hclosing
    obtain ⟨hclosing'', hresult', hreason'⟩ := h'.closing_kept hclosing'
    exact ⟨hclosing'', hresult'.trans hresult, hreason'.trans hreason⟩
  stopped := by
    intro hopen hclosing
    cases hs' : s'.closing with
    | false => exact h'.stopped hs' hclosing
    | true =>
      obtain ⟨reason, hreason, hmem⟩ := h.stopped hopen hs'
      obtain ⟨-, hresult', hreason'⟩ := h'.closing_kept hs'
      obtain ⟨new, hnew, -⟩ := h'.trace_append
      refine ⟨reason, hreason'.trans hreason, ?_⟩
      rw [hresult', hnew]
      exact List.mem_append_left _ hmem
  stack_append := by
    obtain ⟨new, hnew, hquiet⟩ := h.stack_append
    obtain ⟨new', hnew', hquiet'⟩ := h'.stack_append
    refine ⟨new' ++ new, by rw [hnew', hnew, List.append_assoc], ?_⟩
    intro i hi
    exact (List.mem_append.mp hi).elim (hquiet' i) (hquiet i)
  trace_append := by
    obtain ⟨new, hnew, hquiet⟩ := h.trace_append
    obtain ⟨new', hnew', hquiet'⟩ := h'.trace_append
    refine ⟨new ++ new', by rw [hnew', hnew, List.append_assoc], ?_⟩
    intro a ha
    exact (List.mem_append.mp ha).elim (hquiet a) (hquiet' a)

end Quiet

namespace TcpChannel

variable {X509 : Type*} (p : Platform X509) (s : TcpChannel)

/-- Counting is quiet. -/
theorem quiet_counting (counters : Counters) (ops : SocketOps) (callers accepted : List Call)
    (tasks : List Task) (request : Option TcpDnsRequest) (dnsRequest : Bool) :
    Quiet s
      { s with
        counters := counters
        ops := ops
        callers := callers
        accepted := accepted
        tasks := tasks
        request := request
        dnsRequest := dnsRequest } :=
  { Quiet.refl s with }

/-- Recording a quiet action is quiet. -/
theorem quiet_note {a : Action} (ha : a.Quiet) : Quiet s (s.note a) :=
  { Quiet.refl s with
    stopped := fun hopen hclosing => absurd (hopen.symm.trans hclosing) Bool.false_ne_true
    trace_append := ⟨[a], rfl, by simpa using ha⟩ }

/-- Putting quiet work on the stack is quiet. -/
theorem quiet_push {instrs : List Instr} (hinstrs : ∀ i ∈ instrs, i.Quiet) :
    Quiet s (s.push instrs) :=
  { Quiet.refl s with stack_append := ⟨instrs, rfl, hinstrs⟩ }

/-- A crash is quiet. -/
theorem quiet_crash : Quiet s s.crash := { Quiet.refl s with }

/-- Reading through the layer is quiet, as long as its handshake comes no further. -/
theorem quiet_mapLayer (f : SSLayer → SSLayer) (hf : ∀ l, (f l).isReady = l.isReady) :
    Quiet s { s with sslLayer := s.sslLayer.map f } :=
  { Quiet.refl s with
    layer_ready := by
      intro l' hl'
      obtain ⟨l, hl, rfl⟩ := Option.map_eq_some_iff.mp hl'
      exact ⟨l, hl, hf l⟩
    layer_kept := by
      intro hlayer
      left
      simpa using hlayer }

/-- Closing transitions of a closing channel are quiet. -/
theorem quiet_setState {next : State} (hnext : next = .closing ∨ next = .closed) :
    Quiet s (s.setState next) := by
  unfold setState
  split
  · exact Quiet.refl s
  · have hnote : Quiet s (s.note (.setState s.state next)) := s.quiet_note hnext
    exact hnote.trans { Quiet.refl _ with state_eq := Or.inr hnext }

/-- Releasing what a closing channel holds is quiet. -/
theorem quiet_cleanup (hclosing : s.closing = true) : Quiet s s.cleanup :=
  { Quiet.refl s with
    layer_ready := fun l' hl' => by cases hl'
    layer_kept := fun _ => Or.inr hclosing }

/-- Detaching the queue of a closing channel is quiet. -/
theorem quiet_detach (hclosing : s.closing = true) : Quiet s s.detach :=
  { Quiet.refl s with timer_kept := fun _ => Or.inr hclosing }

/-- `_MaybeFinishClose` is quiet. -/
theorem quiet_maybeFinishClose : Quiet s s.maybeFinishClose := by
  unfold maybeFinishClose
  split
  · rename_i hmay
    set notified := s.note (.notified s.closing s.counters)
    have hnote : Quiet s notified := s.quiet_note trivial
    have hflag : Quiet notified { notified with closedNotified := true } :=
      { Quiet.refl _ with }
    have hstate := quiet_setState { notified with closedNotified := true } (Or.inr rfl)
    have hall := (hnote.trans hflag).trans hstate
    have hclosing := (hall.closing_kept hmay.1).1
    exact (hall.trans (quiet_cleanup _ hclosing)).trans (quiet_detach _ hclosing)
  · exact Quiet.refl s

/-- `_AbandonDns` is quiet. -/
theorem quiet_abandonDns : Quiet s s.abandonDns := by
  unfold abandonDns
  split
  · exact quiet_counting s _ _ _ _ _ _ _
  · exact Quiet.refl s

/-- `_CancelIo` of a closing channel is quiet. -/
theorem quiet_cancelIo (hclosing : s.closing = true) : Quiet s s.cancelIo := by
  have htimer : Quiet s s.unscheduleTimer :=
    { Quiet.refl s with timer_kept := fun _ => Or.inr hclosing }
  apply (htimer.trans (quiet_abandonDns _)).trans
  unfold cancelIo cancelOps
  split
  · exact quiet_note _ trivial
  · exact Quiet.refl _

/-- The start of closing is quiet. -/
theorem quiet_startClosing (hopen : s.closing = false) (result : BCResult) (reason : Reason) :
    Quiet s (s.startClosing result reason) := by
  set started : TcpChannel := { s.note (.stopped result reason) with
    closing := true
    closeResult := result
    closeReason := some reason }
  have hstarted : Quiet s started :=
    { Quiet.refl s with
      layer_kept := Or.inl
      timer_kept := Or.inl
      closing_kept := fun hclosing => absurd (hopen.symm.trans hclosing) Bool.false_ne_true
      stopped := fun _ _ =>
        ⟨reason, rfl, List.mem_append_right _ (List.mem_singleton_self _)⟩
      trace_append := ⟨[.stopped result reason], rfl, by simp [Action.Quiet]⟩ }
  have hstate := quiet_setState started (Or.inl rfl)
  have hclosing := (hstate.closing_kept rfl).1
  exact (hstarted.trans hstate).trans (quiet_cancelIo _ hclosing)

/-- `_Fail` is quiet. -/
theorem quiet_fail (result : BCResult) (reason : Reason) : Quiet s (s.fail result reason) := by
  unfold fail
  split
  · exact s.quiet_maybeFinishClose
  · rename_i hopen
    exact (s.quiet_startClosing (Bool.eq_false_iff.mpr hopen) result reason).trans
      (quiet_maybeFinishClose _)

/-- `_Fail` leaves the channel closing. -/
theorem closing_fail (result : BCResult) (reason : Reason) :
    (s.fail result reason).closing = true := by
  unfold fail
  split
  · rename_i hclosing
    exact (s.quiet_maybeFinishClose.closing_kept hclosing).1
  · have hstart : (s.startClosing result reason).closing = true := by
      have hstate := quiet_setState
        { s.note (.stopped result reason) with
          closing := true
          closeResult := result
          closeReason := some reason } (Or.inl rfl)
      have hclosing := (hstate.closing_kept rfl).1
      exact ((quiet_cancelIo _ hclosing).closing_kept hclosing).1
    exact ((quiet_maybeFinishClose _).closing_kept hstart).1

/-- `_SendRaw` is quiet. -/
theorem quiet_sendSlices (sends : ℕ → BCResult) (k : ℕ) (slices : List (List (List UInt8))) :
    Quiet s (sendSlices sends k slices s) := by
  induction slices generalizing s k with
  | nil => exact Quiet.refl s
  | cons slice rest ih =>
    unfold sendSlices
    split
    · exact Quiet.refl s
    · split
      · exact (quiet_counting s _ _ _ _ _ _ _).trans (ih _ _)
      · exact s.quiet_fail _ _

/-- So is `_SendRaw` with any buffer. -/
theorem quiet_sendRaw (sends : ℕ → BCResult) (buf : List (List UInt8)) :
    Quiet s (s.sendRaw sends buf) := by
  unfold sendRaw
  split
  · exact Quiet.refl s
  · exact s.quiet_sendSlices _ _ _

/-- `_TcpRecv` is quiet. -/
theorem quiet_tcpRecv (result : BCResult) : Quiet s (s.tcpRecv result) := by
  unfold tcpRecv
  split
  · exact Quiet.refl s
  · split
    · exact quiet_counting s _ _ _ _ _ _ _
    · exact s.quiet_fail _ _

/-- Entering quiet calls of the TLS layer is quiet. -/
theorem quiet_enterSsl {instrs : List Instr} (hinstrs : ∀ i ∈ instrs, i.Quiet) :
    Quiet s (s.enterSsl instrs) := by
  have hcount : Quiet s { s with counters.sslDepth := s.counters.sslDepth + 1 } :=
    quiet_counting s _ _ _ _ _ _ _
  apply hcount.trans
  apply quiet_push
  intro i hi
  rcases List.mem_append.mp hi with hi | hi
  · exact hinstrs i hi
  · rw [List.mem_singleton.mp hi]
    trivial

/-- The end of an `SslReentryGuard` is quiet. -/
theorem quiet_leaveSsl : Quiet s s.leaveSsl := by
  have hcount : Quiet s s.sslLeft := quiet_counting s _ _ _ _ _ _ _
  unfold leaveSsl
  split
  · exact hcount.trans (quiet_maybeFinishClose _)
  · exact hcount

/-- `OnSSLWrite` is quiet. -/
theorem quiet_onSSLWrite (sends : ℕ → BCResult) (data : List UInt8) :
    Quiet s (s.onSSLWrite sends data) := by
  unfold onSSLWrite
  split
  · exact Quiet.refl s
  · split
    · exact Quiet.refl s
    · exact s.quiet_sendRaw _ _

/-- `OnSSLError` is quiet. -/
theorem quiet_onSSLError (badVerify : Bool) : Quiet s (s.onSSLError badVerify) :=
  s.quiet_fail _ _

/-- `_OnPeerClosed` is quiet. -/
theorem quiet_onPeerClosed : Quiet s s.onPeerClosed := by
  unfold onPeerClosed
  split
  · exact s.quiet_fail _ _
  · split
    · exact s.quiet_fail _ _
    · exact s.quiet_fail _ _

/-- `OnSSLFinished` is quiet. -/
theorem quiet_onSSLFinished : Quiet s s.onSSLFinished := by
  have hclean : Quiet s { s with tlsShutdownClean := true } := { Quiet.refl s with }
  exact hclean.trans (quiet_onPeerClosed _)

/-- `_OnSendDone` is quiet. -/
theorem quiet_onSendDone : Quiet s s.onSendDone := by
  unfold onSendDone
  split
  · exact s.quiet_enterSsl (by simp [Instr.Quiet])
  · exact Quiet.refl s

/-- `_SendDoneCallback` is quiet. -/
theorem quiet_sendDoneCallback (result : SendResult) : Quiet s (s.sendDoneCallback result) := by
  have hstart : Quiet s s.sendOver :=
    (quiet_counting s _ _ _ _ _ _ _).trans (quiet_push _ (by simp [Instr.Quiet]))
  cases result with
  | success => exact hstart.trans (quiet_onSendDone _)
  | canceled => exact hstart
  | failed result => exact hstart.trans (quiet_fail _ _ _)

/-- Posting a counted task is quiet. -/
theorem quiet_postCounted (t : Task) : Quiet s (s.postCounted t) :=
  quiet_counting s _ _ _ _ _ _ _

/-- The first test of a call is quiet. -/
theorem quiet_call (c : Call) : Quiet s (s.call c) := by
  unfold call
  split
  · exact quiet_counting s _ _ _ _ _ _ _
  · exact s.quiet_note trivial

/-- `_AcquirePendingTask` is quiet. -/
theorem quiet_acquire (i : ℕ) : Quiet s (s.acquire i) := by
  unfold acquire
  split
  · exact Quiet.refl s
  · split
    · exact (quiet_counting s _ _ _ _ _ _ _).trans (quiet_note _ trivial)
    · exact quiet_counting s _ _ _ _ _ _ _

/-- Posting the task of a call is quiet. -/
theorem quiet_post (i : ℕ) : Quiet s (s.post i) := by
  unfold post
  split
  · exact Quiet.refl s
  · exact (quiet_counting s _ _ _ _ _ _ _).trans (quiet_note _ trivial)

/-- The start of `_RunDnsRequest` is quiet. -/
theorem quiet_dnsStart : Quiet s s.dnsStart := by
  unfold dnsStart
  split
  · exact quiet_counting s _ _ _ _ _ _ _
  · exact Quiet.refl s

/-- The end of `_RunDnsRequest` is quiet. -/
theorem quiet_dnsDone (r : DnsResult) : Quiet s (s.dnsDone r) := by
  unfold dnsDone
  split
  · split
    · exact quiet_counting s _ _ _ _ _ _ _
    · exact (quiet_counting s _ _ _ _ _ _ _).trans (quiet_postCounted _ _)
  · exact Quiet.refl s

/-- The connect timer closes the channel quietly. -/
theorem quiet_timeout : Quiet s s.timeout := by
  unfold timeout
  split
  · have hfail := s.unscheduleTimer.quiet_fail .connectTimeout
      (.timedOut s.config.connectTimeoutMs s.state)
    exact { hfail with timer_kept := fun _ => Or.inr (closing_fail _ _ _) }
  · exact Quiet.refl s

/-- The reads of the TLS library are quiet. -/
theorem quiet_sockRead (size : ℕ) : Quiet s (s.sockRead size) :=
  s.quiet_mapLayer _ fun _ => rfl

/-- `ConnectSSL` is quiet up to the call of `SSL_connect`. -/
theorem quiet_connectSSL : Quiet s s.connectSSL := by
  unfold connectSSL
  split
  · exact s.quiet_crash
  · split
    · exact Quiet.refl s
    · exact s.quiet_push (by simp [Instr.Quiet])

/-- Taking the collected plaintext is quiet. -/
theorem quiet_startDeliver (finished : Bool) : Quiet s (s.startDeliver finished) :=
  (s.quiet_mapLayer (fun l => { l with data := [] }) fun _ => rfl).trans
    (quiet_push _ (by simp [Instr.Quiet]))

/-- The test of the read loop is quiet. -/
theorem quiet_readSSL : Quiet s s.readSSL := by
  unfold readSSL
  split
  · exact s.quiet_crash
  · split
    · exact Quiet.refl s
    · split
      · exact s.quiet_startDeliver _
      · exact s.quiet_push (by simp [Instr.Quiet])

/-- The end of `SSL_read` is quiet. -/
theorem quiet_onSslRead (result : Tls.ReadResult) (badVerify : Bool) :
    Quiet s (s.onSslRead result badVerify) := by
  cases result with
  | received bytes =>
    exact (s.quiet_mapLayer (fun l => { l with data := l.data ++ bytes }) fun _ => rfl).trans
      (quiet_push _ (by simp [Instr.Quiet]))
  | failed reported =>
    have hpush : Quiet s (s.push [.readSSL]) := s.quiet_push (by simp [Instr.Quiet])
    cases reported with
    | true => exact hpush.trans (quiet_onSSLError _ _)
    | false => exact hpush
  | closed => exact s.quiet_startDeliver _

end TcpChannel

end Tcp
