import TTSignal.Tcp.Nesting

/-!
# What a channel uses after its cleanup

`_Cleanup` releases the socket, the TLS layer and its session, and it can run deep inside a
callback, when a failing call completes the close at once. What follows is a list, for every
function of the channel, of the places where it goes through one of the three pointers, each
with whether `_Cleanup` has run by then. It is empty for functions that are not mentioned.
The only place behind the cleanup is the call of `ConnectSSL` in `_OnConnectDone`, when the
receive call before it has failed and nothing else was pending.
-/

namespace Tcp

open Runs

/-- The pointers that `_Cleanup` clears. -/
inductive Pointer where
  | socket
  | ssl
  | sslLayer
  deriving DecidableEq

/-- A pointer is followed. -/
structure Use where
  /-- The pointer. -/
  pointer : Pointer
  /-- `_Cleanup` has run. -/
  cleaned : Bool
  deriving DecidableEq

namespace TcpChannel

variable {X509 : Type*} (p : Platform X509) (s : TcpChannel)

/-- A pointer is followed now. `_Cleanup` has run as soon as `closed_notified_` is true: there
is only a transition between the two. -/
def follow (pointer : Pointer) : Use := ⟨pointer, s.closedNotified⟩

/-- The uses in `_CancelIo`. -/
def cancelUses : List Use :=
  if s.socket.isSome then
    (if 0 < s.counters.pendingConnect then [s.follow .socket] else []) ++
      (if 0 < s.counters.pendingSend then [s.follow .socket] else []) ++
      (if 0 < s.counters.pendingRecv then [s.follow .socket] else [])
  else []

/-- The uses in `_Fail`. What it does before it cancels changes nothing that is looked at. -/
def failUses : List Use := if s.closing then [] else s.cancelUses

/-- The uses in a function that is called if the one before it succeeded. -/
def andThenUses (r : TcpChannel × BCResult) (uses : TcpChannel → List Use) : List Use :=
  if r.2 ≠ .success then [] else uses r.1

/-- The uses in `_SetupTls`. -/
def setupTlsUses (a : PinningAnswers) : List Use :=
  match a.sslCtx with
  | some _ => s.failUses
  | none =>
    if a.sslNew = false then failUses { s with sslCtx := true }
    else
      s.follow .ssl ::
        if a.prepareSsl.1 ≠ .success then failUses { s with sslCtx := true, ssl := true }
        else
          (if s.config.tlsCfg.spkiPin = [] then [] else [s.follow .ssl]) ++ s.follow .sslLayer ::
            if a.sslLayer ≠ .success then
              failUses { s with sslCtx := true, ssl := true, sslLayer := none }
            else []

/-- The uses in `_DecidePinBeforeConnect`. -/
def decidePinBeforeConnectUses (a : PinningAnswers) : List Use :=
  if ¬ s.HasBindTarget p then []
  else if s.config.policy = .forcePhysical then
    if a.scopedIf = routeIfindexUnknown ∨ a.scopedIf = s.boundIfindex then []
    else (s.lookup a).failUses
  else []

/-- The uses in `_PinSocket`. -/
def pinSocketUses (a : PinningAnswers) : List Use :=
  if ¬ s.HasBindTarget p then []
  else
    s.follow .socket ::
      if a.pin = .ok then []
      else if s.config.policy = .forcePhysical then (s.callPin a).failUses
      else []

/-- The uses at the end of `_EnterPinning`. -/
def connectSocketUses (a : PinningAnswers) : List Use :=
  (s.setState .connecting).follow .socket ::
    if a.connect.Started then [] else ((s.setState .connecting).note (.connect a.fd)).failUses

/-- The uses in the part of `_EnterPinning` that makes the socket. -/
def openSocketUses (a : PinningAnswers) : List Use :=
  s.follow .socket ::
    if a.socketCreate ≠ .success then failUses { s with socket := none }
    else
      decidePinBeforeConnectUses p { s with socket := some a.fd } a ++
        andThenUses (decidePinBeforeConnect p { s with socket := some a.fd } a) fun s =>
          s.pinSocketUses p a ++ andThenUses (s.pinSocket p a) fun s => s.connectSocketUses a

/-- The uses in `_EnterPinning` in its new state. -/
def pinningUses (a : PinningAnswers) : List Use :=
  if s.config.tls then
    s.setupTlsUses a ++ andThenUses (s.setupTls a) fun s => s.openSocketUses p a
  else s.openSocketUses p a

/-- The uses in the treatment of a result of the DNS request that somebody waits for. -/
def onResolvedUses (r : DnsResult) (a : PinningAnswers) : List Use :=
  match r.addrs with
  | [] => s.failUses
  | addr :: _ =>
    if r.result ≠ .success then s.failUses
    else
      (setState { s with peerAddr := some { addr with port := s.config.port } }
        .pinning).pinningUses
        p a

/-- The uses in `_OnResolveDone`. -/
def onResolveDoneUses (r : DnsResult) (a : PinningAnswers) : List Use :=
  if s.dnsOver.closing ∨ s.dnsOver.state ≠ .resolving then []
  else s.dnsOver.onResolvedUses p r a

/-- The uses in the send calls of `_SendRaw`. -/
def sendSlicesUses (sends : ℕ → BCResult) :
    ℕ → List (List (List UInt8)) → TcpChannel → List Use
  | _, [], _ => []
  | k, slice :: rest, s =>
    if rest = [] ∧ slice.flatten = [] then []
    else
      s.follow .socket ::
        if (sends k).Started then
          sendSlicesUses sends (k + 1) rest
            { s with
              counters.pendingSend := s.counters.pendingSend + 1
              ops.sends := s.ops.sends + 1 }
        else s.failUses

/-- The uses in `_SendRaw`. -/
def sendRawUses (sends : ℕ → BCResult) (buf : List (List UInt8)) : List Use :=
  if s.closing ∨ s.socket = none then []
  else sendSlicesUses sends 0 (buf.toChunks maxScatterGather) s

/-- The uses in `_TcpRecv`. -/
def tcpRecvUses (result : BCResult) : List Use :=
  if s.closing ∨ s.socket = none ∨ 0 < s.counters.pendingRecv then []
  else s.follow .socket :: if result.Started then [] else s.failUses

/-- The uses in `OnSSLWrite`. -/
def onSSLWriteUses (sends : ℕ → BCResult) (data : List UInt8) : List Use :=
  if data = [] then []
  else if s.closing ∨ s.socket = none then []
  else s.sendRawUses sends (Tls.readBlocks data.length data)

/-- The uses in `_VerifySpkiPin`. -/
def verifySpkiPinUses (leaf : Option X509) : List Use :=
  if s.config.tlsCfg.spkiPin = [] then []
  else
    s.follow .ssl ::
      match leaf with
      | none => (s.note (.verifySpkiPin false)).failUses
      | some cert =>
        match Cert.verifyChain p.pem p.x509 [cert] s.config.host s.config.tlsCfg with
        | .error _ => (s.note (.verifySpkiPin false)).failUses
        | .ok () => []

/-- The uses in `OnSSLReady`. -/
def onSSLReadyUses (leaf : Option X509) : List Use :=
  if s.closing ∨ s.state ≠ .tlsHandshake then [] else s.verifySpkiPinUses p leaf

/-- The uses in `OnSSLError`: two for the diagnostics and one for the result. -/
def onSSLErrorUses : List Use :=
  (if s.ssl then [s.follow .ssl, s.follow .ssl, s.follow .ssl] else []) ++ s.failUses

/-- The uses in `_OnConnectDone`. -/
def onConnectDoneUses (result rearm : BCResult) : List Use :=
  if result ≠ .success then s.failUses
  else if s.closing ∨ s.state ≠ .connecting then []
  else
    s.follow .socket ::
      if s.sslLayer.isSome then
        (s.setState .tlsHandshake).tcpRecvUses rearm ++
          [((s.setState .tlsHandshake).tcpRecv rearm).follow .sslLayer]
      else []

/-- The uses in `_OnRecvDone`. -/
def onRecvDoneUses : List Use := if s.sslLayer.isSome then [s.follow .sslLayer] else []

/-- The uses in `_OnSendDone`. -/
def onSendDoneUses : List Use :=
  if s.sslLayer.isSome ∧ s.state = .tlsHandshake then [s.follow .sslLayer] else []

/-- The uses in `_ConnectDoneCallback`. -/
def connectDoneCallbackUses (result rearm : BCResult) : List Use :=
  s.connectOver.onConnectDoneUses result rearm

/-- The uses in `_RecvDoneCallback`, up to the next receive call. -/
def recvDoneCallbackUses (result : RecvResult) : List Use :=
  match result with
  | .success bytes =>
    if bytes = [] then s.recvOver.failUses else (s.recvOver.push [.tcpRecv]).onRecvDoneUses
  | .eof => s.recvOver.failUses
  | .canceled => []
  | .failed _ => s.recvOver.failUses

/-- The uses in `_SendDoneCallback`. -/
def sendDoneCallbackUses (result : SendResult) : List Use :=
  match result with
  | .success => s.sendOver.onSendDoneUses
  | .canceled => []
  | .failed _ => s.sendOver.failUses

/-- The uses in the task of `Send`. -/
def sendTaskUses (sends : ℕ → BCResult) (buf : List (List UInt8)) : List Use :=
  if s.state ≠ .ready then []
  else if s.sslLayer.isSome then [s.follow .sslLayer]
  else s.sendRawUses sends buf

/-- The uses in a task. -/
def performUses (a : PinningAnswers) (sends : ℕ → BCResult) : Task → List Use
  | .call (.send buf) => s.releasePendingTask.sendTaskUses sends buf
  | .call .close => s.releasePendingTask.failUses
  | .call (.adopt _) => []
  | .resolveDone r => s.releasePendingTask.onResolveDoneUses p r a
  | .noDnsExecutor => s.releasePendingTask.failUses

/-- The uses when the next posted task runs. -/
def runTaskUses (a : PinningAnswers) (sends : ℕ → BCResult) : List Use :=
  match s.tasks with
  | [] => []
  | t :: tasks => performUses p { s with tasks := tasks } a sends t

/-- The uses when the connect timer runs out. -/
def timeoutUses : List Use := if s.connectTimer then s.unscheduleTimer.failUses else []

/-- The uses in what the TLS library, the handler or a receive call lead to. -/
def answerUses (answer : Answer X509) (i : Instr) : List Use :=
  match i, answer with
  | .tcpRecv, .recv result => s.tcpRecvUses result
  | .sslConnect, .writes data sends => (s.push [.sslConnect]).onSSLWriteUses sends data
  | .sslConnect, .connected .done leaf _ => (s.note .handshake).onSSLReadyUses p leaf
  | .sslConnect, .connected (.failed true) _ _ => s.onSSLErrorUses
  | .sslRead, .writes data sends => (s.push [.sslRead]).onSSLWriteUses sends data
  | .sslRead, .read (.failed true) _ => (s.push [.readSSL]).onSSLErrorUses
  | .sslWrite blocks, .writes data sends => (s.push [.sslWrite blocks]).onSSLWriteUses sends data
  | .deliver [] true, .go => failUses { s with tlsShutdownClean := true }
  | .adoptFailed, .go => s.failUses
  | _, _ => []

/-- The uses when the layer goes on: itself and its session. -/
def layerUses : List Use := [s.follow .sslLayer, s.follow .ssl]

/-- The uses when the channel's thread goes on. -/
def resumeUses (answer : Answer X509) : List Use :=
  match s.stack with
  | [] => []
  | i :: stack =>
    if (continueWith p { s with stack := stack } answer i).isSome then
      (if i.InLayer then layerUses { s with stack := stack } else []) ++
        answerUses p { s with stack := stack } answer i
    else []

/-- The uses in a callback of the channel's thread. -/
def dispatchedUses (uses : List Use) : List Use := if s.stack = [] then uses else []

/-- The uses in a step. -/
def stepUses (s : TcpChannel) (e : Event X509) : List Use :=
  if s.crashed then []
  else
    match e with
    | .runTask a sends => s.dispatchedUses (s.runTaskUses p a sends)
    | .connectDone result rearm =>
      s.dispatchedUses
        (if 0 < s.ops.connects then s.connectDoneCallbackUses result rearm else [])
    | .recvDone result =>
      s.dispatchedUses (if 0 < s.ops.recvs then s.recvDoneCallbackUses result else [])
    | .sendDone result =>
      s.dispatchedUses (if 0 < s.ops.sends then s.sendDoneCallbackUses result else [])
    | .timeout => s.dispatchedUses s.timeoutUses
    | .resume answer => s.resumeUses p answer
    | _ => []

/-- The uses along a run. -/
def usesAlong : TcpChannel → List (Event X509) → List Use
  | _, [] => []
  | s, e :: events => stepUses p s e ++ usesAlong (step p s e) events

/-- Nothing but the connect operation that completes is pending, or is still counted once the
DNS request has been abandoned. -/
def OnlyConnect : Prop :=
  (s.dnsRequest = true ∨ s.counters.pendingDns = 0) ∧ s.counters.pendingConnect ≤ 1 ∧
    s.counters.pendingRecv = 0 ∧ s.counters.pendingSend = 0 ∧ s.counters.pendingTasks = 0

/-- When the connect operation completes and a TLS handshake is to begin, the receive call
starts an operation, unless something else is pending. -/
def RecvStarts (s : TcpChannel) : Event X509 → Prop
  | .connectDone result rearm =>
    s.crashed = false → s.stack = [] → 0 < s.ops.connects → result = .success →
      s.closing = false → s.state = .connecting → s.sslLayer.isSome = true →
        s.socket ≠ none → s.OnlyConnect → rearm.Started
  | _ => True

end TcpChannel

/-- None of the uses is behind the cleanup. -/
def Clean (uses : List Use) : Prop := ∀ u ∈ uses, u.cleaned = false

/-- Without uses there is none after the cleanup. -/
@[simp] theorem clean_nil : Clean [] := by simp [Clean]

/-- The first use and the rest are clean apart. -/
@[simp] theorem clean_cons {u : Use} {uses : List Use} :
    Clean (u :: uses) ↔ u.cleaned = false ∧ Clean uses := by simp [Clean]

/-- Two lists of uses are clean apart. -/
@[simp] theorem clean_append {first second : List Use} :
    Clean (first ++ second) ↔ Clean first ∧ Clean second := by
  simp only [Clean, List.mem_append]
  constructor
  · intro h
    exact ⟨fun u hu => h u (Or.inl hu), fun u hu => h u (Or.inr hu)⟩
  · rintro ⟨hfirst, hsecond⟩ u hu
    exact hu.elim (hfirst u) (hsecond u)

/-- Following a pointer finds the channel cleaned up when its end has been notified. -/
@[simp] theorem cleaned_follow (s : TcpChannel) (pointer : Pointer) :
    (s.follow pointer).cleaned = s.closedNotified := rfl

/-- A branch taken or left out. -/
theorem clean_ite {c : Prop} [Decidable c] {first second : List Use} (hfirst : c → Clean first)
    (hsecond : ¬ c → Clean second) : Clean (if c then first else second) := by
  split
  · exact hfirst ‹_›
  · exact hsecond ‹_›

variable {X509 : Type*} {p : Platform X509} {s s' : TcpChannel}

/-- A transition does not run `_Cleanup`. -/
@[simp] theorem closedNotified_setState (s : TcpChannel) (next : State) :
    (s.setState next).closedNotified = s.closedNotified := by
  unfold TcpChannel.setState
  split <;> rfl

/-- `_CancelIo`. -/
theorem clean_cancelUses (hnot : s.closedNotified = false) : Clean s.cancelUses := by
  have hone (c : Prop) [Decidable c] : Clean (if c then [s.follow .socket] else []) :=
    clean_ite (fun _ => by simp [hnot]) (fun _ => clean_nil)
  unfold TcpChannel.cancelUses
  split
  · exact clean_append.mpr ⟨clean_append.mpr ⟨hone _, hone _⟩, hone _⟩
  · exact clean_nil

/-- `_Fail`, which cancels in an open channel only. -/
theorem clean_failUses (h : s.closing = false → s.closedNotified = false) :
    Clean s.failUses := by
  unfold TcpChannel.failUses
  split
  · exact clean_nil
  · rename_i hopen
    exact clean_cancelUses (h (Bool.eq_false_iff.mpr hopen))

/-- `_TcpRecv`. -/
theorem clean_tcpRecvUses (h : s.closing = false → s.closedNotified = false)
    (result : BCResult) : Clean (s.tcpRecvUses result) := by
  unfold TcpChannel.tcpRecvUses
  split
  · exact clean_nil
  · rename_i hgo
    have hnot := h (by simp_all)
    rw [clean_cons]
    exact ⟨hnot, clean_ite (fun _ => clean_nil) fun _ => clean_failUses h⟩

/-- The send calls of `_SendRaw`. -/
theorem clean_sendSlicesUses (hnot : s.closedNotified = false) (sends : ℕ → BCResult) (k : ℕ)
    (slices : List (List (List UInt8))) : Clean (TcpChannel.sendSlicesUses sends k slices s) := by
  induction slices generalizing s k with
  | nil => exact clean_nil
  | cons slice rest ih =>
    unfold TcpChannel.sendSlicesUses
    split
    · exact clean_nil
    · rw [clean_cons]
      exact ⟨hnot, clean_ite (fun _ => ih (by exact hnot) _) fun _ => clean_failUses fun _ => hnot⟩

/-- `_SendRaw`. -/
theorem clean_sendRawUses (hnot : s.closedNotified = false) (sends : ℕ → BCResult)
    (buf : List (List UInt8)) : Clean (s.sendRawUses sends buf) :=
  clean_ite (fun _ => clean_nil) fun _ => clean_sendSlicesUses hnot _ _ _

/-- `OnSSLWrite`. -/
theorem clean_onSSLWriteUses (hnot : s.closedNotified = false) (sends : ℕ → BCResult)
    (data : List UInt8) : Clean (s.onSSLWriteUses sends data) :=
  clean_ite (fun _ => clean_nil) fun _ =>
    clean_ite (fun _ => clean_nil) fun _ => clean_sendRawUses hnot _ _

/-- `OnSSLReady`. -/
theorem clean_onSSLReadyUses (hnot : s.closedNotified = false) (leaf : Option X509) :
    Clean (s.onSSLReadyUses p leaf) := by
  unfold TcpChannel.onSSLReadyUses TcpChannel.verifySpkiPinUses
  split
  · exact clean_nil
  · split
    · exact clean_nil
    · rw [clean_cons]
      refine ⟨hnot, ?_⟩
      split
      · exact clean_failUses fun _ => hnot
      · split
        · exact clean_failUses fun _ => hnot
        · exact clean_nil

/-- `OnSSLError`. -/
theorem clean_onSSLErrorUses (hnot : s.closedNotified = false) : Clean s.onSSLErrorUses := by
  unfold TcpChannel.onSSLErrorUses
  rw [clean_append]
  exact ⟨clean_ite (fun _ => by simp [hnot]) fun _ => clean_nil, clean_failUses fun _ => hnot⟩

/-- `_SetupTls`. -/
theorem clean_setupTlsUses (hnot : s.closedNotified = false) (a : PinningAnswers) :
    Clean (s.setupTlsUses a) := by
  unfold TcpChannel.setupTlsUses
  split
  · exact clean_failUses fun _ => hnot
  · split
    · exact clean_failUses fun _ => hnot
    · rw [clean_cons]
      refine ⟨hnot, clean_ite (fun _ => clean_failUses fun _ => hnot) fun _ => ?_⟩
      rw [clean_append, clean_cons]
      refine ⟨clean_ite (fun _ => clean_nil) fun _ => by simp [hnot], hnot, ?_⟩
      exact clean_ite (fun _ => clean_failUses fun _ => hnot) fun _ => clean_nil

/-- `_DecidePinBeforeConnect`. -/
theorem clean_decidePinBeforeConnectUses (hnot : s.closedNotified = false)
    (a : PinningAnswers) : Clean (s.decidePinBeforeConnectUses p a) := by
  unfold TcpChannel.decidePinBeforeConnectUses
  split
  · exact clean_nil
  · split
    · exact clean_ite (fun _ => clean_nil) fun _ => clean_failUses fun _ => hnot
    · exact clean_nil

/-- `_PinSocket`. -/
theorem clean_pinSocketUses (hnot : s.closedNotified = false) (a : PinningAnswers) :
    Clean (s.pinSocketUses p a) := by
  unfold TcpChannel.pinSocketUses
  split
  · exact clean_nil
  · rw [clean_cons]
    refine ⟨hnot, clean_ite (fun _ => clean_nil) fun _ => ?_⟩
    exact clean_ite (fun _ => clean_failUses fun _ => hnot) fun _ => clean_nil

/-- The end of `_EnterPinning`. -/
theorem clean_connectSocketUses (hnot : s.closedNotified = false) (a : PinningAnswers) :
    Clean (s.connectSocketUses a) := by
  have hset : (s.setState .connecting).closedNotified = false := by
    rwa [closedNotified_setState]
  unfold TcpChannel.connectSocketUses
  rw [clean_cons]
  exact ⟨hset, clean_ite (fun _ => clean_nil) fun _ => clean_failUses fun _ => hset⟩

/-- What follows a preparation of an open channel. -/
theorem Attempt.clean_andThenUses {r : TcpChannel × BCResult} {uses : TcpChannel → List Use}
    (hattempt : Attempt s r) (h : Sound s) (hopen : s.closing = false)
    (huses : ∀ s', Sound s' → s'.closing = false → Clean (uses s')) :
    Clean (TcpChannel.andThenUses r uses) := by
  unfold TcpChannel.andThenUses
  split
  · exact clean_nil
  · rename_i hok
    rcases hattempt with ⟨-, hprepare⟩ | ⟨hne, -⟩
    · exact huses r.1 (hprepare.onward h).sound (hprepare.closing_eq.trans hopen)
    · exact absurd hne hok

/-- The part of `_EnterPinning` that makes the socket. -/
theorem clean_openSocketUses (h : Sound s) (hopen : s.closing = false) (a : PinningAnswers) :
    Clean (s.openSocketUses p a) := by
  have hnot := h.not_notified hopen
  have hsocket : Sound { s with socket := some a.fd } := { h with }
  unfold TcpChannel.openSocketUses
  rw [clean_cons]
  refine ⟨hnot, clean_ite (fun _ => clean_failUses fun _ => hnot) fun _ => ?_⟩
  rw [clean_append]
  refine ⟨clean_decidePinBeforeConnectUses (by exact hnot) a, ?_⟩
  apply (attempt_decidePinBeforeConnect p _ a).clean_andThenUses hsocket hopen
  intro s₁ h₁ hopen₁
  rw [clean_append]
  refine ⟨clean_pinSocketUses (h₁.not_notified hopen₁) a, ?_⟩
  apply (attempt_pinSocket p s₁ a).clean_andThenUses h₁ hopen₁
  intro s₂ h₂ hopen₂
  exact clean_connectSocketUses (h₂.not_notified hopen₂) a

/-- `_EnterPinning`. -/
theorem clean_pinningUses (h : Sound s) (hopen : s.closing = false) (a : PinningAnswers) :
    Clean (s.pinningUses p a) := by
  unfold TcpChannel.pinningUses
  split
  · rw [clean_append]
    refine ⟨clean_setupTlsUses (h.not_notified hopen) a, ?_⟩
    apply (attempt_setupTls s a).clean_andThenUses h hopen
    intro s₁ h₁ hopen₁
    exact clean_openSocketUses h₁ hopen₁ a
  · exact clean_openSocketUses h hopen a

/-- `_OnResolveDone`. -/
theorem clean_onResolveDoneUses (h : Sound s) (r : DnsResult) (a : PinningAnswers) :
    Clean (s.onResolveDoneUses p r a) := by
  unfold TcpChannel.onResolveDoneUses
  split
  · exact clean_nil
  · rename_i hgo
    have hopen : s.dnsOver.closing = false := open_of_not_or hgo
    have hstate : s.dnsOver.state = .resolving := by
      by_contra hne
      exact hgo (Or.inr hne)
    have hnot := h.dnsOver.not_notified hopen
    unfold TcpChannel.onResolvedUses
    split
    · exact clean_failUses fun _ => hnot
    · split
      · exact clean_failUses fun _ => hnot
      · rename_i addr _ _ _
        have haddr : Sound
            { s.dnsOver with peerAddr := some { addr with port := s.dnsOver.config.port } } :=
          { h.dnsOver with }
        have hlegal : isLegalTransition s.dnsOver.state .pinning = true := by rw [hstate]; rfl
        obtain ⟨hset, hclosing, -⟩ := haddr.onward_setState hopen hlegal (by simp) (by simp)
        exact clean_pinningUses hset.sound hclosing a

/-- The task of `Send`. -/
theorem clean_sendTaskUses (hnot : s.closedNotified = false) (sends : ℕ → BCResult)
    (buf : List (List UInt8)) : Clean (s.sendTaskUses sends buf) :=
  clean_ite (fun _ => clean_nil) fun _ =>
    clean_ite (fun _ => by simp [hnot]) fun _ => clean_sendRawUses hnot _ _

/-- A posted task. -/
theorem clean_runTaskUses (h : Sound s) (a : PinningAnswers) (sends : ℕ → BCResult) :
    Clean (s.runTaskUses p a sends) := by
  unfold TcpChannel.runTaskUses
  split
  · exact clean_nil
  · rename_i t tasks htasks
    obtain ⟨hreleased, hnot⟩ := h.released htasks
    cases t with
    | call c =>
      cases c with
      | send buf => exact clean_sendTaskUses (by exact hnot) sends buf
      | close => exact clean_failUses fun _ => hnot
      | adopt handler => exact clean_nil
    | resolveDone r => exact clean_onResolveDoneUses hreleased r a
    | noDnsExecutor => exact clean_failUses fun _ => hnot

/-- `_RecvDoneCallback`. -/
theorem clean_recvDoneCallbackUses (hnot : s.closedNotified = false) (result : RecvResult) :
    Clean (s.recvDoneCallbackUses result) := by
  have hfail : Clean s.recvOver.failUses := clean_failUses fun _ => hnot
  cases result with
  | success bytes =>
    exact clean_ite (fun _ => hfail) fun _ =>
      clean_ite (fun _ => clean_cons.mpr ⟨hnot, clean_nil⟩) fun _ => clean_nil
  | eof => exact hfail
  | canceled => exact clean_nil
  | failed result => exact hfail

/-- `_SendDoneCallback`. -/
theorem clean_sendDoneCallbackUses (hnot : s.closedNotified = false) (result : SendResult) :
    Clean (s.sendDoneCallbackUses result) := by
  cases result with
  | success =>
    exact clean_ite (fun _ => clean_cons.mpr ⟨hnot, clean_nil⟩) fun _ => clean_nil
  | canceled => exact clean_nil
  | failed result => exact clean_failUses fun _ => hnot

/-- When the channel's thread goes on in work of the layer, `_Cleanup` has not run; elsewhere
only an open channel goes through a pointer. -/
theorem clean_answerUses (h : s.closing = false → s.closedNotified = false) {i : Instr}
    (hi : i.InLayer → s.closedNotified = false) (answer : Answer X509) :
    Clean (s.answerUses p answer i) := by
  unfold TcpChannel.answerUses
  split
  · exact clean_tcpRecvUses h _
  · exact clean_onSSLWriteUses (by exact hi trivial) _ _
  · exact clean_onSSLReadyUses (by exact hi trivial) _
  · exact clean_onSSLErrorUses (by exact hi trivial)
  · exact clean_onSSLWriteUses (by exact hi trivial) _ _
  · exact clean_onSSLErrorUses (by exact hi trivial)
  · exact clean_onSSLWriteUses (by exact hi trivial) _ _
  · exact clean_failUses h
  · exact clean_failUses h
  · exact clean_nil

/-- The channel's thread goes on. -/
theorem clean_resumeUses (h : Sound s) (hnested : Nested s.stack) (answer : Answer X509) :
    Clean (s.resumeUses p answer) := by
  unfold TcpChannel.resumeUses
  split
  · exact clean_nil
  · rename_i i stack hstack
    rw [hstack] at hnested
    have hinside : i.InLayer → s.closedNotified = false := by
      intro hi
      apply h.not_notified_inside
      rw [hstack]
      exact List.mem_cons_of_mem i (hnested.1 hi)
    split
    · rw [clean_append]
      refine ⟨clean_ite (fun hi => ?_) fun _ => clean_nil, ?_⟩
      · simp [TcpChannel.layerUses, hinside hi]
      · exact clean_answerUses (s := { s with stack := stack }) h.not_notified hinside answer
    · exact clean_nil

/-- `_MaybeFinishClose` runs `_Cleanup` in a closing channel with nothing pending. -/
theorem closedNotified_maybeFinishClose_iff (hnot : s.closedNotified = false) :
    s.maybeFinishClose.closedNotified = true ↔ s.closing = true ∧ s.counters = Counters.zero := by
  unfold TcpChannel.maybeFinishClose
  split
  · rename_i hmay
    constructor
    · exact fun _ => ⟨hmay.1, hmay.2.2⟩
    · intro _
      exact closedNotified_setState _ _
  · rename_i hmay
    rw [hnot]
    constructor
    · exact fun h => absurd h Bool.false_ne_true
    · exact fun h => absurd ⟨h.1, hnot, h.2⟩ hmay

/-- Closing starts. -/
theorem closing_startClosing (s : TcpChannel) (result : BCResult) (reason : Reason) :
    (s.startClosing result reason).closing = true := by
  have hset := TcpChannel.quiet_setState
    { s.note (.stopped result reason) with
      closing := true
      closeResult := result
      closeReason := some reason } (Or.inl rfl)
  have hclosing := (hset.closing_kept rfl).1
  exact ((TcpChannel.quiet_cancelIo _ hclosing).closing_kept hclosing).1

/-- When closing starts, the DNS request is no longer counted. -/
theorem counters_startClosing (s : TcpChannel) (result : BCResult) (reason : Reason) :
    (s.startClosing result reason).counters =
      if s.dnsRequest then { s.counters with pendingDns := 0 } else s.counters := by
  have hcancel (s : TcpChannel) : s.cancelOps.counters = s.counters := by
    unfold TcpChannel.cancelOps
    split <;> rfl
  unfold TcpChannel.startClosing TcpChannel.cancelIo
  rw [hcancel]
  unfold TcpChannel.setState TcpChannel.unscheduleTimer TcpChannel.abandonDns
  split <;> split <;> simp_all [TcpChannel.note]

/-- What is left to be counted when closing has started. -/
theorem counters_startClosing_eq_zero_iff (s : TcpChannel) (result : BCResult)
    (reason : Reason) :
    (s.startClosing result reason).counters = Counters.zero ↔
      s.counters.sslDepth = 0 ∧ (s.dnsRequest = true ∨ s.counters.pendingDns = 0) ∧
        s.counters.pendingConnect = 0 ∧ s.counters.pendingRecv = 0 ∧
        s.counters.pendingSend = 0 ∧ s.counters.pendingTasks = 0 := by
  rw [counters_startClosing]
  cases s.counters
  cases s.dnsRequest <;> simp [Counters.zero]

/-- A receive call of an open channel runs `_Cleanup` if it fails and nothing is pending. -/
theorem closedNotified_tcpRecv_iff (hopen : s.closing = false) (hnot : s.closedNotified = false)
    (result : BCResult) :
    (s.tcpRecv result).closedNotified = true ↔
      s.socket ≠ none ∧ ¬ result.Started ∧ s.counters.sslDepth = 0 ∧
        (s.dnsRequest = true ∨ s.counters.pendingDns = 0) ∧ s.counters.pendingConnect = 0 ∧
        s.counters.pendingRecv = 0 ∧ s.counters.pendingSend = 0 ∧
        s.counters.pendingTasks = 0 := by
  unfold TcpChannel.tcpRecv
  split
  · rename_i hskip
    rw [hnot]
    constructor
    · exact fun h => absurd h Bool.false_ne_true
    · rintro ⟨hsocket, -, -, -, -, hrecv, -⟩
      rcases hskip with hclosing | hnone | hpending
      · exact absurd (hopen.symm.trans hclosing) Bool.false_ne_true
      · exact absurd hnone hsocket
      · omega
  · rename_i hskip
    have hsocket : s.socket ≠ none := fun hnone => hskip (Or.inr (Or.inl hnone))
    split
    · rename_i hstarted
      change s.closedNotified = true ↔ _
      rw [hnot]
      constructor
      · exact fun h => absurd h Bool.false_ne_true
      · exact fun h => absurd hstarted h.2.1
    · rename_i hstarted
      unfold TcpChannel.fail
      rw [if_neg (by simp [hopen]), closedNotified_maybeFinishClose_iff
        (by rwa [closedNotified_startClosing]), counters_startClosing_eq_zero_iff]
      simp [closing_startClosing, hsocket, hstarted]

/-- `_OnConnectDone`: what follows the receive call is not behind the cleanup exactly when the
call has not run it. -/
theorem clean_onConnectDoneUses_iff (hnot : s.closedNotified = false) (result rearm : BCResult) :
    Clean (s.onConnectDoneUses result rearm) ↔
      (result = .success → s.closing = false → s.state = .connecting →
        s.sslLayer.isSome = true →
          ((s.setState .tlsHandshake).tcpRecv rearm).closedNotified = false) := by
  unfold TcpChannel.onConnectDoneUses
  split
  · rename_i hfailed
    simp [hfailed, clean_failUses fun _ => hnot]
  · rename_i hsuccess
    split
    · rename_i hskip
      have hnone : s.closing = false → ¬ s.state = .connecting := by
        intro hopen hstate
        rcases hskip with hclosing | hne
        · exact absurd (hopen.symm.trans hclosing) Bool.false_ne_true
        · exact hne hstate
      simp only [clean_nil, true_iff]
      exact fun _ hopen hstate => absurd hstate (hnone hopen)
    · rename_i hgo
      have hopen : s.closing = false := open_of_not_or hgo
      have hstate : s.state = .connecting := by
        by_contra hne
        exact hgo (Or.inr hne)
      have hrecv : Clean ((s.setState .tlsHandshake).tcpRecvUses rearm) :=
        clean_tcpRecvUses (fun _ => by rwa [closedNotified_setState]) rearm
      split
      · rename_i hlayer
        simp [hnot, hrecv, not_not.mp hsuccess, hopen, hstate, hlayer]
      · rename_i hlayer
        simp [hnot, hlayer]

/-- `_ConnectDoneCallback` goes through no pointer behind the cleanup exactly when the receive
call starts an operation or something else is pending. -/
theorem clean_connectDoneCallbackUses_iff (h : Sound s) (hstack : s.stack = [])
    (hops : 0 < s.ops.connects) (result rearm : BCResult) :
    Clean (s.connectDoneCallbackUses result rearm) ↔
      (result = .success → s.closing = false → s.state = .connecting →
        s.sslLayer.isSome = true → s.socket ≠ none → s.OnlyConnect → rearm.Started) := by
  obtain ⟨-, hnot⟩ := h.connectOver hops
  have hdepth : s.counters.sslDepth = 0 := by rw [h.depth_eq, hstack, List.count_nil]
  have hset (hopen : s.closing = false) (hstate : s.state = .connecting) :
      ((s.connectOver.setState .tlsHandshake).tcpRecv rearm).closedNotified = true ↔
        s.socket ≠ none ∧ ¬ rearm.Started ∧ s.OnlyConnect := by
    have hentered : s.connectOver.setState .tlsHandshake =
        { s.connectOver.note (.setState s.state .tlsHandshake) with state := .tlsHandshake } := by
      have hne : s.connectOver.state ≠ .tlsHandshake := by
        change s.state ≠ .tlsHandshake
        rw [hstate]
        simp
      rw [TcpChannel.setState, if_neg hne]
      rfl
    rw [hentered, closedNotified_tcpRecv_iff (by exact hopen) (by exact hnot)]
    change s.socket ≠ none ∧ ¬ rearm.Started ∧ s.counters.sslDepth = 0 ∧
      (s.dnsRequest = true ∨ s.counters.pendingDns = 0) ∧ s.counters.pendingConnect - 1 = 0 ∧
      s.counters.pendingRecv = 0 ∧ s.counters.pendingSend = 0 ∧ s.counters.pendingTasks = 0 ↔ _
    simp only [hdepth, true_and, TcpChannel.OnlyConnect, Nat.sub_eq_zero_iff_le]
  unfold TcpChannel.connectDoneCallbackUses
  rw [clean_onConnectDoneUses_iff (by exact hnot)]
  constructor
  · intro hclean hsuccess hopen hstate hlayer hsocket honly
    by_contra hstarted
    have hcleaned := (hset hopen hstate).mpr ⟨hsocket, hstarted, honly⟩
    rw [hclean hsuccess hopen hstate hlayer] at hcleaned
    cases hcleaned
  · intro hstarts hsuccess hopen hstate hlayer
    rw [← Bool.not_eq_true]
    intro hcleaned
    obtain ⟨hsocket, hstarted, honly⟩ := (hset hopen hstate).mp hcleaned
    exact hstarted (hstarts hsuccess hopen hstate hlayer hsocket honly)

/-- A callback that is not behind the cleanup. -/
theorem clean_dispatchedUses {uses : List Use} (h : s.stack = [] → Clean uses) :
    Clean (s.dispatchedUses uses) :=
  clean_ite h fun _ => clean_nil

/-- A step goes through no pointer behind the cleanup exactly when it meets the condition. -/
theorem clean_stepUses_iff (h : Sound s) (hnested : Nested s.stack) (e : Event X509) :
    Clean (TcpChannel.stepUses p s e) ↔ s.RecvStarts e := by
  unfold TcpChannel.stepUses
  split
  · rename_i hcrashed
    cases e <;> simp [TcpChannel.RecvStarts, hcrashed]
  · rename_i hgo
    have halive : s.crashed = false := Bool.eq_false_iff.mpr hgo
    cases e with
    | runTask a sends =>
      simp only [TcpChannel.RecvStarts, iff_true]
      exact clean_dispatchedUses fun _ => clean_runTaskUses h a sends
    | connectDone result rearm =>
      simp only [TcpChannel.RecvStarts, TcpChannel.dispatchedUses, halive, true_implies]
      split
      · rename_i hstack
        split
        · rename_i hops
          rw [clean_connectDoneCallbackUses_iff h hstack hops]
          simp [hops, hstack]
        · rename_i hops
          simp [hops]
      · rename_i hstack
        simp [hstack]
    | recvDone result =>
      simp only [TcpChannel.RecvStarts, iff_true]
      apply clean_dispatchedUses
      intro _
      exact clean_ite (fun hops => clean_recvDoneCallbackUses (h.recvOver hops).2 result)
        fun _ => clean_nil
    | sendDone result =>
      simp only [TcpChannel.RecvStarts, iff_true]
      apply clean_dispatchedUses
      intro _
      exact clean_ite (fun hops => clean_sendDoneCallbackUses (h.sendOver hops).2 result)
        fun _ => clean_nil
    | timeout =>
      simp only [TcpChannel.RecvStarts, iff_true]
      apply clean_dispatchedUses
      intro _
      exact clean_ite (fun _ => clean_failUses h.not_notified) fun _ => clean_nil
    | resume answer =>
      simp only [TcpChannel.RecvStarts, iff_true]
      exact clean_resumeUses h hnested answer
    | _ => simp [TcpChannel.RecvStarts]

/-- The uses along a run from a state between two steps. -/
theorem clean_usesAlong_iff_of_upright (h : Upright s) (hnested : Nested s.stack)
    (events : List (Event X509)) :
    Clean (TcpChannel.usesAlong p s events) ↔
      Meets (TcpChannel.step p) TcpChannel.RecvStarts s events := by
  induction events generalizing s with
  | nil => simp [TcpChannel.usesAlong, Meets]
  | cons e events ih =>
    rw [TcpChannel.usesAlong, clean_append, clean_stepUses_iff h.sound hnested,
      ih (h.step e) (hnested.step e)]
    rfl

/-- Over any order of events a channel goes through its socket, its TLS layer and its session
only before `_Cleanup`, exactly when every receive call at the start of a handshake starts an
operation or something else is pending. -/
theorem clean_usesAlong_iff (p : Platform X509) (config : TcpChannelConfig)
    (events : List (Event X509)) :
    (∀ u ∈ TcpChannel.usesAlong p (TcpChannel.create config) events, u.cleaned = false) ↔
      Meets (TcpChannel.step p) TcpChannel.RecvStarts (TcpChannel.create config) events :=
  clean_usesAlong_iff_of_upright (upright_create config) trivial events

/-- A TLS connection to an address of its own, whose first receive call fails: the channel is
cleaned up, and `ConnectSSL` is called through the layer it no longer has. -/
theorem not_clean_usesAlong_recvFails :
    ∃ (p : Platform Unit) (config : TcpChannelConfig) (events : List (Event Unit)),
      Use.mk .sslLayer true ∈ TcpChannel.usesAlong p (TcpChannel.create config) events ∧
        (run (TcpChannel.step p) (TcpChannel.create config) events).crashed = true := by
  let p : Platform Unit :=
    { osAndroid := false
      hasPathMonitor := false
      platformDefault := .os
      parseIpLiteral := fun _ port => some ⟨false, [192, 0, 2, 1], port⟩
      pem := fun _ => .noBio
      x509 := ⟨fun _ => none, fun _ => none, fun _ => true, fun _ _ _ => none, fun _ _ => true⟩ }
  let cfg : TcpChannelConfig :=
    { host := "a"
      port := 443
      tls := true
      resolvedIp := "192.0.2.1"
      policy := .os
      ifIndex := 0
      androidNetHandle := 0
      dns := ⟨.os, 0, 0⟩
      tlsCfg := ⟨[], []⟩
      connectTimeoutMs := 10000 }
  let answers : PinningAnswers :=
    { sslCtx := none
      sslNew := true
      prepareSsl := (.success, "")
      sslLayer := .success
      socketCreate := .success
      fd := 3
      scopedIf := 0
      globalIf := 0
      peerClass := 0
      pin := .ok
      pinMethod := ""
      pinErrno := 0
      connect := .inProgress }
  refine ⟨p, cfg, [.openChannel (some 0) cfg ⟨0, .success, true⟩,
    .runTask answers fun _ => .success, .connectDone .success (.other 57)], ?_, ?_⟩
  · decide +kernel
  · decide +kernel

end Tcp
