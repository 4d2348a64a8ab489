import TTSignal.Tcp.Connecting

/-!
# Keeping to the physical interface

Under the policy that forces the physical interface a channel calls `Connect` only for a
socket that has been pinned to an interface from which the route leads to the peer. A
channel that never calls `Connect` does not linger: it is refused by `Open`, or its handler
is told why it has been closed.
-/

namespace Tcp

open Runs Traces

/-- A look at the routes, a pinning or the connect call. -/
def Action.Network : Action → Prop
  | .scopedLookup _ _ => True
  | .globalLookup _ => True
  | .pin _ _ _ _ => True
  | .connect _ => True
  | _ => False

/-- The interface has not been looked at. -/
def Untouched (s : TcpChannel) : Prop := ∀ a ∈ s.trace, ¬ a.Network

/-- `Connect` is called for a socket that has been pinned to an interface, or on Android to a
network, that leads to the peer. -/
def Cleared {X509 : Type*} (p : Platform X509) (before : List Action) : Action → Prop
  | .connect fd =>
    ∃ ifIndex handle, .pin fd ifIndex handle .ok ∈ before ∧
      (ifIndex ≠ 0 ∨ p.osAndroid = true ∧ handle ≠ 0) ∧
        ∃ scopedIf, .scopedLookup ifIndex scopedIf ∈ before ∧
          (scopedIf = routeIfindexUnknown ∨ scopedIf = ifIndex)
  | _ => True

/-- The handler has been told the result and the reason. -/
def Told (s : TcpChannel) : Prop :=
  ∃ handler, .callback handler (.onChannelClosed s.closeResult s.closeReason) ∈ s.trace

/-- Why a result ended a channel before its connect call. -/
def Explains (s : TcpChannel) (result : BCResult) : Prop :=
  result = .routeMismatch ∧
      (∃ ifIndex scopedIf, .scopedLookup ifIndex scopedIf ∈ s.trace ∧
        scopedIf ≠ routeIfindexUnknown ∧ scopedIf ≠ ifIndex) ∨
    result = .pinFailed ∧
        (∃ fd ifIndex handle pinned, pinned ≠ .ok ∧ .pin fd ifIndex handle pinned ∈ s.trace) ∨
      Untouched s

/-- Work of a channel that has not connected. -/
def Instr.Inert : Instr → Prop
  | .maybeFinishClose => True
  | .inHandler => True
  | .adoptFailed => True
  | _ => False

/-- What has been done without a connect call. -/
structure Bare (s : TcpChannel) : Prop where
  /-- No operation of a socket is in flight. -/
  ops_eq : s.ops = ⟨0, 0, 0⟩
  /-- No null pointer has been followed. -/
  alive : s.crashed = false
  /-- Only calls of the handler and what follows them are on the stack. -/
  inert : ∀ i ∈ s.stack, i.Inert
  /-- The DNS request is counted. -/
  dns_counted : s.counters.pendingDns = if s.dnsRequest then 1 else 0
  /-- `Connect` has not been called. -/
  unconnected : ∀ a ∈ s.trace, ¬ a.Connects

/-- A channel that has not called `Connect`. -/
structure Plain (s : TcpChannel) : Prop extends Bare s where
  /-- A closing channel has given up its DNS request. -/
  dns_over : s.closing = true → s.dnsRequest = false
  /-- The handler of a closed channel has been told or is going to be told. -/
  told : s.closedNotified = true → s.shutdownPending = true ∨ Told s

/-- A channel that has not been opened. -/
structure Unopened (s : TcpChannel) : Prop where
  /-- It has not called `Connect`. -/
  plain : Plain s
  /-- Its state. -/
  state_eq : s.state = .idle
  /-- There is no queue. -/
  queue_eq : s.queueCreated = false
  /-- No call has been admitted. -/
  callers_eq : s.callers = []
  /-- No call has been counted. -/
  accepted_eq : s.accepted = []
  /-- Nothing has been posted. -/
  tasks_eq : s.tasks = []
  /-- Nothing is going on. -/
  stack_eq : s.stack = []
  /-- Nothing is being resolved. -/
  request_eq : s.request = none
  /-- No DNS request has been made. -/
  dns_eq : s.dnsRequest = false
  /-- No timer runs. -/
  timer_eq : s.connectTimer = false
  /-- No shutdown is on its way. -/
  shutdown_eq : s.shutdownPending = false
  /-- The interface has not been looked at. -/
  untouched : Untouched s

/-- An open channel that waits for the address of its peer. -/
structure Waiting {X509 : Type*} (p : Platform X509) (s : TcpChannel) : Prop where
  /-- It has not called `Connect`. -/
  plain : Plain s
  /-- It is open. -/
  opened : s.closing = false
  /-- Its state. -/
  state_eq : s.state = .resolving
  /-- It will not wait forever. -/
  timer_eq : s.connectTimer = true
  /-- There is somebody to tell. -/
  handled : s.handler.isSome = true
  /-- There is an interface to be forced to. -/
  target : s.config.policy = .forcePhysical → s.HasBindTarget p
  /-- The interface has not been looked at. -/
  untouched : Untouched s

/-- A channel that is closing and has not called `Connect`. -/
structure Stopped (s : TcpChannel) : Prop where
  /-- It has not called `Connect`. -/
  plain : Plain s
  /-- It is closing. -/
  stopping : s.closing = true
  /-- There is somebody to tell, or it has been done. -/
  handled : s.handler.isSome = true ∨ Told s
  /-- Its result and reason are those of the failure that stopped it. -/
  recorded : ∃ reason, s.closeReason = some reason ∧ .stopped s.closeResult reason ∈ s.trace
  /-- Its result is explained. -/
  explained : Explains s s.closeResult

/-- How far a channel has come. -/
inductive Stage {X509 : Type*} (p : Platform X509) (s : TcpChannel) : Prop where
  | unopened (h : Unopened s)
  | waiting (h : Waiting p s)
  | connected (late : s.state.Late) (fd : ℤ) (h : .connect fd ∈ s.trace)
  | stopped (h : Stopped s)

/-- A channel keeps to its interface, if that is forced. -/
structure Guarded {X509 : Type*} (p : Platform X509) (s : TcpChannel) : Prop where
  /-- `Connect` is called for a pinned socket. -/
  cleared : s.config.policy = .forcePhysical → Justified (Cleared p) s.trace
  /-- How far the channel has come. -/
  stage : Stage p s

variable {X509 : Type*} {p : Platform X509} {s s' s'' : TcpChannel}

/-- A connect call is a look at the network. -/
theorem Action.Connects.network {a : Action} (h : a.Connects) : a.Network := by
  cases a <;> first | exact h.elim | trivial

/-- Other actions than the connect call need nothing. -/
theorem cleared_of_not_connects {a : Action} (ha : ¬ a.Connects) (before : List Action) :
    Cleared p before a := by
  cases a <;> first | trivial | exact absurd trivial ha

/-- What steps have in common that only close a channel or wait. -/
structure Calm (s s' : TcpChannel) : Prop where
  /-- The configuration stays. -/
  config_eq : s'.config = s.config
  /-- The handler stays. -/
  handler_eq : s'.handler = s.handler
  /-- The interface stays. -/
  bound_eq : s'.boundIfindex = s.boundIfindex
  /-- The state stays or goes towards the closed one. -/
  state_eq : s'.state = s.state ∨ s'.state = .closing ∨ s'.state = .closed
  /-- The connect timer stays while the channel is not closing. -/
  timer_kept : s.connectTimer = true → s'.connectTimer = true ∨ s'.closing = true
  /-- A closing channel stays one, with its result and reason. -/
  closing_kept : s.closing = true →
    s'.closing = true ∧ s'.closeResult = s.closeResult ∧ s'.closeReason = s.closeReason
  /-- The start of closing is recorded. -/
  stopped : s.closing = false → s'.closing = true →
    ∃ reason, s'.closeReason = some reason ∧ .stopped s'.closeResult reason ∈ s'.trace
  /-- The network is not looked at. -/
  trace_append : ∃ new, s'.trace = s.trace ++ new ∧ ∀ a ∈ new, ¬ a.Network

/-- Quiet work is calm. -/
theorem Quiet.calm (h : Quiet s s') : Calm s s' where
  config_eq := h.config_eq
  handler_eq := h.handler_eq
  bound_eq := h.bound_eq
  state_eq := h.state_eq
  timer_kept := h.timer_kept
  closing_kept := h.closing_kept
  stopped := h.stopped
  trace_append := by
    obtain ⟨new, hnew, hquiet⟩ := h.trace_append
    refine ⟨new, hnew, ?_⟩
    intro a ha hnetwork
    have hq := hquiet a ha
    cases a <;> first | exact hq.elim | exact hnetwork.elim

/-- One calm step follows the other. -/
theorem Calm.trans (h : Calm s s') (h' : Calm s' s'') : Calm s s'' where
  config_eq := h'.config_eq.trans h.config_eq
  handler_eq := h'.handler_eq.trans h.handler_eq
  bound_eq := h'.bound_eq.trans h.bound_eq
  state_eq := by
    rcases h'.state_eq with hsame | hclosed
    · rw [hsame]
      exact h.state_eq
    · exact Or.inr hclosed
  timer_kept := by
    intro htimer
    rcases h.timer_kept htimer with htimer' | hclosing
    · exact h'.timer_kept htimer'
    · exact Or.inr (h'.closing_kept hclosing).1
  closing_kept := by
    intro hclosing
    obtain ⟨hclosing', hresult, hreason⟩ := h.closing_kept hclosing
    obtain ⟨hclosing'', hresult', hreason'⟩ := h'.closing_kept hclosing'
    exact ⟨hclosing'', hresult'.trans hresult, hreason'.trans hreason⟩
  stopped := by
    intro hopen hclosing
    cases hs' : s'.closing with
    | false => exact h'.stopped hs' hclosing
    | true =>
      obtain ⟨reason, hreason, hmem⟩ := h.stopped hopen hs'
      obtain ⟨-, hresult', hreason'⟩ := h'.closing_kept hs'
      obtain ⟨new, hnew, -⟩ := h'.trace_append
      refine ⟨reason, hreason'.trans hreason, ?_⟩
      rw [hresult', hnew]
      exact List.mem_append_left _ hmem
  trace_append := by
    obtain ⟨new, hnew, hnone⟩ := h.trace_append
    obtain ⟨new', hnew', hnone'⟩ := h'.trace_append
    refine ⟨new ++ new', by rw [hnew', hnew, List.append_assoc], ?_⟩
    intro a ha
    exact (List.mem_append.mp ha).elim (hnone a) (hnone' a)

/-- What is on the stack does not matter. -/
theorem calm_stack (s : TcpChannel) (stack : List Instr) : Calm s { s with stack := stack } :=
  { (Quiet.refl s).calm with }

/-- An action that does not look at the network. -/
theorem calm_note (s : TcpChannel) {a : Action} (ha : ¬ a.Network) : Calm s (s.note a) :=
  { (Quiet.refl s).calm with
    stopped := fun hopen hclosing => absurd (hopen.symm.trans hclosing) Bool.false_ne_true
    trace_append := ⟨[a], rfl, by simpa using ha⟩ }

/-- A handler is called. -/
theorem calm_callHandler (s : TcpChannel) (handler : HandlerId) (c : Callback) :
    Calm s (s.callHandler handler c) :=
  (calm_note s (a := .callback handler c) not_false).trans (calm_stack _ _)

/-- What has been told stays told. -/
theorem Told.mono (h : Told s) (hresult : s'.closeResult = s.closeResult)
    (hreason : s'.closeReason = s.closeReason) (htrace : ∀ a ∈ s.trace, a ∈ s'.trace) :
    Told s' := by
  obtain ⟨handler, hmem⟩ := h
  refine ⟨handler, htrace _ ?_⟩
  rwa [hresult, hreason]

/-- A record in which the network has not been looked at stays one. -/
theorem Calm.untouched (h : Calm s s') (huntouched : Untouched s) : Untouched s' := by
  obtain ⟨new, hnew, hnone⟩ := h.trace_append
  intro a ha
  rw [hnew] at ha
  exact (List.mem_append.mp ha).elim (huntouched a) (hnone a)

/-- The record only grows. -/
theorem Calm.mem_trace (h : Calm s s') {a : Action} (ha : a ∈ s.trace) : a ∈ s'.trace := by
  obtain ⟨new, hnew, -⟩ := h.trace_append
  rw [hnew]
  exact List.mem_append_left _ ha

/-- An explanation stays one. -/
theorem Explains.calm {result : BCResult} (h : Explains s result) (hcalm : Calm s s') :
    Explains s' result := by
  rcases h with ⟨hresult, ifIndex, scopedIf, hmem, hroute⟩ |
    ⟨hresult, fd, ifIndex, handle, pinned, hpinned, hmem⟩ | huntouched
  · exact Or.inl ⟨hresult, ifIndex, scopedIf, hcalm.mem_trace hmem, hroute⟩
  · exact Or.inr (Or.inl ⟨hresult, fd, ifIndex, handle, pinned, hpinned, hcalm.mem_trace hmem⟩)
  · exact Or.inr (Or.inr (hcalm.untouched huntouched))

/-- A stopped channel stays stopped. -/
theorem Stopped.calm (h : Stopped s) (hcalm : Calm s s') (hplain : Plain s') : Stopped s' := by
  obtain ⟨hclosing, hresult, hreason⟩ := hcalm.closing_kept h.stopping
  refine ⟨hplain, hclosing, ?_, ?_, ?_⟩
  · rw [hcalm.handler_eq]
    exact h.handled.imp_right fun htold => htold.mono hresult hreason fun a => hcalm.mem_trace
  · obtain ⟨reason, hstored, hmem⟩ := h.recorded
    refine ⟨reason, hreason.trans hstored, ?_⟩
    rw [hresult]
    exact hcalm.mem_trace hmem
  · rw [hresult]
    exact h.explained.calm hcalm

/-- A waiting channel goes on waiting, or it is stopped. -/
theorem Waiting.calm (h : Waiting p s) (hsound : Sound s') (hcalm : Calm s s')
    (hplain : Plain s') : Stage p s' := by
  cases hclosing : s'.closing with
  | true =>
    apply Stage.stopped
    refine ⟨hplain, hclosing, ?_, hcalm.stopped h.opened hclosing, ?_⟩
    · rw [hcalm.handler_eq]
      exact Or.inl h.handled
    · exact Or.inr (Or.inr (hcalm.untouched h.untouched))
  | false =>
    have hstate : s'.state = s.state := by
      have hnot : ¬ (s'.state = .closing ∨ s'.state = .closed) := by
        rw [← hsound.closing_iff, hclosing]
        simp
      exact hcalm.state_eq.resolve_right hnot
    apply Stage.waiting
    refine ⟨hplain, hclosing, hstate.trans h.state_eq, ?_, ?_, ?_, hcalm.untouched h.untouched⟩
    · have htimer := hcalm.timer_kept h.timer_eq
      rw [hclosing] at htimer
      simpa using htimer
    · rw [hcalm.handler_eq]
      exact h.handled
    · intro hforce
      rw [hcalm.config_eq] at hforce
      unfold TcpChannel.HasBindTarget
      rw [hcalm.bound_eq, hcalm.config_eq]
      exact h.target hforce

/-- Recording another action than the connect call. -/
theorem Bare.note (h : Bare s) {a : Action} (ha : ¬ a.Connects) : Bare (s.note a) :=
  { h with
    unconnected := by
      intro b hb
      rcases List.mem_append.mp hb with hb | hb
      · exact h.unconnected b hb
      · rw [List.mem_singleton.mp hb]
        exact ha }

/-- A transition. -/
theorem Bare.setState (h : Bare s) (next : State) : Bare (s.setState next) := by
  unfold TcpChannel.setState
  split
  · exact h
  · exact { h.note (a := .setState s.state next) not_false with }

/-- `_AbandonDns`. -/
theorem Bare.abandonDns (h : Bare s) : Bare s.abandonDns := by
  unfold TcpChannel.abandonDns
  split
  · exact { h with dns_counted := rfl }
  · exact h

/-- The start of closing. -/
theorem Bare.startClosing (h : Bare s) (result : BCResult) (reason : Reason) :
    Bare (s.startClosing result reason) := by
  have hnoted := h.note (a := .stopped result reason) not_false
  have hstarted : Bare
      { s.note (.stopped result reason) with
        closing := true
        closeResult := result
        closeReason := some reason } := { hnoted with }
  have htimer : Bare (TcpChannel.unscheduleTimer _) := { hstarted.setState .closing with }
  change Bare (TcpChannel.cancelOps _)
  unfold TcpChannel.cancelOps
  split
  · exact htimer.abandonDns.note not_false
  · exact htimer.abandonDns

/-- A closing channel gives up its DNS request. -/
theorem dnsRequest_startClosing (s : TcpChannel) (result : BCResult) (reason : Reason) :
    (s.startClosing result reason).dnsRequest = false := by
  have habandon (s : TcpChannel) : s.abandonDns.dnsRequest = false := by
    unfold TcpChannel.abandonDns
    split
    · rfl
    · rename_i hnone
      simpa using hnone
  change (TcpChannel.cancelOps _).dnsRequest = false
  unfold TcpChannel.cancelOps
  split
  · exact habandon _
  · exact habandon _

/-- The result and the reason of a closing channel are the first ones. -/
theorem result_fail (hopen : s.closing = false) (result : BCResult) (reason : Reason) :
    (s.fail result reason).closeResult = result ∧
      (s.fail result reason).closeReason = some reason := by
  have hset := TcpChannel.quiet_setState
    { s.note (.stopped result reason) with
      closing := true
      closeResult := result
      closeReason := some reason } (Or.inl rfl)
  obtain ⟨hclosing, hresult, hreason⟩ := hset.closing_kept rfl
  obtain ⟨hclosing', hresult', hreason'⟩ :=
    (TcpChannel.quiet_cancelIo _ hclosing).closing_kept hclosing
  obtain ⟨-, hresult'', hreason''⟩ := (TcpChannel.quiet_maybeFinishClose _).closing_kept hclosing'
  have hfail : s.fail result reason = (s.startClosing result reason).maybeFinishClose := by
    unfold TcpChannel.fail
    rw [if_neg (by simp [hopen])]
  rw [hfail]
  exact ⟨hresult''.trans (hresult'.trans hresult), hreason''.trans (hreason'.trans hreason)⟩

/-- Recording another action than the connect call keeps it plain. -/
theorem Plain.note (h : Plain s) {a : Action} (ha : ¬ a.Connects) : Plain (s.note a) :=
  { h.toBare.note ha with
    dns_over := h.dns_over
    told := fun hnotified => (h.told hnotified).imp_right fun htold =>
      htold.mono rfl rfl fun _ hb => List.mem_append_left _ hb }

/-- Putting inert work on the stack. -/
theorem Plain.push (h : Plain s) {instrs : List Instr} (hinstrs : ∀ i ∈ instrs, i.Inert) :
    Plain (s.push instrs) :=
  { h with
    inert := by
      intro i hi
      exact (List.mem_append.mp hi).elim (hinstrs i) (h.inert i) }

/-- Calling a handler. -/
theorem Plain.callHandler (h : Plain s) (handler : HandlerId) (c : Callback) :
    Plain (s.callHandler handler c) :=
  (h.note (a := .callback handler c) not_false).push (by simp [Instr.Inert])

/-- `_MaybeFinishClose`. -/
theorem Plain.maybeFinishClose (h : Plain s) : Plain s.maybeFinishClose := by
  unfold TcpChannel.maybeFinishClose
  split
  · rename_i hmay
    have hnoted := h.toBare.note (a := .notified s.closing s.counters) not_false
    have hnotified : Bare
        { s.note (.notified s.closing s.counters) with closedNotified := true } := { hnoted with }
    have hclosed := hnotified.setState .closed
    have hbare : Bare (TcpChannel.detach (TcpChannel.cleanup _)) := { hclosed with }
    have hdns : (TcpChannel.setState
        { s.note (.notified s.closing s.counters) with
          closedNotified := true } .closed).dnsRequest =
          s.dnsRequest := by
      unfold TcpChannel.setState
      split <;> rfl
    exact
      { hbare with
        dns_over := fun _ => hdns.trans (h.dns_over hmay.1)
        told := fun _ => Or.inl rfl }
  · exact h

/-- `_Fail`. -/
theorem Plain.fail (h : Plain s) (hsound : Sound s) (result : BCResult) (reason : Reason) :
    Plain (s.fail result reason) := by
  unfold TcpChannel.fail
  split
  · exact h.maybeFinishClose
  · rename_i hopen
    have hnot := hsound.not_notified (Bool.eq_false_iff.mpr hopen)
    have hstart : Plain (s.startClosing result reason) :=
      { h.toBare.startClosing result reason with
        dns_over := fun _ => dnsRequest_startClosing s result reason
        told := by
          rw [closedNotified_startClosing, hnot]
          nofun }
    exact hstart.maybeFinishClose

/-- A failure stops an open channel. -/
theorem Plain.stopped_fail (h : Plain s) (hsound : Sound s) (hopen : s.closing = false)
    (hhandled : s.handler.isSome = true) {result : BCResult} (reason : Reason)
    (hexplains : Explains s result) : Stopped (s.fail result reason) := by
  have hquiet := s.quiet_fail result reason
  have hclosing := TcpChannel.closing_fail s result reason
  obtain ⟨hresult, -⟩ := result_fail hopen result reason
  refine ⟨h.fail hsound result reason, hclosing, ?_, hquiet.stopped hopen hclosing, ?_⟩
  · rw [hquiet.handler_eq]
    exact Or.inl hhandled
  · rw [hresult]
    exact hexplains.calm hquiet.calm

/-- The first test of a call. -/
theorem Plain.call (h : Plain s) (c : Call) : Plain (s.call c) := by
  unfold TcpChannel.call
  split
  · exact { h with }
  · exact h.note not_false

/-- `_AcquirePendingTask` of a call. -/
theorem Plain.acquire (h : Plain s) (i : ℕ) : Plain (s.acquire i) := by
  unfold TcpChannel.acquire
  split
  · exact h
  · split
    · have hleft : Plain { s with callers := s.callers.eraseIdx i } := { h with }
      exact hleft.note not_false
    · exact { h with }

/-- Posting the task of a call. -/
theorem Plain.post (h : Plain s) (i : ℕ) : Plain (s.post i) := by
  unfold TcpChannel.post
  split
  · exact h
  · rename_i c _
    have hposted : Plain
        { s with accepted := s.accepted.eraseIdx i, tasks := s.tasks ++ [.call c] } := { h with }
    exact hposted.note not_false

/-- The start of `_RunDnsRequest`. -/
theorem Plain.dnsStart (h : Plain s) : Plain s.dnsStart := by
  unfold TcpChannel.dnsStart
  split
  · exact { h with }
  · exact h

/-- The end of `_RunDnsRequest`. -/
theorem Plain.dnsDone (h : Plain s) (r : DnsResult) : Plain (s.dnsDone r) := by
  unfold TcpChannel.dnsDone
  split
  · split
    · exact { h with }
    · exact { h with }
  · exact h

/-- The end of a DNS request. -/
theorem Plain.dnsOver (h : Plain s) : Plain s.dnsOver :=
  { h with
    dns_counted := by
      change s.counters.pendingDns - 1 = 0
      rw [h.dns_counted]
      split <;> rfl
    dns_over := fun _ => rfl }

/-- A function that succeeds lets the next one be called. -/
theorem andThen_success (s : TcpChannel) (f : TcpChannel → TcpChannel) :
    TcpChannel.andThen (s, .success) f = f s := by
  simp [TcpChannel.andThen]

/-- A function that fails is the last one. -/
theorem andThen_failure {r : TcpChannel × BCResult} (hne : r.2 ≠ .success)
    (f : TcpChannel → TcpChannel) : TcpChannel.andThen r f = r.1 := by
  unfold TcpChannel.andThen
  rw [if_pos hne]

/-- `_SetupTls` sets the TLS objects, and fails or not. -/
theorem setupTls_cases (s : TcpChannel) (a : PinningAnswers) :
    ∃ sslCtx ssl sslLayer,
      s.setupTls a = ({ s with sslCtx := sslCtx, ssl := ssl, sslLayer := sslLayer }, .success) ∨
        ∃ result reason, result ≠ .success ∧ s.setupTls a =
          (TcpChannel.fail { s with sslCtx := sslCtx, ssl := ssl, sslLayer := sslLayer } result
            reason,
            result) := by
  unfold TcpChannel.setupTls
  split
  · exact ⟨s.sslCtx, s.ssl, s.sslLayer, Or.inr ⟨_, _, by simp, rfl⟩⟩
  · split
    · exact ⟨true, s.ssl, s.sslLayer, Or.inr ⟨_, _, by simp, rfl⟩⟩
    · split
      · rename_i hprepare
        exact ⟨true, true, s.sslLayer, Or.inr ⟨_, _, hprepare, rfl⟩⟩
      · split
        · rename_i hlayer
          exact ⟨true, true, none, Or.inr ⟨_, _, hlayer, rfl⟩⟩
        · exact ⟨true, true, some SSLayer.create, Or.inl rfl⟩

/-- Without the forcing policy the routes do not stop a channel. -/
theorem unforced_decidePinBeforeConnect (s : TcpChannel)
    (hpolicy : s.config.policy ≠ .forcePhysical) (a : PinningAnswers) :
    ∃ s', s.decidePinBeforeConnect p a = (s', .success) ∧ s'.config.policy = s.config.policy := by
  unfold TcpChannel.decidePinBeforeConnect
  split
  · exact ⟨s, rfl, rfl⟩
  · split
    · exact ⟨s.lookup a, rfl, rfl⟩
    · exact ⟨(s.lookup a).unpin p, rfl, rfl⟩

/-- Without the forcing policy a failed pinning does not stop a channel. -/
theorem unforced_pinSocket (s : TcpChannel) (hpolicy : s.config.policy ≠ .forcePhysical)
    (a : PinningAnswers) :
    ∃ s', s.pinSocket p a = (s', .success) ∧ s'.config.policy = s.config.policy := by
  unfold TcpChannel.pinSocket
  split
  · exact ⟨s, rfl, rfl⟩
  · split
    · exact ⟨_, rfl, rfl⟩
    · exact ⟨_, rfl, rfl⟩

/-- A socket stays cleared. -/
theorem Cleared.mono {before after : List Action} {a : Action} (h : Cleared p before a)
    (hsub : ∀ b ∈ before, b ∈ after) : Cleared p after a := by
  cases a <;> try exact trivial
  obtain ⟨ifIndex, handle, hpin, htarget, scopedIf, hlookup, hroute⟩ := h
  exact ⟨ifIndex, handle, hsub _ hpin, htarget, scopedIf, hsub _ hlookup, hroute⟩

/-- Calm steps do not have to clear anything. -/
theorem Calm.cleared (h : Calm s s') (hcleared : Justified (Cleared p) s.trace) :
    Justified (Cleared p) s'.trace := by
  obtain ⟨new, hnew, hnone⟩ := h.trace_append
  rw [hnew]
  apply hcleared.append
  intro a ha
  exact cleared_of_not_connects fun hconnects => hnone a ha hconnects.network

/-- The end of `_EnterPinning`, with a cleared socket if that is forced. -/
theorem guarded_connectSocket (s : TcpChannel) (a : PinningAnswers)
    (hcleared : s.config.policy = .forcePhysical →
      Justified (Cleared p) s.trace ∧ Cleared p s.trace (.connect a.fd)) :
    Guarded p (s.connectSocket a) := by
  have hset : (s.setState .connecting).config = s.config ∧
      (s.setState .connecting).state = .connecting ∧
        ∃ new, (s.setState .connecting).trace = s.trace ++ new ∧ ∀ a ∈ new, ¬ a.Connects := by
    unfold TcpChannel.setState
    split
    · rename_i hsame
      exact ⟨rfl, hsame, [], by simp, by simp⟩
    · exact ⟨rfl, rfl, [.setState s.state .connecting], rfl, by simp [Action.Connects]⟩
  obtain ⟨hconfig, hstate, new, hnew, hnone⟩ := hset
  set noted := (s.setState .connecting).note (.connect a.fd)
  have hquiet : Quiet noted (noted.onConnectCalled a.connect) := by
    unfold TcpChannel.onConnectCalled
    split
    · exact noted.quiet_counting _ _ _ _ _ _ _
    · exact noted.quiet_fail _ _
  change Guarded p (noted.onConnectCalled a.connect)
  constructor
  · intro hforce
    rw [hquiet.config_eq] at hforce
    obtain ⟨hbefore, hconnect⟩ := hcleared (by rw [← hconfig]; exact hforce)
    apply hquiet.calm.cleared
    change Justified (Cleared p) ((s.setState .connecting).trace ++ [.connect a.fd])
    rw [hnew]
    apply Justified.concat
    · exact hbefore.append fun a ha => cleared_of_not_connects (hnone a ha)
    · exact hconnect.mono fun b hb => List.mem_append_left _ hb
  · apply Stage.connected _ a.fd
    · apply hquiet.calm.mem_trace
      exact List.mem_append_right _ (List.mem_singleton_self _)
    · apply hquiet.past.late
      change (s.setState .connecting).state.Late
      rw [hstate]
      trivial

/-- Where `Connect` has not been called, nothing needs to be cleared. -/
theorem Bare.justified (h : Bare s) : Justified (Cleared p) s.trace :=
  justified_nil.append fun a ha => cleared_of_not_connects (h.unconnected a ha)

/-- A channel that is being prepared. -/
structure Pinning (p : Platform X509) (s : TcpChannel) : Prop where
  /-- It has not called `Connect`. -/
  plain : Plain s
  /-- The bookkeeping is right. -/
  sound : Sound s
  /-- It is open. -/
  opened : s.closing = false
  /-- There is somebody to tell. -/
  handled : s.handler.isSome = true
  /-- There is an interface to be forced to. -/
  target : s.config.policy = .forcePhysical → s.HasBindTarget p
  /-- The interface has not been looked at. -/
  untouched : Untouched s

/-- A failure of an open channel that does not connect. -/
theorem guarded_fail (hplain : Plain s) (hsound : Sound s) (hopen : s.closing = false)
    (hhandled : s.handler.isSome = true) {result : BCResult} (reason : Reason)
    (hexplains : Explains s result) : Guarded p (s.fail result reason) := by
  refine ⟨fun _ => (s.quiet_fail result reason).calm.cleared hplain.justified, ?_⟩
  exact Stage.stopped (hplain.stopped_fail hsound hopen hhandled reason hexplains)

/-- A failure before the interface has been looked at. -/
theorem Pinning.fail (h : Pinning p s) (result : BCResult) (reason : Reason) :
    Guarded p (s.fail result reason) :=
  guarded_fail h.plain h.sound h.opened h.handled reason (Or.inr (Or.inr h.untouched))

/-- Preparing the TLS objects and the socket. -/
theorem Pinning.set (h : Pinning p s) (socket : Option ℤ) (sslCtx ssl : Bool)
    (sslLayer : Option SSLayer) :
    Pinning p { s with socket := socket, sslCtx := sslCtx, ssl := ssl, sslLayer := sslLayer } :=
  { h with
    plain := { h.plain with }
    sound := { h.sound with } }

/-- The routes and the pinning, under the forcing policy. -/
theorem Pinning.forced (h : Pinning p s) (hforce : s.config.policy = .forcePhysical)
    (a : PinningAnswers) :
    Guarded p (TcpChannel.andThen (s.decidePinBeforeConnect p a) fun s =>
      TcpChannel.andThen (s.pinSocket p a) fun s => s.connectSocket a) := by
  have htarget : ¬ ¬ s.HasBindTarget p := not_not.mpr (h.target hforce)
  have hlooked : Plain (s.lookup a) :=
    (h.plain.note (a := .scopedLookup s.boundIfindex a.scopedIf) not_false).note not_false
  have hsound := ((preparing_lookup s a).onward h.sound).sound
  have hscoped : Action.scopedLookup s.boundIfindex a.scopedIf ∈ (s.lookup a).trace :=
    List.mem_append_left _ (List.mem_append_right _ (List.mem_singleton_self _))
  unfold TcpChannel.decidePinBeforeConnect
  rw [if_neg htarget, if_pos hforce]
  split
  · rename_i hroute
    have hpinned : Plain ((s.lookup a).callPin a) := hlooked.note not_false
    have hpin : Action.pin a.fd s.boundIfindex s.config.androidNetHandle a.pin ∈
        ((s.lookup a).callPin a).trace :=
      List.mem_append_right _ (List.mem_singleton_self _)
    have hkept : Action.scopedLookup s.boundIfindex a.scopedIf ∈
        ((s.lookup a).callPin a).trace := List.mem_append_left _ hscoped
    have htarget' : ¬ ¬ (s.lookup a).HasBindTarget p := htarget
    rw [andThen_success]
    unfold TcpChannel.pinSocket
    rw [if_neg htarget']
    split
    · rename_i hok
      rw [andThen_success]
      apply guarded_connectSocket
      intro _
      constructor
      · exact hpinned.justified
      · refine ⟨s.boundIfindex, s.config.androidNetHandle, ?_, h.target hforce, a.scopedIf, hkept,
          hroute⟩
        rw [← hok]
        exact hpin
    · rename_i hfailed
      have hforce' : (s.lookup a).config.policy = .forcePhysical := hforce
      rw [if_pos hforce', andThen_failure (by simp)]
      have hsound' := ((preparing_note (s.lookup a)
        (a := .pin a.fd s.boundIfindex s.config.androidNetHandle a.pin) trivial).onward
          hsound).sound
      apply guarded_fail hpinned hsound' h.opened h.handled
      exact Or.inr (Or.inl ⟨rfl, a.fd, s.boundIfindex, _, a.pin, hfailed, hpin⟩)
  · rename_i hroute
    rw [andThen_failure (by simp)]
    apply guarded_fail hlooked hsound h.opened h.handled
    obtain ⟨hknown, hother⟩ := not_or.mp hroute
    exact Or.inl ⟨rfl, s.boundIfindex, a.scopedIf, hscoped, hknown, hother⟩

/-- The part of `_EnterPinning` that makes the socket. -/
theorem Pinning.openSocket (h : Pinning p s) (a : PinningAnswers) :
    Guarded p (s.openSocket p a) := by
  unfold TcpChannel.openSocket
  split
  · exact (h.set none s.sslCtx s.ssl s.sslLayer).fail _ _
  · have hcreated := h.set (some a.fd) s.sslCtx s.ssl s.sslLayer
    by_cases hforce : s.config.policy = .forcePhysical
    · exact hcreated.forced hforce a
    · obtain ⟨s₁, hdecided, hpolicy₁⟩ := unforced_decidePinBeforeConnect (p := p)
        { s with socket := some a.fd } hforce a
      have hforce₁ : s₁.config.policy ≠ .forcePhysical := by
        rw [hpolicy₁]
        exact hforce
      obtain ⟨s₂, hpinned, hpolicy₂⟩ := unforced_pinSocket (p := p) s₁ hforce₁ a
      rw [hdecided, andThen_success, hpinned, andThen_success]
      apply guarded_connectSocket
      intro hforce₂
      rw [hpolicy₂] at hforce₂
      exact absurd hforce₂ hforce₁

/-- `_EnterPinning`. -/
theorem Pinning.enterPinning (h : Pinning p s) (hstate : s.state = .resolving)
    (a : PinningAnswers) : Guarded p (s.enterPinning p a) := by
  have hset : s.setState .pinning =
      { s.note (.setState .resolving .pinning) with state := .pinning } := by
    simp [TcpChannel.setState, hstate]
  have hlegal : isLegalTransition s.state .pinning = true := by rw [hstate]; rfl
  obtain ⟨honward, -, -⟩ := h.sound.onward_setState h.opened hlegal (by simp) (by simp)
  have hpinning : Pinning p (s.setState .pinning) := by
    have hsound := honward.sound
    rw [hset] at hsound ⊢
    refine ⟨?_, hsound, h.opened, h.handled, h.target, ?_⟩
    · exact { h.plain.note (a := .setState .resolving .pinning) not_false with }
    · intro b hb
      rcases List.mem_append.mp hb with hb | hb
      · exact h.untouched b hb
      · rw [List.mem_singleton.mp hb]
        exact not_false
  change Guarded p ((s.setState .pinning).pinning p a)
  generalize s.setState .pinning = t at hpinning
  unfold TcpChannel.pinning
  split
  · obtain ⟨sslCtx, ssl, sslLayer, hok | ⟨result, reason, hne, hfailed⟩⟩ := setupTls_cases t a
    · rw [hok, andThen_success]
      exact (hpinning.set t.socket sslCtx ssl sslLayer).openSocket a
    · rw [hfailed, andThen_failure hne]
      exact (hpinning.set t.socket sslCtx ssl sslLayer).fail _ _
  · exact hpinning.openSocket a

/-- A channel that waits for its address or is closing. -/
def Resting (p : Platform X509) (s : TcpChannel) : Prop := Waiting p s ∨ Stopped s

/-- A calm step of a resting channel. -/
theorem Resting.guarded (h : Resting p s) (hsound : Sound s') (hcalm : Calm s s')
    (hplain : Plain s') : Guarded p s' := by
  refine ⟨fun _ => hplain.justified, ?_⟩
  rcases h with hwaiting | hstopped
  · exact hwaiting.calm hsound hcalm hplain
  · exact Stage.stopped (hstopped.calm hcalm hplain)

/-- A resting channel has not called `Connect`. -/
theorem Resting.plain (h : Resting p s) : Plain s := h.elim Waiting.plain Stopped.plain

/-- A resting channel is past `Open` and not ready. -/
theorem Resting.state_ne (h : Resting p s) (hsound : Sound s) :
    s.state ≠ .idle ∧ s.state ≠ .ready := by
  rcases h with hwaiting | hstopped
  · rw [hwaiting.state_eq]
    exact ⟨by simp, by simp⟩
  · rcases hsound.closing_iff.mp hstopped.stopping with hstate | hstate
    · rw [hstate]
      exact ⟨by simp, by simp⟩
    · rw [hstate]
      exact ⟨by simp, by simp⟩

/-- `_OnResolveDone` of a resting channel. -/
theorem Resting.onResolveDone (h : Resting p s) (hsound : Sound s) (r : DnsResult)
    (a : PinningAnswers) (hsound' : Sound (s.onResolveDone p r a)) :
    Guarded p (s.onResolveDone p r a) := by
  have hover : Calm s s.dnsOver := (s.quiet_counting _ _ _ _ _ _ _).calm
  have hplain := h.plain.dnsOver
  unfold TcpChannel.onResolveDone at hsound' ⊢
  split
  · rename_i hskip
    rw [if_pos hskip] at hsound'
    exact h.guarded hsound' (hover.trans (TcpChannel.quiet_maybeFinishClose _).calm)
      hplain.maybeFinishClose
  · rename_i hgo
    have hopen : s.dnsOver.closing = false := open_of_not_or hgo
    have hstate : s.dnsOver.state = .resolving := by
      by_contra hne
      exact hgo (Or.inr hne)
    rcases h with hwaiting | hstopped
    · have hpinning : Pinning p s.dnsOver :=
        ⟨hplain, hsound.dnsOver, hopen, hwaiting.handled, hwaiting.target, hwaiting.untouched⟩
      unfold TcpChannel.onResolved
      split
      · exact hpinning.fail _ _
      · split
        · exact hpinning.fail _ _
        · rename_i addr _ _ _
          have hpeer : Pinning p
              { s.dnsOver with peerAddr := some { addr with port := s.dnsOver.config.port } } :=
            { hpinning with
              plain := { hplain with }
              sound := { hsound.dnsOver with } }
          exact hpeer.enterPinning hstate a
    · exact absurd (hopen.symm.trans hstopped.stopping) Bool.false_ne_true

/-- A posted task of a resting channel. -/
theorem Resting.perform (h : Resting p s) (hnot : s.state ≠ .ready)
    (hreleased : Sound s.releasePendingTask) (a : PinningAnswers) (sends : ℕ → BCResult) (t : Task)
    (hsound' : Sound (s.perform p a sends t)) : Guarded p (s.perform p a sends t) := by
  have hcalm : Calm s s.releasePendingTask := (s.quiet_counting _ _ _ _ _ _ _).calm
  have hplain : Plain s.releasePendingTask := { h.plain with }
  have hready : s.releasePendingTask.state ≠ .ready := hnot
  cases t with
  | call c =>
    cases c with
    | send buf =>
      have htask : s.perform p a sends (.call (.send buf)) =
          s.releasePendingTask.maybeFinishClose := if_pos hready
      rw [htask] at hsound' ⊢
      exact h.guarded hsound' (hcalm.trans (TcpChannel.quiet_maybeFinishClose _).calm)
        hplain.maybeFinishClose
    | close =>
      exact h.guarded hsound' (hcalm.trans (TcpChannel.quiet_fail _ _ _).calm)
        (hplain.fail hreleased _ _)
    | adopt handler =>
      have hunusable : ¬ s.releasePendingTask.IsParkedAndUsable := fun husable => hready husable.2.2
      have htask : s.perform p a sends (.call (.adopt handler)) =
          (s.releasePendingTask.push [.adoptFailed]).callHandler handler .onChannelAdoptFailed :=
        if_pos hunusable
      rw [htask] at hsound' ⊢
      apply h.guarded hsound'
      · exact (hcalm.trans (calm_stack _ _)).trans (calm_callHandler _ _ _)
      · exact (hplain.push (by simp [Instr.Inert])).callHandler _ _
  | resolveDone r =>
    have hresting : Resting p s.releasePendingTask := by
      rcases h with hwaiting | hstopped
      · exact Or.inl { hwaiting with plain := hplain }
      · exact Or.inr (hstopped.calm hcalm hplain)
    exact hresting.onResolveDone hreleased r a hsound'
  | noDnsExecutor =>
    exact h.guarded hsound' (hcalm.trans (TcpChannel.quiet_fail _ _ _).calm)
      (hplain.fail hreleased _ _)

/-- The shutdown callback of the queue of a resting channel. -/
theorem Resting.onEventProcShutdown (h : Resting p s) (hsound : Sound s)
    (hpending : s.shutdownPending = true) : Guarded p s.onEventProcShutdown := by
  have hnotified := hsound.shutdown_notified hpending
  rcases h with hwaiting | hstopped
  · have hnot := hsound.not_notified hwaiting.opened
    exact absurd (hnot.symm.trans hnotified) Bool.false_ne_true
  · have hbare : Bare { s with shutdownPending := false } := { hstopped.plain.toBare with }
    unfold TcpChannel.onEventProcShutdown
    rw [if_pos hnotified]
    unfold TcpChannel.tellClosed
    split
    · rename_i hnobody
      have htold : Told s := by
        have hnone : s.handler = none := hnobody
        have hhandled := hstopped.handled
        rw [hnone] at hhandled
        simpa using hhandled
      have hplain : Plain { s with shutdownPending := false } :=
        { hbare with
          dns_over := hstopped.plain.dns_over
          told := fun _ => Or.inr htold }
      exact ⟨fun _ => hplain.justified, .stopped ⟨hplain, hstopped.stopping, Or.inr htold,
        hstopped.recorded, hstopped.explained⟩⟩
    · rename_i handler _
      set left : TcpChannel := { s with shutdownPending := false, handler := none }
      have hleft : Bare left := { hbare with }
      have hcalm := calm_note left
        (a := .callback handler (.onChannelClosed s.closeResult s.closeReason)) not_false
      set telling := left.note (.callback handler (.onChannelClosed s.closeResult s.closeReason))
      have htold : Told telling :=
        ⟨handler, List.mem_append_right _ (List.mem_singleton_self _)⟩
      have hnoted : Plain telling :=
        { hleft.note (a := .callback handler (.onChannelClosed s.closeResult s.closeReason))
            not_false with
          dns_over := hstopped.plain.dns_over
          told := fun _ => Or.inr htold }
      have hstays : Stopped telling := by
        have hexplained : Explains left s.closeResult := hstopped.explained
        refine ⟨hnoted, hstopped.stopping, Or.inr htold, ?_, hexplained.calm hcalm⟩
        obtain ⟨reason, hreason, hmem⟩ := hstopped.recorded
        exact ⟨reason, hreason, hcalm.mem_trace hmem⟩
      have hpushed := hstays.calm (calm_stack telling ([.inHandler] ++ telling.stack))
        (hnoted.push (by simp [Instr.Inert]))
      exact ⟨fun _ => hpushed.plain.justified, .stopped hpushed⟩

/-- A resting channel goes on. -/
theorem Resting.resume (h : Resting p s) (hup : Upright s) (answer : Answer X509) :
    Guarded p (s.resume p answer) := by
  have hsound' := (hup.resume (p := p) answer).sound
  have hstays : Guarded p s := h.guarded hup.sound (Quiet.refl s).calm h.plain
  unfold TcpChannel.resume at hsound' ⊢
  split
  · exact hstays
  · rename_i i stack hstack
    have hinert := h.plain.inert i (by rw [hstack]; exact List.mem_cons_self)
    have hpop : Plain { s with stack := stack } :=
      { h.plain with
        inert := by
          intro j hj
          apply h.plain.inert
          rw [hstack]
          exact List.mem_cons_of_mem _ hj }
    have hcalm := calm_stack s stack
    rw [hstack] at hsound'
    cases hdone : TcpChannel.continueWith p { s with stack := stack } answer i with
    | none => exact hstays
    | some s' =>
      change Guarded p s'
      replace hsound' : Sound s' := by
        dsimp only at hsound'
        rwa [hdone] at hsound'
      cases i <;> try exact hinert.elim
      · cases answer <;> cases hdone
        exact h.guarded hsound' (hcalm.trans (TcpChannel.quiet_maybeFinishClose _).calm)
          hpop.maybeFinishClose
      · cases answer <;> cases hdone
        exact h.guarded hsound' hcalm hpop
      · cases answer <;> cases hdone
        exact h.guarded hsound' (hcalm.trans (TcpChannel.quiet_fail _ _ _).calm)
          (hpop.fail (hup.sound.pop hstack (by simp)) _ _)

/-- A step of a resting channel. -/
theorem Resting.step (h : Resting p s) (hup : Upright s) (e : Event X509) :
    Guarded p (TcpChannel.step p s e) := by
  have hsound := hup.sound
  have hsound' := (hup.step (p := p) e).sound
  obtain ⟨hidle, hready⟩ := h.state_ne hsound
  have hops := h.plain.ops_eq
  have hstays : Guarded p s := h.guarded hsound (Quiet.refl s).calm h.plain
  have hdispatched {f : TcpChannel → TcpChannel} (hf : s.stack = [] → Guarded p (f s)) :
      Guarded p (s.dispatched f) := by
    unfold TcpChannel.dispatched
    split
    · rename_i hstack
      exact hf hstack
    · exact hstays
  unfold TcpChannel.step at hsound' ⊢
  rw [if_neg (by simp [h.plain.alive])] at hsound' ⊢
  cases e with
  | openChannel handler cfg a =>
    have hrefused (result : BCResult) : Guarded p (s.note (.opened result)) :=
      h.guarded (hsound.note trivial) (calm_note s not_false) (h.plain.note not_false)
    change Guarded p (s.openChannel p handler cfg a)
    unfold TcpChannel.openChannel
    split
    · exact hrefused _
    · rw [if_pos hidle]
      exact hrefused _
  | call c => exact h.guarded hsound' (s.quiet_call c).calm (h.plain.call c)
  | acquire i => exact h.guarded hsound' (s.quiet_acquire i).calm (h.plain.acquire i)
  | post i => exact h.guarded hsound' (s.quiet_post i).calm (h.plain.post i)
  | park watcher =>
    change Guarded p (s.park watcher)
    unfold TcpChannel.park
    rw [if_pos hready]
    exact hstays
  | dnsStart => exact h.guarded hsound' s.quiet_dnsStart.calm h.plain.dnsStart
  | dnsDone r => exact h.guarded hsound' (s.quiet_dnsDone r).calm (h.plain.dnsDone r)
  | runTask a sends =>
    apply hdispatched
    intro hstack
    replace hsound' := (hup.runTask (p := p) hstack a sends).sound
    unfold TcpChannel.runTask at hsound' ⊢
    split
    · exact hstays
    · rename_i t tasks htasks
      rw [htasks] at hsound'
      have htaken : Resting p { s with tasks := tasks } := by
        have hplain : Plain { s with tasks := tasks } := { h.plain with }
        have hcalm : Calm s { s with tasks := tasks } := (s.quiet_counting _ _ _ _ _ _ _).calm
        rcases h with hwaiting | hstopped
        · exact Or.inl { hwaiting with plain := hplain }
        · exact Or.inr (hstopped.calm hcalm hplain)
      obtain ⟨hreleased, -⟩ := hsound.released htasks
      exact htaken.perform hready hreleased a sends t hsound'
  | connectDone result rearm =>
    apply hdispatched
    intro _
    rw [if_neg (by simp [hops])]
    exact hstays
  | recvDone result =>
    apply hdispatched
    intro _
    rw [if_neg (by simp [hops])]
    exact hstays
  | sendDone result =>
    apply hdispatched
    intro _
    rw [if_neg (by simp [hops])]
    exact hstays
  | timeout =>
    apply hdispatched
    intro hstack
    have hsound' := (hup.timeout hstack).sound
    have hquiet := s.quiet_timeout
    unfold TcpChannel.timeout at hsound' hquiet ⊢
    split
    · rename_i htimer
      rw [if_pos htimer] at hsound' hquiet
      have hplain : Plain s.unscheduleTimer := { h.plain with }
      have hunscheduled : Sound s.unscheduleTimer := { hsound with }
      exact h.guarded hsound' hquiet.calm (hplain.fail hunscheduled _ _)
    · exact hstays
  | shutdown =>
    apply hdispatched
    intro _
    split
    · rename_i hpending
      exact h.onEventProcShutdown hsound hpending
    · exact hstays
  | resume answer => exact h.resume hup answer

/-- Why `Open` refuses a configuration, which it may have stored with an interface. -/
def Refuses (p : Platform X509) (handler : Option HandlerId) (cfg : TcpChannelConfig)
    (a : OpenAnswers) (s : TcpChannel) (result : BCResult) : Prop :=
  result = .invalidArg ∧
      (handler = none ∨ cfg.host = "" ∨ cfg.port = 0 ∨
        cfg.resolvedIp ≠ "" ∧ p.parseIpLiteral cfg.resolvedIp cfg.port = none) ∨
    s.config = TcpChannel.storedConfig p cfg ∧
      (result = .noPhysicalInterface ∧ s.config.policy = .forcePhysical ∧ ¬ s.HasBindTarget p ∨
        result = a.queueCreate ∧ result ≠ .success ∧
          (s.config.policy = .forcePhysical → s.HasBindTarget p))

/-- The stored configuration differs in its policy at most. -/
theorem storedConfig_eq (p : Platform X509) (cfg : TcpChannelConfig) :
    TcpChannel.storedConfig p cfg =
      { cfg with policy := (TcpChannel.storedConfig p cfg).policy } := by
  unfold TcpChannel.storedConfig
  split <;> rfl

/-- `Open` of an idle channel stores a configuration and an interface, and refuses or starts to
resolve. -/
theorem openChannel_cases (hidle : s.state = .idle) (handler : Option HandlerId)
    (cfg : TcpChannelConfig) (a : OpenAnswers) :
    ∃ config bound,
      (∃ result, s.openChannel p handler cfg a =
          TcpChannel.note { s with config := config, boundIfindex := bound } (.opened result) ∧
        Refuses p handler cfg a { s with config := config, boundIfindex := bound } result) ∨
      ∃ h, s.openChannel p handler cfg a =
          (TcpChannel.startResolving p { s with config := config, boundIfindex := bound } h a).note
            (.opened .success) ∧
        config = TcpChannel.storedConfig p cfg ∧
        (config.policy = .forcePhysical →
          TcpChannel.HasBindTarget p { s with config := config, boundIfindex := bound }) := by
  unfold TcpChannel.openChannel
  split
  · exact ⟨s.config, s.boundIfindex, Or.inl ⟨_, rfl, Or.inl ⟨rfl, Or.inl rfl⟩⟩⟩
  · rename_i h
    rw [if_neg (not_not.mpr hidle)]
    split
    · rename_i hempty
      refine ⟨s.config, s.boundIfindex, Or.inl ⟨_, rfl, Or.inl ⟨rfl, ?_⟩⟩⟩
      exact Or.inr (hempty.imp_right Or.inl)
    · have hbound (bound : UInt32) :
          (∃ result, TcpChannel.openBound p
              { s with config := TcpChannel.storedConfig p cfg, boundIfindex := bound } h a =
                TcpChannel.note
                  { s with config := TcpChannel.storedConfig p cfg, boundIfindex := bound }
                  (.opened result) ∧
              Refuses p (some h) cfg a
                { s with config := TcpChannel.storedConfig p cfg, boundIfindex := bound } result) ∨
          TcpChannel.openBound p
              { s with config := TcpChannel.storedConfig p cfg, boundIfindex := bound } h a =
                (TcpChannel.startResolving p
                  { s with
                    config := TcpChannel.storedConfig p cfg, boundIfindex := bound } h a).note
                  (.opened .success) ∧
              ((TcpChannel.storedConfig p cfg).policy = .forcePhysical →
                TcpChannel.HasBindTarget p
                  { s with config := TcpChannel.storedConfig p cfg, boundIfindex := bound }) := by
        unfold TcpChannel.openBound
        split
        · rename_i hnone
          exact Or.inl ⟨_, rfl, Or.inr ⟨rfl, Or.inl ⟨rfl, hnone⟩⟩⟩
        · rename_i htarget
          have htarget := fun hforce => not_not.mp fun hnone => htarget ⟨hforce, hnone⟩
          split
          · rename_i hqueue
            exact Or.inl ⟨_, rfl, Or.inr ⟨rfl, Or.inr ⟨rfl, hqueue, htarget⟩⟩⟩
          · exact Or.inr ⟨rfl, htarget⟩
      unfold TcpChannel.openConfigured
      split
      · rename_i hliteral
        refine ⟨TcpChannel.storedConfig p cfg, s.boundIfindex, Or.inl ⟨_, rfl, Or.inl ⟨rfl, ?_⟩⟩⟩
        obtain ⟨hip, hnone⟩ := hliteral
        rw [storedConfig_eq] at hip
        unfold TcpChannel.literal at hnone
        rw [storedConfig_eq, if_neg hip] at hnone
        exact Or.inr (Or.inr (Or.inr ⟨hip, hnone⟩))
      · split
        · rcases hbound s.boundIfindex with hrefused | ⟨hstarted, htarget⟩
          · exact ⟨_, _, Or.inl hrefused⟩
          · exact ⟨_, _, Or.inr ⟨h, hstarted, rfl, htarget⟩⟩
        · rcases hbound (TcpChannel.pickPhysicalIfIndex p
              { s with config := TcpChannel.storedConfig p cfg } a.detected) with
            hrefused | ⟨hstarted, htarget⟩
          · exact ⟨_, _, Or.inl hrefused⟩
          · exact ⟨_, _, Or.inr ⟨h, hstarted, rfl, htarget⟩⟩

/-- The start of resolution keeps the configuration. -/
theorem config_startResolving (s : TcpChannel) (handler : HandlerId) (a : OpenAnswers) :
    (s.startResolving p handler a).config = s.config := by
  have hset (s : TcpChannel) : (s.setState .resolving).config = s.config := by
    unfold TcpChannel.setState
    split <;> rfl
  unfold TcpChannel.startResolving TcpChannel.resolve
  split
  · exact hset _
  · split
    · exact hset _
    · exact hset _

/-- A channel that starts to resolve waits. -/
theorem Unopened.startResolving (h : Unopened s) (hopen : s.closing = false)
    (htarget : s.config.policy = .forcePhysical → s.HasBindTarget p) (handler : HandlerId)
    (a : OpenAnswers) : Waiting p (s.startResolving p handler a) := by
  have hset : TcpChannel.setState
      { s with queueCreated := true, handler := some handler, connectTimer := true } .resolving =
        { s.note (.setState .idle .resolving) with
          queueCreated := true
          handler := some handler
          connectTimer := true
          state := .resolving } := by
    simp [TcpChannel.setState, TcpChannel.note, h.state_eq]
  have hplain := h.plain.note (a := .setState .idle .resolving) not_false
  have huntouched := (calm_note s (a := .setState .idle .resolving) not_false).untouched h.untouched
  unfold TcpChannel.startResolving
  rw [hset]
  unfold TcpChannel.resolve
  split
  · exact ⟨{ hplain with }, hopen, rfl, rfl, rfl, htarget, huntouched⟩
  · split
    · refine ⟨?_, hopen, rfl, rfl, rfl, htarget, huntouched⟩
      exact
        { hplain with
          dns_counted := by
            have hcounted := h.plain.dns_counted
            rw [h.dns_eq] at hcounted
            change s.counters.pendingDns + 1 = 1
            rw [hcounted]
            rfl
          dns_over := fun hclosing => absurd (hopen.symm.trans hclosing) Bool.false_ne_true }
    · exact ⟨{ hplain with }, hopen, rfl, rfl, rfl, htarget, huntouched⟩

/-- A refused call leaves a channel unopened. -/
theorem Unopened.note (h : Unopened s) {a : Action} (ha : ¬ a.Network) : Unopened (s.note a) :=
  { h with
    plain := h.plain.note fun hconnects => ha hconnects.network
    untouched := (calm_note s ha).untouched h.untouched }

/-- Only `Open` gets a channel going. -/
theorem Unopened.step (h : Unopened s) (hup : Upright s) (e : Event X509) :
    Guarded p (TcpChannel.step p s e) := by
  have hguarded {s : TcpChannel} (h : Unopened s) : Guarded p s :=
    ⟨fun _ => h.plain.justified, .unopened h⟩
  have hopen : s.closing = false :=
    hup.sound.open_of_state (by simp [h.state_eq]) (by simp [h.state_eq])
  have hops := h.plain.ops_eq
  have hdispatched {f : TcpChannel → TcpChannel} (hf : f s = s) : Guarded p (s.dispatched f) := by
    unfold TcpChannel.dispatched
    split
    · rw [hf]
      exact hguarded h
    · exact hguarded h
  unfold TcpChannel.step
  rw [if_neg (by simp [h.plain.alive])]
  cases e with
  | openChannel handler cfg a =>
    change Guarded p (s.openChannel p handler cfg a)
    obtain ⟨config, bound, ⟨result, hrefused, -⟩ | ⟨handler, hstarted, -, htarget⟩⟩ :=
      openChannel_cases (p := p) h.state_eq handler cfg a
    · rw [hrefused]
      have hstored : Unopened { s with config := config, boundIfindex := bound } :=
        { h with plain := { h.plain with } }
      exact hguarded (hstored.note not_false)
    · rw [hstarted]
      have hstored : Unopened { s with config := config, boundIfindex := bound } :=
        { h with plain := { h.plain with } }
      have hwaiting := hstored.startResolving hopen htarget handler a
      have hnoted := hwaiting.plain.note (a := .opened .success) not_false
      refine ⟨fun _ => hnoted.justified,
        .waiting { hwaiting with plain := hnoted, untouched := ?_ }⟩
      exact (calm_note _ (a := .opened .success) not_false).untouched hwaiting.untouched
  | call c =>
    have hrefused : ¬ s.Admits c := by
      cases c with
      | send buf =>
        change ¬ s.state = .ready
        rw [h.state_eq]
        simp
      | close =>
        change ¬ s.queueCreated = true
        rw [h.queue_eq]
        simp
      | adopt handler =>
        rintro ⟨-, -, hready⟩
        rw [h.state_eq] at hready
        cases hready
    change Guarded p (s.call c)
    unfold TcpChannel.call
    rw [if_neg hrefused]
    exact hguarded (h.note not_false)
  | acquire i =>
    change Guarded p (s.acquire i)
    unfold TcpChannel.acquire
    rw [h.callers_eq]
    exact hguarded h
  | post i =>
    change Guarded p (s.post i)
    unfold TcpChannel.post
    rw [h.accepted_eq]
    exact hguarded h
  | park watcher =>
    change Guarded p (s.park watcher)
    unfold TcpChannel.park
    rw [if_pos (by simp [h.state_eq])]
    exact hguarded h
  | dnsStart =>
    change Guarded p s.dnsStart
    unfold TcpChannel.dnsStart
    rw [h.request_eq]
    exact hguarded h
  | dnsDone r =>
    change Guarded p (s.dnsDone r)
    unfold TcpChannel.dnsDone
    rw [h.request_eq]
    exact hguarded h
  | runTask a sends =>
    apply hdispatched
    unfold TcpChannel.runTask
    rw [h.tasks_eq]
  | connectDone result rearm => exact hdispatched (if_neg (by simp [hops]))
  | recvDone result => exact hdispatched (if_neg (by simp [hops]))
  | sendDone result => exact hdispatched (if_neg (by simp [hops]))
  | timeout =>
    apply hdispatched
    unfold TcpChannel.timeout
    rw [if_neg (by simp [h.timer_eq])]
  | shutdown => exact hdispatched (if_neg (by simp [h.shutdown_eq]))
  | resume answer =>
    change Guarded p (s.resume p answer)
    unfold TcpChannel.resume
    rw [h.stack_eq]
    exact hguarded h

/-- Every step keeps a channel to its interface. -/
theorem Guarded.step (h : Guarded p s) (hup : Upright s) (e : Event X509) :
    Guarded p (TcpChannel.step p s e) := by
  rcases h.stage with hunopened | hwaiting | ⟨hlate, fd, hconnect⟩ | hstopped
  · exact hunopened.step hup e
  · exact Resting.step (Or.inl hwaiting) hup e
  · have hpast := past_step (p := p) hlate e
    obtain ⟨new, hnew, hnone⟩ := hpast.trace_append
    constructor
    · intro hforce
      rw [hpast.policy_eq] at hforce
      rw [hnew]
      exact (h.cleared hforce).append fun a ha => cleared_of_not_connects (hnone a ha)
    · refine Stage.connected (hpast.late hlate) fd ?_
      rw [hnew]
      exact List.mem_append_left _ hconnect
  · exact Resting.step (Or.inr hstopped) hup e

/-- A new channel keeps to its interface. -/
theorem guarded_create (p : Platform X509) (config : TcpChannelConfig) :
    Guarded p (TcpChannel.create config) := by
  have hplain : Plain (TcpChannel.create config) :=
    ⟨⟨rfl, rfl, by simp [TcpChannel.create], rfl, by simp [TcpChannel.create]⟩, nofun, nofun⟩
  refine ⟨fun _ => hplain.justified, .unopened ⟨hplain, rfl, rfl, rfl, rfl, rfl, rfl, rfl, rfl, rfl,
    rfl, ?_⟩⟩
  simp [Untouched, TcpChannel.create]

/-- Every channel keeps to its interface at any time. -/
theorem guarded_run (p : Platform X509) (config : TcpChannelConfig) (events : List (Event X509)) :
    Guarded p (run (TcpChannel.step p) (TcpChannel.create config) events) := by
  have hstep (s : TcpChannel) (e : Event X509) (h : Upright s ∧ Guarded p s) :
      Upright (TcpChannel.step p s e) ∧ Guarded p (TcpChannel.step p s e) :=
    ⟨h.1.step e, h.2.step h.1 e⟩
  have hrun := invariant (I := fun s => Upright s ∧ Guarded p s) hstep
    ⟨upright_create config, guarded_create p config⟩ events
  exact hrun.2

/-- Nothing is left that the channel waits for. -/
structure Exhausted (s : TcpChannel) : Prop where
  /-- No timer runs. -/
  timer_eq : s.connectTimer = false
  /-- No counted call is about to be posted. -/
  accepted_eq : s.accepted = []
  /-- No task has been posted. -/
  tasks_eq : s.tasks = []
  /-- No operation is in flight. -/
  ops_eq : s.ops = ⟨0, 0, 0⟩
  /-- No shutdown is on its way. -/
  shutdown_eq : s.shutdownPending = false
  /-- Nothing is going on. -/
  stack_eq : s.stack = []

/-- With nothing left a stopped channel has told its handler. -/
theorem Stopped.told (h : Stopped s) (hup : Upright s) (hexhausted : Exhausted s) : Told s := by
  have hsound := hup.sound
  have hzero : s.counters = Counters.zero := by
    have hdepth := hsound.depth_eq
    have htasks := hsound.tasks_eq
    have hconnects := hsound.connects_eq
    have hrecvs := hsound.recvs_eq
    have hsends := hsound.sends_eq
    have hdns := h.plain.dns_counted
    rw [hexhausted.stack_eq, List.count_nil] at hdepth
    rw [hexhausted.accepted_eq, hexhausted.tasks_eq] at htasks
    rw [hexhausted.ops_eq] at hconnects hrecvs hsends
    rw [h.plain.dns_over h.stopping] at hdns
    cases hcounters : s.counters
    simp_all [Counters.zero]
  have hnotified : s.closedNotified = true := by
    by_contra hnot
    obtain ⟨i, hi, -⟩ := hup.live ⟨h.stopping, Bool.eq_false_iff.mpr hnot, hzero⟩
    rw [hexhausted.stack_eq] at hi
    cases hi
  rcases h.plain.told hnotified with hpending | htold
  · exact absurd (hexhausted.shutdown_eq.symm.trans hpending) Bool.false_ne_true
  · exact htold

/-- What a channel under the forcing policy owes. -/
structure KeepsToInterface (p : Platform X509) (s : TcpChannel) : Prop where
  /-- `Connect` is called for a socket that has been pinned to an interface with a route. -/
  cleared : s.config.policy = .forcePhysical → Justified (Cleared p) s.trace
  /-- `Open` refuses, in particular for want of an interface, or it has one. -/
  opens : s.state = .idle → ∀ handler cfg a,
    (TcpChannel.storedConfig p cfg).policy = .forcePhysical →
      let s' := TcpChannel.step p s (.openChannel handler cfg a)
      s'.state = .idle ∧ Untouched s' ∧
          (∃ result, s'.trace = s.trace ++ [.opened result] ∧ Refuses p handler cfg a s' result) ∨
        s'.state = .resolving ∧ s'.HasBindTarget p ∧ .opened .success ∈ s'.trace
  /-- A channel that has not called `Connect` does not hang. -/
  alive : (∀ a ∈ s.trace, ¬ a.Connects) → s.crashed = false
  /-- If nothing is left, its handler has been told why it has been closed. -/
  ends : s.state ≠ .idle → (∀ a ∈ s.trace, ¬ a.Connects) → Exhausted s →
    ∃ reason, s.closeReason = some reason ∧ .stopped s.closeResult reason ∈ s.trace ∧
      Told s ∧ Explains s s.closeResult

/-- Over any order of events and answers a channel keeps to its interface. -/
theorem keepsToInterface_run (p : Platform X509) (config : TcpChannelConfig)
    (events : List (Event X509)) :
    KeepsToInterface p (run (TcpChannel.step p) (TcpChannel.create config) events) := by
  have hguarded := guarded_run p config events
  have hup := upright_run p config events
  generalize run (TcpChannel.step p) (TcpChannel.create config) events = s at hguarded hup ⊢
  refine ⟨hguarded.cleared, ?_, ?_, ?_⟩
  · intro hidle handler cfg a hforce
    rcases hguarded.stage with hunopened | hwaiting | ⟨hlate, -, -⟩ | hstopped
    · have hstep : TcpChannel.step p s (.openChannel handler cfg a) =
          s.openChannel p handler cfg a := if_neg (by simp [hunopened.plain.alive])
      have hopen := hup.sound.open_of_state (by simp [hidle]) (by simp [hidle])
      rw [hstep]
      obtain ⟨config, bound, ⟨result, hrefused, hwhy⟩ | ⟨handler, hstarted, hconfig, htarget⟩⟩ :=
        openChannel_cases (p := p) hidle handler cfg a
      · rw [hrefused]
        left
        have hcalm := calm_note { s with config := config, boundIfindex := bound }
          (a := .opened result) not_false
        exact ⟨hidle, hcalm.untouched hunopened.untouched, result, rfl, hwhy⟩
      · rw [hstarted]
        right
        have hstored : Unopened { s with config := config, boundIfindex := bound } :=
          { hunopened with plain := { hunopened.plain with } }
        have hwaiting := hstored.startResolving hopen htarget handler a
        refine ⟨hwaiting.state_eq, hwaiting.target ?_, ?_⟩
        · rw [config_startResolving, hconfig]
          exact hforce
        · exact List.mem_append_right _ (List.mem_singleton_self _)
    · rw [hwaiting.state_eq] at hidle
      cases hidle
    · rw [hidle] at hlate
      exact hlate.elim
    · rcases hup.sound.closing_iff.mp hstopped.stopping with hstate | hstate
      · rw [hidle] at hstate
        cases hstate
      · rw [hidle] at hstate
        cases hstate
  · intro hnone
    rcases hguarded.stage with hunopened | hwaiting | ⟨-, fd, hconnect⟩ | hstopped
    · exact hunopened.plain.alive
    · exact hwaiting.plain.alive
    · exact absurd trivial (hnone _ hconnect)
    · exact hstopped.plain.alive
  · intro hidle hnone hexhausted
    rcases hguarded.stage with hunopened | hwaiting | ⟨-, fd, hconnect⟩ | hstopped
    · exact absurd hunopened.state_eq hidle
    · exact absurd (hexhausted.timer_eq.symm.trans hwaiting.timer_eq) Bool.false_ne_true
    · exact absurd trivial (hnone _ hconnect)
    · obtain ⟨reason, hreason, hmem⟩ := hstopped.recorded
      exact ⟨reason, hreason, hmem, hstopped.told hup hexhausted, hstopped.explained⟩

end Tcp
