import TTSignal.Conn.Closing
import Mathlib.Logic.Relation

/-!
# What a step does to a connection

Every event changes a connection by a few kinds of updates, each with the circumstances in
which it is made. What holds of a connection is then a matter of these updates: a property
that each of them keeps is kept by every step.

Some updates are made by certain events only. What an event allows is stated with it.
-/

namespace Conn

open BC

/-- What an event allows. -/
structure Allowed where
  /-- A close may be requested with this result. -/
  request : BCRESULT → Prop
  /-- The `Connect` task of this stub runs. -/
  stub : ℕ → Prop
  /-- `Connect_Internal` runs. -/
  connects : Prop
  /-- These response headers are read. -/
  headers : Option Headers → Prop
  /-- The task for the end of the tunnel runs. -/
  tunnelEnds : Prop

/-- An entry that only records what was received or sent. -/
def Entry.Plain : Entry → Prop
  | .received _ | .receivedHeaders _ | .sendConnect => True
  | _ => False

/-- A task that is not posted by `Connect` or for the end of the tunnel. -/
def Task.Plain : Task → Prop
  | .connect _ | .masqueOnTunnelClosed => False
  | _ => True

namespace SMPConnection

/-- A `Connect` call is pending, and its timer runs. -/
def awaitConnect (s : SMPConnection) (n : ℕ) : SMPConnection :=
  { s with
    queue := (s.queue.scheduleTask s.connectTimerId .connectTimeout).1
    connectTimerId := (s.queue.scheduleTask s.connectTimerId .connectTimeout).2
    connectRpc := some n
    state := .handshake }

/-- One update. -/
inductive Update (a : Allowed) (s : SMPConnection) : SMPConnection → Prop where
  /-- Fields that decide neither about closing nor about results. -/
  | aside (phase : Phase) (h3Conn webtransport certVerifyError masqueTunnelReady : Bool)
      (hset : webtransport = s.webtransport ∨ webtransport = (s.webtransport || s.config.isH3)) :
      Update a s
        { s with
          phase := phase
          h3Conn := h3Conn
          webtransport := webtransport
          certVerifyError := certVerifyError
          masqueTunnelReady := masqueTunnelReady }
  /-- The connection runs inside a tunnel. -/
  | setInner (made : Bool) (hrole : s.masqueRole = .none) (hopen : s.newState ≠ .freed) :
      Update a s (s.setInner made)
  | dropTunnel (h : a.tunnelEnds) : Update a s s.dropTunnel
  | closeTunnel : Update a s s.closeTunnel
  | note (e : Entry) (h : e.Plain) : Update a s (s.note e)
  | postTask (task : Task) (h : task.Plain) : Update a s (s.postTask task)
  /-- The oldest task is taken. -/
  | take (task : Task) (rest : List Task) (h : s.queue.events = task :: rest)
      (hstub : ∀ n, task = .connect n → a.stub n)
      (hend : task = .masqueOnTunnelClosed → a.tunnelEnds) : Update a s (s.taken rest)
  | withState (state : ConnState) (h : state = .handshake ∨ state = .connecting) :
      Update a s (s.withState state)
  /-- A close is requested. -/
  | request (status : BCRESULT) (h : a.request status) : Update a s (s.setState .freed status)
  /-- The pending connect fails. -/
  | report (result : BCRESULT) (h : result ≠ .success) :
      Update a s (s.notifyConnectResult none result)
  /-- The `Connect` call whose task runs fails. -/
  | reject (n : ℕ) (result : BCRESULT) (hstub : a.stub n) (h : result ≠ .success) :
      Update a s (s.notifyConnectResult (some n) result)
  /-- The connect is pending, and its timer runs. -/
  | await (n : ℕ) (hstub : a.stub n) (hopen : s.newState ≠ .freed)
      (hstate : s.state.val ≤ ConnState.init.val) : Update a s (s.awaitConnect n)
  | acceptCommand (c : Command) (hid : c.transId = some 1) (hname : c.name = .result) :
      Update a s (s.note (.received c)).acceptConnect
  | acceptHeaders (headers : Headers) (h : a.headers (some headers)) :
      Update a s (s.note (.receivedHeaders (some headers))).acceptConnect
  /-- The peer refuses the pending connect. -/
  | refuse (hpending : s.connectRpc.isSome = true) :
      Update a s ((s.withState .init).notifyConnectResult none .failure)
  /-- The answer to the CONNECT-UDP request. -/
  | tunnelAnswer (headers : Option Headers) (h : a.headers headers) :
      Update a s ((s.note (.receivedHeaders headers)).masqueOnConnectUdpResponse
        (beginsWithTwo headers))
  | tunnelFailed : Update a s (s.masqueOnConnectUdpResponse false)
  | onConnCreate (h : a.connects) : Update a s s.onConnCreate
  | onTimer (call : TimerCall) : Update a s (s.onTimer call)
  /-- The connect timer runs out. -/
  | expire (timer : ℕ) (queue : EventQueue Task Timer)
      (h : s.queue.expire timer = some (.connectTimeout, queue)) :
      Update a s { s with queue := queue }
  /-- An engine timer runs out. -/
  | onEngineTimeout (timer : ℕ) (queue : EventQueue Task Timer)
      (h : s.queue.expire timer = some (.engine, queue)) :
      Update a s (onEngineTimeout
        { s with queue := queue, engineTimers := s.engineTimers.filter (· ≠ timer) } timer)
  | dropSocket : Update a s s.dropSocket
  | dropConn : Update a s s.dropConn
  | beginClosing (h : s.newState ≠ .max) : Update a s s.beginClosing
  | closeQuic (h : s.newState ≠ .max) : Update a s s.closeQuic
  /-- The pending connect is told the result of the closing, and the connection is freed. -/
  | conclude (h : s.newState ≠ .max) (hstate : s.state = .closingSock)
      (hsocket : s.udpSocket = none) (htunnel : ¬ (s.masqueRole = .inner ∧ s.masqueTunnel)) :
      Update a s (s.notifyConnectResult none s.closeStatus).detach

/-- Any number of updates. -/
def Updates (a : Allowed) : SMPConnection → SMPConnection → Prop :=
  Relation.ReflTransGen (Update a)

variable {a : Allowed} {s t u : SMPConnection}

/-- Nothing happens. -/
theorem Updates.refl (s : SMPConnection) : Updates a s s := Relation.ReflTransGen.refl

/-- One small change is a sequence of them. -/
theorem Update.updates (h : Update a s t) : Updates a s t := Relation.ReflTransGen.single h

/-- Two sequences are one. -/
theorem Updates.trans (h : Updates a s t) (h' : Updates a t u) : Updates a s u :=
  Relation.ReflTransGen.trans h h'

/-- What every update keeps is kept by any number of them. -/
theorem Updates.keeps {P : SMPConnection → Prop} (h : Updates a s t)
    (hstep : ∀ s t, Update a s t → P s → P t) (hs : P s) : P t := by
  induction h with
  | refl => exact hs
  | tail _ hupdate ih => exact hstep _ _ hupdate ih

/-- A relation that every update meets and that composes is met by any number of updates. -/
theorem Updates.relates {R : SMPConnection → SMPConnection → Prop} (h : Updates a s t)
    (hrefl : ∀ s, R s s) (htrans : ∀ s t u, R s t → R t u → R s u)
    (hstep : ∀ s t, Update a s t → R s t) : R s t := by
  induction h with
  | refl => exact hrefl s
  | tail _ hupdate ih => exact htrans _ _ _ ih (hstep _ _ hupdate)

/-- The close check of a connection that is asked to close. -/
theorem updates_ladder (h : s.newState ≠ .max) : Updates a s s.ladder := by
  have hbegun : s.beginClosing.newState ≠ .max := by
    unfold SMPConnection.beginClosing
    split
    · exact h
    · exact h
  have hquic : s.beginClosing.closeQuic.newState ≠ .max := by
    unfold SMPConnection.closeQuic
    split
    · exact hbegun
    · exact hbegun
  have hfirst : Updates a s s.beginClosing.closeQuic :=
    (Update.beginClosing h).updates.trans (Update.closeQuic hbegun).updates
  refine hfirst.trans ?_
  rw [ladder, closeSock]
  split
  · rename_i hsock
    split
    · exact Update.closeTunnel.updates
    · rename_i htunnel
      exact (Update.conclude hquic hsock.1 hsock.2 htunnel).updates
  · exact .refl _

/-- `_CloseCheck` is made of small changes. -/
theorem updates_closeCheck : Updates a s s.closeCheck.1 := by
  unfold closeCheck
  split
  · exact .refl s
  · rename_i hcheck
    by_cases hmax : s.newState = .max
    · -- nothing is to be done in the freed state
      have hfreed : s.state = .freed := by
        rw [hmax] at hcheck
        cases hstate : s.state <;> simp_all [ConnState.val]
      have hladder : s.ladder = s := by
        simp [ladder, SMPConnection.beginClosing, SMPConnection.closeQuic, closeSock, hfreed,
          ConnState.val]
      rw [hladder]
      exact .refl s
    · exact updates_ladder hmax

/-- So is the check behind a callback. -/
theorem updates_checked : Updates a s s.checked := updates_closeCheck

/-- A close check that lets a body run does nothing, and no close is requested. -/
theorem open_of_closeCheck (h : s.closeCheck.2 = false) :
    s.closeCheck.1 = s ∧ s.newState ≠ .freed := by
  have hworking : s.state.val ≤ s.newState.val ∧ ConnState.freed.val < s.state.val := by
    by_contra hcheck
    rw [closeCheck, if_neg hcheck] at h
    cases h
  refine ⟨by rw [closeCheck, if_pos hworking], fun hfreed => ?_⟩
  rw [hfreed] at hworking
  omega

/-- A guarded body runs when no close is requested. -/
theorem updates_guarded {body : SMPConnection → SMPConnection}
    (h : s.newState ≠ .freed → Updates a s (body s)) : Updates a s (s.guarded body) := by
  unfold guarded
  split
  · exact updates_closeCheck
  · rename_i hopen
    obtain ⟨hsame, hnew⟩ := open_of_closeCheck (Bool.eq_false_iff.mpr hopen)
    rw [hsame]
    exact h hnew

/-- So is `Close`. -/
theorem updates_close : Updates a s s.close := by
  unfold close
  split
  · exact (Update.postTask .close trivial).updates
  · exact .refl s

/-- So are the calls of the timer. -/
theorem updates_foldl_onTimer (calls : List TimerCall) : Updates a s (calls.foldl onTimer s) := by
  induction calls generalizing s with
  | nil => exact .refl s
  | cons call calls ih => exact (Update.onTimer call).updates.trans ih

/-- So is a run of `Connect_Internal`, where connecting is allowed. -/
theorem updates_connectInternal (ha : a.connects) (hopen : s.newState ≠ .freed) (env : Env) :
    Updates a s (s.connectInternal env).1 := by
  unfold connectInternal
  split
  · rename_i hproxy
    unfold masqueStartTunnel
    split
    · exact (Update.setInner true hproxy.1 hopen).updates
    · exact (Update.setInner false hproxy.1 hopen).updates.trans
        (Update.report .failure (by decide)).updates
  split
  · exact .refl s
  have hset : Updates a s (s.setWebtransport (s.webtransport || s.config.isH3)) :=
    (Update.aside _ _ _ _ _ (Or.inr rfl)).updates
  refine hset.trans ?_
  unfold connectEngine
  split
  · exact .refl _
  split
  · exact .refl _
  · cases env.jqcConnect with
    | none => exact .refl _
    | some calls => exact (Update.onConnCreate ha).updates.trans (updates_foldl_onTimer calls)

/-- So is `RequestClose`, where it is allowed to be asked for. -/
theorem updates_requestClose {status : BCRESULT} (h : s.newState ≠ .freed → a.request status) :
    Updates a s (s.requestClose status) :=
  updates_guarded fun hopen => (Update.request status (h hopen)).updates.trans updates_checked

/-- What the `Connect` task makes of its stub: it fails, or it is pending. -/
inductive Answer (n : ℕ) (s : SMPConnection) : SMPConnection → Prop where
  | rejected (result : BCRESULT) (h : result ≠ .success) :
      Answer n s (s.notifyConnectResult (some n) result)
  | awaited (hopen : s.newState ≠ .freed) (h : s.state.val ≤ ConnState.init.val) :
      Answer n s (s.awaitConnect n)

/-- The answer is an update of the event that runs the task. -/
theorem Answer.updates {n : ℕ} (h : Answer n s t) (hstub : a.stub n) : Updates a s t := by
  cases h with
  | rejected result h => exact (Update.reject n result hstub h).updates
  | awaited hopen h => exact (Update.await n hstub hopen h).updates

/-- The `Connect` task answers once unless the connection is closing. -/
theorem answers_connectTask {n : ℕ} {env : Env} (hopen : s.closeCheck.2 = false)
    (hconnects : s.runsConnectInternal env (.connect n) → a.connects)
    (hfails : s.connectFails env → ∀ status, status ≠ .success → a.request status) :
    ∃ t u, (∀ request, Updates { a with request := request } s t) ∧ Answer n t u ∧
      Updates a u (s.connectTask n env) := by
  obtain ⟨hsame, hnew⟩ := open_of_closeCheck hopen
  have htask : s.connectTask n env = _ := if_neg (by simp [hopen])
  rw [htask, hsame]
  split
  · exact ⟨s, _, fun _ => .refl s, .rejected _ (by decide), updates_checked⟩
  rename_i hlow
  split
  · exact ⟨s, _, fun _ => .refl s, .rejected _ (by decide), updates_checked⟩
  rename_i hphysical
  have hle := Nat.not_lt.mp hlow
  have hinternal (request : BCRESULT → Prop) :
      Updates { a with request := request } s (s.connectInternal env).1 :=
    updates_connectInternal (a := { a with request := request }) (hconnects ⟨hnew, hle, hphysical⟩)
      hnew env
  -- the call fails, and a close is requested
  have hfailed {result : BCRESULT} (hresult : result ≠ .success) (hrequest : a.request result) :
      ∃ t u, (∀ request, Updates { a with request := request } s t) ∧ Answer n t u ∧ Updates a u
        ((((s.connectInternal env).1.notifyConnectResult (some n) result).setState .freed
          result).withState .handshake).checked :=
    ⟨_, _, hinternal, .rejected result hresult, ((Update.request result hrequest).updates.trans
      (Update.withState .handshake (Or.inl rfl)).updates).trans updates_checked⟩
  unfold startConnect
  split
  · rename_i hresult
    exact hfailed hresult (hfails ⟨hle, hphysical, Or.inl hresult⟩ _ hresult)
  · unfold startConnectTimer
    split
    · rename_i hresult
      exact hfailed hresult (hfails ⟨hle, hphysical, Or.inr hresult⟩ _ hresult)
    · refine ⟨_, _, hinternal, .awaited ?_ ?_, updates_checked⟩
      · rw [connectInternal_newState]
        exact hnew
      · rw [connectInternal_state]
        exact hle

/-- The `Connect` task, once it has been taken. -/
theorem updates_connectTask {n : ℕ} {env : Env} (hstub : a.stub n)
    (hconnects : s.runsConnectInternal env (.connect n) → a.connects)
    (hfails : s.connectFails env → ∀ status, status ≠ .success → a.request status) :
    Updates a s (s.connectTask n env) := by
  cases hopen : s.closeCheck.2 with
  | true =>
    have htask : s.connectTask n env = s.closeCheck.1 := if_pos hopen
    rw [htask]
    exact updates_closeCheck
  | false =>
    obtain ⟨t, u, hfirst, hanswer, hlast⟩ := answers_connectTask hopen hconnects hfails
    exact ((hfirst a.request).trans (hanswer.updates hstub)).trans hlast

/-- So is the connect to a proxy. -/
theorem updates_masqueConnectToProxyTask {env : Env}
    (hconnects : s.runsConnectInternal env .masqueConnectToProxy → a.connects) :
    Updates a s (s.masqueConnectToProxyTask env) := by
  refine updates_guarded fun hopen => ?_
  split
  · exact .refl s
  rename_i hlow
  have hopen' : (s.withState .handshake).newState ≠ .freed := hopen
  have hinternal : Updates a s ((s.withState .handshake).connectInternal env).1 :=
    (Update.withState .handshake (Or.inl rfl)).updates.trans
      (updates_connectInternal (hconnects ⟨hopen, Nat.not_lt.mp hlow⟩) hopen' env)
  refine Updates.trans ?_ updates_checked
  split
  · exact hinternal.trans Update.tunnelFailed.updates
  · exact hinternal

/-- So is the tunnel that becomes ready. -/
theorem updates_masqueOnTunnelReadyTask {env : Env} {result : BCRESULT}
    (hconnects : s.runsConnectInternal env (.masqueOnTunnelReady result) → a.connects)
    (hfails : s.taskTearsDown env (.masqueOnTunnelReady result) →
      ∀ status, status ≠ .success → a.request status) :
    Updates a s (s.masqueOnTunnelReadyTask result env) := by
  refine updates_guarded fun hopen => Updates.trans ?_ updates_checked
  split
  · rename_i hresult
    exact (Update.report .failure (by decide)).updates.trans
      (Update.request .failure (hfails (Or.inl hresult) _ (by decide))).updates
  rename_i hresult
  have hinternal :=
    updates_connectInternal (a := a) (hconnects ⟨hopen, not_not.mp hresult⟩) hopen env
  split
  · rename_i hfailed
    exact hinternal.trans ((Update.report _ hfailed).updates.trans
      (Update.request _ (hfails (Or.inr hfailed) _ hfailed)).updates)
  · exact hinternal

/-- Entering the engine changes where the thread stands. -/
theorem updates_enterEngine (unchecked : Bool) : Updates a s (s.enterEngine unchecked) :=
  (Update.aside _ _ _ _ _ (Or.inl rfl)).updates

/-- A connect that fails without a tunnel asks for the close. -/
theorem updates_failWithoutTunnel (h : a.request .netDown) : Updates a s s.failWithoutTunnel := by
  unfold failWithoutTunnel
  split
  · exact (Update.report .netDown (by decide)).updates.trans (Update.request .netDown h).updates
  split
  · exact (Update.request .netDown h).updates
  · exact .refl s

/-- What the task of an event may do. -/
structure Permits (a : Allowed) (s : SMPConnection) (env : Env) (task : Task) : Prop where
  /-- A connect announces its stub. -/
  stub : ∀ n, task = .connect n → a.stub n
  /-- The end of a tunnel is allowed. -/
  tunnelEnds : task = .masqueOnTunnelClosed → a.tunnelEnds
  /-- Connecting is allowed. -/
  connects : s.runsConnectInternal env task → a.connects
  /-- A connect that fails may ask for any close but a good one. -/
  fails : (∃ n, task = .connect n) → s.connectFails env →
    ∀ status, status ≠ .success → a.request status
  /-- So may a task that tears the connection down. -/
  tearsDown : s.taskTearsDown env task →
    ∀ status, (status = .success → task = .close) → a.request status

/-- A task that has been taken. -/
theorem updates_perform {env : Env} {task : Task} (h : Permits a s env task) :
    Updates a s (s.perform env task) := by
  cases task with
  | connect n => exact updates_connectTask (h.stub n rfl) h.connects (h.fails ⟨n, rfl⟩)
  | close => exact updates_requestClose fun _ => h.tearsDown trivial _ fun _ => rfl
  | engineCall call =>
    simp only [perform, engineCallTask]
    refine updates_guarded fun _ => ?_
    split
    · exact updates_enterEngine false
    · exact updates_checked
  | nextTick =>
    simp only [perform, nextTickTask]
    split
    · exact updates_enterEngine false
    · exact .refl s
  | udpClosed =>
    exact Update.dropSocket.updates.trans
      (updates_requestClose fun _ => h.tearsDown trivial _ fun hc => by simp at hc)
  | masqueConnectToProxy => exact updates_masqueConnectToProxyTask h.connects
  | masqueOnTunnelReady result =>
    refine updates_masqueOnTunnelReadyTask h.connects fun htears status hne => ?_
    exact h.tearsDown htears status fun hc => absurd hc hne
  | masqueOnTunnelClosed =>
    have hrequest : a.request .netDown := h.tearsDown trivial _ fun hc => by simp at hc
    exact (Update.dropTunnel (h.tunnelEnds rfl)).updates.trans
      ((updates_failWithoutTunnel hrequest).trans updates_checked)

/-- The peer refuses the pending connect, and a close is posted. -/
theorem updates_refuseConnect (hpending : s.connectRpc.isSome = true) :
    Updates a s s.refuseConnect :=
  (Update.refuse hpending).updates.trans updates_close

/-- A packet makes small changes. -/
theorem updates_processPacket (p : Packet) : Updates a s (s.processPacket p) := by
  unfold processPacket
  cases p with
  | other => exact .refl s
  | command c =>
    have hnote : Updates a s (s.note (.received c)) :=
      (Update.note (.received c) trivial).updates
    dsimp only
    split
    · rename_i hanswer
      unfold onConnectAnswer
      split
      · rename_i hname
        exact (Update.acceptCommand c hanswer.1 hname).updates
      · exact hnote.trans (updates_refuseConnect hanswer.2)
      · exact hnote
    · exact hnote

/-- So do the packets of one read. -/
theorem updates_foldl_processPacket (packets : List Packet) :
    Updates a s (packets.foldl processPacket s) := by
  induction packets generalizing s with
  | nil => exact .refl s
  | cons p packets ih => exact (updates_processPacket p).trans ih

/-- So do the headers of a response. -/
theorem updates_onH3RequestRecvHeaders {headers : Option Headers} (h : a.headers headers) :
    Updates a s (s.onH3RequestRecvHeaders headers) := by
  have hnote : Updates a s (s.note (.receivedHeaders headers)) :=
    (Update.note (.receivedHeaders headers) trivial).updates
  unfold onH3RequestRecvHeaders
  split
  · exact (Update.tunnelAnswer headers h).updates
  split
  · rename_i hpending
    split
    · rename_i hsome
      obtain ⟨fields, rfl⟩ := Option.isSome_iff_exists.mp hsome
      exact (Update.acceptHeaders fields h).updates
    · exact hnote.trans (updates_refuseConnect hpending)
  · exact hnote

/-- So does the end of the handshake. -/
theorem updates_handshakeFinished (ok : Bool) :
    Updates a s
      (if s.config.isH3 then s.onH3HandshakeFinished ok else s.onHandshakeFinished ok) := by
  have hstate : Updates a s (s.withState .connecting) :=
    (Update.withState .connecting (Or.inr rfl)).updates
  split
  · unfold onH3HandshakeFinished
    split
    · exact hstate.trans Update.tunnelFailed.updates
    · exact hstate
  · unfold onHandshakeFinished
    split
    · exact hstate.trans (Update.note .sendConnect trivial).updates
    · exact hstate

/-- A callback of the engine. -/
theorem updates_onCallback (unchecked : Bool) {callback : Callback}
    (hheaders : ∀ headers, callback = .h3Read headers → a.headers headers)
    (hclose : callback = .connClose → a.request .netDown) :
    Updates a s (s.onCallback unchecked callback) := by
  cases callback with
  | handshakeFinished ok => exact updates_handshakeFinished ok
  | streamRead packets =>
    simp only [onCallback, onStreamRead]
    exact updates_guarded fun _ => updates_foldl_processPacket packets
  | h3Read headers =>
    simp only [onCallback]
    split
    · exact updates_guarded fun _ => updates_onH3RequestRecvHeaders (hheaders headers rfl)
    · exact .refl s
  | certVerifyFailed => exact (Update.aside _ _ _ _ _ (Or.inl rfl)).updates
  | connClosing =>
    simp only [onCallback, onConnClosingNotify]
    split
    · exact (Update.report .failure (by decide)).updates
    · exact .refl s
  | connClose =>
    have hrequest : Updates a s s.onClose :=
      Update.dropConn.updates.trans (updates_requestClose fun _ => hclose rfl)
    exact hrequest.trans (Update.aside _ _ _ _ _ (Or.inl rfl)).updates
  | timer call => exact (Update.onTimer call).updates

/-- So does a timer that expires. -/
theorem updates_expire {timer : ℕ}
    (hrequest : s.queue.Armed timer .connectTimeout → a.request .timedOut) :
    Updates a s (s.expire timer) := by
  unfold SMPConnection.expire
  split
  · exact .refl s
  · rename_i queue hexpire
    have harmed := (EventQueue.expire_eq_some hexpire).1
    refine (Update.expire timer queue hexpire).updates.trans ?_
    exact ((Update.report .timedOut (by decide)).updates.trans
      (Update.request _ (hrequest harmed)).updates).trans updates_checked
  · rename_i queue hexpire
    exact (Update.onEngineTimeout timer queue hexpire).updates

/-- So does the thread that leaves the engine. -/
theorem updates_leave (ok : Bool) : Updates a s (s.leave ok) := by
  have hidle : Updates a s { s with phase := .idle } :=
    (Update.aside _ _ _ _ _ (Or.inl rfl)).updates
  unfold leave
  split
  · exact .refl s
  all_goals
    split
    · exact hidle
    · exact hidle.trans updates_checked

/-- The task that the event runs is the oldest one. -/
def Runs (s : SMPConnection) (e : Event) (task : Task) : Prop :=
  s.phase = .idle ∧ (∃ env, e = .runTask env) ∧ s.queue.events.head? = some task

/-- What an event allows. -/
def allowed (s : SMPConnection) (e : Event) : Allowed where
  request status :=
    (s.TearsDown e ∨ s.FailsConnect e) ∧ (status = .success → s.Runs e .close)
  stub n := s.Runs e (.connect n)
  connects := s.ConnectsInternally e
  headers headers := e = .callback (.h3Read headers)
  tunnelEnds := s.Runs e .masqueOnTunnelClosed

/-- Every event makes the updates it allows. The calls from outside that post the tasks of
`Connect` and of the end of the tunnel are left out. -/
theorem updates_step {e : Event} (hconnect : e ≠ .connect) (hclosed : e ≠ .tunnelClosed) :
    Updates (s.allowed e) s (s.step e) := by
  have hpost {task : Task} (h : task.Plain) : Updates (s.allowed e) s (s.postTask task) :=
    (Update.postTask task h).updates
  unfold step
  cases e with
  | connect => exact absurd rfl hconnect
  | close => exact updates_close
  | engineCall call =>
    dsimp only
    split
    · exact hpost trivial
    · exact .refl s
  | udpClosed => exact hpost trivial
  | masqueConnectToProxy =>
    dsimp only
    split
    · exact hpost trivial
    · exact .refl s
  | tunnelReady result => exact hpost trivial
  | tunnelClosed => exact absurd rfl hclosed
  | runTask env =>
    dsimp only
    split
    · rename_i hidle
      unfold runTask
      split
      · exact .refl s
      · rename_i task rest hevents
        have hruns : s.Runs (.runTask env) task := ⟨hidle, ⟨env, rfl⟩, by rw [hevents]; rfl⟩
        have hpermits : Permits (s.allowed (.runTask env)) (s.taken rest) env task := by
          refine ⟨?_, ?_, ?_, ?_, ?_⟩
          · rintro n rfl
            exact hruns
          · rintro rfl
            exact hruns
          · exact fun hconnects => ⟨hidle, task, rest, hevents, hconnects⟩
          · rintro ⟨n, rfl⟩ hfails status hne
            exact ⟨Or.inr ⟨hidle, n, rest, hevents, hfails⟩, fun hc => absurd hc hne⟩
          · rintro htears status hsuccess
            refine ⟨Or.inl ⟨hidle, task, rest, hevents, htears⟩, fun hc => ?_⟩
            rw [← hsuccess hc]
            exact hruns
        exact (Update.take task rest hevents hpermits.stub hpermits.tunnelEnds).updates.trans
          (updates_perform hpermits)
    · exact .refl s
  | timerExpires timer =>
    dsimp only
    split
    · rename_i hidle
      exact updates_expire fun harmed => ⟨Or.inl ⟨hidle, harmed⟩, fun hc => by simp at hc⟩
    · exact .refl s
  | recvData =>
    dsimp only
    split
    · refine updates_guarded fun _ => ?_
      split
      · exact updates_enterEngine true
      · exact .refl s
    · exact .refl s
  | callback callback =>
    dsimp only
    split
    · rename_i unchecked hphase
      refine updates_onCallback unchecked ?_ ?_
      · rintro headers rfl
        rfl
      · rintro rfl
        exact ⟨Or.inl ⟨unchecked, hphase⟩, fun hc => by simp at hc⟩
    · exact .refl s
  | leave ok => exact updates_leave ok

end SMPConnection

end Conn
