import TTSignal.Conn.Connection
import TTSignal.Runs
import Mathlib.Tactic.SplitIfs

/-!
# Closing a connection

Before a close is requested the close check does nothing, afterwards it always goes on
with the closing. This file says so once, and gives the steps that request a close.
-/

namespace Conn

namespace SMPConnection

variable {s : SMPConnection} {status : BCRESULT} {body : SMPConnection → SMPConnection}

/-- The ladder keeps the aim. -/
@[simp] theorem ladder_newState : s.ladder.newState = s.newState := by
  unfold ladder closeSock closeQuic beginClosing closeTunnel
  split_ifs <;> rfl

/-- It leaves the thread where it is. -/
@[simp] theorem ladder_phase : s.ladder.phase = s.phase := by
  unfold ladder closeSock closeQuic beginClosing closeTunnel
  split_ifs <;> rfl

/-- What `Connect_Internal` can do. -/
inductive ConnectOutcome (s : SMPConnection) : SMPConnection × BCRESULT → Prop where
  /-- A tunnel is brought up first. -/
  | tunnelStarted :
      ConnectOutcome s (s.setInner true, .success)
  /-- There is no tunnel. -/
  | tunnelMissing :
      ConnectOutcome s ((s.setInner false).notifyConnectResult none .failure, .failure)
  /-- The congestion control is unknown. -/
  | unknownCongCtl : ConnectOutcome s (s, .invalidArg)
  /-- The engine is not asked, or does not connect. -/
  | refused (webtransport : Bool) {result : BCRESULT} (h : result ≠ .success) :
      ConnectOutcome s (s.setWebtransport webtransport, result)
  /-- The engine connects. -/
  | connected (webtransport : Bool) (calls : List TimerCall) :
      ConnectOutcome s
        (calls.foldl onTimer (s.setWebtransport webtransport).onConnCreate, .success)

/-- `Connect_Internal` does one of these. -/
theorem connectInternal_outcome (s : SMPConnection) (env : Env) :
    ConnectOutcome s (s.connectInternal env) := by
  unfold connectInternal masqueStartTunnel
  split
  · split
    · exact .tunnelStarted
    · exact .tunnelMissing
  split
  · exact .unknownCongCtl
  unfold connectEngine
  split_ifs with _ hhost
  · exact .refused _ (by decide)
  · exact .refused _ hhost
  · unfold jqcConnect
    split
    · exact .refused _ (by decide)
    · exact .connected _ _

/-- A timer call of the engine leaves the state as it is and requests no close. -/
theorem onTimer_states (call : TimerCall) :
    (s.onTimer call).state = s.state ∧ (s.onTimer call).newState = s.newState := by
  cases call with
  | set => exact ⟨rfl, rfl⟩
  | update timer =>
    simp only [onTimer]
    split_ifs <;> exact ⟨rfl, rfl⟩
  | unset timer onlyCancel =>
    simp only [onTimer]
    split_ifs <;> exact ⟨rfl, rfl⟩
  | nextTick => exact ⟨rfl, rfl⟩

/-- The engine's timer calls leave the state as it is. -/
theorem foldl_onTimer_state (calls : List TimerCall) : (calls.foldl onTimer s).state = s.state := by
  induction calls generalizing s with
  | nil => rfl
  | cons call calls ih => rw [List.foldl_cons, ih, (onTimer_states call).1]

/-- The engine's timer calls request no close. -/
theorem foldl_onTimer_newState (calls : List TimerCall) :
    (calls.foldl onTimer s).newState = s.newState := by
  induction calls generalizing s with
  | nil => rfl
  | cons call calls ih => rw [List.foldl_cons, ih, (onTimer_states call).2]

/-- `Connect_Internal` leaves the state as it is. -/
theorem connectInternal_state (env : Env) : (s.connectInternal env).1.state = s.state := by
  have h := s.connectInternal_outcome env
  generalize s.connectInternal env = r at h ⊢
  cases h with
  | connected webtransport calls => exact foldl_onTimer_state calls
  | _ => rfl

/-- `Connect_Internal` requests no close. -/
theorem connectInternal_newState (env : Env) :
    (s.connectInternal env).1.newState = s.newState := by
  have h := s.connectInternal_outcome env
  generalize s.connectInternal env = r at h ⊢
  cases h with
  | connected webtransport calls => exact foldl_onTimer_newState calls
  | _ => rfl

/-- No close is requested. -/
def Working (s : SMPConnection) : Prop :=
  s.newState = .max ∧ ConnState.init.val ≤ s.state.val

/-- A close is requested. -/
def Closing (s : SMPConnection) : Prop := s.newState = .freed

/-- The close check leaves a working connection alone. -/
theorem closeCheck_of_working (h : s.Working) : s.closeCheck = (s, false) := by
  obtain ⟨hnew, hstate⟩ := h
  have hmax : s.state.val ≤ ConnState.max.val := by cases s.state <;> decide
  have hfreed : ConnState.freed.val < s.state.val := Nat.lt_of_lt_of_le (by decide) hstate
  rw [closeCheck, hnew, if_pos ⟨hmax, hfreed⟩]

/-- The close check goes on with the closing. -/
theorem closeCheck_of_closing (h : s.Closing) : s.closeCheck = (s.ladder, true) := by
  have hnot : ¬ (s.state.val ≤ s.newState.val ∧ ConnState.freed.val < s.state.val) := by
    rw [show s.newState = .freed from h]
    omega
  rw [closeCheck, if_neg hnot]

/-- Guarded bodies of a working connection run. -/
theorem guarded_of_working (h : s.Working) : s.guarded body = body s := by
  simp [guarded, closeCheck_of_working h]

/-- Guarded bodies of a closing connection do not run. -/
theorem guarded_of_closing (h : s.Closing) : s.guarded body = s.ladder := by
  simp [guarded, closeCheck_of_closing h]

/-- The last check of a task does nothing to a working connection. -/
theorem checked_of_working (h : s.Working) : s.checked = s := by
  simp [checked, closeCheck_of_working h]

/-- The last check of a task goes on with the closing. -/
theorem checked_of_closing (h : s.Closing) : s.checked = s.ladder := by
  simp [checked, closeCheck_of_closing h]

/-- Setting the freed state requests a close. -/
@[simp] theorem setState_closing : (s.setState .freed status).Closing := rfl

/-- A working connection begins to close on request. -/
theorem requestClose_of_working (h : s.Working) :
    s.requestClose status = (s.setState .freed status).ladder := by
  rw [requestClose, guarded_of_working h, checked_of_closing setState_closing]

/-- A closing connection goes on with it on request. -/
theorem requestClose_of_closing (h : s.Closing) : s.requestClose status = s.ladder := by
  rw [requestClose, guarded_of_closing h]

/-- `Connect_Internal` runs in the task. -/
def runsConnectInternal (s : SMPConnection) (env : Env) : Task → Prop
  | .connect _ =>
    s.newState ≠ .freed ∧ s.state.val ≤ ConnState.init.val ∧
      ¬ (s.config.forcePhysical ∧ s.config.androidNetHandle = 0 ∧ env.physicalIfindex ≤ 0)
  | .masqueConnectToProxy => s.newState ≠ .freed ∧ s.state.val ≤ ConnState.init.val
  | .masqueOnTunnelReady result => s.newState ≠ .freed ∧ result = .success
  | .close | .engineCall _ | .nextTick | .udpClosed | .masqueOnTunnelClosed => False

/-- The results of the calls of a `Connect` task make it request a close. -/
def connectFails (s : SMPConnection) (env : Env) : Prop :=
  s.state.val ≤ ConnState.init.val ∧
    ¬ (s.config.forcePhysical ∧ s.config.androidNetHandle = 0 ∧ env.physicalIfindex ≤ 0) ∧
    ((s.connectInternal env).2 ≠ .success ∨ env.scheduleResult ≠ .success)

/-- The event lets a waiting `Connect` task fail. -/
def FailsConnect (s : SMPConnection) : Event → Prop
  | .runTask env =>
    s.phase = .idle ∧
      ∃ pStub rest, s.queue.events = .connect pStub :: rest ∧ (s.taken rest).connectFails env
  | _ => False

/-- A task other than `Connect` requests a close. -/
def taskTearsDown (s : SMPConnection) (env : Env) : Task → Prop
  | .close | .udpClosed | .masqueOnTunnelClosed => True
  | .masqueOnTunnelReady result => result ≠ .success ∨ (s.connectInternal env).2 ≠ .success
  | .connect _ | .engineCall _ | .nextTick | .masqueConnectToProxy => False

/-- The event runs `Connect_Internal`. -/
def ConnectsInternally (s : SMPConnection) : Event → Prop
  | .runTask env =>
    s.phase = .idle ∧
      ∃ task rest, s.queue.events = task :: rest ∧ (s.taken rest).runsConnectInternal env task
  | _ => False

/-- The event requests a close by other means than a failing `Connect` task. -/
def TearsDown (s : SMPConnection) : Event → Prop
  | .runTask env =>
    s.phase = .idle ∧
      ∃ task rest, s.queue.events = task :: rest ∧ (s.taken rest).taskTearsDown env task
  | .timerExpires timer => s.phase = .idle ∧ s.queue.Armed timer .connectTimeout
  | .callback .connClose => ∃ unchecked, s.phase = .inEngine unchecked
  | _ => False

end SMPConnection

end Conn
