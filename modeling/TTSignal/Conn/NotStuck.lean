import TTSignal.Conn.Closing
import TTSignal.Conn.Tunnel

/-!
# A closing connection is never stuck

The closing of a connection is a ladder: the engine's connection, the socket, the tunnel,
and then the connection itself. The ladder is stated on its own for the few fields it
reads, and the connection's close check is shown to climb it. A connection that is asked
to close where the ladder has a rung under it always waits for something that has been
asked to close; only the initial state has no rung.
-/

namespace Conn

open Runs

/-- The fields that decide how far the closing of a connection has come. -/
structure Rungs where
  /-- `state_`. -/
  state : ConnState
  /-- `conn_`. -/
  conn : Option Handle
  /-- `udp_socket_`. -/
  udpSocket : Option Handle
  /-- There is a tunnel below this connection. -/
  tunnel : Bool
  /-- The tunnel has been asked to close. -/
  tunnelClosing : Bool

namespace Rungs

/-- The engine's connection is held and has been asked to close. -/
def WaitsForQuic (r : Rungs) : Prop := r.conn = some ⟨true⟩

/-- The socket is held and has been asked to close. -/
def WaitsForSocket (r : Rungs) : Prop := r.udpSocket = some ⟨true⟩

/-- There is a tunnel and it has been asked to close. -/
def WaitsForTunnel (r : Rungs) : Prop := r.tunnel ∧ r.tunnelClosing

/-- What is known of a closing connection before its next close check. -/
structure Climbing (r : Rungs) : Prop where
  /-- The initial state has no rung. -/
  ne_init : r.state ≠ .init
  /-- A connection that waits for the engine has asked it. -/
  quic : r.state = .closingQuic → r.conn.isSome → r.WaitsForQuic
  /-- A connection that waits for its socket has asked it. -/
  sock : r.state = .closingSock → r.conn = none ∧ (r.udpSocket.isSome → r.WaitsForSocket)
  /-- A freed connection is not held by the engine. -/
  freed : r.state = .freed → r.conn = none

/-- What is known of a closing connection after a close check. -/
def Standing (r : Rungs) : Prop :=
  r.state = .freed ∧ r.conn = none ∨
    r.state = .closingSock ∧ r.conn = none ∧ (r.WaitsForSocket ∨
      r.udpSocket = none ∧ r.WaitsForTunnel) ∨
    r.state ≠ .init ∧ r.state ≠ .freed ∧ r.state ≠ .closingSock ∧ r.WaitsForQuic

/-- One close check of a closing connection. -/
def climb (r : Rungs) : Rungs :=
  if r.state = .freed ∨ r.state = .init then r
  else if r.state ≠ .closingSock ∧ r.conn.isSome then
    { r with
      state := .closingQuic
      conn := if r.state = .closingQuic then r.conn else some ⟨true⟩ }
  else if r.udpSocket.isSome then
    { r with
      state := .closingSock
      udpSocket := if r.state = .closingSock then r.udpSocket else some ⟨true⟩ }
  else if r.tunnel then { r with state := .closingSock, tunnelClosing := true }
  else { r with state := .freed }

/-- Asking the engine is the first part of a climb. -/
theorem climb_begin {r : Rungs} (h : ConnState.init.val < r.state.val) :
    climb { r with state := .closingQuic, conn := r.conn.map fun _ => ⟨true⟩ } = r.climb := by
  have hfreed : r.state ≠ .freed := by rintro hr; simp [hr, ConnState.val] at h
  have hinit : r.state ≠ .init := by rintro hr; simp [hr, ConnState.val] at h
  have hquic : r.state ≠ .closingQuic := by rintro hr; simp [hr, ConnState.val] at h
  have hsock : r.state ≠ .closingSock := by rintro hr; simp [hr, ConnState.val] at h
  cases hconn : r.conn <;> simp [climb, hfreed, hinit, hquic, hsock, hconn]

/-- A connection that stands on a rung can climb on. -/
theorem Standing.climbing {r : Rungs} (h : r.Standing) : r.Climbing := by
  rcases h with ⟨hstate, hconn⟩ | ⟨hstate, hconn, hwait⟩ | ⟨hinit, hfreed, hsock, hwait⟩
  · constructor <;> simp [hstate, hconn]
  · refine ⟨by simp [hstate], by simp [hstate], fun _ => ⟨hconn, fun hudp => ?_⟩,
      by simp [hstate]⟩
    rcases hwait with hwait | ⟨hnone, _⟩
    · exact hwait
    · simp [hnone] at hudp
  · exact ⟨hinit, fun _ _ => hwait, fun h => absurd h hsock, fun h => absurd h hfreed⟩

/-- Every close check leaves the connection freed or waiting for something that it has
asked to close. -/
theorem Climbing.standing_climb {r : Rungs} (h : r.Climbing) : r.climb.Standing := by
  unfold climb
  split
  · rename_i hstate
    have hfreed : r.state = .freed := hstate.resolve_right h.ne_init
    exact Or.inl ⟨hfreed, h.freed hfreed⟩
  rename_i hstate
  split
  · rename_i hquic
    refine Or.inr (Or.inr ⟨by simp, by simp, by simp, ?_⟩)
    by_cases hclosing : r.state = .closingQuic
    · simpa [WaitsForQuic, hclosing] using h.quic hclosing hquic.2
    · simp [WaitsForQuic, hclosing]
  rename_i hquic
  have hconn : r.conn = none := by
    by_cases hsock : r.state = .closingSock
    · exact (h.sock hsock).1
    · simpa [hsock] using hquic
  split
  · rename_i hudp
    refine Or.inr (Or.inl ⟨rfl, hconn, Or.inl ?_⟩)
    by_cases hsock : r.state = .closingSock
    · simpa [WaitsForSocket, hsock] using (h.sock hsock).2 hudp
    · simp [WaitsForSocket, hsock]
  rename_i hudp
  split
  · rename_i htunnel
    exact Or.inr (Or.inl ⟨rfl, hconn, Or.inr ⟨by simpa using hudp, htunnel, rfl⟩⟩)
  · exact Or.inl ⟨rfl, hconn⟩

/-- The socket may be gone before the next close check. -/
theorem Climbing.udpClosed {r : Rungs} (h : r.Climbing) :
    Climbing { r with udpSocket := none } :=
  ⟨h.ne_init, h.quic, fun hstate => ⟨(h.sock hstate).1, by simp⟩, h.freed⟩

/-- The engine's connection may be gone before the next close check. -/
theorem Climbing.connClosed {r : Rungs} (h : r.Climbing) : Climbing { r with conn := none } :=
  ⟨h.ne_init, by simp, fun hstate => ⟨rfl, (h.sock hstate).2⟩, fun _ => rfl⟩

/-- A connection that waits for the engine goes on waiting. -/
theorem Climbing.waitsForQuic_climb {r : Rungs} (h : r.Climbing) (hwait : r.WaitsForQuic) :
    r.climb.WaitsForQuic := by
  have hconn : r.conn = some ⟨true⟩ := hwait
  have hsock : r.state ≠ .closingSock := fun hs => by simp [(h.sock hs).1] at hconn
  have hfreed : r.state ≠ .freed := fun hs => by simp [h.freed hs] at hconn
  simp [climb, WaitsForQuic, hsock, hfreed, h.ne_init, hconn]

/-- A connection above the initial state can begin to climb. -/
theorem climbing_of_init_lt {r : Rungs} (h : ConnState.init.val < r.state.val) : r.Climbing := by
  refine ⟨?_, ?_, ?_, ?_⟩ <;> intro hstate <;> rw [hstate] at h <;> simp [ConnState.val] at h

end Rungs

namespace SMPConnection

variable {s : SMPConnection}

/-- How far the closing of a connection has come. -/
def rungs (s : SMPConnection) : Rungs where
  state := s.state
  conn := s.conn
  udpSocket := s.udpSocket
  tunnel := s.masqueRole = .inner && s.masqueTunnel
  tunnelClosing := s.masqueTunnelClosing

/-- A note is no rung. -/
@[simp] theorem note_rungs (e : Entry) : (s.note e).rungs = s.rungs := rfl

/-- Posting a task is none. -/
@[simp] theorem postTask_rungs (t : Task) : (s.postTask t).rungs = s.rungs := rfl

/-- Nor is a state that is asked for. -/
@[simp] theorem setState_rungs (state : ConnState) (status : BCRESULT) :
    (s.setState state status).rungs = s.rungs := rfl

/-- Nor is telling the result of `Connect`. -/
@[simp] theorem notifyConnectResult_rungs (pStub : Option Nat) (result : BCRESULT) :
    (s.notifyConnectResult pStub result).rungs = s.rungs := rfl

/-- The first part of the close check on the ladder. -/
theorem beginClosing_rungs (h : ConnState.init.val < s.state.val) :
    s.beginClosing.rungs =
      { s.rungs with state := .closingQuic, conn := s.conn.map fun _ => ⟨true⟩ } := by
  rw [beginClosing, if_pos h]
  rfl

/-- The second part of the close check on the ladder. -/
theorem closeQuic_rungs (h : s.state = .closingQuic) (hconn : s.conn = none) :
    s.closeQuic.rungs =
      { s.rungs with state := .closingSock, udpSocket := s.udpSocket.map fun _ => ⟨true⟩ } := by
  rw [closeQuic, if_pos ⟨h, hconn⟩]
  rfl

/-- The third part of the close check on the ladder. -/
theorem closeSock_rungs (h : s.state = .closingSock) :
    s.closeSock.rungs =
      if s.rungs.udpSocket.isSome then s.rungs
      else if s.rungs.tunnel then { s.rungs with tunnelClosing := true }
      else { s.rungs with state := .freed } := by
  have hu : s.rungs.udpSocket = s.udpSocket := rfl
  cases hudp : s.udpSocket with
  | some u => simp [closeSock, hu, hudp]
  | none =>
    have htunnel : s.rungs.tunnel = true ↔ s.masqueRole = .inner ∧ s.masqueTunnel := by
      simp [rungs]
    rw [closeSock, if_pos ⟨h, hudp⟩, hu, hudp]
    simp only [htunnel, Option.isSome_none, Bool.false_eq_true, if_false]
    split
    · rw [closeTunnel]
      split
      · rename_i hclosing
        simp [rungs, hudp, hclosing]
      · simp [rungs, hudp]
    · simp [rungs, hudp, detach, notifyConnectResult]

/-- The last two parts of the close check climb the ladder. -/
theorem closeQuic_closeSock_rungs (h : s.state = .closingQuic) :
    s.closeQuic.closeSock.rungs = s.rungs.climb := by
  have hstate : s.rungs.state = .closingQuic := h
  cases hconn : s.conn with
  | some c =>
    have hc : s.rungs.conn = some c := hconn
    have hquic : s.closeQuic = s := if_neg (by simp [hconn])
    have hsock : s.closeSock = s := if_neg (by simp [h])
    rw [hquic, hsock, Rungs.climb, if_neg (by simp [hstate]), if_pos (by simp [hstate, hc]),
      if_pos hstate, ← hstate]
  | none =>
    have hc : s.rungs.conn = none := hconn
    have hr := closeQuic_rungs h hconn
    have hclosed : s.closeQuic.state = .closingSock := congrArg Rungs.state hr
    rw [closeSock_rungs hclosed, hr]
    have hudp : s.rungs.udpSocket = s.udpSocket := rfl
    cases hu : s.udpSocket <;> simp [Rungs.climb, hstate, hc, hudp, hu]

/-- The close check of a closing connection climbs the ladder. -/
theorem ladder_rungs : s.ladder.rungs = s.rungs.climb := by
  have hstate : s.rungs.state = s.state := rfl
  rw [ladder]
  by_cases hinit : ConnState.init.val < s.state.val
  · have hbegun := beginClosing_rungs hinit
    have hclosing : s.beginClosing.state = .closingQuic := congrArg Rungs.state hbegun
    rw [closeQuic_closeSock_rungs hclosing, hbegun]
    exact Rungs.climb_begin (r := s.rungs) hinit
  · rw [show s.beginClosing = s from if_neg hinit]
    by_cases hquic : s.state = .closingQuic
    · exact closeQuic_closeSock_rungs hquic
    · rw [show s.closeQuic = s from if_neg (by simp [hquic])]
      by_cases hsock : s.state = .closingSock
      · have hs : s.rungs.state = .closingSock := hsock
        rw [closeSock_rungs hsock]
        simp only [Rungs.climb, hs, reduceCtorEq, or_self, if_false, ne_eq, not_true_eq_false,
          false_and, if_true]
        rw [← hs]
      · rw [show s.closeSock = s from if_neg (by simp [hsock]), Rungs.climb, if_pos]
        rw [hstate]
        cases hs : s.state <;> simp_all [ConnState.val]

/-- The step leaves the closing as it is. -/
structure Same (s t : SMPConnection) : Prop where
  /-- The rungs are unchanged. -/
  rungs : t.rungs = s.rungs
  /-- No close is requested. -/
  newState : t.newState = s.newState
  /-- Control stays where it is. -/
  phase : t.phase = s.phase

/-- The step requests no close and does not fall below the initial state. -/
structure Stays (s t : SMPConnection) : Prop where
  /-- No close is requested. -/
  newState : t.newState = s.newState
  /-- The state does not become a closing state. -/
  state : ConnState.init.val ≤ s.state.val → ConnState.init.val ≤ t.state.val

variable {t u : SMPConnection}

/-- A connection is the same as itself. -/
theorem Same.refl (s : SMPConnection) : Same s s := ⟨rfl, rfl, rfl⟩

/-- Two same parts are the same together. -/
theorem Same.trans (h : Same s t) (h' : Same t u) : Same s u :=
  ⟨h'.rungs.trans h.rungs, h'.newState.trans h.newState, h'.phase.trans h.phase⟩

/-- What is the same stays. -/
theorem Same.stays (h : Same s t) : Stays s t := by
  refine ⟨h.newState, fun hstate => ?_⟩
  rw [show t.state = s.state from congrArg Rungs.state h.rungs]
  exact hstate

/-- What stays in two parts stays. -/
theorem Stays.trans (h : Stays s t) (h' : Stays t u) : Stays s u :=
  ⟨h'.newState.trans h.newState, fun hstate => h'.state (h.state hstate)⟩

/-- What stays of a working connection is working. -/
theorem Stays.working (h : Stays s t) (hs : s.Working) : t.Working :=
  ⟨h.newState.trans hs.1, h.state hs.2⟩

/-- A note changes nothing that counts. -/
theorem same_note (e : Entry) : Same s (s.note e) := ⟨rfl, rfl, rfl⟩

/-- Nor does posting a task. -/
theorem same_postTask (task : Task) : Same s (s.postTask task) := ⟨rfl, rfl, rfl⟩

/-- Telling the result of `Connect` changes nothing that counts. -/
theorem same_notifyConnectResult (pStub : Option Nat) (result : BCRESULT) :
    Same s (s.notifyConnectResult pStub result) := ⟨rfl, rfl, rfl⟩

/-- Nor does `Close`. -/
theorem same_close : Same s s.close := by
  unfold close
  split
  · exact same_postTask _
  · exact Same.refl s

/-- Nor does `Connect`. -/
theorem same_connect : Same s s.connect := by
  unfold connect
  split
  · exact ⟨rfl, rfl, rfl⟩
  · exact Same.refl s

/-- Nor does a call of the timer. -/
theorem same_onTimer (call : TimerCall) : Same s (s.onTimer call) := by
  unfold onTimer
  split
  · exact ⟨rfl, rfl, rfl⟩
  · split
    · exact ⟨rfl, rfl, rfl⟩
    · exact Same.refl s
  · split
    · exact ⟨rfl, rfl, rfl⟩
    · exact Same.refl s
  · exact same_postTask _

/-- Nor do the calls of one turn. -/
theorem same_foldl_onTimer (calls : List TimerCall) : Same s (calls.foldl onTimer s) := by
  induction calls generalizing s with
  | nil => exact Same.refl s
  | cons call calls ih => exact (same_onTimer call).trans ih

/-- Nor does the answer to CONNECT-UDP. -/
theorem same_masqueOnConnectUdpResponse (ok : Bool) :
    Same s (s.masqueOnConnectUdpResponse ok) := by
  unfold masqueOnConnectUdpResponse
  split <;> exact ⟨rfl, rfl, rfl⟩

/-- Nor does the notice of the closing. -/
theorem same_onConnClosingNotify : Same s s.onConnClosingNotify := by
  unfold onConnClosingNotify
  split
  · exact same_notifyConnectResult _ _
  · exact Same.refl s

/-- Assigning a state that is not a closing state. -/
theorem stays_withState {state : ConnState} (h : ConnState.init.val ≤ state.val) :
    Stays s (s.withState state) := ⟨rfl, fun _ => h⟩

/-- `Connect_Internal` requests no close and leaves the state and control as they are. -/
theorem connectInternal_frame (env : Env) :
    (s.connectInternal env).1.newState = s.newState ∧
      (s.connectInternal env).1.state = s.state ∧
      (s.connectInternal env).1.phase = s.phase := by
  have h := s.connectInternal_outcome env
  generalize s.connectInternal env = r at h ⊢
  cases h with
  | tunnelStarted => exact ⟨rfl, rfl, rfl⟩
  | tunnelMissing => exact ⟨rfl, rfl, rfl⟩
  | unknownCongCtl => exact ⟨rfl, rfl, rfl⟩
  | refused => exact ⟨rfl, rfl, rfl⟩
  | connected webtransport calls =>
    have h := same_foldl_onTimer (s := (s.setWebtransport webtransport).onConnCreate) calls
    exact ⟨h.newState, congrArg Rungs.state h.rungs, h.phase⟩

/-- A connect stream that is accepted stays on the ladder. -/
theorem stays_acceptConnect : Stays s s.acceptConnect :=
  Stays.trans (stays_withState (by decide)) (same_notifyConnectResult _ _).stays

/-- One that is refused stays there too. -/
theorem stays_refuseConnect : Stays s s.refuseConnect :=
  Stays.trans (stays_withState (by decide))
    ((same_notifyConnectResult _ _).trans same_close).stays

/-- A packet does as well. -/
theorem stays_processPacket (p : Packet) : Stays s (s.processPacket p) := by
  unfold processPacket onConnectAnswer
  split
  · split
    · split
      · exact (same_note _).stays.trans stays_acceptConnect
      · exact (same_note _).stays.trans stays_refuseConnect
      · exact (same_note _).stays
    · exact (same_note _).stays
  · exact (Same.refl s).stays

/-- So do the packets of one read. -/
theorem stays_foldl_processPacket (packets : List Packet) :
    Stays s (packets.foldl processPacket s) := by
  induction packets generalizing s with
  | nil => exact (Same.refl s).stays
  | cons p packets ih => exact (stays_processPacket p).trans ih

/-- So do the headers of a response. -/
theorem stays_onH3RequestRecvHeaders (headers : Option Headers) :
    Stays s (s.onH3RequestRecvHeaders headers) := by
  unfold onH3RequestRecvHeaders
  split
  · exact ((same_note _).trans (same_masqueOnConnectUdpResponse _)).stays
  · split
    · split
      · exact (same_note _).stays.trans stays_acceptConnect
      · exact (same_note _).stays.trans stays_refuseConnect
    · exact (same_note _).stays

/-- The end of the handshake changes nothing of the closing but the state. -/
theorem same_handshakeFinished (unchecked ok : Bool) :
    Same (s.withState .connecting) (s.onCallback unchecked (.handshakeFinished ok)) := by
  simp only [onCallback]
  split
  · unfold onH3HandshakeFinished
    split
    · exact same_masqueOnConnectUdpResponse _
    · exact Same.refl _
  · unfold onHandshakeFinished
    split
    · exact same_note _
    · exact Same.refl _

/-- The invariant of a connection that is not asked to close in the initial state. -/
structure Upright (s : SMPConnection) : Prop where
  /-- Either no close is requested or the freed state is. -/
  working_or_closing : s.Working ∨ s.Closing
  /-- A closing connection stands on a rung. -/
  standing : s.Closing → s.rungs.Standing
  /-- Inside the engine a closing connection still waits for the engine. -/
  engine : ∀ unchecked, s.phase = .inEngine unchecked → s.Closing → s.rungs.WaitsForQuic

/-- A working connection is not closing. -/
theorem Working.not_closing (h : s.Working) : ¬ s.Closing := by
  intro hc
  have hnew := h.1.symm.trans hc
  exact absurd hnew (by decide)

/-- A connection that works is upright. -/
theorem Working.upright (h : s.Working) : Upright s :=
  ⟨Or.inl h, fun hc => absurd hc h.not_closing, fun _ _ hc => absurd hc h.not_closing⟩

/-- A step that leaves the closing as it is keeps the invariant. -/
theorem Same.upright (h : Same s t) (hs : Upright s) : Upright t := by
  have hclosing : t.Closing → s.Closing := fun hc => h.newState.symm.trans hc
  refine ⟨?_, fun hc => ?_, fun unchecked hphase hc => ?_⟩
  · rcases hs.working_or_closing with hw | hc
    · exact Or.inl (h.stays.working hw)
    · exact Or.inr (h.newState.trans hc)
  · rw [h.rungs]
    exact hs.standing (hclosing hc)
  · rw [h.rungs]
    exact hs.engine unchecked (h.phase.symm.trans hphase) (hclosing hc)

/-- A close check outside the engine puts a climbing connection on a rung. -/
theorem upright_ladder (hc : s.Closing) (hphase : ∀ unchecked, s.phase ≠ .inEngine unchecked)
    (h : s.rungs.Climbing) : Upright s.ladder := by
  refine ⟨Or.inr (ladder_newState.trans hc), fun _ => ?_, fun unchecked hin _ => ?_⟩
  · rw [ladder_rungs]
    exact h.standing_climb
  · exact absurd (ladder_phase.symm.trans hin) (hphase unchecked)

/-- The close check of a closing connection keeps the invariant. -/
theorem Upright.ladder (hs : Upright s) (hc : s.Closing) : Upright s.ladder := by
  have hclimb := (hs.standing hc).climbing
  refine ⟨Or.inr (ladder_newState.trans hc), fun _ => ?_, fun unchecked hin _ => ?_⟩
  · rw [ladder_rungs]
    exact hclimb.standing_climb
  · rw [ladder_rungs]
    exact hclimb.waitsForQuic_climb (hs.engine unchecked (ladder_phase.symm.trans hin) hc)

/-- Guarded bodies keep the invariant when they do so for working connections. -/
theorem Upright.guarded {body : SMPConnection → SMPConnection} (hs : Upright s)
    (h : s.Working → Upright (body s)) : Upright (s.guarded body) := by
  rcases hs.working_or_closing with hw | hc
  · rw [guarded_of_working hw]
    exact h hw
  · rw [guarded_of_closing hc]
    exact hs.ladder hc

/-- The last check of a task keeps the invariant. -/
theorem Upright.checked (hs : Upright s) : Upright s.checked := by
  rcases hs.working_or_closing with hw | hc
  · rw [checked_of_working hw]
    exact hs
  · rw [checked_of_closing hc]
    exact hs.ladder hc

/-- A close that is requested above the initial state finds a rung. -/
theorem upright_request {status : BCRESULT} (hstate : ConnState.init.val < s.state.val)
    (hphase : ∀ unchecked, s.phase ≠ .inEngine unchecked) :
    Upright (s.setState .freed status).checked := by
  rw [checked_of_closing setState_closing]
  exact upright_ladder setState_closing hphase (Rungs.climbing_of_init_lt hstate)

/-- A working connection is above the initial state or in it. -/
theorem Working.init_lt (h : s.Working) (hne : s.state ≠ .init) :
    ConnState.init.val < s.state.val := by
  have hle := h.2
  cases hstate : s.state <;> simp_all [ConnState.val]

/-- A requested close keeps the invariant, whatever handles are gone by then. -/
theorem upright_requestClose {status : BCRESULT} (hworking : s.Working ∨ s.Closing)
    (hinit : s.Working → s.state ≠ .init) (hclimb : s.Closing → s.rungs.Climbing)
    (hphase : ∀ unchecked, s.phase ≠ .inEngine unchecked) : Upright (s.requestClose status) := by
  rcases hworking with hw | hc
  · rw [requestClose_of_working hw, ← checked_of_closing setState_closing]
    exact upright_request (hw.init_lt (hinit hw)) hphase
  · rw [requestClose_of_closing hc]
    exact upright_ladder hc hphase (hclimb hc)

/-- `Connect_Internal` of a working connection leaves it working. -/
theorem Working.connectInternal (h : s.Working) (env : Env) :
    (s.connectInternal env).1.Working := by
  obtain ⟨hnew, hstate, _⟩ := connectInternal_frame (s := s) env
  exact ⟨hnew.trans h.1, by rw [hstate]; exact h.2⟩

/-- A failing or successful `Connect` task leaves the initial state. -/
theorem upright_startConnect (hw : s.Working) (hidle : s.phase = .idle) (pStub : Nat)
    (env : Env) : Upright (s.startConnect pStub env).checked := by
  obtain ⟨hnew, _, hphase⟩ := connectInternal_frame (s := s) env
  have hidle' : (s.connectInternal env).1.phase = .idle := hphase.trans hidle
  have hfailed : ∀ result, Upright ((((s.connectInternal env).1.notifyConnectResult (some pStub)
      result).setState .freed result).withState .handshake).checked := by
    intro result
    refine upright_request (s := ((s.connectInternal env).1.notifyConnectResult (some pStub)
      result).withState .handshake)
      (show ConnState.init.val < ConnState.handshake.val by decide) fun unchecked => ?_
    rw [show (((s.connectInternal env).1.notifyConnectResult (some pStub)
      result).withState .handshake).phase = .idle from hidle']
    simp
  unfold startConnect
  split
  · exact hfailed _
  · unfold startConnectTimer
    split
    · exact hfailed _
    · have hstarted : ((s.connectInternal env).1.newState) = .max := hnew.trans hw.1
      exact Upright.checked (Working.upright
        ⟨hstarted, show ConnState.init.val ≤ ConnState.handshake.val by decide⟩)

/-- Every task keeps the invariant unless it requests a close in the initial state. -/
theorem upright_perform (hs : Upright s) (hidle : s.phase = .idle) {env : Env} {task : Task}
    (hcond : s.taskTearsDown env task → s.state ≠ .init) : Upright (s.perform env task) := by
  have hphase : ∀ unchecked, s.phase ≠ .inEngine unchecked := by simp [hidle]
  have hclimb : s.Closing → s.rungs.Climbing := fun hc => (hs.standing hc).climbing
  cases task with
  | connect pStub =>
    simp only [perform, connectTask]
    refine hs.guarded fun hw => ?_
    split
    · exact ((same_notifyConnectResult _ _).upright hs).checked
    · split
      · exact ((same_notifyConnectResult _ _).upright hs).checked
      · exact upright_startConnect hw hidle pStub env
  | close =>
    exact upright_requestClose hs.working_or_closing (fun _ => hcond trivial) hclimb hphase
  | engineCall call =>
    simp only [perform, engineCallTask]
    refine hs.guarded fun hw => ?_
    split
    · exact Working.upright ⟨hw.1, hw.2⟩
    · exact hs.checked
  | nextTick =>
    simp only [perform, nextTickTask]
    split
    · rename_i hconn
      refine ⟨hs.working_or_closing, hs.standing, fun _ _ hc => ?_⟩
      rcases hs.standing hc with ⟨_, hnone⟩ | ⟨_, hnone, _⟩ | ⟨_, _, _, hwait⟩
      · exact absurd hconn (by simp [show s.conn = none from hnone])
      · exact absurd hconn (by simp [show s.conn = none from hnone])
      · exact hwait
    · exact hs
  | udpClosed =>
    exact upright_requestClose hs.working_or_closing (fun _ => hcond trivial)
      (fun hc => (hclimb hc).udpClosed) hphase
  | masqueConnectToProxy =>
    simp only [perform, masqueConnectToProxyTask]
    refine hs.guarded fun hw => ?_
    split
    · exact hs
    · have hw' : (s.withState .handshake).Working :=
        ⟨hw.1, show ConnState.init.val ≤ ConnState.handshake.val by decide⟩
      have hup := (hw'.connectInternal env).upright
      split
      · exact ((same_masqueOnConnectUdpResponse _).upright hup).checked
      · exact hup.checked
  | masqueOnTunnelReady result =>
    simp only [perform, masqueOnTunnelReadyTask]
    refine hs.guarded fun hw => ?_
    split
    · rename_i hresult
      exact upright_request (hw.init_lt (hcond (Or.inl hresult))) hphase
    · split
      · rename_i hfailed
        obtain ⟨_, hstate, hp⟩ := connectInternal_frame (s := s) env
        refine upright_request ?_ fun unchecked => ?_
        · have hlt := hw.init_lt (hcond (Or.inr hfailed))
          rw [← hstate] at hlt
          exact hlt
        · have hne := hphase unchecked
          rw [← hp] at hne
          exact hne
      · exact (hw.connectInternal env).upright.checked
  | masqueOnTunnelClosed =>
    have hne : s.state ≠ .init := hcond trivial
    simp only [perform, masqueOnTunnelClosedTask, failWithoutTunnel]
    rw [if_neg (show ¬ s.dropTunnel.state = .init from hne)]
    split
    · rename_i hlt
      exact upright_request hlt hphase
    · rename_i hlt
      rcases hs.working_or_closing with hw | hc
      · exact absurd (hw.init_lt hne) hlt
      · have hc' : s.dropTunnel.Closing := hc
        rw [checked_of_closing hc']
        refine upright_ladder hc' hphase ?_
        have hclimb := hclimb hc
        exact ⟨hclimb.ne_init, hclimb.quic, hclimb.sock, hclimb.freed⟩

/-- A connection that the engine holds may enter the engine. -/
theorem Upright.enterEngine (hs : Upright s) (hconn : s.conn.isSome) (unchecked : Bool) :
    Upright (s.enterEngine unchecked) := by
  refine ⟨hs.working_or_closing, hs.standing, fun _ _ hc => ?_⟩
  rcases hs.standing hc with ⟨_, hnone⟩ | ⟨_, hnone, _⟩ | ⟨_, _, _, hwait⟩
  · exact absurd hconn (by simp [show s.conn = none from hnone])
  · exact absurd hconn (by simp [show s.conn = none from hnone])
  · exact hwait

/-- An engine timer runs out. -/
theorem Upright.onEngineTimeout (hs : Upright s) (timer : ℕ) :
    Upright (s.onEngineTimeout timer) := by
  unfold SMPConnection.onEngineTimeout
  split
  · rename_i hconn
    exact ((same_note _).upright hs).enterEngine hconn false
  · exact hs

/-- A timer requests no close in the initial state. -/
theorem Upright.expire (hs : Upright s) (hidle : s.phase = .idle) {timer : ℕ}
    (hcond : s.queue.Armed timer .connectTimeout → s.state ≠ .init) :
    Upright (s.expire timer) := by
  unfold SMPConnection.expire
  split
  · exact hs
  · rename_i queue hexpire
    obtain ⟨harmed, rfl⟩ := BC.EventQueue.expire_eq_some hexpire
    have hphase : ∀ unchecked, s.phase ≠ .inEngine unchecked := by simp [hidle]
    rw [onConnectTimeout, checked_of_closing setState_closing]
    refine upright_ladder setState_closing hphase ?_
    rcases hs.working_or_closing with hw | hc
    · exact Rungs.climbing_of_init_lt (hw.init_lt (hcond harmed))
    · exact (hs.standing hc).climbing
  · refine Upright.onEngineTimeout ?_ timer
    exact ⟨hs.working_or_closing, hs.standing, hs.engine⟩

/-- The handshake may finish while the connection waits for the engine. -/
theorem Upright.handshakeFinished (hs : Upright s) {unchecked : Bool}
    (hphase : s.phase = .inEngine unchecked) : Upright (s.withState .connecting) := by
  rcases hs.working_or_closing with hw | hc
  · exact (Stays.working (stays_withState (by decide)) hw).upright
  · have hwait := hs.engine unchecked hphase hc
    exact ⟨Or.inr hc, fun _ => Or.inr (Or.inr ⟨by simp [rungs, withState],
      by simp [rungs, withState], by simp [rungs, withState], hwait⟩), fun _ _ _ => hwait⟩

/-- The end of the engine's connection requests a close above the initial state. -/
theorem Upright.connClose (hs : Upright s) (hne : s.state ≠ .init) (unchecked : Bool) :
    Upright { s.onClose with phase := .leaving unchecked } := by
  have hstanding : s.onClose.rungs.Standing ∧ s.onClose.Closing := by
    unfold onClose
    rcases hs.working_or_closing with hw | hc
    · have hw' : s.dropConn.Working := hw
      rw [requestClose_of_working hw', ladder_rungs]
      exact ⟨(Rungs.climbing_of_init_lt (hw.init_lt hne)).standing_climb, ladder_newState⟩
    · have hc' : s.dropConn.Closing := hc
      rw [requestClose_of_closing hc', ladder_rungs]
      have hclimb := (hs.standing hc).climbing
      refine ⟨Rungs.Climbing.standing_climb ?_, ladder_newState.trans hc⟩
      by_cases hh3 : s.config.isH3 = true
      · have hsame : s.dropConn.rungs = s.rungs := by simp [rungs, dropConn, hh3]
        rw [hsame]
        exact hclimb
      · have hgone : s.dropConn.rungs = { s.rungs with conn := none } := by
          simp [rungs, dropConn, hh3]
        rw [hgone]
        exact hclimb.connClosed
  exact ⟨Or.inr hstanding.2, fun _ => hstanding.1, fun unchecked' hin => by simp at hin⟩

/-- A callback of the engine requests no close in the initial state. -/
theorem Upright.onCallback (hs : Upright s) {unchecked : Bool}
    (hphase : s.phase = .inEngine unchecked) {callback : Callback}
    (hcond : callback = .connClose → s.state ≠ .init) :
    Upright (s.onCallback unchecked callback) := by
  cases callback with
  | handshakeFinished ok =>
    exact (same_handshakeFinished unchecked ok).upright (hs.handshakeFinished hphase)
  | streamRead packets =>
    simp only [SMPConnection.onCallback, onStreamRead]
    exact hs.guarded fun hw => ((stays_foldl_processPacket packets).working hw).upright
  | h3Read headers =>
    simp only [SMPConnection.onCallback]
    split
    · exact hs.guarded fun hw => ((stays_onH3RequestRecvHeaders headers).working hw).upright
    · exact hs
  | certVerifyFailed => exact ⟨hs.working_or_closing, hs.standing, hs.engine⟩
  | connClosing => exact same_onConnClosingNotify.upright hs
  | connClose => exact hs.connClose (hcond rfl) unchecked
  | timer call => exact (same_onTimer call).upright hs

/-- The engine returns. -/
theorem Upright.leave (hs : Upright s) (ok : Bool) : Upright (s.leave ok) := by
  have hidle : Upright { s with phase := .idle } :=
    ⟨hs.working_or_closing, hs.standing, fun _ hin => by simp at hin⟩
  unfold SMPConnection.leave
  split
  · exact hs
  all_goals
    split
    · exact hidle
    · exact hidle.checked

/-- Whoever requests a close does not find the connection in the initial state. -/
def FindsRung (s : SMPConnection) (e : Event) : Prop := s.TearsDown e → s.state ≠ .init

/-- Every event keeps the invariant unless it requests a close in the initial state. -/
theorem Upright.step (hs : Upright s) {e : Event} (hcond : s.FindsRung e) :
    Upright (s.step e) := by
  unfold SMPConnection.step
  cases e with
  | connect => exact same_connect.upright hs
  | close => exact same_close.upright hs
  | engineCall call =>
    dsimp only
    split
    · exact (same_postTask _).upright hs
    · exact hs
  | udpClosed => exact (same_postTask _).upright hs
  | masqueConnectToProxy =>
    dsimp only
    split
    · exact (same_postTask _).upright hs
    · exact hs
  | tunnelReady result => exact (same_postTask _).upright hs
  | tunnelClosed => exact (same_postTask _).upright hs
  | runTask env =>
    dsimp only
    split
    · rename_i hidle
      unfold runTask
      split
      · exact hs
      · rename_i task rest hevents
        have htaken : Upright (s.taken rest) :=
          ⟨hs.working_or_closing, hs.standing, hs.engine⟩
        exact upright_perform htaken hidle fun htears => hcond ⟨hidle, task, rest, hevents, htears⟩
    · exact hs
  | timerExpires timer =>
    dsimp only
    split
    · rename_i hidle
      exact hs.expire hidle fun harmed => hcond ⟨hidle, harmed⟩
    · exact hs
  | recvData =>
    dsimp only
    split
    · refine hs.guarded fun hw => ?_
      split
      · exact Working.upright ⟨hw.1, hw.2⟩
      · exact hs
    · exact hs
  | callback callback =>
    dsimp only
    split
    · rename_i unchecked hphase
      refine hs.onCallback hphase ?_
      rintro rfl
      exact hcond ⟨unchecked, hphase⟩
    · exact hs
  | leave ok => exact hs.leave ok

/-- A closing connection is detached, or it holds something that has been asked to close. -/
def NotStuck (s : SMPConnection) : Prop :=
  s.Closing → (s.state = .freed ∧ .detach ∈ s.trace) ∨ s.conn = some ⟨true⟩ ∨
    s.udpSocket = some ⟨true⟩ ∨ (s.masqueTunnel = true ∧ s.masqueTunnelClosing = true)

/-- A connection on a rung is not stuck. -/
theorem Upright.notStuck (hs : Upright s) (h : s.Tied) : s.NotStuck := by
  intro hc
  rcases hs.standing hc with ⟨hstate, -⟩ | ⟨-, -, hwait | ⟨-, htunnel, hclosing⟩⟩ | ⟨-, -, -, hwait⟩
  · exact Or.inl ⟨hstate, h.freed hstate⟩
  · exact Or.inr (Or.inr (Or.inl hwait))
  · have hboth : s.masqueRole = .inner ∧ s.masqueTunnel = true := by simpa [rungs] using htunnel
    exact Or.inr (Or.inr (Or.inr ⟨hboth.2, hclosing⟩))
  · exact Or.inr (Or.inl hwait)

/-- In a run in which no close is requested in the initial state, a closing connection is
never stuck. -/
theorem run_notStuck (config : Config) (tunnel : Bool) {events : List Event}
    (hmeets : Meets step FindsRung (create config tunnel) events) :
    (run step (create config tunnel) events).NotStuck := by
  have hcreated : Upright (create config tunnel) := Working.upright ⟨rfl, Nat.le_refl _⟩
  have hupright : Upright (run step (create config tunnel) events) :=
    invariant_of_meets (fun _ _ hs hcond => hs.step hcond) hcreated hmeets
  have htied : (run step (create config tunnel) events).Tied :=
    invariant (I := Tied) (fun _ e h => h.step e) (tied_create config tunnel) events
  exact hupright.notStuck htied

/-- A raw connection over a direct path. -/
def plainConfig : Config := ⟨'b', [], false, false, 0⟩

/-- All calls to other components succeed. -/
def goodEnv : Env := ⟨1, true, 1300, .success, some [], .success⟩

/-- A connection that is closed after it has begun to connect waits for the engine. -/
theorem notStuck_connect_close :
    (run step (create plainConfig false)
      [.connect, .runTask goodEnv, .close, .runTask goodEnv]).conn =
        some ⟨true⟩ ∧
      (run step (create plainConfig false)
        [.connect, .runTask goodEnv, .close, .runTask goodEnv]).NotStuck := by
  refine ⟨by decide,
    run_notStuck plainConfig false ⟨False.elim, ?_, False.elim, fun _ => by decide, trivial⟩⟩
  rintro ⟨-, task, rest, htask, htears⟩
  cases htask
  exact htears.elim

/-- A connection that is closed before it connects holds a socket that nobody closes. -/
theorem stuck_close :
    ¬ (run step (create plainConfig false) [.close, .runTask goodEnv]).NotStuck := by
  unfold NotStuck Closing
  decide

end SMPConnection

end Conn
