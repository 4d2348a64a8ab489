import TTSignal.Conn.Serving
import TTSignal.Conn.Truthful

/-!
# A live connection is served until it has closed

From the announcement of a connection to its end the timers of the engine run, the socket
stays open, the queue is not detached, and a close is first asked of the engine. The timers
and `_CloseCheck` look at `conn_` only, so that this fails for a connection over HTTP/3,
whose handle is `h3_conn_`.
-/

namespace Conn

open BC Runs

namespace SMPConnection

variable {s t u : SMPConnection}

/-- What is kept, whether or not a close has been asked of the engine. -/
structure Attended (s : SMPConnection) : Prop where
  /-- No end has been noted without need. -/
  record : Traces.Justified endNeeded s.trace
  /-- Nothing but the whole life or the end is asked for. -/
  requested : s.newState = .max ∨ s.newState = .freed
  /-- Only a requested close leads to the closing states. -/
  closing : s.state = .closingQuic ∨ s.state = .closingSock ∨ s.state = .freed → s.newState = .freed
  /-- A connection that closes its sockets has no engine any more. -/
  gone : s.state = .closingSock ∨ s.state = .freed → live s.trace = false
  /-- A handle is held exactly while a raw connection lives. -/
  handle : s.conn.isSome = (live s.trace && !s.config.isH3)
  /-- A raw connection has no HTTP/3 connection. -/
  plain : s.config.isH3 = false → s.h3Conn = false
  /-- The timer of a raw connection is set as the engine asks. -/
  timed : s.config.isH3 = false → s.Timed
  /-- Without a life there are no timers and no calls of timers. -/
  unset : s.config.isH3 = false → live s.trace = false → s.engineTimers = [] ∧ s.issued = []
  /-- Inside the engine there is a life. -/
  inside : s.config.isH3 = false → ∀ unchecked, s.phase = .inEngine unchecked → live s.trace = true

/-- A live connection that is to close has a `conn_`, and the engine was asked. -/
structure Served (s : SMPConnection) : Prop extends Attended s where
  /-- A living connection that is to be freed has asked the engine to close. -/
  asked : live s.trace = true → s.newState = .freed →
    s.config.isH3 = false ∧ askedToClose s.trace = true

/-- This holds of a connection before its life. -/
theorem served_create (config : Config) (tunnel : Bool) : (create config tunnel).Served where
  record := Traces.justified_nil
  requested := Or.inl rfl
  closing := by simp [create]
  gone := fun _ => rfl
  handle := rfl
  plain := fun _ => rfl
  timed := fun _ => timed_create config tunnel
  unset := fun _ _ => ⟨rfl, rfl⟩
  inside := by simp [create]
  asked := fun h => by cases h

/-- What touches neither the timers of the engine nor what decides about the closing. The
connect timer may be dropped. -/
structure Aloof (s t : SMPConnection) : Prop where
  /-- The configuration. -/
  config : t.config = s.config
  /-- The handle. -/
  conn : t.conn = s.conn
  /-- The HTTP/3 connection. -/
  h3Conn : t.h3Conn = s.h3Conn
  /-- Where the thread stands. -/
  phase : t.phase = s.phase
  /-- The state that is asked for. -/
  newState : t.newState = s.newState
  /-- The state, or one before the close. -/
  state : t.state = s.state ∨
    t.state ≠ .closingQuic ∧ t.state ≠ .closingSock ∧ t.state ≠ .freed
  /-- What has been noted besides does not touch the engine's connection. -/
  trace : ∃ new, t.trace = s.trace ++ new ∧ ∀ e ∈ new, e.Apart
  /-- The timer. -/
  timed : s.Timed → t.Timed
  /-- The calls that the engine has issued. -/
  issued : t.issued = s.issued
  /-- The timers of the engine. -/
  engineTimers : t.engineTimers = s.engineTimers

/-- A connection stays aloof by itself. -/
theorem Aloof.refl (s : SMPConnection) : Aloof s s :=
  ⟨rfl, rfl, rfl, rfl, rfl, Or.inl rfl, ⟨[], by simp⟩, id, rfl, rfl⟩

/-- Two parts that stay aloof do so together. -/
theorem Aloof.trans (h : Aloof s t) (h' : Aloof t u) : Aloof s u := by
  obtain ⟨new, hnew, hapart⟩ := h.trace
  obtain ⟨new', hnew', hapart'⟩ := h'.trace
  refine ⟨h'.config.trans h.config, h'.conn.trans h.conn, h'.h3Conn.trans h.h3Conn,
    h'.phase.trans h.phase, h'.newState.trans h.newState, ?_,
    ⟨new ++ new', by rw [hnew', hnew, List.append_assoc], ?_⟩, fun ht => h'.timed (h.timed ht),
    h'.issued.trans h.issued, h'.engineTimers.trans h.engineTimers⟩
  · rcases h'.state with hsame | hopen
    · rw [hsame]
      exact h.state
    · exact Or.inr hopen
  · intro e he
    rcases List.mem_append.mp he with hold | hadded
    · exact hapart e hold
    · exact hapart' e hadded

/-- Whether there is a life does not change. -/
theorem Aloof.live_eq (h : Aloof s t) : live t.trace = live s.trace := by
  obtain ⟨new, hnew, hapart⟩ := h.trace
  rw [hnew, live_append hapart]

/-- What is attended to stays so. -/
theorem Aloof.attended (h : Aloof s t) (hs : s.Attended) : t.Attended := by
  have hlive := h.live_eq
  obtain ⟨new, hnew, hapart⟩ := h.trace
  constructor
  · rw [hnew]
    refine hs.record.append fun e he before hend => ?_
    have := hapart e he
    rcases hend with rfl | rfl <;> exact this.elim
  · rw [h.newState]
    exact hs.requested
  · intro hclosing
    rw [h.newState]
    rcases h.state with hsame | ⟨hquic, hsock, hfreed⟩
    · rw [hsame] at hclosing
      exact hs.closing hclosing
    · simp [hquic, hsock, hfreed] at hclosing
  · intro hgone
    rw [hlive]
    rcases h.state with hsame | ⟨-, hsock, hfreed⟩
    · rw [hsame] at hgone
      exact hs.gone hgone
    · simp [hsock, hfreed] at hgone
  · rw [h.conn, hlive, h.config]
    exact hs.handle
  · rw [h.config, h.h3Conn]
    exact hs.plain
  · rw [h.config]
    exact fun hraw => h.timed (hs.timed hraw)
  · rw [h.config, hlive, h.engineTimers, h.issued]
    exact hs.unset
  · rw [h.config, hlive, h.phase]
    exact hs.inside

/-- A connection that is served stays so. -/
theorem Aloof.served (h : Aloof s t) (hs : s.Served) : t.Served := by
  refine ⟨h.attended hs.toAttended, ?_⟩
  have hlive := h.live_eq
  obtain ⟨new, hnew, hapart⟩ := h.trace
  rw [hlive, h.newState, h.config, hnew, askedToClose_append hapart]
  exact hs.asked

/-- Other fields do not matter. -/
theorem Aloof.of_same (hconfig : t.config = s.config) (hconn : t.conn = s.conn)
    (hh3 : t.h3Conn = s.h3Conn) (hphase : t.phase = s.phase) (hnew : t.newState = s.newState)
    (hstate : t.state = s.state ∨
      t.state ≠ .closingQuic ∧ t.state ≠ .closingSock ∧ t.state ≠ .freed)
    (htrace : t.trace = s.trace) (hnext : t.queue.nextTaskId = s.queue.nextTaskId)
    (hdelay : t.queue.delayTasks = s.queue.delayTasks)
    (htimer : t.connectTimerId = s.connectTimerId)
    (hissued : t.issued = s.issued) (hengine : t.engineTimers = s.engineTimers) : Aloof s t := by
  refine ⟨hconfig, hconn, hh3, hphase, hnew, hstate, ⟨[], by simp [htrace]⟩, fun ht => ?_,
    hissued, hengine⟩
  refine ⟨?_, ht.proper.of_le hnext fun n => by rw [hdelay]; exact id, ?_, ?_, ?_⟩
  · rw [hengine]
    intro n hn
    rw [EventQueue.Armed, hdelay]
    exact ht.armed n hn
  · rw [hissued, hnext]
    exact ht.held
  · rw [htimer, hnext]
    exact ht.given
  · rw [htimer, hissued, hengine]
    exact ht.other

/-- A note apart from the engine's connection. -/
theorem aloof_note {e : Entry} (he : e.Apart) : Aloof s (s.note e) :=
  ⟨rfl, rfl, rfl, rfl, rfl, Or.inl rfl, ⟨[e], rfl, by simpa using he⟩,
    fun h => ⟨h.armed, h.proper, h.held, h.given, h.other⟩, rfl, rfl⟩

/-- Posting a task. -/
theorem aloof_postTask (task : Task) : Aloof s (s.postTask task) :=
  .of_same rfl rfl rfl rfl rfl (Or.inl rfl) rfl rfl rfl rfl rfl rfl

/-- A state before the close. -/
theorem aloof_withState {state : ConnState}
    (h : state ≠ .closingQuic ∧ state ≠ .closingSock ∧ state ≠ .freed) :
    Aloof s (s.withState state) :=
  .of_same rfl rfl rfl rfl rfl (Or.inr h) rfl rfl rfl rfl rfl rfl

/-- Without the connect timer the timers of the engine run on. -/
theorem Timed.dropConnectTimer (h : s.Timed) :
    Timed { s with queue := s.connectTimerQueue, connectTimerId := 0 } := by
  unfold connectTimerQueue
  split
  · rename_i hzero
    refine ⟨fun n hn => ?_, h.proper.unscheduleTask, fun n hn => ?_, Nat.zero_le _, fun h0 => ?_⟩
    · have hne : n ≠ s.connectTimerId := by
        rintro rfl
        exact (h.other hzero).2 hn
      exact (EventQueue.unscheduleTask_other hne).trans (h.armed n hn)
    · rw [EventQueue.unscheduleTask_nextTaskId]
      exact h.held n hn
    · exact absurd h0 (Nat.lt_irrefl 0)
  · exact ⟨h.armed, h.proper, h.held, Nat.zero_le _, fun h0 => absurd h0 (Nat.lt_irrefl 0)⟩

/-- Telling the result of `Connect`. -/
theorem aloof_notifyConnectResult (pStub : Option ℕ) (result : BCRESULT) :
    Aloof s (s.notifyConnectResult pStub result) := by
  refine ⟨rfl, rfl, rfl, rfl, rfl, Or.inl rfl, ⟨_, rfl, ?_⟩, fun h => ?_, rfl, rfl⟩
  · cases s.reported pStub <;> simp [Entry.Apart]
  · unfold notifyConnectResult
    split
    · have hdropped := h.dropConnectTimer
      exact ⟨hdropped.armed, hdropped.proper, hdropped.held, hdropped.given, hdropped.other⟩
    · exact ⟨h.armed, h.proper, h.held, h.given, h.other⟩

/-- `Close`. -/
theorem aloof_close : Aloof s s.close := by
  unfold SMPConnection.close
  split
  · exact aloof_postTask .close
  · exact .refl s

/-- A connect stream that is accepted. -/
theorem aloof_acceptConnect : Aloof s s.acceptConnect :=
  (aloof_withState (by decide)).trans (aloof_notifyConnectResult none .success)

/-- A connect stream that is refused. -/
theorem aloof_refuseConnect : Aloof s s.refuseConnect :=
  ((aloof_withState (by decide)).trans (aloof_notifyConnectResult none .failure)).trans aloof_close

/-- A packet of the server. -/
theorem aloof_processPacket (p : Packet) : Aloof s (s.processPacket p) := by
  cases p with
  | other => exact .refl s
  | command c =>
    have hnote : Aloof s (s.note (.received c)) := aloof_note trivial
    simp only [processPacket]
    split
    · cases c.name with
      | result => exact hnote.trans aloof_acceptConnect
      | error => exact hnote.trans aloof_refuseConnect
      | other => exact hnote
    · exact hnote

/-- The packets of one read. -/
theorem aloof_foldl_processPacket (packets : List Packet) :
    Aloof s (packets.foldl processPacket s) := by
  induction packets generalizing s with
  | nil => exact .refl s
  | cons p packets ih => exact (aloof_processPacket p).trans ih

/-- The answer to CONNECT-UDP. -/
theorem aloof_masqueOnConnectUdpResponse (ok : Bool) :
    Aloof s (s.masqueOnConnectUdpResponse ok) := by
  unfold masqueOnConnectUdpResponse
  split
  · exact .refl s
  · refine ⟨rfl, rfl, rfl, rfl, rfl, Or.inl rfl, ⟨_, rfl, ?_⟩,
      fun h => ⟨h.armed, h.proper, h.held, h.given, h.other⟩, rfl, rfl⟩
    split <;> simp [Entry.Apart]

/-- The headers of a response. -/
theorem aloof_onH3RequestRecvHeaders (headers : Option Headers) :
    Aloof s (s.onH3RequestRecvHeaders headers) := by
  have hnote : Aloof s (s.note (.receivedHeaders headers)) := aloof_note trivial
  unfold onH3RequestRecvHeaders
  split
  · exact hnote.trans (aloof_masqueOnConnectUdpResponse _)
  split
  · split
    · exact hnote.trans aloof_acceptConnect
    · exact hnote.trans aloof_refuseConnect
  · exact hnote

/-- The end of the handshake. -/
theorem aloof_handshakeFinished (ok : Bool) :
    Aloof s (if s.config.isH3 then s.onH3HandshakeFinished ok else s.onHandshakeFinished ok) := by
  have hstate : Aloof s (s.withState .connecting) := aloof_withState (by decide)
  split
  · unfold onH3HandshakeFinished
    split
    · exact hstate.trans (aloof_masqueOnConnectUdpResponse false)
    · exact hstate
  · unfold onHandshakeFinished
    split
    · exact hstate.trans (aloof_note trivial)
    · exact hstate

/-- Whether there is an inner connection. -/
theorem aloof_setInner (tunnel : Bool) : Aloof s (s.setInner tunnel) :=
  .of_same rfl rfl rfl rfl rfl (Or.inl rfl) rfl rfl rfl rfl rfl rfl

/-- Whether WebTransport is negotiated. -/
theorem aloof_setWebtransport (webtransport : Bool) : Aloof s (s.setWebtransport webtransport) :=
  .of_same rfl rfl rfl rfl rfl (Or.inl rfl) rfl rfl rfl rfl rfl rfl

/-- A connection that is not asked to close works. -/
theorem Attended.working (h : s.Attended) (hmax : s.newState = .max) : s.Working := by
  refine ⟨hmax, ?_⟩
  have hclosing := h.closing
  rw [hmax] at hclosing
  cases hstate : s.state <;> simp_all [ConnState.val]

/-- What the engine was asked, once it is asked to close. -/
def Closable (s : SMPConnection) : Prop :=
  live s.trace = true → s.config.isH3 = false ∧
    (ConnState.init.val < s.state.val ∨ askedToClose s.trace = true)

/-- The engine is asked to close a live connection. -/
theorem Attended.beginClosing (h : s.Attended) (hfreed : s.newState = .freed)
    (hclosable : s.Closable) : s.beginClosing.Served := by
  unfold SMPConnection.beginClosing
  split
  · have hlive : live (s.trace ++ (s.conn.map fun _ => Entry.jqcConnClose).toList) =
        live s.trace := by
      cases s.conn with
      | none => simp
      | some c => exact live_concat s.trace .jqcConnClose
    refine ⟨⟨?_, h.requested, fun _ => hfreed, by simp, ?_, h.plain, fun hraw => ?_, ?_, ?_⟩, ?_⟩
    · refine h.record.append fun e he before hend => ?_
      cases hconn : s.conn <;> simp_all
    · dsimp only
      rw [hlive, Option.isSome_map]
      exact h.handle
    · have hdropped := (h.timed hraw).dropConnectTimer
      exact ⟨hdropped.armed, hdropped.proper, hdropped.held, hdropped.given, hdropped.other⟩
    · dsimp only
      rw [hlive]
      exact h.unset
    · dsimp only
      rw [hlive]
      exact h.inside
    · dsimp only
      rw [hlive]
      intro hup _
      obtain ⟨hraw, -⟩ := hclosable hup
      refine ⟨hraw, ?_⟩
      have hsome : s.conn.isSome = true := by
        rw [h.handle, hup, hraw]
        rfl
      obtain ⟨c, hc⟩ := Option.isSome_iff_exists.mp hsome
      rw [hc]
      exact askedToClose_concat s.trace .jqcConnClose
  · rename_i hlow
    refine ⟨h, fun hup _ => ?_⟩
    obtain ⟨hraw, hasked⟩ := hclosable hup
    exact ⟨hraw, hasked.resolve_left hlow⟩

/-- Once the engine's connection is gone, the socket is asked to close. -/
theorem Served.closeQuic (h : s.Served) (hfreed : s.newState = .freed) : s.closeQuic.Served := by
  unfold SMPConnection.closeQuic
  split
  · rename_i hgone
    have hdead : live s.trace = false := by
      by_contra hup
      rw [Bool.not_eq_false] at hup
      have hsome := h.handle
      rw [hup, (h.asked hup hfreed).1, hgone.2] at hsome
      cases hsome
    have hlive : live (s.trace ++ (s.udpSocket.map fun _ => Entry.udpClose).toList) = false := by
      cases s.udpSocket with
      | none => simpa using hdead
      | some c => exact (live_concat s.trace .udpClose).trans hdead
    refine ⟨⟨?_, h.requested, fun _ => hfreed, fun _ => hlive, ?_, h.plain, fun hraw => ?_,
      fun hraw _ => h.unset hraw hdead, fun hraw unchecked hin => ?_⟩, fun hup => ?_⟩
    · cases s.udpSocket with
      | none => simpa using h.record
      | some c => exact h.record.concat fun _ => hdead
    · dsimp only
      rw [hlive, h.handle, hdead]
    · obtain ⟨hengine, hissued⟩ := h.unset hraw hdead
      have htimed := h.timed hraw
      refine ⟨?_, htimed.proper.of_le rfl fun _ _ => rfl, htimed.held, htimed.given, htimed.other⟩
      dsimp only
      rw [hengine]
      simp
    · have hup := h.inside hraw unchecked hin
      rw [hdead] at hup
      cases hup
    · dsimp only at hup
      rw [hlive] at hup
      cases hup
  · exact h

/-- `Close` of the tunnel. -/
theorem aloof_closeTunnel : Aloof s s.closeTunnel := by
  unfold closeTunnel
  split
  · exact .refl s
  · exact ⟨rfl, rfl, rfl, rfl, rfl, Or.inl rfl, ⟨[.tunnelClose], rfl, by simp [Entry.Apart]⟩,
      fun h => ⟨h.armed, h.proper, h.held, h.given, h.other⟩, rfl, rfl⟩

/-- A connection that is to close and has no live connection is detached. -/
theorem Served.detach (h : s.Served) (hfreed : s.newState = .freed)
    (hdead : live s.trace = false) : s.detach.Served := by
  have hlive : live (s.trace ++ [.detach]) = false := (live_concat s.trace .detach).trans hdead
  refine ⟨⟨h.record.concat fun _ => hdead, h.requested, fun _ => hfreed, fun _ => hlive, ?_,
    h.plain, fun hraw => ?_, fun hraw _ => h.unset hraw hdead, fun hraw unchecked hin => ?_⟩,
    fun hup => ?_⟩
  · simp only [SMPConnection.detach]
    rw [hlive, h.handle, hdead]
  · obtain ⟨hengine, hissued⟩ := h.unset hraw hdead
    have htimed := h.timed hraw
    refine ⟨?_, htimed.proper.of_le rfl fun _ _ => rfl, htimed.held, htimed.given, htimed.other⟩
    simp only [SMPConnection.detach]
    rw [hengine]
    simp
  · have hup := h.inside hraw unchecked hin
    rw [hdead] at hup
    cases hup
  · simp only [SMPConnection.detach] at hup
    rw [hlive] at hup
    cases hup

/-- Closing the socket of a connection that is to be freed. -/
theorem Served.closeSock (h : s.Served) (hfreed : s.newState = .freed) : s.closeSock.Served := by
  unfold SMPConnection.closeSock
  split
  · rename_i hsock
    split
    · exact aloof_closeTunnel.served h
    · have haloof : Aloof s (s.notifyConnectResult none s.closeStatus) :=
        aloof_notifyConnectResult none s.closeStatus
      have hdead := h.gone (Or.inl hsock.1)
      exact (haloof.served h).detach hfreed (haloof.live_eq.trans hdead)
  · exact h

/-- The closing goes on. -/
theorem Attended.ladder (h : s.Attended) (hfreed : s.newState = .freed) (hclosable : s.Closable) :
    s.ladder.Served := by
  have hbegun := h.beginClosing hfreed hclosable
  have hbegun' : s.beginClosing.newState = .freed := by
    unfold SMPConnection.beginClosing
    split <;> exact hfreed
  have hquic := hbegun.closeQuic hbegun'
  have hquic' : s.beginClosing.closeQuic.newState = .freed := by
    unfold SMPConnection.closeQuic
    split <;> exact hbegun'
  exact hquic.closeSock hquic'

/-- `_CloseCheck` serves the engine. -/
theorem Served.closeCheck (h : s.Served) : s.closeCheck.1.Served := by
  rcases h.requested with hmax | hfreed
  · rw [closeCheck_of_working (h.working hmax)]
    exact h
  · rw [closeCheck_of_closing hfreed]
    refine h.ladder hfreed fun hup => ?_
    obtain ⟨hraw, hasked⟩ := h.asked hup hfreed
    exact ⟨hraw, Or.inr hasked⟩

/-- So does the check behind a callback. -/
theorem Served.checked (h : s.Served) : s.checked.Served := h.closeCheck

/-- A guarded body runs while no close is requested. -/
theorem Served.guarded (h : s.Served) {body : SMPConnection → SMPConnection}
    (hbody : s.newState = .max → (body s).Served) : (s.guarded body).Served := by
  rcases h.requested with hmax | hfreed
  · rw [guarded_of_working (h.working hmax)]
    exact hbody hmax
  · have hclosed := h.closeCheck
    rw [closeCheck_of_closing hfreed] at hclosed
    rw [guarded_of_closing hfreed]
    exact hclosed

/-- A close may be requested where the close check asks the engine. -/
def Closes (s : SMPConnection) : Prop :=
  s.newState ≠ .freed → live s.trace = true →
    s.config.isH3 = false ∧ ConnState.init.val < s.state.val

/-- A close is requested, and the closing begins. -/
theorem Served.ask (h : s.Served) (status : BCRESULT) (hcloses : s.Closes) :
    (s.setState .freed status).checked.Served := by
  rw [checked_of_closing setState_closing]
  have htimed (hraw : s.config.isH3 = false) : (s.setState .freed status).Timed :=
    have ht := h.timed hraw
    ⟨ht.armed, ht.proper, ht.held, ht.given, ht.other⟩
  have hattended : (s.setState .freed status).Attended :=
    { h.toAttended with requested := Or.inr rfl, closing := fun _ => rfl, timed := htimed }
  refine hattended.ladder rfl fun hup => ?_
  by_cases hfreed : s.newState = .freed
  · obtain ⟨hraw, hasked⟩ := h.asked hup hfreed
    exact ⟨hraw, Or.inr hasked⟩
  · obtain ⟨hraw, hlow⟩ := hcloses hfreed hup
    exact ⟨hraw, Or.inl hlow⟩

/-- `RequestClose` serves it, where it closes. -/
theorem Served.requestClose (h : s.Served) (status : BCRESULT) (hcloses : s.Closes) :
    (s.requestClose status).Served :=
  h.guarded fun _ => h.ask status hcloses

/-- The engine's timers are set while its connection is live. -/
theorem Served.onTimer (h : s.Served) (hlive : s.config.isH3 = false → live s.trace = true)
    (call : TimerCall) :
    (s.onTimer call).Served ∧ (s.onTimer call).trace = s.trace ∧
      (s.onTimer call).newState = s.newState ∧ (s.onTimer call).config = s.config := by
  have hsame : (s.onTimer call).trace = s.trace ∧ (s.onTimer call).newState = s.newState ∧
      (s.onTimer call).config = s.config ∧ (s.onTimer call).state = s.state ∧
      (s.onTimer call).conn = s.conn ∧ (s.onTimer call).h3Conn = s.h3Conn := by
    cases call with
    | set => exact ⟨rfl, rfl, rfl, rfl, rfl, rfl⟩
    | update timer =>
      simp only [SMPConnection.onTimer]
      split <;> exact ⟨rfl, rfl, rfl, rfl, rfl, rfl⟩
    | unset timer onlyCancel =>
      simp only [SMPConnection.onTimer]
      split <;> exact ⟨rfl, rfl, rfl, rfl, rfl, rfl⟩
    | nextTick => exact ⟨rfl, rfl, rfl, rfl, rfl, rfl⟩
  obtain ⟨htrace, hnew, hconfig, hstate, hconn, hh3⟩ := hsame
  refine ⟨⟨⟨?_, ?_, ?_, ?_, ?_, ?_, ?_, ?_, ?_⟩, ?_⟩, htrace, hnew, hconfig⟩
  · rw [htrace]
    exact h.record
  · rw [hnew]
    exact h.requested
  · rw [hstate, hnew]
    exact h.closing
  · rw [hstate, htrace]
    exact h.gone
  · rw [hconn, htrace, hconfig]
    exact h.handle
  · rw [hconfig, hh3]
    exact h.plain
  · rw [hconfig]
    exact fun hraw => (h.timed hraw).onTimer call
  · rw [htrace, hconfig]
    intro hraw hdead
    rw [hlive hraw] at hdead
    cases hdead
  · rw [htrace, hconfig]
    exact fun hraw _ _ => hlive hraw
  · rw [htrace, hnew, hconfig]
    exact h.asked

/-- The calls of the timer leave a living connection served, with the same aims. -/
theorem Served.foldl_onTimer (h : s.Served) (hlive : live s.trace = true) (calls : List TimerCall) :
    (calls.foldl SMPConnection.onTimer s).Served ∧
      (calls.foldl SMPConnection.onTimer s).newState = s.newState ∧
      (calls.foldl SMPConnection.onTimer s).config = s.config := by
  induction calls generalizing s with
  | nil => exact ⟨h, rfl, rfl⟩
  | cons call calls ih =>
    obtain ⟨hserved, htrace, hnew, hconfig⟩ := h.onTimer (fun _ => hlive) call
    obtain ⟨hall, hnew', hconfig'⟩ := ih hserved (by rw [htrace, hlive])
    exact ⟨hall, hnew'.trans hnew, hconfig'.trans hconfig⟩

/-- The engine announces a connection. -/
theorem Served.onConnCreate (h : s.Served) (hmax : s.newState = .max)
    (hdead : live s.trace = false) : s.onConnCreate.Served := by
  have hlive : live (s.trace ++ [.connCreated]) = true := live_concat s.trace .connCreated
  have hnot : s.newState ≠ .freed := by simp [hmax]
  refine ⟨⟨?_, h.requested, h.closing, fun hgone => ?_, ?_, fun hraw => ?_, fun hraw => ?_,
    fun _ hdown => ?_, fun _ _ _ => hlive⟩, fun _ hfreed => absurd hfreed hnot⟩
  · exact h.record.concat fun hend => by simp at hend
  · have hclosing := h.closing (Or.inr hgone)
    exact absurd hclosing hnot
  · simp only [SMPConnection.onConnCreate]
    rw [hlive]
    have hhandle := h.handle
    rw [hdead] at hhandle
    cases hh3 : s.config.isH3 with
    | true => simpa using hhandle
    | false => rfl
  · have hh3 := h.plain hraw
    have hraw' : s.config.isH3 = false := hraw
    simp [SMPConnection.onConnCreate, hh3, hraw']
  · have ht := h.timed hraw
    exact ⟨ht.armed, ht.proper, ht.held, ht.given, ht.other⟩
  · rw [show s.onConnCreate.trace = s.trace ++ [.connCreated] from rfl, hlive] at hdown
    cases hdown

/-- The arguments and the other components let `Connect_Internal` reach an engine that
connects. -/
def Dials (s : SMPConnection) (env : Env) : Prop :=
  ¬ (s.masqueRole = .none ∧ s.config.proxyMasque = true) ∧ s.config.knownCongCtl = true ∧
    ¬ (s.masqueRole = .inner ∧ s.innerMss env = 0) ∧ env.hostResult = .success ∧
    env.jqcConnect.isSome = true

/-- `Connect_Internal` announces a connection exactly when the engine is reached. -/
theorem Served.connectInternal (h : s.Served) (hmax : s.newState = .max)
    (hdead : live s.trace = false) (env : Env) :
    (s.connectInternal env).1.Served ∧ (s.connectInternal env).1.newState = .max ∧
      (s.connectInternal env).1.config = s.config ∧
      (live (s.connectInternal env).1.trace = true →
        (s.connectInternal env).2 = .success ∧ s.Dials env) := by
  have hstay {t : SMPConnection} (ht : Aloof s t) (result : BCRESULT) :
      (t, result).1.Served ∧ (t, result).1.newState = .max ∧ (t, result).1.config = s.config ∧
        (live (t, result).1.trace = true → (t, result).2 = .success ∧ s.Dials env) := by
    refine ⟨ht.served h, ht.newState.trans hmax, ht.config, fun hlive => ?_⟩
    rw [ht.live_eq, hdead] at hlive
    cases hlive
  have hinner (tunnel : Bool) : Aloof s (s.setInner tunnel) := aloof_setInner tunnel
  unfold SMPConnection.connectInternal
  split
  · unfold masqueStartTunnel
    split
    · exact hstay (hinner true) _
    · exact hstay ((hinner false).trans (aloof_notifyConnectResult none .failure)) _
  rename_i hproxy
  split
  · exact hstay (.refl s) _
  rename_i hknown
  have hset : Aloof s (s.setWebtransport (s.webtransport || s.config.isH3)) :=
    aloof_setWebtransport _
  unfold connectEngine
  split
  · exact hstay hset _
  rename_i hroom
  split
  · exact hstay hset _
  rename_i hhost
  cases hconnect : env.jqcConnect with
  | none => exact hstay hset _
  | some calls =>
    have hopen : (s.setWebtransport (s.webtransport || s.config.isH3)).Served := hset.served h
    have hcreated := hopen.onConnCreate hmax (hset.live_eq.trans hdead)
    obtain ⟨hserved, hnew, hconfig⟩ :=
      hcreated.foldl_onTimer (live_concat s.trace .connCreated) calls
    refine ⟨hserved, hnew.trans hmax, hconfig, fun _ => ⟨rfl, hproxy, ?_, hroom, ?_, ?_⟩⟩
    · simpa using hknown
    · simpa using hhost
    · rw [hconnect]
      rfl

/-- The connect timer is started. -/
theorem Served.startConnectTimer (h : s.Served) (n : ℕ) : (s.awaitConnect n).Served :=
  have haloof : Aloof s (s.awaitConnect n) :=
    ⟨rfl, rfl, rfl, rfl, rfl, Or.inr (by simp [awaitConnect]), ⟨[], by simp [awaitConnect]⟩,
      fun ht => ht.startConnectTimer n, rfl, rfl⟩
  haloof.served h

/-- A close that is requested in the handshake. -/
theorem Served.askInHandshake (h : s.Served) (status : BCRESULT)
    (hraw : live s.trace = true → s.config.isH3 = false) :
    ((s.setState .freed status).withState .handshake).checked.Served := by
  have haloof : Aloof s (s.withState .handshake) := aloof_withState (by decide)
  have hsame : (s.setState .freed status).withState .handshake =
      (s.withState .handshake).setState .freed status := rfl
  rw [hsame]
  refine (haloof.served h).ask status fun _ hlive => ⟨hraw ?_, Nat.lt_succ_self _⟩
  rw [← haloof.live_eq]
  exact hlive

/-- The `Connect` task. -/
theorem Served.connectTask (h : s.Served) {n : ℕ} {env : Env}
    (hfirst : s.runsConnectInternal env (.connect n) → live s.trace = false)
    (hfails : s.connectFails env → s.config.isH3 = true → ¬ s.Dials env) :
    (s.connectTask n env).Served := by
  refine h.guarded fun hmax => ?_
  split
  · exact ((aloof_notifyConnectResult (some n) .alreadyRunning).served h).checked
  rename_i hlow
  split
  · exact ((aloof_notifyConnectResult (some n) .noPhysicalInterface).served h).checked
  rename_i hphysical
  have hle := Nat.not_lt.mp hlow
  obtain ⟨hserved, hnew, hconfig, hdialed⟩ :=
    h.connectInternal hmax (hfirst ⟨by simp [hmax], hle, hphysical⟩) env
  -- a failing call closes what the engine may have announced
  have hfailed {result : BCRESULT} (hraw : live (s.connectInternal env).1.trace = true →
      s.config.isH3 = false) :
      ((((s.connectInternal env).1.notifyConnectResult (some n) result).setState .freed
        result).withState .handshake).checked.Served := by
    have haloof : Aloof (s.connectInternal env).1
        ((s.connectInternal env).1.notifyConnectResult (some n) result) :=
      aloof_notifyConnectResult (some n) result
    refine (haloof.served hserved).askInHandshake result fun hlive => ?_
    rw [haloof.live_eq] at hlive
    rw [haloof.config, hconfig]
    exact hraw hlive
  unfold startConnect
  split
  · rename_i hresult
    exact hfailed fun hlive => absurd (hdialed hlive).1 hresult
  · unfold SMPConnection.startConnectTimer
    split
    · rename_i hschedule
      refine hfailed fun hlive => ?_
      by_contra hh3
      rw [Bool.not_eq_false] at hh3
      exact hfails ⟨hle, hphysical, Or.inr hschedule⟩ hh3 (hdialed hlive).2
    · exact (hserved.startConnectTimer n).checked

/-- The task of `MasqueConnectToProxy`. -/
theorem Served.masqueConnectToProxyTask (h : s.Served) {env : Env}
    (hfirst : s.runsConnectInternal env .masqueConnectToProxy → live s.trace = false) :
    (s.masqueConnectToProxyTask env).Served := by
  refine h.guarded fun hmax => ?_
  split
  · exact h
  rename_i hlow
  have haloof : Aloof s (s.withState .handshake) := aloof_withState (by decide)
  have hdead : live (s.withState .handshake).trace = false :=
    hfirst ⟨by simp [hmax], Nat.not_lt.mp hlow⟩
  obtain ⟨hserved, -⟩ := (haloof.served h).connectInternal hmax hdead env
  split
  · exact ((aloof_masqueOnConnectUdpResponse false).served hserved).checked
  · exact hserved.checked

/-- The task of `MasqueOnTunnelReady`. -/
theorem Served.masqueOnTunnelReadyTask (h : s.Served) {env : Env} {result : BCRESULT}
    (hfirst : s.runsConnectInternal env (.masqueOnTunnelReady result) → live s.trace = false)
    (hcloses : s.taskTearsDown env (.masqueOnTunnelReady result) → s.Closes) :
    (s.masqueOnTunnelReadyTask result env).Served := by
  refine h.guarded fun hmax => ?_
  split
  · rename_i hresult
    have haloof : Aloof s (s.notifyConnectResult none .failure) :=
      aloof_notifyConnectResult none .failure
    refine (haloof.served h).ask .failure fun hopen hlive => ?_
    rw [haloof.live_eq] at hlive
    exact hcloses (Or.inl hresult) hopen hlive
  rename_i hresult
  have hdead := hfirst ⟨by simp [hmax], not_not.mp hresult⟩
  obtain ⟨hserved, hnew, hconfig, hdialed⟩ := h.connectInternal hmax hdead env
  split
  · rename_i hfailed
    have haloof : Aloof (s.connectInternal env).1
        ((s.connectInternal env).1.notifyConnectResult none (s.connectInternal env).2) :=
      aloof_notifyConnectResult none _
    refine (haloof.served hserved).ask _ fun _ hlive => ?_
    rw [haloof.live_eq] at hlive
    exact absurd (hdialed hlive).1 hfailed
  · exact hserved.checked

/-- Dropping the tunnel. -/
theorem aloof_dropTunnel : Aloof s s.dropTunnel :=
  .of_same rfl rfl rfl rfl rfl (Or.inl rfl) rfl rfl rfl rfl rfl rfl

/-- Dropping the socket. -/
theorem aloof_dropSocket : Aloof s s.dropSocket :=
  .of_same rfl rfl rfl rfl rfl (Or.inl rfl) rfl rfl rfl rfl rfl rfl

/-- The task of `MasqueOnTunnelClosed`. -/
theorem Served.masqueOnTunnelClosedTask (h : s.Served) (hcloses : s.Closes) :
    s.masqueOnTunnelClosedTask.Served := by
  have hdropped : s.dropTunnel.Served := aloof_dropTunnel.served h
  have hcloses' : s.dropTunnel.Closes := hcloses
  unfold SMPConnection.masqueOnTunnelClosedTask failWithoutTunnel
  split
  · have haloof : Aloof s.dropTunnel (s.dropTunnel.notifyConnectResult none .netDown) :=
      aloof_notifyConnectResult none .netDown
    refine (haloof.served hdropped).ask .netDown fun hopen hlive => ?_
    rw [haloof.live_eq] at hlive
    exact hcloses' hopen hlive
  split
  · exact hdropped.ask .netDown hcloses'
  · exact hdropped.checked

/-- The engine is entered with a connection of it. -/
theorem Served.enterEngine (h : s.Served) (hentered : s.conn.isSome = true ∨ s.h3Conn = true)
    (unchecked : Bool) : (s.enterEngine unchecked).Served := by
  have htimed (hraw : s.config.isH3 = false) : (s.enterEngine unchecked).Timed :=
    have ht := h.timed hraw
    ⟨ht.armed, ht.proper, ht.held, ht.given, ht.other⟩
  have hinside (hraw : s.config.isH3 = false) : live s.trace = true := by
    have hplain := h.plain hraw
    rcases hentered with hconn | hh3
    · rw [h.handle, hraw] at hconn
      simpa using hconn
    · rw [hplain] at hh3
      cases hh3
  exact { h with timed := htimed, inside := fun hraw _ _ => hinside hraw }

/-- A call that goes on into the engine has a connection of it. -/
theorem entered_of_entersEngine {call : EngineCall} (h : s.entersEngine call = true) :
    s.conn.isSome = true ∨ s.h3Conn = true := by
  unfold entersEngine at h
  cases call <;> simp_all

/-- A task that is taken out. -/
theorem Served.taken (h : s.Served) (rest : List Task) : (s.taken rest).Served :=
  have haloof : Aloof s (s.taken rest) :=
    .of_same rfl rfl rfl rfl rfl (Or.inl rfl) rfl rfl rfl rfl rfl rfl
  haloof.served h

/-- The event requests a close of a connection that is not closing, other than the engine's
own end of the connection. -/
def RequestsClose (s : SMPConnection) (e : Event) : Prop :=
  s.newState ≠ .freed ∧ s.TearsDown e ∧ e ≠ .callback .connClose

/-- The circumstances in which a live connection is served: the engine announces one
connection only, and a live connection has a `conn_` whenever its timers run out or a close
is requested, and is past the initial state then. -/
structure Safe (s : SMPConnection) (e : Event) : Prop where
  /-- The engine's connection is created once. -/
  once : s.ConnectsInternally e → .connCreated ∉ s.trace
  /-- A timer of a living engine goes off for a raw connection only. -/
  timers : ∀ n, e = .timerExpires n → s.phase = .idle → n ∈ s.engineTimers →
    live s.trace = true → s.config.isH3 = false
  /-- A close that comes to a living engine closes a raw connection that is past its start. -/
  closes : s.RequestsClose e → live s.trace = true →
    s.config.isH3 = false ∧ ConnState.init.val < s.state.val
  /-- A run that fails has not dialed over HTTP/3. -/
  fails : ∀ env, e = .runTask env → s.FailsConnect e → s.config.isH3 = true → ¬ s.Dials env

/-- What a step does to a live connection: a timer of the engine that runs out is passed on,
the socket and the queue stay, and the engine is asked first to close. -/
structure Serves (s : SMPConnection) (e : Event) : Prop where
  /-- A timer that goes off is handed to the engine. -/
  timers : ∀ n, e = .timerExpires n → s.phase = .idle → n ∈ s.engineTimers →
    live s.trace = true → (s.step e).trace = s.trace ++ [.timeoutCb n]
  /-- No end comes without need. -/
  stays : Traces.Justified endNeeded (s.step e).trace
  /-- A connection that has been freed has no engine any more. -/
  freed : (s.step e).state = .freed → live (s.step e).trace = false
  /-- A living engine whose connection is to be freed has been asked to close. -/
  asks : live (s.step e).trace = true → (s.step e).newState = .freed →
    askedToClose (s.step e).trace = true

/-- A task that has been taken. -/
theorem Served.perform (h : s.Served) {env : Env} {task : Task}
    (hfirst : s.runsConnectInternal env task → live s.trace = false)
    (hcloses : s.taskTearsDown env task → s.Closes)
    (hfails : ∀ n, task = .connect n → s.connectFails env → s.config.isH3 = true → ¬ s.Dials env) :
    (s.perform env task).Served := by
  cases task with
  | connect n => exact h.connectTask hfirst (hfails n rfl)
  | close => exact h.requestClose .success (hcloses trivial)
  | engineCall call =>
    simp only [SMPConnection.perform, engineCallTask]
    refine h.guarded fun _ => ?_
    split
    · rename_i hentered
      exact h.enterEngine (entered_of_entersEngine hentered) false
    · exact h.checked
  | nextTick =>
    simp only [SMPConnection.perform, nextTickTask]
    split
    · rename_i hconn
      exact h.enterEngine (Or.inl hconn) false
    · exact h
  | udpClosed =>
    have hdropped : s.dropSocket.Served := aloof_dropSocket.served h
    exact hdropped.requestClose .netDown (hcloses trivial)
  | masqueConnectToProxy => exact h.masqueConnectToProxyTask hfirst
  | masqueOnTunnelReady result => exact h.masqueOnTunnelReadyTask hfirst hcloses
  | masqueOnTunnelClosed => exact h.masqueOnTunnelClosedTask (hcloses trivial)

/-- The oldest task runs. -/
theorem Served.runTask (h : s.Served) {env : Env} (hidle : s.phase = .idle)
    (hsafe : s.Safe (.runTask env)) : (s.runTask env).Served := by
  unfold SMPConnection.runTask
  split
  · exact h
  · rename_i task rest hevents
    refine (h.taken rest).perform ?_ ?_ ?_
    · intro hruns
      have hnone := hsafe.once ⟨hidle, task, rest, hevents, hruns⟩
      by_contra hlive
      exact hnone (created_of_live (Bool.not_eq_false _ ▸ hlive))
    · intro htears hopen hlive
      exact hsafe.closes ⟨hopen, ⟨hidle, task, rest, hevents, htears⟩, by simp⟩ hlive
    · rintro n rfl hfails
      exact hsafe.fails env rfl ⟨hidle, n, rest, hevents, hfails⟩

/-- A timer has run out. -/
theorem Served.expired (h : s.Served) {timer : ℕ} {f : Timer} (harmed : s.queue.Armed timer f)
    {engineTimers : List ℕ} (hsub : ∀ n ∈ engineTimers, n ∈ s.engineTimers)
    (hne : s.config.isH3 = false → timer ∉ engineTimers) :
    Served { s with
      queue :=
        { s.queue with delayTasks := Function.update s.queue.delayTasks timer (some none) }
      engineTimers := engineTimers } := by
  have hunset (hraw : s.config.isH3 = false) (hdead : live s.trace = false) :
      engineTimers = [] ∧ s.issued = [] := by
    obtain ⟨hengine, hissued⟩ := h.unset hraw hdead
    refine ⟨List.eq_nil_iff_forall_not_mem.mpr fun n hn => ?_, hissued⟩
    have hmem := hsub n hn
    rw [hengine] at hmem
    cases hmem
  have htimed (hraw : s.config.isH3 = false) := (h.timed hraw).expire harmed fun n hn =>
    ⟨hsub n hn, fun heq => hne hraw (heq ▸ hn)⟩
  exact { h with timed := htimed, unset := hunset }

/-- A timer that goes off safely. -/
theorem Served.expire (h : s.Served) {timer : ℕ} (hidle : s.phase = .idle)
    (hsafe : s.Safe (.timerExpires timer)) : (s.expire timer).Served := by
  unfold SMPConnection.expire
  split
  · exact h
  · rename_i queue hexpire
    obtain ⟨harmed, rfl⟩ := EventQueue.expire_eq_some hexpire
    -- the connect timer is none of the engine's
    have hnot (hraw : s.config.isH3 = false) : timer ∉ s.engineTimers := by
      intro hmem
      have hengine : s.queue.delayTasks timer = some (some .engine) :=
        (h.timed hraw).armed timer hmem
      rw [EventQueue.Armed, hengine] at harmed
      simp at harmed
    have hexpired := h.expired harmed (fun _ => id) hnot
    have haloof := aloof_notifyConnectResult (s := { s with
      queue :=
        { s.queue with delayTasks := Function.update s.queue.delayTasks timer (some none) } })
      none .timedOut
    refine (haloof.served hexpired).ask .timedOut fun hopen hlive => ?_
    rw [haloof.live_eq] at hlive
    exact hsafe.closes ⟨hopen, ⟨hidle, harmed⟩, by simp⟩ hlive
  · rename_i queue hexpire
    obtain ⟨harmed, rfl⟩ := EventQueue.expire_eq_some hexpire
    have hsub : ∀ n ∈ s.engineTimers.filter (· ≠ timer), n ∈ s.engineTimers :=
      fun n hn => (List.mem_filter.mp hn).1
    have hexpired := h.expired harmed hsub fun _ => by simp
    unfold onEngineTimeout
    split
    · rename_i hconn
      have hnoted := (aloof_note (e := .timeoutCb timer) trivial).served hexpired
      exact hnoted.enterEngine (Or.inl hconn) false
    · exact hexpired

/-- The phase changes to one outside the engine. -/
theorem Served.outside (h : s.Served) {phase : Phase}
    (hphase : ∀ unchecked, phase ≠ .inEngine unchecked) : Served { s with phase := phase } := by
  have htimed (hraw : s.config.isH3 = false) : Timed { s with phase := phase } :=
    have ht := h.timed hraw
    ⟨ht.armed, ht.proper, ht.held, ht.given, ht.other⟩
  exact { h with timed := htimed, inside := fun _ unchecked hin => absurd hin (hphase unchecked) }

/-- Where control is does not matter to the closing. -/
theorem onClose_phase (phase : Phase) :
    SMPConnection.onClose { s with phase := phase } = { s.onClose with phase := phase } := by
  have hbegin (s : SMPConnection) : SMPConnection.beginClosing { s with phase := phase } =
      { s.beginClosing with phase := phase } := by
    unfold SMPConnection.beginClosing
    split <;> rfl
  have hquic (s : SMPConnection) : SMPConnection.closeQuic { s with phase := phase } =
      { s.closeQuic with phase := phase } := by
    unfold SMPConnection.closeQuic
    split <;> rfl
  have hsock (s : SMPConnection) : SMPConnection.closeSock { s with phase := phase } =
      { s.closeSock with phase := phase } := by
    unfold SMPConnection.closeSock closeTunnel
    split_ifs <;> rfl
  have hcheck (s : SMPConnection) : SMPConnection.closeCheck { s with phase := phase } =
      ({ s.closeCheck.1 with phase := phase }, s.closeCheck.2) := by
    unfold SMPConnection.closeCheck
    split
    · rfl
    · exact Prod.ext (by rw [ladder, hbegin, hquic, hsock]; rfl) rfl
  have hsame : SMPConnection.dropConn { s with phase := phase } =
      { s.dropConn with phase := phase } := rfl
  unfold SMPConnection.onClose SMPConnection.requestClose guarded
  rw [hsame, hcheck]
  split
  · rfl
  · exact congrArg Prod.fst (hcheck (s.dropConn.closeCheck.1.setState .freed .netDown))

/-- The engine drops its connection, and the call into the engine goes on. -/
theorem Served.onClose (h : s.Served) (unchecked : Bool) :
    Served { s.onClose with phase := .leaving unchecked } := by
  have hout : Served { s with phase := .leaving unchecked } := h.outside (by simp)
  have hdead : live (s.trace ++ [.connClosed]) = false := live_concat s.trace .connClosed
  rw [← onClose_phase]
  have hdropped : (SMPConnection.dropConn { s with phase := .leaving unchecked }).Served := by
    refine ⟨⟨?_, hout.requested, hout.closing, fun _ => hdead, ?_, fun hraw => ?_, fun hraw => ?_,
      fun _ _ => ⟨rfl, rfl⟩, fun _ _ hin => by cases hin⟩, fun hlive => ?_⟩
    · exact h.record.concat fun hend => by simp at hend
    · simp only [dropConn]
      rw [hdead]
      have hhandle := h.handle
      cases hh3 : s.config.isH3 with
      | true => simpa [hh3] using hhandle
      | false => rfl
    · have hh3 := h.plain hraw
      have hraw' : s.config.isH3 = false := hraw
      simp [dropConn, hh3, hraw']
    · have ht := h.timed hraw
      have hraw' : s.config.isH3 = false := hraw
      refine ⟨by simp [dropConn], ?_, by simp [dropConn], ?_, by simp [dropConn]⟩
      · simp only [dropConn, hraw', Bool.false_eq_true, if_false]
        exact ht.proper.of_le rfl fun _ _ => rfl
      · simp only [dropConn, hraw', Bool.false_eq_true, if_false]
        exact ht.given
    · rw [show (SMPConnection.dropConn { s with phase := .leaving unchecked }).trace =
        s.trace ++ [.connClosed] from rfl, hdead] at hlive
      cases hlive
  refine hdropped.requestClose .netDown fun _ hlive => ?_
  rw [show (SMPConnection.dropConn { s with phase := .leaving unchecked }).trace =
    s.trace ++ [.connClosed] from rfl, hdead] at hlive
  cases hlive

/-- The thread leaves the engine. -/
theorem Served.leave (h : s.Served) (ok : Bool) : (s.leave ok).Served := by
  have hidle : Served { s with phase := .idle } := h.outside (by simp)
  unfold SMPConnection.leave
  split
  · exact h
  all_goals
    split
    · exact hidle
    · exact hidle.checked

/-- A callback of the engine. -/
theorem Served.onCallback (h : s.Served) {unchecked : Bool} (hphase : s.phase = .inEngine unchecked)
    (callback : Callback) : (s.onCallback unchecked callback).Served := by
  cases callback with
  | handshakeFinished ok => exact (aloof_handshakeFinished ok).served h
  | streamRead packets =>
    simp only [SMPConnection.onCallback, onStreamRead]
    exact h.guarded fun _ => (aloof_foldl_processPacket packets).served h
  | h3Read headers =>
    simp only [SMPConnection.onCallback]
    split
    · exact h.guarded fun _ => (aloof_onH3RequestRecvHeaders headers).served h
    · exact h
  | certVerifyFailed =>
    have haloof : Aloof s { s with certVerifyError := true } :=
      .of_same rfl rfl rfl rfl rfl (Or.inl rfl) rfl rfl rfl rfl rfl rfl
    exact haloof.served h
  | connClosing =>
    simp only [SMPConnection.onCallback, onConnClosingNotify]
    split
    · exact (aloof_notifyConnectResult none .failure).served h
    · exact h
  | connClose => exact h.onClose unchecked
  | timer call => exact (h.onTimer (fun hraw => h.inside hraw unchecked hphase) call).1

/-- Every safe step leaves the connection served. -/
theorem Served.step (h : s.Served) {e : Event} (hsafe : s.Safe e) : (s.step e).Served := by
  unfold SMPConnection.step
  cases e with
  | connect =>
    simp only [SMPConnection.connect]
    split
    · have haloof : Aloof s { s.postTask (.connect s.nextStub) with nextStub := s.nextStub + 1 } :=
        .of_same rfl rfl rfl rfl rfl (Or.inl rfl) rfl rfl rfl rfl rfl rfl
      exact haloof.served h
    · exact h
  | close => exact aloof_close.served h
  | engineCall call =>
    dsimp only
    split
    · exact (aloof_postTask _).served h
    · exact h
  | udpClosed => exact (aloof_postTask _).served h
  | masqueConnectToProxy =>
    dsimp only
    split
    · exact (aloof_postTask _).served h
    · exact h
  | tunnelReady result => exact (aloof_postTask _).served h
  | tunnelClosed => exact (aloof_postTask _).served h
  | runTask env =>
    dsimp only
    split
    · rename_i hidle
      exact h.runTask hidle hsafe
    · exact h
  | timerExpires timer =>
    dsimp only
    split
    · rename_i hidle
      exact h.expire hidle hsafe
    · exact h
  | recvData =>
    dsimp only
    split
    · refine h.guarded fun _ => ?_
      split
      · rename_i hentered
        exact h.enterEngine (by simpa using hentered) true
      · exact h
    · exact h
  | callback callback =>
    dsimp only
    split
    · rename_i unchecked hphase
      exact h.onCallback hphase callback
    · exact h
  | leave ok => exact h.leave ok

/-- A timer of the engine that runs out is passed on. -/
theorem Served.passesOn (h : s.Served) {n : ℕ} (hraw : s.config.isH3 = false)
    (hidle : s.phase = .idle) (hmem : n ∈ s.engineTimers) (hlive : live s.trace = true) :
    (s.step (.timerExpires n)).trace = s.trace ++ [.timeoutCb n] := by
  have hsome : s.conn.isSome = true := by
    rw [h.handle, hlive, hraw]
    rfl
  have hexpire := EventQueue.expire_of_armed ((h.timed hraw).armed n hmem)
  simp only [SMPConnection.step, if_pos hidle, SMPConnection.expire, hexpire, onEngineTimeout,
    hsome, if_true]
  rfl

/-- A safe step serves. -/
theorem Served.serves (h : s.Served) {e : Event} (hsafe : s.Safe e) : s.Serves e := by
  have hnext := h.step hsafe
  refine ⟨?_, hnext.record, fun hfreed => hnext.gone (Or.inr hfreed), fun hlive hasked =>
    (hnext.asked hlive hasked).2⟩
  rintro n rfl hidle hmem hlive
  exact h.passesOn (hsafe.timers n rfl hidle hmem hlive) hidle hmem hlive

/-- In a run whose steps are all safe, every step serves the live connection. -/
theorem run_serves (config : Config) (tunnel : Bool) {events : List Event}
    (hmeets : Meets step Safe (create config tunnel) events) :
    Meets step Serves (create config tunnel) events :=
  hmeets.of_invariant (fun _ _ h hsafe => ⟨h.serves hsafe, h.step hsafe⟩)
    (served_create config tunnel)

/-- What only posts a task or returns from the engine is safe. -/
theorem safe_of_posting {e : Event} (hrun : ∀ env, e ≠ .runTask env)
    (hexpire : ∀ n, e ≠ .timerExpires n) (hcallback : ∀ callback, e ≠ .callback callback) :
    s.Safe e := by
  constructor
  · intro hconnects
    cases e with
    | runTask env => exact absurd rfl (hrun env)
    | _ => exact hconnects.elim
  · exact fun n heq => absurd heq (hexpire n)
  · rintro ⟨-, htears, -⟩
    cases e with
    | runTask env => exact absurd rfl (hrun env)
    | timerExpires n => exact absurd rfl (hexpire n)
    | callback callback => exact absurd rfl (hcallback callback)
    | _ => exact htears.elim
  · exact fun env heq => absurd heq (hrun env)

/-- A raw connection whose timer runs out before it is closed. -/
def timedRun : List Event :=
  [.connect, .runTask timedEnv, .timerExpires 1, .leave true, .close, .runTask timedEnv]

/-- The timer is passed on, and the engine is asked to close. -/
theorem serves_raw :
    (run step (create rawConfig false) timedRun).trace =
        [.connCreated, .timeoutCb 1, .jqcConnClose] ∧
      Meets step Serves (create rawConfig false) timedRun := by
  refine ⟨by decide, run_serves rawConfig false ?_⟩
  refine ⟨safe_of_posting (by simp) (by simp) (by simp), ?_, ?_,
    safe_of_posting (by simp) (by simp) (by simp), safe_of_posting (by simp) (by simp) (by simp),
    ?_, trivial⟩
  -- the `Connect` task, the timer and the `Close` task
  · exact ⟨fun _ => List.not_mem_nil, fun _ _ _ _ _ => rfl, (fun _ hlive => by cases hlive),
      fun _ _ _ hh3 => by cases hh3⟩
  · exact ⟨fun hconnects => hconnects.elim, fun _ _ _ _ _ => rfl,
      fun _ _ => ⟨rfl, Nat.le_refl 4⟩, fun _ heq => by cases heq⟩
  · refine ⟨?_, fun _ _ _ _ _ => rfl, fun _ _ => ⟨rfl, Nat.le_refl 4⟩,
      fun _ _ _ hh3 => by cases hh3⟩
    rintro ⟨-, task, rest, hevents, hruns⟩
    cases hevents
    exact hruns.elim

/-- Over HTTP/3 a timer of the engine is not passed on, and a close asks the socket first. -/
theorem not_serves_h3 :
    ¬ Meets step Serves (create h3Config false) [.connect, .runTask timedEnv, .timerExpires 1] ∧
      ¬ Meets step Serves (create h3Config false)
        [.connect, .runTask timedEnv, .close, .runTask timedEnv] := by
  constructor
  · rintro ⟨-, -, hserves, -⟩
    have htrace := hserves.timers 1 rfl (by decide) (by decide) (by decide)
    exact absurd htrace (by decide)
  · rintro ⟨-, -, -, hserves, -⟩
    have hdead := hserves.stays [.connCreated] .udpClose [] (by decide) (Or.inl rfl)
    cases hdead

end SMPConnection

end Conn
