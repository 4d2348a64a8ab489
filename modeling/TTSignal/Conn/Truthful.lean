import TTSignal.Conn.Results
import TTSignal.Traces

/-!
# Truthful success

A `Connect` call that is reported to have succeeded has been accepted by the peer, by a
command or by response headers, and a tunnel that is declared ready has got a 2xx answer.
The answer is the last thing that happened before the report.

Two steps can go wrong. The `Close` task keeps its own result for the pending connect, and
response headers are taken for an acceptance without a look at their status.
-/

namespace Conn

open Runs

namespace SMPConnection

/-- Response headers with a 2xx status. -/
def is2xx (headers : Option Headers) : Bool :=
  match headers.bind status with
  | some ['2', a, b] => a.isDigit && b.isDigit
  | _ => false

end SMPConnection

/-- The peer answers a request with a 2xx status. -/
def Entry.Confirms : Entry → Prop
  | .receivedHeaders headers => SMPConnection.is2xx headers
  | _ => False

/-- The peer accepts the connection. -/
def Entry.Accepts : Entry → Prop
  | .received c => c.transId = some 1 ∧ c.name = .result
  | .receivedHeaders headers => SMPConnection.is2xx headers
  | _ => False

/-- A success follows directly on the answer that it reports. -/
def answerNeeded (before : List Entry) : Entry → Prop
  | .execDone _ .success => ∃ e, before.getLast? = some e ∧ e.Accepts
  | .tunnelReady .success => ∃ e, before.getLast? = some e ∧ e.Confirms
  | _ => True

/-- An entry that reports no success. -/
def Entry.Modest (e : Entry) : Prop := ∀ before, answerNeeded before e

namespace SMPConnection

variable {a : Allowed} {s t u : SMPConnection}

/-- Every success that was reported follows on an answer of the peer. -/
def Truthful (s : SMPConnection) : Prop := Traces.Justified answerNeeded s.trace

/-- The engine hands over these response headers, and the connection is not closing. -/
def Reads (s : SMPConnection) (e : Event) (headers : Option Headers) : Prop :=
  e = .callback (.h3Read headers) ∧ (∃ unchecked, s.phase = .inEngine unchecked) ∧
    s.config.isH3 = true ∧ s.newState ≠ .freed

/-- The response headers would be reported as a success. -/
def TakesForAcceptance (s : SMPConnection) (headers : Option Headers) : Prop :=
  if s.masqueRole = .tunnel then
    s.masqueInner = true ∧ s.masqueTunnelReady = false ∧ beginsWithTwo headers = true
  else s.connectRpc.isSome = true ∧ headers.isSome = true

/-- The event neither closes a connection whose connect is pending, nor brings headers of
another status where an acceptance is expected. -/
def AnswersTruly (s : SMPConnection) (e : Event) : Prop :=
  (s.Runs e .close → s.newState ≠ .freed → s.connectRpc = none) ∧
    ∀ headers, s.Reads e headers → s.TakesForAcceptance headers → is2xx headers = true

/-- What is kept: a closing connection with a pending connect has a failure to report. -/
structure Told (s : SMPConnection) : Prop where
  /-- What has been told is true. -/
  truthful : s.Truthful
  /-- Nothing but the whole life or the end is asked for. -/
  asked : s.newState = .max ∨ s.newState = .freed
  /-- A good end comes after the result of the connect. -/
  fails : s.newState = .freed → s.closeStatus = .success → s.connectRpc = none

/-- Before the life nothing has been told. -/
theorem told_create (config : Config) (tunnel : Bool) : (create config tunnel).Told where
  truthful := Traces.justified_nil
  asked := Or.inl rfl
  fails := fun h => by simp [create] at h

/-- What adds modest entries, and neither asks for a close nor makes a connect pending. -/
theorem Told.of_same (h : s.Told) {new : List Entry} (htrace : t.trace = s.trace ++ new)
    (hmodest : ∀ e ∈ new, e.Modest) (hnew : t.newState = s.newState)
    (hstatus : t.closeStatus = s.closeStatus)
    (hrpc : t.connectRpc = s.connectRpc ∨ t.connectRpc = none) : t.Told where
  truthful := by
    rw [Truthful, htrace]
    exact Traces.Justified.append h.truthful hmodest
  asked := by
    rw [hnew]
    exact h.asked
  fails := by
    intro hfreed hsuccess
    rw [hnew] at hfreed
    rw [hstatus] at hsuccess
    rcases hrpc with hsame | hnone
    · rw [hsame]
      exact h.fails hfreed hsuccess
    · exact hnone

/-- What adds nothing to the record. -/
theorem Told.of_silent (h : s.Told) (htrace : t.trace = s.trace) (hnew : t.newState = s.newState)
    (hstatus : t.closeStatus = s.closeStatus) (hrpc : t.connectRpc = s.connectRpc) : t.Told :=
  have hnothing : t.trace = s.trace ++ [] := by rw [htrace, List.append_nil]
  h.of_same hnothing (by simp) hnew hstatus (Or.inl hrpc)

/-- What adds one modest entry. -/
theorem Told.of_entry (h : s.Told) {e : Entry} (he : e.Modest) (htrace : t.trace = s.trace ++ [e])
    (hnew : t.newState = s.newState) (hstatus : t.closeStatus = s.closeStatus)
    (hrpc : t.connectRpc = s.connectRpc) : t.Told :=
  h.of_same htrace (by simpa using he) hnew hstatus (Or.inl hrpc)

/-- A report that completes no connect leaves the pending one. -/
theorem connectRpc_notifyConnectResult (pStub : Option ℕ) (result : BCRESULT) :
    (s.notifyConnectResult pStub result).connectRpc = s.connectRpc ∨
      (s.notifyConnectResult pStub result).connectRpc = none := by
  unfold notifyConnectResult
  dsimp only
  split
  · exact Or.inr rfl
  · exact Or.inl rfl

/-- A result that is no success is modest. -/
theorem modest_execDone {n : ℕ} {result : BCRESULT} (h : result ≠ .success) :
    (Entry.execDone n result).Modest := by
  intro before
  cases result <;> first | exact absurd rfl h | trivial

/-- A failure is reported. -/
theorem Told.report (h : s.Told) (pStub : Option ℕ) {result : BCRESULT} (hr : result ≠ .success) :
    (s.notifyConnectResult pStub result).Told := by
  refine h.of_same rfl ?_ rfl rfl (connectRpc_notifyConnectResult pStub result)
  intro e he
  obtain ⟨n, -, rfl⟩ : ∃ n, s.reported pStub = some n ∧ Entry.execDone n result = e := by
    simpa using he
  exact modest_execDone hr

/-- The pending connect is reported to be accepted, right after the answer. -/
theorem Told.accept (h : s.Told) {e : Entry} (haccepts : e.Accepts) (he : e.Modest) :
    (s.note e).acceptConnect.Told := by
  have hnoted : (s.note e).Told := h.of_entry he rfl rfl rfl rfl
  refine ⟨?_, hnoted.asked, ?_⟩
  · have hlast : (s.trace ++ [e]).getLast? = some e := by simp
    have hwhole : (s.note e).acceptConnect.trace =
        (s.note e).trace ++ (s.connectRpc.map fun n => Entry.execDone n .success).toList := rfl
    rw [Truthful, hwhole]
    cases s.connectRpc with
    | none => simpa [Truthful] using hnoted.truthful
    | some n => exact Traces.Justified.concat hnoted.truthful ⟨e, hlast, haccepts⟩
  · intro hfreed hsuccess
    have hnone := hnoted.fails hfreed hsuccess
    rcases connectRpc_notifyConnectResult (s := (s.note e).withState .connected) none .success with
      hsame | hnone'
    · exact hsame.trans hnone
    · exact hnone'

/-- The tunnel answers, right after the headers were read. -/
theorem Told.answerTunnel (h : s.Told) {headers : Option Headers}
    (htrue : s.masqueInner = true → s.masqueTunnelReady = false → beginsWithTwo headers = true →
      is2xx headers = true) :
    ((s.note (.receivedHeaders headers)).masqueOnConnectUdpResponse
      (beginsWithTwo headers)).Told := by
  have hnoted : (s.note (.receivedHeaders headers)).Told :=
    h.of_entry (e := .receivedHeaders headers) (fun _ => trivial) rfl rfl rfl rfl
  unfold masqueOnConnectUdpResponse
  split
  · exact hnoted
  rename_i hready
  refine ⟨?_, hnoted.asked, hnoted.fails⟩
  cases hinner : s.masqueInner with
  | false => simpa [Truthful, note, hinner] using hnoted.truthful
  | true =>
    simp only [Truthful, note, hinner, if_true]
    refine Traces.Justified.concat hnoted.truthful ?_
    cases hok : beginsWithTwo headers with
    | false => exact trivial
    | true =>
      have hunready : s.masqueTunnelReady = false := by simpa [note, hok] using hready
      exact ⟨.receivedHeaders headers, by simp, htrue hinner hunready hok⟩

/-- A plain entry is modest. -/
theorem modest_of_plain {e : Entry} (h : e.Plain) : e.Modest := by
  intro before
  cases e <;> trivial

/-- A call of the timer tells nothing untrue. -/
theorem Told.onTimer (h : s.Told) (call : TimerCall) : (s.onTimer call).Told := by
  cases call with
  | set => exact h.of_silent rfl rfl rfl rfl
  | update timer =>
    simp only [SMPConnection.onTimer]
    split
    · exact h.of_silent rfl rfl rfl rfl
    · exact h
  | unset timer onlyCancel =>
    simp only [SMPConnection.onTimer]
    split
    · exact h.of_silent rfl rfl rfl rfl
    · exact h
  | nextTick => exact h.of_silent rfl rfl rfl rfl

/-- The closing goes on. The socket and the engine are asked to close, and nothing else is
recorded. -/
theorem Told.beginClosing (h : s.Told) : s.beginClosing.Told := by
  unfold SMPConnection.beginClosing
  split
  · refine h.of_same rfl ?_ rfl rfl (Or.inl rfl)
    cases s.conn <;> simp [Entry.Modest, answerNeeded]
  · exact h

/-- Closing the engine's connection tells nothing untrue. -/
theorem Told.closeQuic (h : s.Told) : s.closeQuic.Told := by
  unfold SMPConnection.closeQuic
  split
  · refine h.of_same rfl ?_ rfl rfl (Or.inl rfl)
    cases s.udpSocket <;> simp [Entry.Modest, answerNeeded]
  · exact h

/-- The pending connect is told the result of the closing, which is a failure if there is
one. -/
theorem Told.conclude (h : s.Told) (hclosing : s.newState ≠ .max) :
    (s.notifyConnectResult none s.closeStatus).detach.Told := by
  have hfreed : s.newState = .freed := h.asked.resolve_left hclosing
  have hreported : (s.notifyConnectResult none s.closeStatus).Told := by
    by_cases hsuccess : s.closeStatus = .success
    · have hnone := h.fails hfreed hsuccess
      have hreported : s.reported none = none := hnone
      refine h.of_silent ?_ rfl rfl ?_
      · simp [notifyConnectResult, hreported]
      · simp [notifyConnectResult, completes, hreported]
    · exact h.report none hsuccess
  exact hreported.of_entry (e := .detach) (fun _ => trivial) rfl rfl rfl rfl

/-- Updates without a success, and without a connect that becomes pending. -/
theorem Told.update (h : s.Told) (hrequest : ∀ status, a.request status → status ≠ .success)
    (hstub : ∀ n, ¬ a.stub n) (hheaders : ∀ headers, ¬ a.headers headers) (hu : Update a s t) :
    t.Told := by
  cases hu with
  | aside => exact h.of_silent rfl rfl rfl rfl
  | setInner => exact h.of_silent rfl rfl rfl rfl
  | dropTunnel => exact h.of_silent rfl rfl rfl rfl
  | closeTunnel =>
    unfold closeTunnel
    split
    · exact h
    · exact h.of_entry (e := .tunnelClose) (fun _ => trivial) rfl rfl rfl rfl
  | note e he => exact h.of_entry (modest_of_plain he) rfl rfl rfl rfl
  | postTask => exact h.of_silent rfl rfl rfl rfl
  | take => exact h.of_silent rfl rfl rfl rfl
  | withState => exact h.of_silent rfl rfl rfl rfl
  | request status hs =>
    exact ⟨h.truthful, Or.inr rfl, fun _ hsuccess => absurd hsuccess (hrequest status hs)⟩
  | report result hr => exact h.report none hr
  | reject n result hn => exact absurd hn (hstub n)
  | await n hn => exact absurd hn (hstub n)
  | acceptCommand c hid hname => exact h.accept ⟨hid, hname⟩ fun _ => trivial
  | acceptHeaders headers hread => exact absurd hread (hheaders _)
  | refuse =>
    have hinit : (s.withState .init).Told := h.of_silent rfl rfl rfl rfl
    exact hinit.report none (by decide)
  | tunnelAnswer headers hread => exact absurd hread (hheaders _)
  | tunnelFailed =>
    unfold masqueOnConnectUdpResponse
    split
    · exact h
    · refine h.of_same rfl ?_ rfl rfl (Or.inl rfl)
      cases s.masqueInner <;> simp [Entry.Modest, answerNeeded]
  | onConnCreate => exact h.of_entry (e := .connCreated) (fun _ => trivial) rfl rfl rfl rfl
  | onTimer call => exact h.onTimer call
  | expire => exact h.of_silent rfl rfl rfl rfl
  | onEngineTimeout timer queue hexpire =>
    unfold onEngineTimeout
    split
    · exact h.of_entry (e := .timeoutCb timer) (fun _ => trivial) rfl rfl rfl rfl
    · exact h.of_silent rfl rfl rfl rfl
  | dropSocket => exact h.of_silent rfl rfl rfl rfl
  | dropConn => exact h.of_entry (e := .connClosed) (fun _ => trivial) rfl rfl rfl rfl
  | beginClosing => exact h.beginClosing
  | closeQuic => exact h.closeQuic
  | conclude hclosing => exact h.conclude hclosing

/-- Small changes with bad results only tell nothing untrue. -/
theorem Told.updates (h : s.Told) (hrequest : ∀ status, a.request status → status ≠ .success)
    (hstub : ∀ n, ¬ a.stub n) (hheaders : ∀ headers, ¬ a.headers headers) (hu : Updates a s t) :
    t.Told :=
  hu.keeps (fun _ _ hstep h => h.update hrequest hstub hheaders hstep) h

/-- Everything but a close for success, a connect that becomes pending and response headers. -/
def quietly : Allowed := ⟨(· ≠ .success), fun _ => False, True, fun _ => False, True⟩

/-- Quiet ones tell nothing at all. -/
theorem Told.quietly (h : s.Told) (hu : Updates quietly s t) : t.Told :=
  h.updates (fun _ => id) (fun _ => id) (fun _ => id) hu

/-- The `Close` task, when no connect is pending. -/
theorem Told.requestClose (h : s.Told) (hpending : s.newState ≠ .freed → s.connectRpc = none) :
    (s.requestClose .success).Told := by
  unfold SMPConnection.requestClose guarded
  split
  · exact h.quietly updates_closeCheck
  · rename_i hopen
    obtain ⟨hsame, hnew⟩ := open_of_closeCheck (Bool.eq_false_iff.mpr hopen)
    rw [hsame]
    have hasked : (s.setState .freed .success).Told :=
      ⟨h.truthful, Or.inr rfl, fun _ _ => hpending hnew⟩
    exact hasked.quietly updates_checked

/-- Without a request the connection is asked to close afterwards only if it was before. -/
theorem newState_of_unrequested (hrequest : ∀ status, ¬ a.request status) (hu : Updates a s t) :
    t.newState = s.newState := by
  rcases newState_updates hu with hsame | ⟨_, hasked⟩
  · exact hsame
  · exact absurd hasked (hrequest _)

/-- The `Connect` task makes a connect pending only while no close is requested. -/
theorem Told.connectTask (h : s.Told) (n : ℕ) (env : Env) : (s.connectTask n env).Told := by
  cases hopen : s.closeCheck.2 with
  | true =>
    have htask : s.connectTask n env = s.closeCheck.1 := if_pos hopen
    rw [htask]
    exact h.quietly updates_closeCheck
  | false =>
    obtain ⟨-, hnew⟩ := open_of_closeCheck hopen
    obtain ⟨t, u, hfirst, hanswer, hlast⟩ := @answers_connectTask
      SMPConnection.quietly s n env hopen (fun _ => trivial) fun _ _ => id
    have hstart : t.Told :=
      h.updates (fun _ => False.elim) (fun _ => id) (fun _ => id) (hfirst fun _ => False)
    have hsame := newState_of_unrequested (fun _ => id) (hfirst fun _ => False)
    have hmax : t.newState = .max := by
      rw [hsame]
      exact h.asked.resolve_right hnew
    have hanswered : u.Told := by
      cases hanswer with
      | rejected result hr => exact hstart.report (some n) hr
      | awaited =>
        refine ⟨hstart.truthful, Or.inl hmax, fun hfreed => ?_⟩
        have hboth : t.newState = .freed := hfreed
        rw [hmax] at hboth
        cases hboth
    exact hanswered.quietly hlast

/-- Response headers are read, and what would be taken for an acceptance is one. -/
theorem Told.onH3RequestRecvHeaders (h : s.Told) {headers : Option Headers}
    (htrue : s.TakesForAcceptance headers → is2xx headers = true) :
    (s.onH3RequestRecvHeaders headers).Told := by
  have hnoted : (s.note (.receivedHeaders headers)).Told :=
    h.of_entry (e := .receivedHeaders headers) (fun _ => trivial) rfl rfl rfl rfl
  unfold TakesForAcceptance at htrue
  unfold SMPConnection.onH3RequestRecvHeaders
  split
  · rename_i htunnel
    rw [if_pos htunnel] at htrue
    exact h.answerTunnel fun hinner hunready hok => htrue ⟨hinner, hunready, hok⟩
  rename_i htunnel
  rw [if_neg htunnel] at htrue
  split
  · rename_i hpending
    split
    · rename_i hheaders
      exact h.accept (e := .receivedHeaders headers) (htrue ⟨hpending, hheaders⟩) fun _ => trivial
    · exact hnoted.quietly (updates_refuseConnect hpending)
  · exact hnoted

/-- Every step that answers truly keeps the reports truthful. -/
theorem Told.step (h : s.Told) {e : Event} (hcond : s.AnswersTruly e) : (s.step e).Told := by
  obtain ⟨hclose, hread⟩ := hcond
  by_cases hconnect : e = .connect
  · subst hconnect
    simp only [SMPConnection.step, SMPConnection.connect]
    split
    · exact h.of_silent rfl rfl rfl rfl
    · exact h
  by_cases hclosed : e = .tunnelClosed
  · subst hclosed
    exact h.of_silent rfl rfl rfl rfl
  by_cases hruns : s.Runs e .close
  · have hpending := hclose hruns
    obtain ⟨hidle, ⟨env, rfl⟩, hhead⟩ := hruns
    obtain ⟨rest, hevents⟩ := List.head?_eq_some_iff.mp hhead
    have hstep : s.step (.runTask env) = (s.taken rest).requestClose .success := by
      simp [SMPConnection.step, hidle, runTask, hevents, perform]
    have htaken : (s.taken rest).Told := h.of_silent rfl rfl rfl rfl
    rw [hstep]
    exact htaken.requestClose hpending
  by_cases hstub : ∃ n, s.Runs e (.connect n)
  · obtain ⟨n, hidle, ⟨env, rfl⟩, hhead⟩ := hstub
    obtain ⟨rest, hevents⟩ := List.head?_eq_some_iff.mp hhead
    have hstep : s.step (.runTask env) = (s.taken rest).connectTask n env := by
      simp [SMPConnection.step, hidle, runTask, hevents, perform]
    have htaken : (s.taken rest).Told := h.of_silent rfl rfl rfl rfl
    rw [hstep]
    exact htaken.connectTask n env
  by_cases hheaders : ∃ headers, e = .callback (.h3Read headers)
  · obtain ⟨headers, rfl⟩ := hheaders
    simp only [SMPConnection.step]
    split
    · rename_i unchecked hphase
      simp only [onCallback, onH3Read]
      split
      · rename_i hh3
        unfold guarded
        split
        · exact h.quietly updates_closeCheck
        · rename_i hopen
          obtain ⟨hsame, hnew⟩ := open_of_closeCheck (Bool.eq_false_iff.mpr hopen)
          rw [hsame]
          exact h.onH3RequestRecvHeaders (hread headers ⟨rfl, ⟨unchecked, hphase⟩, hh3, hnew⟩)
      · exact h
    · exact h
  · refine h.updates ?_ ?_ ?_ (updates_step hconnect hclosed)
    · rintro status ⟨-, hsuccess⟩ rfl
      exact hruns (hsuccess rfl)
    · exact fun n hn => hstub ⟨n, hn⟩
    · exact fun headers hh => hheaders ⟨headers, hh⟩

/-- In a run in which no connection is closed while its connect is pending, and only 2xx
headers are brought where an acceptance is expected, every success that is reported is the
answer of the peer. -/
theorem run_truthful (config : Config) (tunnel : Bool) {events : List Event}
    (hmeets : Meets step AnswersTruly (create config tunnel) events) :
    (run step (create config tunnel) events).Truthful :=
  have htold : (run step (create config tunnel) events).Told :=
    invariant_of_meets (fun _ _ h hcond => h.step hcond) (told_create config tunnel) hmeets
  htold.truthful

/-- A connection over HTTP/3. -/
def h3Config : Config := ⟨'b', ['h', '3'], false, false, 0⟩

/-- The request of a connect is answered with this status. -/
def answeredWith (code : List Char) : List Event :=
  [.connect, .runTask timedEnv, .recvData, .callback (.h3Read (some [(statusName, code)])),
    .leave true]

/-- An answer of 200 is reported as a success. -/
theorem truthful_accepted :
    .execDone 0 .success ∈ (run step (create h3Config false) (answeredWith ['2', '0', '0'])).trace ∧
      (run step (create h3Config false) (answeredWith ['2', '0', '0'])).Truthful := by
  refine ⟨by decide, run_truthful h3Config false ?_⟩
  refine ⟨⟨by simp [Runs], by simp [Reads]⟩, ⟨fun _ _ => rfl, by simp [Reads]⟩,
    ⟨by simp [Runs], by simp [Reads]⟩, ⟨by simp [Runs], ?_⟩, ⟨by simp [Runs], by simp [Reads]⟩,
    trivial⟩
  rintro headers ⟨hread, -⟩ -
  cases hread
  rfl

/-- The connect is pending when the connection is closed. -/
def closedPending : List Event := [.connect, .runTask timedEnv, .close, .runTask timedEnv]

/-- An answer of 404 is reported as a success, and so is a connect that was pending when the
connection was closed. -/
theorem not_truthful :
    ¬ (run step (create h3Config false) (answeredWith ['4', '0', '4'])).Truthful ∧
      ¬ (run step (create rawConfig false) (closedPending ++ endOfConnection)).Truthful := by
  constructor
  · intro h
    obtain ⟨e, hlast, haccepts⟩ := h
      [.connCreated, .receivedHeaders (some [(statusName, ['4', '0', '4'])])]
      (.execDone 0 .success) [] (by decide)
    cases hlast
    cases haccepts
  · intro h
    obtain ⟨e, hlast, haccepts⟩ := h
      [.connCreated, .jqcConnClose, .timeoutCb 1, .connClosed, .udpClose]
      (.execDone 0 .success) [.detach] (by decide)
    cases hlast
    cases haccepts

end SMPConnection

end Conn
