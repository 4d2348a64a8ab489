import TTSignal.Conn.Tunnel
import TTSignal.Runs
import Mathlib.Data.List.Count

/-!
# The result of a connect

Every accepted `Connect` call brings a stub. Its task waits in the queue, then the stub is
pending or gets its result, and a pending stub gets its result later. The account of a stub
counts all three, so it stays one from the call on, unless the task is dropped because the
connection is closing by the time it runs.
-/

namespace Conn

open Runs

/-- The result of a stub. -/
def Entry.isExecDone (n : ℕ) : Entry → Bool
  | .execDone m _ => m = n
  | _ => false

namespace SMPConnection

/-- How many tasks wait for the stub. -/
def waiting (s : SMPConnection) (n : ℕ) : ℕ := s.queue.events.count (.connect n)

/-- Whether the stub is pending. -/
def pending (s : SMPConnection) (n : ℕ) : ℕ := if s.connectRpc = some n then 1 else 0

/-- How often `OnExecDone` has been invoked for the stub. -/
def reports (s : SMPConnection) (n : ℕ) : ℕ := s.trace.countP (Entry.isExecDone n)

/-- The account of the stub. -/
def account (s : SMPConnection) (n : ℕ) : ℕ := s.waiting n + s.pending n + s.reports n

/-- No connect is pending in the initial and the freed state. -/
def Rested (s : SMPConnection) : Prop := s.state = .init ∨ s.state = .freed → s.connectRpc = none

/-- The accounts are kept, and no task of `Connect` comes or goes. -/
structure Settles (s t : SMPConnection) : Prop where
  /-- The account of every stub. -/
  account : ∀ n, t.account n = s.account n
  /-- What waits for it. -/
  waiting : ∀ n, t.waiting n = s.waiting n
  /-- The next stub. -/
  nextStub : t.nextStub = s.nextStub
  /-- A connection at rest stays so. -/
  rested : s.Rested → t.Rested

variable {a : Allowed} {s t u : SMPConnection}

/-- A connection settles with itself. -/
theorem Settles.refl (s : SMPConnection) : Settles s s :=
  ⟨fun _ => rfl, fun _ => rfl, rfl, id⟩

/-- Two parts that settle do so together. -/
theorem Settles.trans (h : Settles s t) (h' : Settles t u) : Settles s u :=
  ⟨fun n => (h'.account n).trans (h.account n), fun n => (h'.waiting n).trans (h.waiting n),
    h'.nextStub.trans h.nextStub, fun hs => h'.rested (h.rested hs)⟩

/-- What touches neither tasks of `Connect` nor the pending stub, and reports nothing. -/
theorem Settles.of_same (hevents : ∀ n, t.queue.events.count (.connect n) = s.waiting n)
    (hrpc : t.connectRpc = s.connectRpc) (hnext : t.nextStub = s.nextStub)
    (hstate : t.state = s.state ∨ t.state ≠ .init ∧ t.state ≠ .freed)
    (htrace : ∀ n, t.reports n = s.reports n) : Settles s t := by
  refine ⟨fun n => ?_, hevents, hnext, ?_⟩
  · simp only [SMPConnection.account, pending, hrpc, htrace]
    rw [show t.waiting n = s.waiting n from hevents n]
  · intro hrest hlow
    rw [hrpc]
    rcases hstate with heq | ⟨hinit, hfreed⟩
    · rw [heq] at hlow
      exact hrest hlow
    · exact absurd hlow (by simp [hinit, hfreed])

/-- A new entry reports nothing. -/
theorem reports_append {e : Entry} (he : ∀ n, e.isExecDone n = false) (n : ℕ)
    (htrace : t.trace = s.trace ++ [e]) : t.reports n = s.reports n := by
  simp [reports, htrace, List.countP_append, he]

/-- A report is counted for its stub. -/
theorem reports_notifyConnectResult (pStub : Option ℕ) (result : BCRESULT) (n : ℕ) :
    (s.notifyConnectResult pStub result).reports n =
      s.reports n + if s.reported pStub = some n then 1 else 0 := by
  simp only [reports, notifyConnectResult, List.countP_append]
  cases s.reported pStub with
  | none => simp
  | some m => simp [Entry.isExecDone]

/-- Telling a result takes nothing off what waits. -/
theorem waiting_notifyConnectResult (pStub : Option ℕ) (result : BCRESULT) (n : ℕ) :
    (s.notifyConnectResult pStub result).waiting n = s.waiting n := by
  unfold SMPConnection.waiting notifyConnectResult
  dsimp only
  split
  · rw [connectTimerQueue_events]
  · rfl

/-- The report of the pending stub. -/
theorem settles_report (result : BCRESULT) : Settles s (s.notifyConnectResult none result) := by
  have hnone : (s.notifyConnectResult none result).connectRpc = none := by
    cases hrpc : s.connectRpc <;> simp [notifyConnectResult, completes, reported, hrpc]
  refine ⟨fun n => ?_, waiting_notifyConnectResult none result, rfl, fun _ _ => hnone⟩
  have hpending : (s.notifyConnectResult none result).pending n = 0 := by
    rw [pending, hnone]
    rfl
  have hreported : s.reported none = s.connectRpc := rfl
  rw [SMPConnection.account, waiting_notifyConnectResult, hpending, reports_notifyConnectResult,
    hreported, SMPConnection.account, pending]
  omega

/-- A call of the timer settles. -/
theorem settles_onTimer (call : TimerCall) : Settles s (s.onTimer call) := by
  have hschedule (timer : ℕ) (f : Timer) (n : ℕ) :
      (s.queue.scheduleTask timer f).1.events.count (.connect n) = s.waiting n := by
    rw [BC.EventQueue.scheduleTask_events, SMPConnection.waiting]
  have hstay : Settles s s := .refl s
  cases call with
  | set => exact .of_same (hschedule 0 .engine) rfl rfl (Or.inl rfl) fun _ => rfl
  | update timer =>
    simp only [onTimer]
    split
    · exact .of_same (hschedule timer .engine) rfl rfl (Or.inl rfl) fun _ => rfl
    · exact hstay
  | unset timer onlyCancel =>
    simp only [onTimer]
    split
    · refine .of_same (fun n => ?_) rfl rfl (Or.inl rfl) fun _ => rfl
      exact congrArg (List.count _) BC.EventQueue.unscheduleTask_events
    · exact hstay
  | nextTick =>
    exact .of_same (fun n => by simp [onTimer, postTask, SMPConnection.waiting, List.count_append])
      rfl rfl (Or.inl rfl) fun _ => rfl

/-- So does the answer to CONNECT-UDP. -/
theorem settles_masqueOnConnectUdpResponse (ok : Bool) :
    Settles s (s.masqueOnConnectUdpResponse ok) := by
  unfold masqueOnConnectUdpResponse
  split
  · exact .refl s
  · refine .of_same (fun _ => rfl) rfl rfl (Or.inl rfl) fun n => ?_
    simp only [reports, List.countP_append]
    split <;> simp [Entry.isExecDone]

/-- Every update but the answer to a `Connect` task settles. -/
theorem settles_update (hstub : ∀ n, ¬ a.stub n) (h : Update a s t) : Settles s t := by
  have hsame (n : ℕ) : s.waiting n = s.waiting n := rfl
  cases h with
  | aside => exact .of_same hsame rfl rfl (Or.inl rfl) fun _ => rfl
  | setInner made hrole hopen => exact .of_same hsame rfl rfl (Or.inl rfl) fun _ => rfl
  | dropTunnel h => exact .of_same hsame rfl rfl (Or.inl rfl) fun _ => rfl
  | closeTunnel =>
    unfold closeTunnel
    split
    · exact .refl s
    · exact .of_same hsame rfl rfl (Or.inl rfl) fun n => reports_append (fun _ => rfl) n rfl
  | note e h =>
    refine .of_same hsame rfl rfl (Or.inl rfl) fun n => reports_append (fun m => ?_) n rfl
    cases e <;> first | rfl | exact h.elim
  | postTask task h =>
    refine .of_same (fun n => ?_) rfl rfl (Or.inl rfl) fun _ => rfl
    have hne : task ≠ .connect n := by
      rintro rfl
      exact h
    simp [postTask, SMPConnection.waiting, List.count_append, hne]
  | take task rest h hconnect hend =>
    refine .of_same (fun n => ?_) rfl rfl (Or.inl rfl) fun _ => rfl
    have hne : task ≠ .connect n := fun heq => hstub n (hconnect n heq)
    simp [taken, SMPConnection.waiting, h, hne]
  | withState state h =>
    refine .of_same hsame rfl rfl (Or.inr ?_) fun _ => rfl
    rcases h with rfl | rfl
    · exact ⟨by simp [withState], by simp [withState]⟩
    · exact ⟨by simp [withState], by simp [withState]⟩
  | request status h => exact .of_same hsame rfl rfl (Or.inl rfl) fun _ => rfl
  | report result h => exact settles_report result
  | reject n result hn h => exact absurd hn (hstub n)
  | await n hn hopen hstate => exact absurd hn (hstub n)
  | acceptCommand c hid hname =>
    have hnoted : Settles s ((s.note (.received c)).withState .connected) :=
      .of_same hsame rfl rfl (Or.inr (by simp [withState]))
        fun n => reports_append (fun _ => rfl) n rfl
    exact hnoted.trans (settles_report .success)
  | acceptHeaders headers h =>
    have hnoted : Settles s ((s.note (.receivedHeaders (some headers))).withState .connected) :=
      .of_same hsame rfl rfl (Or.inr (by simp [withState]))
        fun n => reports_append (fun _ => rfl) n rfl
    exact hnoted.trans (settles_report .success)
  | refuse =>
    have hreport := settles_report (s := s.withState .init) .failure
    refine ⟨hreport.account, hreport.waiting, hreport.nextStub, fun _ _ => ?_⟩
    cases hrpc : s.connectRpc <;> simp [notifyConnectResult, completes, reported, withState, hrpc]
  | tunnelAnswer headers h =>
    have hnoted : Settles s (s.note (.receivedHeaders headers)) :=
      .of_same hsame rfl rfl (Or.inl rfl) fun n => reports_append (fun _ => rfl) n rfl
    exact hnoted.trans (settles_masqueOnConnectUdpResponse _)
  | tunnelFailed => exact settles_masqueOnConnectUdpResponse false
  | onConnCreate h =>
    exact .of_same hsame rfl rfl (Or.inl rfl) fun n => reports_append (fun _ => rfl) n rfl
  | onTimer call => exact settles_onTimer call
  | expire timer queue h =>
    obtain ⟨-, rfl⟩ := BC.EventQueue.expire_eq_some h
    exact .of_same hsame rfl rfl (Or.inl rfl) fun _ => rfl
  | onEngineTimeout timer queue h =>
    obtain ⟨-, rfl⟩ := BC.EventQueue.expire_eq_some h
    unfold onEngineTimeout
    split
    · exact .of_same hsame rfl rfl (Or.inl rfl) fun n => reports_append (fun _ => rfl) n rfl
    · exact .of_same hsame rfl rfl (Or.inl rfl) fun _ => rfl
  | dropSocket => exact .of_same hsame rfl rfl (Or.inl rfl) fun _ => rfl
  | dropConn =>
    refine .of_same (fun n => ?_) rfl rfl (Or.inl rfl)
      fun n => reports_append (fun _ => rfl) n rfl
    unfold dropConn
    dsimp only
    split <;> rfl
  | beginClosing h =>
    unfold SMPConnection.beginClosing
    split
    · refine .of_same (fun n => ?_) rfl rfl (Or.inr (by simp)) fun n => ?_
      · change s.connectTimerQueue.events.count _ = _
        rw [connectTimerQueue_events, SMPConnection.waiting]
      · cases s.conn <;> simp [reports, Entry.isExecDone]
    · exact .refl s
  | closeQuic h =>
    unfold SMPConnection.closeQuic
    split
    · refine .of_same hsame rfl rfl (Or.inr (by simp)) fun n => ?_
      cases s.udpSocket <;> simp [reports, Entry.isExecDone]
    · exact .refl s
  | conclude h hstate hsocket htunnel =>
    have hreport := settles_report (s := s) s.closeStatus
    have hdetach := reports_append (s := s.notifyConnectResult none s.closeStatus)
      (t := (s.notifyConnectResult none s.closeStatus).detach) (e := .detach) (fun _ => rfl)
    refine ⟨fun n => ?_, hreport.waiting, rfl, fun _ _ => ?_⟩
    · rw [← hreport.account n]
      exact congrArg (_ + ·) (hdetach n rfl)
    · cases hrpc : s.connectRpc <;>
        simp [notifyConnectResult, completes, reported, detach, hrpc]

/-- So do small changes that announce no stub. -/
theorem settles_updates (hstub : ∀ n, ¬ a.stub n) (h : Updates a s t) : Settles s t :=
  h.relates Settles.refl (fun _ _ _ => Settles.trans) fun _ _ => settles_update hstub

/-- A close is requested by an event that allows it only. -/
theorem newState_updates (h : Updates a s t) :
    t.newState = s.newState ∨ ∃ status, a.request status := by
  refine h.relates (R := fun s t => t.newState = s.newState ∨ ∃ status, a.request status)
    (fun _ => Or.inl rfl) ?_ ?_
  · rintro s t u (hst | hst) (htu | htu)
    · exact Or.inl (htu.trans hst)
    · exact Or.inr htu
    · exact Or.inr hst
    · exact Or.inr hst
  · intro s t h
    cases h with
    | request status h => exact Or.inr ⟨status, h⟩
    | closeTunnel => unfold closeTunnel; split <;> exact Or.inl rfl
    | tunnelAnswer => unfold masqueOnConnectUdpResponse; split <;> exact Or.inl rfl
    | tunnelFailed => unfold masqueOnConnectUdpResponse; split <;> exact Or.inl rfl
    | onEngineTimeout => unfold onEngineTimeout; split <;> exact Or.inl rfl
    | onTimer call =>
      unfold onTimer
      split
      · exact Or.inl rfl
      · split <;> exact Or.inl rfl
      · split <;> exact Or.inl rfl
      · exact Or.inl rfl
    | beginClosing => unfold SMPConnection.beginClosing; split <;> exact Or.inl rfl
    | closeQuic => unfold SMPConnection.closeQuic; split <;> exact Or.inl rfl
    | _ => exact Or.inl rfl

/-- A connection that is not asked to close is not below the initial state. -/
def Above (s : SMPConnection) : Prop := s.newState = .max → ConnState.init.val ≤ s.state.val

/-- Stubs stay below the next one. -/
theorem above_updates (h : Updates a s t) (hs : s.Above) : t.Above := by
  refine h.keeps (P := Above) (fun s t h hs => ?_) hs
  cases h with
  | withState state h =>
    intro _
    rcases h with rfl | rfl
    · exact Nat.le_of_ble_eq_true rfl
    · exact Nat.le_of_ble_eq_true rfl
  | request status h => intro hmax; cases hmax
  | await n hstub hopen hstate => exact fun _ => Nat.le_of_ble_eq_true rfl
  | acceptCommand c hid hname => exact fun _ => Nat.le_of_ble_eq_true rfl
  | acceptHeaders headers h => exact fun _ => Nat.le_of_ble_eq_true rfl
  | refuse hpending => exact fun _ => Nat.le_refl _
  | closeTunnel => unfold closeTunnel; split <;> exact hs
  | tunnelAnswer => unfold masqueOnConnectUdpResponse; split <;> exact hs
  | tunnelFailed => unfold masqueOnConnectUdpResponse; split <;> exact hs
  | onEngineTimeout => unfold onEngineTimeout; split <;> exact hs
  | onTimer call =>
    unfold onTimer
    split
    · exact hs
    · split <;> exact hs
    · split <;> exact hs
    · exact hs
  | beginClosing h =>
    unfold SMPConnection.beginClosing
    split
    · exact fun hmax => absurd hmax h
    · exact hs
  | closeQuic h =>
    unfold SMPConnection.closeQuic
    split
    · exact fun hmax => absurd hmax h
    · exact hs
  | conclude h hstate hsocket htunnel => exact fun hmax => absurd hmax h
  | _ => exact hs

/-- The answer to a `Connect` task is counted for its stub. -/
theorem Answer.account {n : ℕ} (h : Answer n s t) (hrested : s.Rested)
    (hstate : ConnState.init.val ≤ s.state.val) (hrpc : s.connectRpc ≠ some n) :
    (∀ m, t.account m = s.account m + if m = n then 1 else 0) ∧ (∀ m, t.waiting m = s.waiting m) ∧
      t.nextStub = s.nextStub ∧ t.Rested := by
  cases h with
  | rejected result h =>
    have hsame : (s.notifyConnectResult (some n) result).connectRpc = s.connectRpc := by
      simp [notifyConnectResult, completes, reported, Ne.symm hrpc]
    refine ⟨fun m => ?_, waiting_notifyConnectResult _ _, rfl, fun hlow => ?_⟩
    · have hpending : (s.notifyConnectResult (some n) result).pending m = s.pending m := by
        rw [pending, hsame, pending]
      have hreported : s.reported (some n) = some n := rfl
      rw [SMPConnection.account, waiting_notifyConnectResult, hpending,
        reports_notifyConnectResult, hreported, SMPConnection.account]
      simp only [Option.some.injEq, eq_comm (a := n)]
      omega
    · rw [hsame]
      exact hrested hlow
  | awaited hopen h =>
    have hinit : s.state = .init := by
      cases hcase : s.state <;> simp_all [ConnState.val]
    have hnone := hrested (Or.inl hinit)
    have hwaiting (m : ℕ) : (s.awaitConnect n).waiting m = s.waiting m :=
      congrArg (List.count _) BC.EventQueue.scheduleTask_events
    refine ⟨fun m => ?_, hwaiting, rfl, fun hlow => ?_⟩
    · have hreports : (s.awaitConnect n).reports m = s.reports m := rfl
      rw [SMPConnection.account, hwaiting, hreports, SMPConnection.account]
      simp only [pending, awaitConnect, hnone, Option.some.injEq, eq_comm (a := n)]
      simp
      omega
    · simp [awaitConnect] at hlow

/-- Every stub of an accepted call has its account. -/
structure Accounted (s : SMPConnection) : Prop where
  /-- The stub that the connection holds is tied to it. -/
  tied : s.Tied
  /-- The stubs are below the next one. -/
  above : s.Above
  /-- A connection that has been freed holds none. -/
  rested : s.Rested
  /-- Every stub that was given out has one result or waits for it. -/
  account : ∀ n, s.account n = if n < s.nextStub then 1 else 0
  /-- No task of `Connect` is left to a closing connection. -/
  closing : s.newState = .freed → ∀ n, s.waiting n = 0

/-- The tasks that wait behind the event. -/
def tasksBehind (s : SMPConnection) : Event → List Task
  | .runTask _ => s.queue.events.tail
  | _ => s.queue.events

/-- No `Connect` call is accepted while a close is requested, and none waits for its task when
a close is requested. -/
def KeepsStubs (s : SMPConnection) (e : Event) : Prop :=
  (e = .connect → s.keepWorking = true → s.newState ≠ .freed) ∧
    (s.TearsDown e ∨ s.FailsConnect e → ∀ n, .connect n ∉ s.tasksBehind e)

/-- Before the first connect no stub is given out. -/
theorem accounted_create (config : Config) (tunnel : Bool) : (create config tunnel).Accounted where
  tied := tied_create config tunnel
  above := fun _ => Nat.le_refl _
  rested := fun _ => rfl
  account := fun n => by
    simp [SMPConnection.account, SMPConnection.waiting, pending, reports, create,
      BC.EventQueue.empty]
  closing := by simp [create]

/-- A step that settles. -/
theorem Accounted.settled (h : s.Accounted) (hsettles : Settles s t) (htied : t.Tied)
    (habove : t.Above)
    (hclosing : t.newState = s.newState ∨ ∀ n, s.waiting n = 0) : t.Accounted := by
  refine ⟨htied, habove, hsettles.rested h.rested, fun n => ?_, fun hfreed n => ?_⟩
  · rw [hsettles.account, hsettles.nextStub]
    exact h.account n
  · rw [hsettles.waiting]
    rcases hclosing with hsame | hnone
    · exact h.closing (hsame.symm.trans hfreed) n
    · exact hnone n

/-- A call is accepted. -/
theorem Accounted.connect (h : s.Accounted)
    (hopen : s.keepWorking = true → s.newState ≠ .freed) : s.connect.Accounted := by
  cases hworking : s.keepWorking with
  | false =>
    have hsame : s.connect = s := if_neg (by simp [hworking])
    rw [hsame]
    exact h
  | true =>
    have hcalled :
        s.connect = { s.postTask (.connect s.nextStub) with nextStub := s.nextStub + 1 } :=
      if_pos hworking
    have hwaiting (n : ℕ) : s.connect.waiting n =
        s.waiting n + if n = s.nextStub then 1 else 0 := by
      rw [hcalled]
      simp only [SMPConnection.waiting, postTask, BC.EventQueue.postTask_events, List.count_append,
        List.count_singleton, beq_iff_eq, Task.connect.injEq, eq_comm (b := n)]
    have hpending (n : ℕ) : s.connect.pending n = s.pending n := by rw [hcalled]; rfl
    have hreports (n : ℕ) : s.connect.reports n = s.reports n := by rw [hcalled]; rfl
    have hnext : s.connect.nextStub = s.nextStub + 1 := by rw [hcalled]
    have hnew : s.connect.newState = s.newState := by rw [hcalled]; rfl
    refine ⟨?_, ?_, ?_, fun n => ?_, fun hfreed => absurd (hnew ▸ hfreed) (hopen hworking)⟩
    · rw [hcalled]
      exact ⟨h.tied.role, h.tied.asked, h.tied.freed, h.tied.detached⟩
    · rw [hcalled]
      exact h.above
    · rw [hcalled]
      exact h.rested
    · have haccount := h.account n
      rw [SMPConnection.account] at haccount ⊢
      rw [hwaiting, hpending, hreports, hnext]
      split_ifs at haccount ⊢ <;> omega

/-- The task of a `Connect` call runs, and nothing else has requested a close. -/
theorem Accounted.runConnect (h : s.Accounted) {env : Env} {n : ℕ} {rest : List Task}
    (hidle : s.phase = .idle) (hevents : s.queue.events = .connect n :: rest)
    (hcond : s.KeepsStubs (.runTask env)) : (s.step (.runTask env)).Accounted := by
  have hstep : s.step (.runTask env) = (s.taken rest).connectTask n env := by
    simp only [step, hidle, if_true, runTask, hevents]
    rfl
  have htied := h.tied.step (.runTask env)
  rw [hstep] at htied ⊢
  -- the task that runs was counted as waiting
  have hwaiting (m : ℕ) : s.waiting m = (s.taken rest).waiting m + if m = n then 1 else 0 := by
    simp only [SMPConnection.waiting, hevents, taken, List.count_cons, beq_iff_eq,
      Task.connect.injEq, eq_comm (a := n)]
  have haccount (m : ℕ) : s.account m = (s.taken rest).account m + if m = n then 1 else 0 := by
    have hsame : (s.taken rest).pending m = s.pending m ∧
      (s.taken rest).reports m = s.reports m := ⟨rfl, rfl⟩
    rw [SMPConnection.account, SMPConnection.account, hwaiting, hsame.1, hsame.2]
    omega
  have hopen : s.newState ≠ .freed := by
    intro hfreed
    have hnone := h.closing hfreed n
    rw [hwaiting, if_pos rfl] at hnone
    omega
  have hmax : s.newState = .max := h.tied.asked.resolve_right hopen
  have habove := h.above hmax
  have hcheck : (s.taken rest).closeCheck.2 = false := by
    have hworking : (s.taken rest).Working := ⟨hmax, habove⟩
    rw [closeCheck_of_working hworking]
  obtain ⟨t, u, hfirst, hanswer, hlast⟩ := @answers_connectTask
    ⟨fun _ => (s.taken rest).connectFails env, fun _ => False, True, fun _ => False, False⟩
    (s.taken rest) n env hcheck (fun _ => trivial) (fun hfails _ _ => hfails)
  have hstart := settles_updates (fun _ => id) (hfirst fun _ => False)
  have hend := settles_updates (fun _ => id) hlast
  have hnew : t.newState = s.newState := by
    rcases newState_updates (hfirst fun _ => False) with hsame | ⟨_, hfalse⟩
    · exact hsame
    · exact hfalse.elim
  have hstate : ConnState.init.val ≤ t.state.val :=
    above_updates (hfirst fun _ => False) h.above (hnew.trans hmax)
  have hrpc : t.connectRpc ≠ some n := by
    intro hpending
    have hone := h.account n
    have hkept := hstart.account n
    rw [haccount, if_pos rfl, ← hkept, SMPConnection.account, pending, if_pos hpending] at hone
    split_ifs at hone
    omega
  obtain ⟨hcounted, hwaited, hnext, hrested⟩ :=
    hanswer.account (hstart.rested h.rested) hstate hrpc
  refine ⟨htied, ?_, hend.rested hrested, fun m => ?_, fun hfreed m => ?_⟩
  · have habove' : u.Above := by
      cases hanswer with
      | rejected result _ => exact fun _ => hstate
      | awaited _ _ => exact fun _ => Nat.le_of_ble_eq_true rfl
    exact above_updates hlast habove'
  · rw [hend.account, hcounted, hstart.account, ← haccount, h.account, hend.nextStub, hnext,
      hstart.nextStub]
    rfl
  · have hrequested : (s.taken rest).connectFails env := by
      rcases newState_updates hlast with hsame | ⟨_, hfails⟩
      · have hkept : u.newState = t.newState := by cases hanswer <;> rfl
        rw [hsame, hkept, hnew] at hfreed
        exact absurd hfreed hopen
      · exact hfails
    rw [hend.waiting, hwaited, hstart.waiting]
    have hnone := hcond.2 (Or.inr ⟨hidle, n, rest, hevents, hrequested⟩) m
    rw [tasksBehind, hevents, List.tail_cons] at hnone
    exact List.count_eq_zero.mpr hnone

/-- Every step that keeps the stubs keeps the accounts. -/
theorem Accounted.step (h : s.Accounted) {e : Event} (hcond : s.KeepsStubs e) :
    (s.step e).Accounted := by
  have htied := h.tied.step e
  by_cases hconnect : e = .connect
  · subst hconnect
    exact h.connect (hcond.1 rfl)
  by_cases hclosed : e = .tunnelClosed
  · subst hclosed
    refine h.settled (.of_same (fun n => ?_) rfl rfl (Or.inl rfl) fun _ => rfl) htied h.above
      (Or.inl rfl)
    simp [SMPConnection.step, postTask, SMPConnection.waiting, List.count_append]
  by_cases hruns : ∃ n, s.Runs e (.connect n)
  · obtain ⟨n, hidle, ⟨env, rfl⟩, hhead⟩ := hruns
    obtain ⟨rest, hevents⟩ := List.head?_eq_some_iff.mp hhead
    exact h.runConnect hidle hevents hcond
  have hupdates := updates_step (s := s) hconnect hclosed
  have hstub : ∀ n, ¬ (s.allowed e).stub n := fun n hn => hruns ⟨n, hn⟩
  refine h.settled (settles_updates hstub hupdates) htied (above_updates hupdates h.above) ?_
  rcases newState_updates hupdates with hsame | ⟨_, hrequest, -⟩
  · exact Or.inl hsame
  refine Or.inr fun n => List.count_eq_zero.mpr ?_
  have hbehind := hcond.2 hrequest n
  cases e with
  | runTask env =>
    intro hmem
    cases hevents : s.queue.events with
    | nil =>
      rw [hevents] at hmem
      cases hmem
    | cons task rest =>
      rw [hevents] at hmem
      rw [tasksBehind, hevents] at hbehind
      rcases List.mem_cons.mp hmem with heq | hin
      · have hidle : s.phase = .idle := by
          rcases hrequest with htears | hfails
          · exact htears.1
          · exact hfails.1
        exact hstub n ⟨hidle, ⟨env, rfl⟩, by rw [hevents, heq]; rfl⟩
      · exact hbehind hin
  | _ => exact hbehind

/-- No stub gets two results, and in the freed state every stub has got its one. -/
def ReportsOnce (s : SMPConnection) : Prop :=
  (∀ n, s.reports n ≤ 1) ∧ (s.state = .freed → ∀ n < s.nextStub, s.reports n = 1)

/-- Where the accounts are kept, results are reported once. -/
theorem Accounted.reportsOnce (h : s.Accounted) : s.ReportsOnce := by
  refine ⟨fun n => ?_, fun hfreed n hn => ?_⟩
  · have hone := h.account n
    rw [SMPConnection.account] at hone
    split_ifs at hone <;> omega
  · have hone := h.account n
    have hasked := (h.tied.detached (h.tied.freed hfreed)).1
    have hnone := h.rested (Or.inr hfreed)
    rw [SMPConnection.account, h.closing hasked, pending, hnone, if_pos hn] at hone
    simpa using hone

/-- In a run in which no close is requested while a `Connect` call waits for its task, every
accepted call gets one result. -/
theorem run_reportsOnce (config : Config) (tunnel : Bool) {events : List Event}
    (hmeets : Meets step KeepsStubs (create config tunnel) events) :
    (run step (create config tunnel) events).ReportsOnce :=
  Accounted.reportsOnce
    (invariant_of_meets (fun _ _ h hcond => h.step hcond) (accounted_create config tunnel) hmeets)

/-- A raw connection over a direct path. -/
def rawConfig : Config := ⟨'b', [], false, false, 0⟩

/-- All calls to other components succeed, and the engine sets a timer. -/
def timedEnv : Env := ⟨1, true, 1300, .success, some [.set], .success⟩

/-- The engine ends the connection when its timer runs out, and then the socket is gone. -/
def endOfConnection : List Event :=
  [.timerExpires 1, .callback .connClose, .leave true, .udpClosed, .runTask timedEnv]

/-- A connect that is pending when the connection is closed gets its result. -/
theorem reportsOnce_closed :
    (run step (create rawConfig false) ([.connect, .runTask timedEnv, .close, .runTask timedEnv] ++
        endOfConnection)).state = .freed ∧
      (run step (create rawConfig false)
        ([.connect, .runTask timedEnv, .close, .runTask timedEnv] ++
        endOfConnection)).ReportsOnce := by
  refine ⟨by decide, run_reportsOnce rawConfig false ?_⟩
  refine ⟨⟨fun _ _ => by decide, ?_⟩, ⟨by simp, ?_⟩, ⟨by simp, ?_⟩, ⟨by simp, ?_⟩, ⟨by simp, ?_⟩,
    ⟨by simp, ?_⟩, ⟨by simp, ?_⟩, ⟨by simp, ?_⟩, ⟨by simp, ?_⟩, trivial⟩
  all_goals
    intro _ n
    exact List.not_mem_nil

/-- A second call that waits behind the close gets no result. -/
theorem not_reportsOnce_waiting :
    ¬ (run step (create rawConfig false)
      ([.connect, .runTask timedEnv, .close, .connect, .runTask timedEnv, .runTask timedEnv] ++
        endOfConnection)).ReportsOnce := by
  rintro ⟨-, hfreed⟩
  exact absurd (hfreed (by decide) 1 (by decide)) (by decide)

end SMPConnection

end Conn
