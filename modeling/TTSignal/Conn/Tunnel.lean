import TTSignal.Conn.Updates
import Mathlib.Data.List.Count

/-!
# The tunnel below a connection

A connection that runs inside a MASQUE tunnel owns it: it is made when the connection
connects, and the pointer to it is cleared when the tunnel has told its end. The close
check frees the connection only when the pointer is clear, and a connection that has been
asked to close makes no tunnel any more. So a detached connection has no tunnel.
-/

namespace Conn

namespace SMPConnection

/-- How often the end of the tunnel has been told and not been handled. -/
def closes (s : SMPConnection) : ℕ := s.queue.events.count .masqueOnTunnelClosed

/-- The pointer to the tunnel fits to the state. -/
structure Tied (s : SMPConnection) : Prop where
  /-- Only an inner connection has a tunnel. -/
  role : s.masqueTunnel = true → s.masqueRole = .inner
  /-- A close is requested by the freed state only. -/
  asked : s.newState = .max ∨ s.newState = .freed
  /-- A freed connection has been detached. -/
  freed : s.state = .freed → .detach ∈ s.trace
  /-- A detached connection has been asked to close and has no tunnel. -/
  detached : .detach ∈ s.trace → s.newState = .freed ∧ s.masqueTunnel = false

/-- What may happen to a connection and its tunnel, the end of the tunnel apart: a tunnel may
be made, once. -/
structure Moved (s t : SMPConnection) : Prop where
  /-- The connections are tied together. -/
  tied : t.Tied
  /-- The inner connection is the same. -/
  inner_eq : t.masqueInner = s.masqueInner
  /-- The closes of the inner connection are the same. -/
  closes_eq : t.closes = s.closes
  /-- What has been noted stays. -/
  trace_prefix : s.trace <+: t.trace
  /-- A connection that is to be freed still is. -/
  closing : s.newState = .freed → t.newState = .freed
  /-- A role that has been taken stays. -/
  role : s.masqueRole ≠ .none → t.masqueRole = s.masqueRole
  /-- The tunnel is the same, or a connection without a role has taken it. -/
  tunnel : t.masqueTunnel = s.masqueTunnel ∨
    s.masqueTunnel = false ∧ t.masqueTunnel = true ∧ s.masqueRole = .none

/-- From a connection whose pointer fits no more than that happens. -/
def Moves (s t : SMPConnection) : Prop := s.Tied → Moved s t

/-- The tunnel is not touched, the connection is not detached, and no end is told. -/
structure Keeps (s t : SMPConnection) : Prop where
  /-- The role. -/
  role_eq : t.masqueRole = s.masqueRole
  /-- The tunnel. -/
  tunnel_eq : t.masqueTunnel = s.masqueTunnel
  /-- The inner connection. -/
  inner_eq : t.masqueInner = s.masqueInner
  /-- The aim is the same, or the end. -/
  asked : t.newState = s.newState ∨ t.newState = .freed
  /-- The state is the same, or not the last one. -/
  state : t.state = s.state ∨ t.state ≠ .freed
  /-- The closes of the inner connection. -/
  closes_eq : t.closes = s.closes
  /-- What has been noted besides is no detachment. -/
  trace_eq : ∃ new, t.trace = s.trace ++ new ∧ .detach ∉ new

variable {s t u : SMPConnection}

/-- A connection moves to itself. -/
theorem Moves.refl (s : SMPConnection) : Moves s s :=
  fun h => ⟨h, rfl, rfl, List.prefix_refl _, id, fun _ => rfl, Or.inl rfl⟩

/-- Two moves are a move. -/
theorem Moves.trans (h : Moves s t) (h' : Moves t u) : Moves s u := by
  intro hs
  have ht := h hs
  have hu := h' ht.tied
  refine ⟨hu.tied, hu.inner_eq.trans ht.inner_eq, hu.closes_eq.trans ht.closes_eq,
    ht.trace_prefix.trans hu.trace_prefix, fun hc => hu.closing (ht.closing hc), ?_, ?_⟩
  · intro hrole
    have hsame := ht.role hrole
    rw [hu.role (by rw [hsame]; exact hrole), hsame]
  · rcases hu.tunnel with hkept | ⟨hnone, hmade, hrole⟩
    · rw [hkept]
      exact ht.tunnel
    · rcases ht.tunnel with hkept | ⟨-, hmade', -⟩
      · refine Or.inr ⟨hkept.symm.trans hnone, hmade, ?_⟩
        by_contra hne
        exact hne ((ht.role hne).symm.trans hrole)
      · rw [hnone] at hmade'
        cases hmade'

/-- What keeps the tunnel is a move. -/
theorem Keeps.moves (h : Keeps s t) : Moves s t := by
  intro hs
  obtain ⟨new, hnew, hdetach⟩ := h.trace_eq
  have hclosing : s.newState = .freed → t.newState = .freed := by
    intro hfreed
    rcases h.asked with heq | heq
    · exact heq.trans hfreed
    · exact heq
  have hdetached : .detach ∈ t.trace → .detach ∈ s.trace := by
    intro hmem
    rw [hnew] at hmem
    exact (List.mem_append.mp hmem).resolve_right hdetach
  refine ⟨⟨?_, ?_, ?_, ?_⟩, h.inner_eq, h.closes_eq, ⟨new, hnew.symm⟩, hclosing,
    fun _ => h.role_eq, Or.inl h.tunnel_eq⟩
  · rw [h.tunnel_eq, h.role_eq]
    exact hs.role
  · rcases h.asked with heq | heq
    · rw [heq]
      exact hs.asked
    · exact Or.inr heq
  · intro hfreed
    rcases h.state with heq | hne
    · rw [hnew]
      exact List.mem_append_left _ (hs.freed (heq.symm.trans hfreed))
    · exact absurd hfreed hne
  · intro hmem
    obtain ⟨hasked, hnone⟩ := hs.detached (hdetached hmem)
    exact ⟨hclosing hasked, h.tunnel_eq.trans hnone⟩

/-- A connection keeps what it is. -/
theorem Keeps.refl (s : SMPConnection) : Keeps s s :=
  ⟨rfl, rfl, rfl, Or.inl rfl, Or.inl rfl, rfl, [], by simp, by simp⟩

/-- What is kept twice is kept. -/
theorem Keeps.trans (h : Keeps s t) (h' : Keeps t u) : Keeps s u := by
  obtain ⟨new, hnew, hdetach⟩ := h.trace_eq
  obtain ⟨new', hnew', hdetach'⟩ := h'.trace_eq
  refine ⟨h'.role_eq.trans h.role_eq, h'.tunnel_eq.trans h.tunnel_eq,
    h'.inner_eq.trans h.inner_eq, ?_, ?_, h'.closes_eq.trans h.closes_eq, new ++ new',
    by rw [hnew', hnew, List.append_assoc], ?_⟩
  · rcases h'.asked with heq | heq
    · rw [heq]
      exact h.asked
    · exact Or.inr heq
  · rcases h'.state with heq | hne
    · rw [heq]
      exact h.state
    · exact Or.inr hne
  · rw [List.mem_append, not_or]
    exact ⟨hdetach, hdetach'⟩

/-- Other fields do not matter. -/
theorem Keeps.of_same (hrole : t.masqueRole = s.masqueRole)
    (htunnel : t.masqueTunnel = s.masqueTunnel) (hinner : t.masqueInner = s.masqueInner)
    (hasked : t.newState = s.newState) (hstate : t.state = s.state)
    (hevents : t.queue.events = s.queue.events) (htrace : t.trace = s.trace) : Keeps s t :=
  ⟨hrole, htunnel, hinner, Or.inl hasked, Or.inl hstate, by rw [closes, closes, hevents], [],
    by rw [htrace, List.append_nil], by simp⟩

/-- A note that is no detachment keeps it. -/
theorem keeps_note {e : Entry} (he : e ≠ .detach) : Keeps s (s.note e) :=
  ⟨rfl, rfl, rfl, Or.inl rfl, Or.inl rfl, rfl, [e], rfl, by simpa using he.symm⟩

/-- Posting a task other than the end of the tunnel keeps it. -/
theorem keeps_postTask {task : Task} (htask : task ≠ .masqueOnTunnelClosed) :
    Keeps s (s.postTask task) := by
  refine ⟨rfl, rfl, rfl, Or.inl rfl, Or.inl rfl, ?_, [], by simp [postTask], by simp⟩
  simp [closes, postTask, List.count_append, htask]

/-- So do several such tasks. -/
theorem keeps_foldl_postTask {tasks : List Task}
    (htasks : ∀ task ∈ tasks, task ≠ .masqueOnTunnelClosed) :
    Keeps s (tasks.foldl postTask s) := by
  induction tasks generalizing s with
  | nil => exact .refl s
  | cons task tasks ih =>
    rw [List.forall_mem_cons] at htasks
    exact (keeps_postTask htasks.1).trans (ih htasks.2)

/-- Posting tasks notes nothing. -/
theorem foldl_postTask_trace (tasks : List Task) :
    (tasks.foldl postTask s).trace = s.trace := by
  induction tasks generalizing s with
  | nil => rfl
  | cons task tasks ih => exact ih

/-- The end as an aim keeps it. -/
theorem keeps_setState (status : BCRESULT) : Keeps s (s.setState .freed status) :=
  ⟨rfl, rfl, rfl, Or.inr rfl, Or.inl rfl, rfl, [], by simp [setState], by simp⟩

/-- A state before the last one keeps it. -/
theorem keeps_withState {state : ConnState} (hstate : state ≠ .freed) :
    Keeps s (s.withState state) :=
  ⟨rfl, rfl, rfl, Or.inl rfl, Or.inr hstate, rfl, [], by simp [withState], by simp⟩

/-- The timer of `Connect` posts no event. -/
theorem connectTimerQueue_events : s.connectTimerQueue.events = s.queue.events := by
  unfold connectTimerQueue
  split
  · exact BC.EventQueue.unscheduleTask_events
  · rfl

/-- Telling the result of `Connect` keeps it. -/
theorem keeps_notifyConnectResult (pStub : Option ℕ) (result : BCRESULT) :
    Keeps s (s.notifyConnectResult pStub result) := by
  refine ⟨rfl, rfl, rfl, Or.inl rfl, Or.inl rfl, ?_, _, rfl, ?_⟩
  · unfold closes notifyConnectResult
    dsimp only
    split
    · rw [connectTimerQueue_events]
    · rfl
  · cases s.reported pStub <;> simp

/-- The beginning of the close keeps it. -/
theorem keeps_beginClosing : Keeps s s.beginClosing := by
  unfold beginClosing
  split
  · refine ⟨rfl, rfl, rfl, Or.inl rfl, Or.inr (by simp), ?_, _, rfl, ?_⟩
    · exact congrArg (List.count _) connectTimerQueue_events
    · cases s.conn <;> simp
  · exact .refl s

/-- Closing the engine's connection keeps it. -/
theorem keeps_closeQuic : Keeps s s.closeQuic := by
  unfold closeQuic
  split
  · refine ⟨rfl, rfl, rfl, Or.inl rfl, Or.inr (by simp), rfl, _, rfl, ?_⟩
    cases s.udpSocket <;> simp
  · exact .refl s

/-- Closing the tunnel keeps it. -/
theorem keeps_closeTunnel : Keeps s s.closeTunnel := by
  unfold closeTunnel
  split
  · exact .refl s
  · exact ⟨rfl, rfl, rfl, Or.inl rfl, Or.inl rfl, rfl, _, rfl, by simp⟩

/-- A call of the timer keeps it. -/
theorem keeps_onTimer (call : TimerCall) : Keeps s (s.onTimer call) := by
  have hcloses (q : BC.EventQueue Task Timer) (h : q.events = s.queue.events) :
      q.events.count .masqueOnTunnelClosed = s.closes := by rw [h, closes]
  have hstay : Keeps s s := .refl s
  cases call with
  | set =>
    exact ⟨rfl, rfl, rfl, Or.inl rfl, Or.inl rfl, hcloses _ BC.EventQueue.scheduleTask_events, [],
      by simp [onTimer], by simp⟩
  | update timer =>
    simp only [onTimer]
    split
    · exact ⟨rfl, rfl, rfl, Or.inl rfl, Or.inl rfl, hcloses _ BC.EventQueue.scheduleTask_events,
        [], by simp, by simp⟩
    · exact hstay
  | unset timer onlyCancel =>
    simp only [onTimer]
    split
    · exact ⟨rfl, rfl, rfl, Or.inl rfl, Or.inl rfl, hcloses _ BC.EventQueue.unscheduleTask_events,
        [], by simp, by simp⟩
    · exact hstay
  | nextTick => exact keeps_postTask (by simp)

/-- The task for the end of the tunnel runs. -/
def EndsTunnel (s : SMPConnection) (e : Event) : Prop :=
  s.phase = .idle ∧ (∃ env, e = .runTask env) ∧ s.queue.events.head? = some .masqueOnTunnelClosed

/-- The answer to CONNECT-UDP keeps it. -/
theorem keeps_masqueOnConnectUdpResponse (ok : Bool) :
    Keeps s (s.masqueOnConnectUdpResponse ok) := by
  unfold masqueOnConnectUdpResponse
  split
  · exact .refl s
  · refine ⟨rfl, rfl, rfl, Or.inl rfl, Or.inl rfl, rfl, _, rfl, ?_⟩
    split <;> simp

/-- A connect stream that is accepted keeps it. -/
theorem keeps_acceptConnect : Keeps s s.acceptConnect :=
  (keeps_withState (by decide)).trans (keeps_notifyConnectResult _ _)

/-- Dropping the engine's connection keeps it. -/
theorem keeps_dropConn : Keeps s s.dropConn := by
  refine ⟨rfl, rfl, rfl, Or.inl rfl, Or.inl rfl, ?_, [.connClosed], rfl, by simp⟩
  unfold closes dropConn
  dsimp only
  split <;> rfl

/-- A timeout of the engine keeps it. -/
theorem keeps_onEngineTimeout (timer : ℕ) : Keeps s (s.onEngineTimeout timer) := by
  unfold onEngineTimeout
  split
  · exact (keeps_note (by simp)).trans (.of_same rfl rfl rfl rfl rfl rfl rfl)
  · exact .refl s

/-- A tunnel is made by a connection that has none and has not been asked to close. -/
theorem moves_setInner (made : Bool) (hrole : s.masqueRole = .none) (hopen : s.newState ≠ .freed) :
    Moves s (s.setInner made) := by
  intro h
  have hnone : s.masqueTunnel = false := by
    rw [← Bool.not_eq_true]
    intro htrue
    have hinner := h.role htrue
    rw [hrole] at hinner
    cases hinner
  have hattached : .detach ∉ s.trace := fun hmem => hopen (h.detached hmem).1
  refine ⟨⟨fun _ => rfl, h.asked, h.freed, fun hmem => absurd hmem hattached⟩, rfl, rfl,
    List.prefix_refl _, id, fun hne => absurd hrole hne, ?_⟩
  cases made with
  | true => exact Or.inr ⟨hnone, rfl, hrole⟩
  | false => exact Or.inl hnone.symm

/-- The connection is detached when it has no tunnel. -/
theorem moves_conclude (h : s.newState ≠ .max)
    (htunnel : ¬ (s.masqueRole = .inner ∧ s.masqueTunnel = true)) (status : BCRESULT) :
    Moves s (s.notifyConnectResult none status).detach := by
  refine Moves.trans (keeps_notifyConnectResult none status).moves ?_
  intro htied
  have hasked : s.newState = .freed := htied.asked.resolve_left h
  have hnone : s.masqueTunnel = false := by
    rw [← Bool.not_eq_true]
    intro htrue
    exact htunnel ⟨htied.role htrue, htrue⟩
  refine ⟨⟨htied.role, htied.asked, fun _ => ?_, fun _ => ⟨hasked, hnone⟩⟩, rfl, rfl,
    List.prefix_append _ _, id, fun _ => rfl, Or.inl rfl⟩
  exact List.mem_append_right _ (List.mem_singleton.mpr rfl)

/-- Every update moves, but that of the task for the end of the tunnel. -/
theorem moves_update {a : Allowed} (hends : ¬ a.tunnelEnds) (h : Update a s t) : Moves s t := by
  cases h with
  | aside => exact Keeps.moves (.of_same rfl rfl rfl rfl rfl rfl rfl)
  | setInner made hrole hopen => exact moves_setInner made hrole hopen
  | dropTunnel h => exact absurd h hends
  | closeTunnel => exact keeps_closeTunnel.moves
  | note e h =>
    refine (keeps_note ?_).moves
    rintro rfl
    exact h
  | postTask task h =>
    refine (keeps_postTask ?_).moves
    rintro rfl
    exact h
  | take task rest h hstub hend =>
    have htask : task ≠ .masqueOnTunnelClosed := fun heq => hends (hend heq)
    refine Keeps.moves ⟨rfl, rfl, rfl, Or.inl rfl, Or.inl rfl, ?_, [], by simp [taken], by simp⟩
    simp [closes, taken, h, htask]
  | withState state h =>
    refine (keeps_withState ?_).moves
    rcases h with rfl | rfl
    · decide
    · decide
  | request status h => exact (keeps_setState status).moves
  | report result h => exact (keeps_notifyConnectResult none result).moves
  | reject n result hstub h => exact (keeps_notifyConnectResult (some n) result).moves
  | await n hstub hopen hstate =>
    exact Keeps.moves ⟨rfl, rfl, rfl, Or.inl rfl, Or.inr (by simp [awaitConnect]),
      congrArg (List.count _) BC.EventQueue.scheduleTask_events, [], by simp [awaitConnect],
        by simp⟩
  | acceptCommand c hid hname => exact ((keeps_note (by simp)).trans keeps_acceptConnect).moves
  | acceptHeaders headers h => exact ((keeps_note (by simp)).trans keeps_acceptConnect).moves
  | refuse =>
    exact ((keeps_withState (by decide)).trans (keeps_notifyConnectResult none .failure)).moves
  | tunnelAnswer headers h =>
    exact ((keeps_note (by simp)).trans (keeps_masqueOnConnectUdpResponse _)).moves
  | tunnelFailed => exact (keeps_masqueOnConnectUdpResponse false).moves
  | onConnCreate h =>
    exact Keeps.moves ⟨rfl, rfl, rfl, Or.inl rfl, Or.inl rfl, rfl, _, rfl, by simp⟩
  | onTimer call => exact (keeps_onTimer call).moves
  | expire timer queue h =>
    obtain ⟨-, rfl⟩ := BC.EventQueue.expire_eq_some h
    exact Keeps.moves (.of_same rfl rfl rfl rfl rfl rfl rfl)
  | onEngineTimeout timer queue h =>
    obtain ⟨-, rfl⟩ := BC.EventQueue.expire_eq_some h
    refine Moves.trans ?_ (keeps_onEngineTimeout timer).moves
    exact Keeps.moves (.of_same rfl rfl rfl rfl rfl rfl rfl)
  | dropSocket => exact Keeps.moves (.of_same rfl rfl rfl rfl rfl rfl rfl)
  | dropConn => exact keeps_dropConn.moves
  | beginClosing h => exact keeps_beginClosing.moves
  | closeQuic h => exact keeps_closeQuic.moves
  | conclude h hstate hsocket htunnel => exact moves_conclude h htunnel _

/-- Small changes that do not end the tunnel are moves. -/
theorem moves_updates {a : Allowed} (hends : ¬ a.tunnelEnds) (h : Updates a s t) : Moves s t :=
  h.relates Moves.refl (fun _ _ _ => Moves.trans) fun _ _ => moves_update hends

/-- Every event moves, but the end of the tunnel and the task for it. -/
theorem moves_step {e : Event} (hclosed : e ≠ .tunnelClosed) (hend : ¬ s.EndsTunnel e) :
    Moves s (s.step e) := by
  by_cases hconnect : e = .connect
  · subst hconnect
    simp only [step, connect]
    split
    · have hposted : Keeps s (s.postTask (.connect s.nextStub)) := keeps_postTask (by simp)
      refine hposted.moves.trans (Keeps.moves ?_)
      exact .of_same rfl rfl rfl rfl rfl rfl rfl
    · exact .refl s
  · exact moves_updates hend (updates_step hconnect hclosed)

/-- The end of the tunnel is told. -/
theorem step_tunnelClosed (h : s.Tied) :
    (s.step .tunnelClosed).Tied ∧ (s.step .tunnelClosed).closes = s.closes + 1 := by
  refine ⟨⟨h.role, h.asked, h.freed, h.detached⟩, ?_⟩
  simp [step, closes, postTask, List.count_append]

/-- The task for the end of the tunnel clears the pointer, and then the connection moves. -/
theorem moved_of_endsTunnel (h : s.Tied) {e : Event} (hend : s.EndsTunnel e) :
    ∃ rest, s.queue.events = .masqueOnTunnelClosed :: rest ∧
      Moved (s.taken rest).dropTunnel (s.step e) := by
  obtain ⟨hidle, ⟨env, rfl⟩, hhead⟩ := hend
  obtain ⟨rest, hevents⟩ := List.head?_eq_some_iff.mp hhead
  have hstep : s.step (.runTask env) = (s.taken rest).dropTunnel.failWithoutTunnel.checked := by
    simp only [step, hidle, if_true, runTask, hevents]
    rfl
  have htied : (s.taken rest).dropTunnel.Tied :=
    ⟨fun htrue => by simp [dropTunnel] at htrue, h.asked, h.freed,
      fun hmem => ⟨(h.detached hmem).1, rfl⟩⟩
  have hupdates : Updates ⟨fun _ => True, fun _ => False, False, fun _ => False, False⟩
      (s.taken rest).dropTunnel (s.taken rest).dropTunnel.failWithoutTunnel.checked :=
    (updates_failWithoutTunnel trivial).trans updates_checked
  refine ⟨rest, hevents, ?_⟩
  rw [hstep]
  exact moves_updates id hupdates htied

/-- The task for the end of the tunnel takes the end off the queue. -/
theorem step_of_endsTunnel (h : s.Tied) (htunnel : s.masqueTunnel = true) {e : Event}
    (hend : s.EndsTunnel e) :
    (s.step e).Tied ∧ s.closes = (s.step e).closes + 1 ∧ s.trace <+: (s.step e).trace ∧
      (s.step e).masqueRole = .inner ∧ (s.step e).masqueTunnel = false := by
  obtain ⟨rest, hevents, hmoved⟩ := moved_of_endsTunnel h hend
  have hrole : (s.taken rest).dropTunnel.masqueRole = .inner := h.role htunnel
  refine ⟨hmoved.tied, ?_, hmoved.trace_prefix,
    (hmoved.role (by rw [hrole]; decide)).trans hrole, ?_⟩
  · rw [hmoved.closes_eq]
    simp [closes, hevents, dropTunnel, taken]
  · rcases hmoved.tunnel with hkept | ⟨-, -, hnone⟩
    · exact hkept
    · rw [hrole] at hnone
      cases hnone

/-- Every event keeps the pointer fitting to the state. -/
theorem Tied.step (h : s.Tied) (e : Event) : (s.step e).Tied := by
  by_cases hclosed : e = .tunnelClosed
  · rw [hclosed]
    exact (step_tunnelClosed h).1
  · by_cases hend : s.EndsTunnel e
    · obtain ⟨_, _, hmoved⟩ := moved_of_endsTunnel h hend
      exact hmoved.tied
    · exact (moves_step hclosed hend h).tied

/-- A new connection has no tunnel and is not closing. -/
theorem tied_create (config : Config) (tunnel : Bool) : (create config tunnel).Tied :=
  ⟨by simp [create], Or.inl rfl, by simp [create], by simp [create]⟩

end SMPConnection

end Conn
