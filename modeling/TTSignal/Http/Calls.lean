import TTSignal.Http.Stages

/-!
# How far the calls of `Request` have come

The stage of a connection agrees with the call of `Request` that has made it, and a call that
waits for the deletion of its connection is resumed once.
-/

namespace Http

/-- The connection that a call of `Request` has made and not started yet. -/
def RequestPhase.starting : RequestPhase → Option ConnectionId
  | .start c _ | .acquire c _ | .detach c _ => some c
  | _ => none

/-- A call of `Request` has been accepted with this connection. -/
def RequestPhase.Accepted (c : ConnectionId) : RequestPhase → Prop
  | .release c' _ | .check c' => c' = c
  | .returned result => result = .success
  | _ => False

/-- The call of `Request` that goes on afterwards. -/
def Work.resumes (r : RequestId) (w : Work) : Bool :=
  match w.cont with
  | .request r' _ => r' = r
  | _ => false

/-- A work resumes a request when that is what goes on behind it. -/
theorem Work.resumes_iff {r : RequestId} {w : Work} :
    w.resumes r = true ↔ ∃ k, w.cont = .request r k := by
  unfold resumes
  cases w.cont <;> simp [eq_comm]

namespace HttpConnector

/-- The calls of `Request` agree with the stages of the connections. -/
structure Calls (s : HttpConnector) : Prop where
  /-- Calls that have not been made. -/
  unborn : ∀ r, s.nextRequest ≤ r → (s.request r).phase = .unborn
  /-- A call that starts a connection. -/
  starting : ∀ r c, (s.request r).phase.starting = some c →
    s.stage c = .starting ∧ (s.connection c).request = r
  /-- A connection that is being started. -/
  started : ∀ c, s.stage c = .starting →
    (s.request (s.connection c).request).phase.starting = some c
  /-- A connection that has been started. -/
  accepted : ∀ c, (s.stage c).Accepted →
    (s.request (s.connection c).request).phase.Accepted c
  /-- What is done before a call goes on. -/
  resumed : ∀ w ∈ s.works, ∀ r k, w.cont = .request r k →
    ∃ c, (s.request r).phase = .dropping c k
  /-- It is done once. -/
  count_resumes : ∀ r, s.works.countP (Work.resumes r) ≤ 1

variable {s s' : HttpConnector}

/-- Nothing else matters. -/
theorem Calls.of_eq (h : s.Calls) (hstage : s'.stage = s.stage)
    (hphase : ∀ r, (s'.request r).phase = (s.request r).phase)
    (hrequest : ∀ c, (s'.connection c).request = (s.connection c).request)
    (hworks : s'.works = s.works) (hnext : s'.nextRequest = s.nextRequest) : s'.Calls := by
  constructor
  all_goals simp only [hstage, hphase, hrequest, hworks, hnext]
  exacts [h.unborn, h.starting, h.started, h.accepted, h.resumed, h.count_resumes]

/-- A call that waits for the deletion of its connection has nothing else to do. -/
theorem Calls.count_resumes_eq_zero (h : s.Calls) {r : RequestId}
    (hr : ∀ c k, (s.request r).phase ≠ .dropping c k) : s.works.countP (Work.resumes r) = 0 := by
  apply List.countP_eq_zero.mpr
  intro w hw hres
  obtain ⟨k, hk⟩ := Work.resumes_iff.mp hres
  obtain ⟨c, hc⟩ := h.resumed w hw r k hk
  exact hr c k hc

/-- Something is done that resumes no call. -/
theorem Calls.post (h : s.Calls) {w : Work} (hw : ∀ r k, w.cont ≠ .request r k) :
    (s.post w).Calls := by
  have hres : ∀ r, w.resumes r = false := by
    intro r
    rw [Bool.eq_false_iff, ne_eq, Work.resumes_iff]
    rintro ⟨k, hk⟩
    exact hw r k hk
  constructor
  case resumed =>
    intro w' hw' r k hk
    rcases List.mem_cons.mp hw' with rfl | hw'
    · exact absurd hk (hw r k)
    · exact h.resumed w' hw' r k hk
  case count_resumes =>
    intro r
    simpa [HttpConnector.post, List.countP_cons, hres] using h.count_resumes r
  exacts [h.unborn, h.starting, h.started, h.accepted]

/-- Something has been done. -/
theorem Calls.erase (h : s.Calls) (w : Work) :
    Calls { s with works := s.works.erase w } := by
  constructor
  case resumed =>
    intro w' hw' r k hk
    exact h.resumed w' (List.mem_of_mem_erase hw') r k hk
  case count_resumes =>
    intro r
    exact (List.Sublist.countP_le List.erase_sublist).trans (h.count_resumes r)
  exacts [h.unborn, h.starting, h.started, h.accepted]

/-- A call has been made. -/
theorem Calls.born (h : s.Calls) {r : RequestId} (hr : (s.request r).phase ≠ .unborn) :
    r < s.nextRequest := by
  by_contra hlt
  exact hr (h.unborn r (not_lt.mp hlt))

/-- `Request` is called. -/
theorem Calls.call (h : s.Calls) (key : String) :
    Calls
      { s with
        request := Function.update s.request s.nextRequest ⟨key, .take⟩
        nextRequest := s.nextRequest + 1 } := by
  have hnext := h.unborn s.nextRequest le_rfl
  constructor
  all_goals simp only [Function.update_apply]
  · intro r
    have := h.unborn r
    grind
  · intro r c
    have := h.starting r c
    grind [RequestPhase.starting]
  · intro c
    have := h.started c
    grind [RequestPhase.starting]
  · intro c
    have := h.accepted c
    grind [RequestPhase.Accepted]
  · intro w hw r k
    have := h.resumed w hw r k
    grind
  · exact h.count_resumes

/-- A call goes on and neither starts nor gives up a connection. -/
theorem Calls.setPhase (h : s.Calls) {r : RequestId} {phase : RequestPhase}
    (hborn : (s.request r).phase ≠ .unborn)
    (hstarting : phase.starting = (s.request r).phase.starting)
    (haccepted : ∀ c, (s.request r).phase.Accepted c → phase.Accepted c)
    (hdropping : ∀ c k, (s.request r).phase ≠ .dropping c k) : (s.setPhase r phase).Calls := by
  have hlt := h.born hborn
  constructor
  all_goals simp only [HttpConnector.setPhase, Function.update_apply]
  · intro r'
    have := h.unborn r'
    grind
  · intro r' c
    have := h.starting r' c
    grind
  · intro c
    have := h.started c
    grind
  · intro c
    have := h.accepted c
    grind
  · intro w hw r' k
    have := h.resumed w hw r' k
    grind
  · exact h.count_resumes

/-- A call makes a connection. -/
theorem Calls.newConnection (h : s.Calls) (hc : s.Connections) {r : RequestId}
    (hborn : (s.request r).phase ≠ .unborn) (hstarting : (s.request r).phase.starting = none)
    (haccepted : ∀ c, ¬ (s.request r).phase.Accepted c)
    (hdropping : ∀ c k, (s.request r).phase ≠ .dropping c k) (ch : ChannelId)
    (b : Option PooledId) :
    ((s.newConnection r ch).setPhase r (.start s.nextConnection b)).Calls := by
  have hlt := h.born hborn
  have hnext := (hc s.nextConnection).unborn le_rfl
  constructor
  all_goals simp only [HttpConnector.newConnection, HttpConnector.setPhase, Function.update_apply]
  · intro r'
    have := h.unborn r'
    grind
  · intro r' c
    have := h.starting r' c
    grind [RequestPhase.starting]
  · intro c
    have := h.started c
    grind [RequestPhase.starting]
  · intro c
    have := h.accepted c
    grind [ConnectionStage.Accepted]
  · intro w hw r' k
    have := h.resumed w hw r' k
    grind
  · exact h.count_resumes

/-- A call has started its connection. -/
theorem Calls.serve (h : s.Calls) {r : RequestId} {c : ConnectionId} {phase : RequestPhase}
    (hstarting : (s.request r).phase.starting = some c) (hphase : phase.starting = none)
    (haccepted : phase.Accepted c) : ((s.setStage c .serving).setPhase r phase).Calls := by
  have hlt : r < s.nextRequest := by
    apply h.born
    intro hr
    simp [hr, RequestPhase.starting] at hstarting
  obtain ⟨hc, hr⟩ := h.starting r c hstarting
  have hold : ∀ d, ¬ (s.request r).phase.Accepted d := by
    intro d hd
    cases hp : (s.request r).phase <;>
      simp [hp, RequestPhase.starting, RequestPhase.Accepted] at hstarting hd
  have hdropping : ∀ d k, (s.request r).phase ≠ .dropping d k := by
    intro d k hp
    simp [hp, RequestPhase.starting] at hstarting
  constructor
  all_goals simp only [setStage, HttpConnector.setPhase, Function.update_apply]
  · intro r'
    have := h.unborn r'
    grind
  · intro r' d
    have := h.starting r' d
    grind
  · intro d
    have := h.started d
    grind
  · intro d
    have := h.accepted d
    grind
  · intro w hw r' k
    have := h.resumed w hw r' k
    grind
  · exact h.count_resumes

/-- A call gives up its connection. -/
theorem Calls.drop (h : s.Calls) {r : RequestId} {c : ConnectionId} {k : After}
    (hphase : (s.request r).phase = .detach c k) (armed : Option Thread) :
    (((s.setStage c .dropped).setPhase r (.dropping c k)).post
      (.drop c armed (.request r k))).Calls := by
  have hlt : r < s.nextRequest := h.born (by simp [hphase])
  have hstarting : (s.request r).phase.starting = some c := by rw [hphase]; rfl
  obtain ⟨hc, hr⟩ := h.starting r c hstarting
  have hzero : s.works.countP (Work.resumes r) = 0 := h.count_resumes_eq_zero (by simp [hphase])
  constructor
  all_goals simp only [setStage, HttpConnector.setPhase, HttpConnector.post, Function.update_apply]
  · intro r'
    have := h.unborn r'
    grind
  · intro r' d
    have := h.starting r' d
    grind [RequestPhase.starting]
  · intro d
    have := h.started d
    grind
  · intro d
    have := h.accepted d
    grind [RequestPhase.Accepted, ConnectionStage.Accepted]
  · intro w hw r' k' hk
    rcases List.mem_cons.mp hw with rfl | hw
    · simp only [Work.cont, Cont.request.injEq] at hk
      obtain ⟨rfl, rfl⟩ := hk
      exact ⟨c, by simp⟩
    · have := h.resumed w hw r' k' hk
      grind
  · intro r'
    rw [List.countP_cons]
    have := h.count_resumes r'
    grind [Work.resumes, Work.cont]

/-- A connection comes further, and neither starts nor becomes accepted. -/
theorem Calls.setStage (h : s.Calls) {c : ConnectionId} {stage : ConnectionStage}
    (hold : s.stage c ≠ .starting) (hnew : stage ≠ .starting)
    (haccepted : stage.Accepted → (s.stage c).Accepted) : (s.setStage c stage).Calls := by
  constructor
  all_goals simp only [HttpConnector.setStage, Function.update_apply]
  · exact h.unborn
  · intro r d
    have := h.starting r d
    grind
  · intro d
    have := h.started d
    grind
  · intro d
    have := h.accepted d
    grind
  · exact h.resumed
  · exact h.count_resumes

end HttpConnector

end Http
