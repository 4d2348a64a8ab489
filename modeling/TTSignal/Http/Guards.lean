import TTSignal.Dispatches
import TTSignal.Http.Parked

/-!
# The guards of a connector

A connector calls the handler of each request and its own handler, behind guards that it
counts. Its steps are steps of such guarded calls: each of them is made at most once, and
`callbacks_in_flight` counts those that are under way.
-/

namespace Http

open Tcp (BCResult)

/-- The thread that is in the handler. -/
def Activity.callingOn : Activity → Option Thread
  | .calling _ t _ _ => some t
  | _ => none

/-- The thread that is in `OnClosed`. -/
def Work.callingOn : Work → Option Thread
  | .inOnClosed t _ => some t
  | _ => none

/-- Behind a message no guard is left on the stack of the thread. -/
theorem Next.armedOn_activity (next : Next) (ch : ChannelId) :
    (next.activity ch).armedOn = none := by
  cases next <;> rfl

/-- Nor does the thread call the handler then. -/
theorem Next.callingOn_activity (next : Next) (ch : ChannelId) :
    (next.activity ch).callingOn = none := by
  cases next <;> rfl

/-- The events that may call somebody. -/
def Event.Tells : Event → Prop
  | .proceed _ _ | .data _ _ | .closed _ _ _ | .resume _ _ | .work _ => True
  | _ => False

/-- An action calls the handler of the request of a connection. -/
def Action.tells (c : ConnectionId) : Action → Bool
  | .callback _ c' _ => c' = c
  | _ => false

namespace HttpConnector

variable {s s' : HttpConnector} {a a' : Dispatches.State Dispatch Thread}

/-- The call of a request's handler as a guarded call. -/
structure Telling (s : HttpConnector) (a : Dispatches.State Dispatch Thread) (c : ConnectionId) :
    Prop where
  /-- The connection has not delivered. -/
  waiting : a.stage (.request c) = .waiting ↔ (s.connection c).delivered = false
  /-- It is about to call its handler. -/
  armed : ∀ t, a.stage (.request c) = .armed t ↔ (s.activity c).armedOn = some t
  /-- It is calling its handler. -/
  calling : ∀ t, a.stage (.request c) = .calling t ↔ (s.activity c).callingOn = some t
  /-- Its handler has been cleared. -/
  skipped : a.stage (.request c) = .skipped → s.abandoned = true
  /-- Handlers are cleared by the destructor. -/
  handler : c < s.nextConnection → (s.connection c).handler = false → s.abandoned = true
  /-- The calls in the record. -/
  began : s.trace.countP (Action.tells c) = a.log.count (.began (.request c))
  /-- Their returns. -/
  ended : s.trace.count (.callbackReturned c) = a.log.count (.ended (.request c))

/-- The call of `OnClosed` as a guarded call. -/
structure Noticing (s : HttpConnector) (a : Dispatches.State Dispatch Thread) : Prop where
  /-- `closed_notified`. -/
  waiting : a.stage .closed = .waiting ↔ s.closedNotified = false
  /-- Somebody is about to call it. -/
  armed : ∀ t, (s.works.countP fun w => w.armedOn = some t) =
    if a.stage .closed = .armed t then 1 else 0
  /-- Somebody is calling it. -/
  calling : ∀ t, (s.works.countP fun w => w.callingOn = some t) =
    if a.stage .closed = .calling t then 1 else 0
  /-- There was nobody to call. -/
  skipped : a.stage .closed = .skipped → s.handler = false
  /-- The calls in the record. -/
  began : s.trace.count .onClosed = a.log.count (.began .closed)

/-- The calls of a connector as guarded calls. -/
structure Counted (s : HttpConnector) (a : Dispatches.State Dispatch Thread) : Prop where
  /-- The guards and the record agree. -/
  coherent : a.Coherent
  /-- `callbacks_in_flight`. -/
  inFlight : a.inFlight = s.callbacksInFlight
  /-- The armed guards. -/
  guards : a.guards = s.guards.map fun g => (g.thread, g.dispatch)
  /-- The handlers of the requests. -/
  telling : ∀ c, s.Telling a c
  /-- The connector's own handler. -/
  noticing : s.Noticing a

/-- The calls advance by what a thread does with guarded calls. -/
def Advances (s : HttpConnector) (t : Thread) (s' : HttpConnector) : Prop :=
  ∀ a, s.Counted a → ∃ a', Relation.ReflTransGen (Dispatches.Step t) a a' ∧ s'.Counted a'

/-- Two advances of a thread are one. -/
theorem Advances.trans {s'' : HttpConnector} {t : Thread} (h : s.Advances t s')
    (h' : s'.Advances t s'') : s.Advances t s'' := by
  intro a ha
  obtain ⟨b, hab, hb⟩ := h a ha
  obtain ⟨c, hbc, hc⟩ := h' b hb
  exact ⟨c, hab.trans hbc, hc⟩

/-- Nothing happens to the calls. -/
structure Calm (s s' : HttpConnector) : Prop where
  /-- The guards. -/
  guards : s'.callbacksInFlight = s.callbacksInFlight ∧ s'.guards = s.guards
  /-- `closed_notified`, `abandoned` and `handler`. -/
  flags : s'.closedNotified = s.closedNotified ∧ (s.abandoned = true → s'.abandoned = true) ∧
    (s.handler = false → s'.handler = false)
  /-- What connections have delivered. -/
  delivered : ∀ c, (s'.connection c).delivered = (s.connection c).delivered
  /-- The handlers of the connections. -/
  handler : ∀ c < s'.nextConnection, (s'.connection c).handler = true ∨ s'.abandoned = true ∨
    (s'.connection c).handler = (s.connection c).handler ∧ c < s.nextConnection
  /-- The threads in connections. -/
  armedOn : ∀ c, (s'.activity c).armedOn = (s.activity c).armedOn
  /-- The threads in handlers. -/
  callingOn : ∀ c, (s'.activity c).callingOn = (s.activity c).callingOn
  /-- The threads about to call `OnClosed`. -/
  armedClosed : ∀ t, (s'.works.countP fun w => w.armedOn = some t) =
    s.works.countP fun w => w.armedOn = some t
  /-- The threads in `OnClosed`. -/
  callingClosed : ∀ t, (s'.works.countP fun w => w.callingOn = some t) =
    s.works.countP fun w => w.callingOn = some t
  /-- The record. -/
  trace : Adds (fun a => a.kind ≠ .callback ∧ a ≠ .onClosed) s s'

/-- A connection goes on telling while the rest is calm. -/
theorem Telling.calm {c : ConnectionId} (h : s.Telling a c) (hcalm : s.Calm s') :
    s'.Telling a c := by
  obtain ⟨-, habandoned, -⟩ := hcalm.flags
  obtain ⟨new, htrace, hnew⟩ := hcalm.trace
  constructor
  case waiting => rw [hcalm.delivered, h.waiting]
  case armed =>
    intro t
    rw [hcalm.armedOn, h.armed]
  case calling =>
    intro t
    rw [hcalm.callingOn, h.calling]
  case skipped => exact fun hskipped => habandoned (h.skipped hskipped)
  case handler =>
    intro hc hfalse
    rcases hcalm.handler c hc with htrue | hgone | ⟨hsame, hlt⟩
    · rw [hfalse] at htrue
      cases htrue
    · exact hgone
    · exact habandoned (h.handler hlt (hsame ▸ hfalse))
  case began =>
    have hnone : new.countP (Action.tells c) = 0 := by
      apply List.countP_eq_zero.mpr
      intro b hb htells
      have := (hnew b hb).1
      cases b <;> simp_all [Action.tells, Action.kind]
    rw [htrace, List.countP_append, hnone, h.began, Nat.add_zero]
  case ended =>
    have hnone : new.count (.callbackReturned c) = 0 := by
      apply List.count_eq_zero.mpr
      intro hmem
      exact (hnew _ hmem).1 rfl
    rw [htrace, List.count_append, hnone, h.ended, Nat.add_zero]

/-- A notice goes on while the rest is calm. -/
theorem Noticing.calm (h : s.Noticing a) (hcalm : s.Calm s') : s'.Noticing a := by
  obtain ⟨hnotified, -, hhandler⟩ := hcalm.flags
  obtain ⟨new, htrace, hnew⟩ := hcalm.trace
  constructor
  case waiting => rw [hnotified, h.waiting]
  case armed =>
    intro t
    rw [hcalm.armedClosed, h.armed]
  case calling =>
    intro t
    rw [hcalm.callingClosed, h.calling]
  case skipped => exact fun hskipped => hhandler (h.skipped hskipped)
  case began =>
    have hnone : new.count .onClosed = 0 := by
      apply List.count_eq_zero.mpr
      intro hmem
      exact (hnew _ hmem).2 rfl
    rw [htrace, List.count_append, hnone, h.began, Nat.add_zero]

/-- The counts stay right while the rest is calm. -/
theorem Counted.calm (h : s.Counted a) (hcalm : s.Calm s') : s'.Counted a := by
  obtain ⟨hflight, hguards⟩ := hcalm.guards
  exact ⟨h.coherent, by rw [hflight, h.inFlight], by rw [hguards, h.guards],
    fun c => (h.telling c).calm hcalm, h.noticing.calm hcalm⟩

/-- A calm part advances every thread. -/
theorem Calm.advances {t : Thread} (h : s.Calm s') : s.Advances t s' :=
  fun a ha => ⟨a, .refl, ha.calm h⟩

/-- Two calm parts are calm together. -/
theorem Calm.trans {s'' : HttpConnector} (h : s.Calm s') (h' : s'.Calm s'') : s.Calm s'' where
  guards := ⟨h'.guards.1.trans h.guards.1, h'.guards.2.trans h.guards.2⟩
  flags := ⟨h'.flags.1.trans h.flags.1, fun hs => h'.flags.2.1 (h.flags.2.1 hs),
    fun hs => h'.flags.2.2 (h.flags.2.2 hs)⟩
  delivered c := (h'.delivered c).trans (h.delivered c)
  handler c hc := by
    rcases h'.handler c hc with htrue | hgone | ⟨hsame, hlt⟩
    · exact .inl htrue
    · exact .inr (.inl hgone)
    · rcases h.handler c hlt with htrue | hgone | ⟨hsame', hlt'⟩
      · exact .inl (hsame.trans htrue)
      · exact .inr (.inl (h'.flags.2.1 hgone))
      · exact .inr (.inr ⟨hsame.trans hsame', hlt'⟩)
  armedOn c := (h'.armedOn c).trans (h.armedOn c)
  callingOn c := (h'.callingOn c).trans (h.callingOn c)
  armedClosed t := (h'.armedClosed t).trans (h.armedClosed t)
  callingClosed t := (h'.callingClosed t).trans (h.callingClosed t)
  trace := h.trace.trans h'.trace

/-- What the calls speak of. -/
def ledger (s : HttpConnector) :=
  (s.callbacksInFlight, s.guards, s.closedNotified, s.abandoned, s.handler, s.nextConnection,
    s.connection, s.activity, s.works, s.trace)

/-- Nothing that the calls speak of changes. -/
theorem calm_of_eq (h : s'.ledger = s.ledger) : s.Calm s' := by
  simp only [ledger, Prod.mk.injEq] at h
  obtain ⟨hflight, hguards, hnotified, habandoned, hhandler, hnext, hconnection, hactivity, hworks,
    htrace⟩ := h
  constructor
  case trace => exact adds_of_eq htrace
  all_goals simp_all

/-- What comes before in the same ledger does not disturb the calm. -/
theorem Calm.after {x : HttpConnector} (h : x.Calm s') (heq : x.ledger = s.ledger) : s.Calm s' :=
  (calm_of_eq heq).trans h

/-- What comes behind in the same ledger does not either. -/
theorem Calm.then {x : HttpConnector} (h : s.Calm x) (heq : s'.ledger = x.ledger) : s.Calm s' :=
  h.trans (calm_of_eq heq)

/-- Something else is recorded. -/
theorem calm_note {b : Action} (hkind : b.kind ≠ .callback) (hclosed : b ≠ .onClosed) :
    s.Calm (s.note b) := by
  have hsame : s.Calm s := calm_of_eq rfl
  exact { hsame with trace := adds_note ⟨hkind, hclosed⟩ }

/-- A connection changes and keeps its handler. -/
theorem calm_setConnection {c : ConnectionId} {x : HttpConnection}
    (hdelivered : x.delivered = (s.connection c).delivered)
    (hhandler : x.handler = (s.connection c).handler) : s.Calm (s.setConnection c x) := by
  have hsame : s.Calm s := calm_of_eq rfl
  refine { hsame with delivered := ?_, handler := ?_, trace := adds_of_eq rfl }
  all_goals
    intro d
    simp only [setConnection, Function.update_apply]
    split
    · subst d
      grind
    · grind

/-- A thread goes on in a connection and makes no call. -/
theorem calm_setActivity {c : ConnectionId} {x : Activity}
    (harmed : x.armedOn = (s.activity c).armedOn)
    (hcalling : x.callingOn = (s.activity c).callingOn) : s.Calm (s.setActivity c x) := by
  have hsame : s.Calm s := calm_of_eq rfl
  refine { hsame with armedOn := ?_, callingOn := ?_, trace := adds_of_eq rfl }
  all_goals
    intro d
    simp only [setActivity, Function.update_apply]
    split
    · subst d
      assumption
    · rfl

/-- Something is to be done that concerns no call. -/
theorem calm_post {w : Work} (hw : w.thread = none) : s.Calm (s.post w) := by
  have hsame : s.Calm s := calm_of_eq rfl
  refine { hsame with armedClosed := ?_, callingClosed := ?_, trace := adds_of_eq rfl }
  all_goals
    intro t
    simp only [post, List.countP_cons]
    cases w <;> simp_all [Work.thread, Work.armedOn, Work.callingOn]

/-- Something has been done that concerns no call. -/
theorem calm_erase {w : Work} (hw : w.thread = none) :
    s.Calm { s with works := s.works.erase w } := by
  have hsame : s.Calm s := calm_of_eq rfl
  refine { hsame with armedClosed := ?_, callingClosed := ?_, trace := adds_of_eq rfl }
  all_goals
    intro t
    simp only [List.countP_erase]
    cases w <;> simp_all [Work.thread, Work.armedOn, Work.callingOn]

/-- Updates in place are calm, unless a connection delivers. -/
theorem Updates.calm {d : Prop} (h : Updates d s s') (hd : ¬ d) : s.Calm s' := by
  refine h.within (calm_of_eq rfl) Calm.trans fun hupdate => ?_
  cases hupdate with
  | channel | logging | dnsWorkers => exact calm_of_eq rfl
  | connection c x _ hdelivered hhandler => exact calm_setConnection hdelivered hhandler
  | deliverOnce hdelivers => exact absurd hdelivers hd
  | note a ha =>
    apply calm_note
    all_goals
      intro heq
      cases a <;> simp_all [Action.kind, Action.Heard]

/-- A connection is made. -/
theorem Sound.calm_newConnection (h : s.Sound) (r : RequestId) (ch : ChannelId) :
    s.Calm (s.newConnection r ch) := by
  have hunborn := (h.connections s.nextConnection).unborn le_rfl
  have hdelivered := (h.channels.standing s.nextConnection).fresh (.inl hunborn)
  have hsame : s.Calm s := calm_of_eq rfl
  refine { hsame with delivered := ?_, handler := ?_, trace := adds_of_eq rfl }
  all_goals
    intro d
    simp only [newConnection, Function.update_apply]
    grind

/-! ### Calls of a request's handler -/

/-- Another call comes further. -/
theorem Telling.of_eq {c : ConnectionId} (h : s.Telling a c)
    (hstage : a'.stage (.request c) = a.stage (.request c))
    (hlog : a'.log.count (.began (.request c)) = a.log.count (.began (.request c)) ∧
      a'.log.count (.ended (.request c)) = a.log.count (.ended (.request c)))
    (hconnection : s'.connection c = s.connection c) (hactivity : s'.activity c = s.activity c)
    (hflags : s'.abandoned = s.abandoned ∧ s'.nextConnection = s.nextConnection)
    (htrace : s'.trace.countP (Action.tells c) = s.trace.countP (Action.tells c) ∧
      s'.trace.count (.callbackReturned c) = s.trace.count (.callbackReturned c)) :
    s'.Telling a' c := by
  obtain ⟨habandoned, hnext⟩ := hflags
  obtain ⟨h1, h2, h3, h4, h5, h6, h7⟩ := h
  constructor
  all_goals simp only [hstage, hlog, hconnection, hactivity, habandoned, hnext, htrace]
  all_goals assumption

/-- The notice comes further when another call does. -/
theorem Noticing.of_eq (h : s.Noticing a) (hstage : a'.stage .closed = a.stage .closed)
    (hlog : a'.log.count (.began .closed) = a.log.count (.began .closed))
    (hflags : s'.closedNotified = s.closedNotified ∧ s'.handler = s.handler)
    (hworks : s'.works = s.works) (htrace : s'.trace.count .onClosed = s.trace.count .onClosed) :
    s'.Noticing a' := by
  obtain ⟨hnotified, hhandler⟩ := hflags
  obtain ⟨h1, h2, h3, h4, h5⟩ := h
  constructor
  all_goals simp only [hstage, hlog, hnotified, hhandler, hworks, htrace]
  all_goals assumption

/-- A connection delivers and has nobody to tell. -/
theorem Counted.skip (h : s.Counted a) {c : ConnectionId} {x : HttpConnection}
    (hwaiting : a.stage (.request c) = .waiting) (hdelivered : x.delivered = true)
    (hgone : s.abandoned = true) : (s.setConnection c x).Counted (a.skip (.request c)) := by
  have hcoherent := h.coherent.skip hwaiting
  refine ⟨hcoherent, h.inFlight, h.guards, fun d => ?_, ?_⟩
  · by_cases hd : d = c
    · subst d
      obtain ⟨hwait, harmed, hcalling, -, -, hbegan, hended⟩ := h.telling c
      constructor
      all_goals simp only [Dispatches.State.skip, setConnection, Function.update_self]
      · simp [hdelivered]
      · intro t
        simp [← harmed, hwaiting]
      · intro t
        simp [← hcalling, hwaiting]
      · exact fun _ => hgone
      · exact fun _ _ => hgone
      · exact hbegan
      · exact hended
    · refine (h.telling d).of_eq ?_ ⟨rfl, rfl⟩ ?_ rfl ⟨rfl, rfl⟩ ⟨rfl, rfl⟩
      · simp [Dispatches.State.skip, hd]
      · simp [setConnection, hd]
  · exact h.noticing.of_eq (by simp [Dispatches.State.skip]) rfl ⟨rfl, rfl⟩ rfl rfl

/-- A connection delivers: it arms its guard. -/
theorem Counted.arm (h : s.Counted a) {c : ConnectionId} {ch : ChannelId} {t : Thread}
    {o : Outcome} {next : Next} {x : HttpConnection} (hwaiting : a.stage (.request c) = .waiting)
    (hdelivered : x.delivered = true) (hhandler : x.handler = (s.connection c).handler) :
    (((s.setConnection c x).setActivity c (.armed ch t o next)).armLocked t (.request c)).Counted
      (a.arm (.request c) t) := by
  have hcoherent := h.coherent.arm hwaiting t
  refine ⟨hcoherent, ?_, ?_, fun d => ?_, ?_⟩
  · simp [Dispatches.State.arm, armLocked, setActivity, setConnection, h.inFlight]
  · simp [Dispatches.State.arm, armLocked, setActivity, setConnection, h.guards]
  · by_cases hd : d = c
    · subst d
      obtain ⟨hwait, harmed, hcalling, hskipped, hcleared, hbegan, hended⟩ := h.telling c
      constructor
      all_goals simp only [Dispatches.State.arm, armLocked, setActivity, setConnection,
        Function.update_self]
      · simp [hdelivered]
      · simp [Activity.armedOn]
      · simp [Activity.callingOn]
      · simp
      · rwa [hhandler]
      · exact hbegan
      · exact hended
    · refine (h.telling d).of_eq ?_ ⟨rfl, rfl⟩ ?_ ?_ ⟨rfl, rfl⟩ ⟨rfl, rfl⟩
      · simp [Dispatches.State.arm, hd]
      · simp [armLocked, setActivity, setConnection, hd]
      · simp [armLocked, setActivity, setConnection, hd]
  · exact h.noticing.of_eq (by simp [Dispatches.State.arm]) rfl ⟨rfl, rfl⟩ rfl rfl

/-- A handler is called. -/
theorem Counted.start (h : s.Counted a) {c : ConnectionId} {ch : ChannelId} {t : Thread}
    {o o' : Outcome} {next : Next} (r : RequestId) (harmed : s.activity c = .armed ch t o next) :
    ((s.setActivity c (.calling ch t o next)).note (.callback r c o')).Counted
      (a.start (.request c) t) := by
  have hstage : a.stage (.request c) = .armed t :=
    ((h.telling c).armed t).mpr (by rw [harmed]; rfl)
  have hcoherent := h.coherent.start hstage
  refine ⟨hcoherent, h.inFlight, h.guards, fun d => ?_, ?_⟩
  · by_cases hd : d = c
    · subst d
      obtain ⟨hwait, -, -, hskipped, hcleared, hbegan, hended⟩ := h.telling c
      rw [hstage] at hwait
      constructor
      all_goals simp only [Dispatches.State.start, note, setActivity, Function.update_self]
      · simpa using hwait
      · simp [Activity.armedOn]
      · simp [Activity.callingOn]
      · simp
      · exact hcleared
      · simp [Action.tells, hbegan]
      · simpa [List.count_append] using hended
    · refine (h.telling d).of_eq ?_ ⟨?_, ?_⟩ rfl ?_ ⟨rfl, rfl⟩ ⟨?_, ?_⟩
      · simp [Dispatches.State.start, hd]
      · simp [Dispatches.State.start, List.count_append, Ne.symm hd]
      · simp [Dispatches.State.start, List.count_append]
      · simp [note, setActivity, hd]
      · simp [note, setActivity, Action.tells, Ne.symm hd]
      · simp [note, setActivity, List.count_append]
  · refine h.noticing.of_eq ?_ ?_ ⟨rfl, rfl⟩ rfl ?_
    · simp [Dispatches.State.start]
    · simp [Dispatches.State.start, List.count_append]
    · simp [note, setActivity, List.count_append]

/-- A guard is its thread and what it protects. -/
theorem injective_pair : Function.Injective fun g : Guard => (g.thread, g.dispatch) := by
  rintro ⟨t, d⟩ ⟨t', d'⟩ h
  simpa using h

/-- A handler's call returns. -/
theorem Counted.finish (h : s.Counted a) {c : ConnectionId} {ch : ChannelId} {t : Thread}
    {o : Outcome} {next : Next} (hcalling : s.activity c = .calling ch t o next) :
    (((s.setActivity c (next.activity ch)).disarm t (.request c)).note
      (.callbackReturned c)).Counted (a.finish (.request c) t) := by
  have hstage : a.stage (.request c) = .calling t :=
    ((h.telling c).calling t).mpr (by rw [hcalling]; rfl)
  have hcoherent := h.coherent.finish hstage
  have hguards : (a.finish (.request c) t).guards = (s.guards.erase ⟨t, .request c⟩).map
      fun g => (g.thread, g.dispatch) := by
    rw [List.map_erase injective_pair, ← h.guards]
    rfl
  refine ⟨hcoherent, ?_, hguards, fun d => ?_, ?_⟩
  · simp [Dispatches.State.finish, disarm, note, setActivity, h.inFlight]
  · by_cases hd : d = c
    · subst d
      obtain ⟨hwait, -, -, hskipped, hcleared, hbegan, hended⟩ := h.telling c
      rw [hstage] at hwait
      constructor
      all_goals simp only [Dispatches.State.finish, note, disarm, setActivity,
        Function.update_self]
      · simpa using hwait
      · simp [Next.armedOn_activity]
      · simp [Next.callingOn_activity]
      · simp
      · exact hcleared
      · simpa [Action.tells, List.count_append] using hbegan
      · simp [List.count_append, hended]
    · refine (h.telling d).of_eq ?_ ⟨?_, ?_⟩ rfl ?_ ⟨rfl, rfl⟩ ⟨?_, ?_⟩
      · simp [Dispatches.State.finish, hd]
      · simp [Dispatches.State.finish, List.count_append]
      · simp [Dispatches.State.finish, List.count_append, Ne.symm hd]
      · simp [note, disarm, setActivity, hd]
      · simp [note, disarm, setActivity, Action.tells]
      · simp [note, disarm, setActivity, List.count_append, Ne.symm hd]
  · refine h.noticing.of_eq ?_ ?_ ⟨rfl, rfl⟩ rfl ?_
    · simp [Dispatches.State.finish]
    · simp [Dispatches.State.finish, List.count_append]
    · simp [note, disarm, setActivity, List.count_append]

/-! ### Calls of `OnClosed` -/

/-- Nothing about the requests changes. -/
theorem Telling.of_ledger {c : ConnectionId} (h : s.Telling a c)
    (hstage : a'.stage (.request c) = a.stage (.request c))
    (hlog : a'.log.count (.began (.request c)) = a.log.count (.began (.request c)) ∧
      a'.log.count (.ended (.request c)) = a.log.count (.ended (.request c)))
    (hledger : (s'.abandoned, s'.nextConnection, s'.connection, s'.activity) =
      (s.abandoned, s.nextConnection, s.connection, s.activity))
    (htrace : Adds (fun b => b.kind ≠ .callback) s s') : s'.Telling a' c := by
  simp only [Prod.mk.injEq] at hledger
  obtain ⟨habandoned, hnext, hconnection, hactivity⟩ := hledger
  obtain ⟨new, htrace, hnew⟩ := htrace
  refine h.of_eq hstage hlog (by rw [hconnection]) (by rw [hactivity]) ⟨habandoned, hnext⟩ ⟨?_, ?_⟩
  · have hnone : new.countP (Action.tells c) = 0 := by
      apply List.countP_eq_zero.mpr
      intro b hb htells
      have := hnew b hb
      cases b <;> simp_all [Action.tells, Action.kind]
    rw [htrace, List.countP_append, hnone, Nat.add_zero]
  · have hnone : new.count (.callbackReturned c) = 0 := by
      apply List.count_eq_zero.mpr
      intro hmem
      exact hnew _ hmem rfl
    rw [htrace, List.count_append, hnone, Nat.add_zero]

/-- A guard for `OnClosed` is armed, and somebody is about to call it. -/
theorem Counted.armClosed (h : s.Counted a) {t : Thread} {w : Work}
    (hnotified : s.closedNotified = false) (harmed : w.armedOn = some t)
    (hcalling : w.callingOn = none) :
    ((armLocked { s with closedNotified := true } t .closed).post w).Counted (a.arm .closed t) := by
  have hstage := h.noticing.waiting.mpr hnotified
  have hcoherent := h.coherent.arm hstage t
  refine ⟨hcoherent, ?_, ?_, fun d => ?_, ?_⟩
  · simp [Dispatches.State.arm, armLocked, post, h.inFlight]
  · simp [Dispatches.State.arm, armLocked, post, h.guards]
  · exact (h.telling d).of_ledger (by simp [Dispatches.State.arm]) ⟨rfl, rfl⟩ rfl (adds_of_eq rfl)
  · obtain ⟨-, harms, hcalls, -, hbegan⟩ := h.noticing
    constructor
    all_goals simp only [Dispatches.State.arm, armLocked, post, Function.update_self,
      List.countP_cons]
    · simp
    · intro u
      rw [harms, hstage, harmed]
      simp
    · intro u
      rw [hcalls, hstage, hcalling]
      simp
    · simp
    · exact hbegan

/-- There is nobody to tell that the connector has closed. -/
theorem Counted.skipClosed (h : s.Counted a) (hnotified : s.closedNotified = false)
    (hhandler : s.handler = false) :
    Counted { s with closedNotified := true } (a.skip .closed) := by
  have hstage := h.noticing.waiting.mpr hnotified
  have hcoherent := h.coherent.skip hstage
  refine ⟨hcoherent, h.inFlight, h.guards, fun d => ?_, ?_⟩
  · exact (h.telling d).of_ledger (by simp [Dispatches.State.skip]) ⟨rfl, rfl⟩ rfl (adds_of_eq rfl)
  · obtain ⟨-, harms, hcalls, -, hbegan⟩ := h.noticing
    constructor
    all_goals simp only [Dispatches.State.skip, Function.update_self]
    · simp
    · intro u
      rw [harms, hstage]
      simp
    · intro u
      rw [hcalls, hstage]
      simp
    · exact fun _ => hhandler
    · exact hbegan

/-- Somebody is about to call `OnClosed`. -/
theorem Noticing.stage_armed (h : s.Noticing a) {w : Work} {t : Thread} (hmem : w ∈ s.works)
    (hw : w.armedOn = some t) : a.stage .closed = .armed t := by
  have hpos : 0 < s.works.countP fun w => w.armedOn = some t :=
    List.countP_pos_iff.mpr ⟨_, hmem, by simp [hw]⟩
  by_contra hne
  rw [h.armed, if_neg hne] at hpos
  exact absurd hpos (Nat.lt_irrefl 0)

/-- Somebody is calling `OnClosed`. -/
theorem Noticing.stage_calling (h : s.Noticing a) {w : Work} {t : Thread} (hmem : w ∈ s.works)
    (hw : w.callingOn = some t) : a.stage .closed = .calling t := by
  have hpos : 0 < s.works.countP fun w => w.callingOn = some t :=
    List.countP_pos_iff.mpr ⟨_, hmem, by simp [hw]⟩
  by_contra hne
  rw [h.calling, if_neg hne] at hpos
  exact absurd hpos (Nat.lt_irrefl 0)

/-- `OnClosed` is called. -/
theorem Counted.startClosed (h : s.Counted a) {t : Thread} {k : Cont}
    (hmem : .onClosed t k ∈ s.works) :
    ((note { s with works := s.works.erase (.onClosed t k) } .onClosed).post
      (.inOnClosed t k)).Counted (a.start .closed t) := by
  have hstage := h.noticing.stage_armed hmem rfl
  have hcoherent := h.coherent.start hstage
  refine ⟨hcoherent, h.inFlight, h.guards, fun d => ?_, ?_⟩
  · refine (h.telling d).of_ledger ?_ ⟨?_, ?_⟩ rfl (adds_note (by simp [Action.kind]))
    · simp [Dispatches.State.start]
    · simp [Dispatches.State.start, List.count_append]
    · simp [Dispatches.State.start, List.count_append]
  · obtain ⟨hwait, harms, hcalls, -, hbegan⟩ := h.noticing
    rw [hstage] at hwait
    constructor
    all_goals simp only [Dispatches.State.start, note, post, Function.update_self,
      List.countP_cons, List.countP_erase]
    · simpa using hwait
    · intro u
      have hold := harms u
      grind [Work.armedOn]
    · intro u
      have hold := hcalls u
      grind [Work.callingOn]
    · simp
    · simp [List.count_append, hbegan]

/-- `OnClosed` returns. -/
theorem Counted.finishClosed (h : s.Counted a) {t : Thread} {k : Cont}
    (hmem : .inOnClosed t k ∈ s.works) :
    (disarm { s with works := s.works.erase (.inOnClosed t k) } t .closed).Counted
      (a.finish .closed t) := by
  have hstage := h.noticing.stage_calling hmem rfl
  have hcoherent := h.coherent.finish hstage
  have hguards : (a.finish .closed t).guards = (s.guards.erase ⟨t, .closed⟩).map
      fun g => (g.thread, g.dispatch) := by
    rw [List.map_erase injective_pair, ← h.guards]
    rfl
  refine ⟨hcoherent, ?_, hguards, fun d => ?_, ?_⟩
  · simp [Dispatches.State.finish, disarm, h.inFlight]
  · refine (h.telling d).of_ledger ?_ ⟨?_, ?_⟩ rfl (adds_of_eq rfl)
    · simp [Dispatches.State.finish]
    · simp [Dispatches.State.finish, List.count_append]
    · simp [Dispatches.State.finish, List.count_append]
  · obtain ⟨hwait, harms, hcalls, -, hbegan⟩ := h.noticing
    rw [hstage] at hwait
    constructor
    all_goals simp only [Dispatches.State.finish, disarm, Function.update_self, List.countP_erase]
    · simpa using hwait
    · intro u
      have hold := harms u
      grind [Work.armedOn]
    · intro u
      have hold := hcalls u
      grind [Work.callingOn]
    · simp
    · simpa [List.count_append] using hbegan

/-- The thread of a call of `Request` keeps its guard for `OnClosed`. -/
theorem calm_handover {c : ConnectionId} {t : Thread} {k : Cont}
    (hmem : .drop c (some t) k ∈ s.works) :
    s.Calm (HttpConnector.post { s with works := s.works.erase (.drop c (some t) k) }
      (.onClosed t k)) := by
  have hsame : s.Calm s := calm_of_eq rfl
  refine { hsame with armedClosed := ?_, callingClosed := ?_, trace := adds_of_eq rfl }
  · intro u
    have hpos : t = u → 0 < s.works.countP fun w => w.armedOn = some u := fun htu =>
      List.countP_pos_iff.mpr ⟨_, hmem, by simp [Work.armedOn, htu]⟩
    simp only [post, List.countP_cons, List.countP_erase]
    grind [Work.armedOn]
  · intro u
    simp only [post, List.countP_cons, List.countP_erase]
    grind [Work.callingOn]

/-! ### Channels -/

/-- `_DeliverOnce`. -/
theorem advances_deliverOnce (closeResult : BCResult) (finishes : Bool) {c : ConnectionId}
    (ch : ChannelId) (t : Thread) (next : Next) (hborn : c < s.nextConnection)
    (harmed : (s.activity c).armedOn = none) (hcalling : (s.activity c).callingOn = none) :
    s.Advances t (s.deliverOnce c ch t closeResult finishes next) := by
  have hnext {x : HttpConnector} (hx : (x.activity c).armedOn = none)
      (hx' : (x.activity c).callingOn = none) : x.Calm (x.setActivity c (next.activity ch)) :=
    calm_setActivity (by rw [hx, Next.armedOn_activity]) (by rw [hx', Next.callingOn_activity])
  unfold HttpConnector.deliverOnce
  split
  · exact Calm.advances (hnext harmed hcalling)
  rename_i hdelivered
  rw [Bool.not_eq_true] at hdelivered
  split
  · rename_i hhandler
    intro a ha
    have hwaiting := (ha.telling c).waiting.mpr hdelivered
    have hgone := (ha.telling c).handler hborn hhandler
    have hskipped := ha.skip (x := deliver (s.connection c) closeResult finishes) hwaiting rfl hgone
    exact ⟨_, .single (.skip hwaiting), hskipped.calm (hnext harmed hcalling)⟩
  · intro a ha
    have hwaiting := (ha.telling c).waiting.mpr hdelivered
    exact ⟨_, .single (.arm hwaiting), ha.arm hwaiting rfl rfl⟩

/-- A connection that is served has been made. -/
theorem Sound.lt_of_serving (h : s.Sound) {c : ConnectionId} (hc : s.stage c = .serving) :
    c < s.nextConnection := by
  by_contra hle
  have := (h.connections c).unborn (not_lt.mp hle)
  rw [hc] at this
  cases this

/-- The thread of a channel that is not in a connection makes no call. -/
theorem Sound.idle_of_handler (h : s.Sound) {c : ConnectionId} {ch : ChannelId}
    (hopen : (s.channel ch).Open) (hinside : (s.channel ch).inside = none)
    (hhandler : (s.channel ch).handler = some (.connection c)) :
    s.activity c = .idle ∧ c < s.nextConnection := by
  have hidle : (s.channel ch).state ≠ .idle := by
    rcases hopen with hstate | hstate | hstate <;> simp [hstate]
  have howner : s.owner ch = .connection c := by
    have := (h.channels.shaped ch).handler hidle
    rw [hhandler] at this
    exact (Option.some.inj this).symm
  obtain ⟨hserving, hactivity, -⟩ := (h.channels.serving c ch).waits howner hopen hinside
  exact ⟨hactivity, h.lt_of_serving hserving⟩

/-- A complete message advances its thread. -/
theorem advances_onMessageDone {c : ConnectionId} (ch : ChannelId) (t : Thread)
    (hborn : c < s.nextConnection) (hidle : s.activity c = .idle) :
    s.Advances t (s.onMessageDone c ch t) := by
  unfold HttpConnector.onMessageDone
  split
  · have hinside : s.Calm (s.setInside ch (some c)) := calm_of_eq rfl
    have harmed : ((s.setInside ch (some c)).activity c).armedOn = none := by
      simp [setInside, setChannel, hidle, Activity.armedOn]
    have hcalling : ((s.setInside ch (some c)).activity c).callingOn = none := by
      simp [setInside, setChannel, hidle, Activity.callingOn]
    exact hinside.advances.trans (advances_deliverOnce .success false ch t .park hborn harmed
      hcalling)
  · exact ((updates_cancel c).calm id).advances

/-- Received data advances its thread. -/
theorem Sound.advances_onRecvData (h : s.Sound) (ch : ChannelId) (t : Thread) (parsed : Parsed) :
    s.Advances t (s.onRecvData ch t parsed) := by
  have hsame : s.Calm s := calm_of_eq rfl
  unfold HttpConnector.onRecvData
  split
  case isFalse => exact hsame.advances
  rename_i hready
  split
  · have hpoisoned : s.Calm (s.setChannel ch { s.channel ch with poisoned := true }) :=
      calm_of_eq rfl
    exact Calm.advances (hpoisoned.trans (calm_note (by simp [Action.kind]) (by simp)))
  split
  · rename_i c hhandler
    split
    · exact hsame.advances
    have hopen : (s.channel ch).Open := by
      rcases hready.2 with hstate | hstate
      · exact .inr (.inl hstate)
      · exact .inr (.inr hstate)
    obtain ⟨hidle, hborn⟩ := h.idle_of_handler hopen hready.1 hhandler
    have hnoted : s.Calm (s.note (.received ch c)) := calm_note (by simp [Action.kind]) (by simp)
    refine hnoted.advances.trans ?_
    unfold HttpConnector.onChannelData
    split
    · exact Calm.advances (calm_of_eq rfl)
    split
    · exact advances_onMessageDone ch t hborn hidle
    cases parsed with
    | more => exact (calm_of_eq rfl).advances
    | complete keepAlive =>
      have hdone : (s.note (.received ch c)).Calm ((s.note (.received ch c)).setConnection c
          { (s.note (.received ch c)).connection c with
            messageDone := true
            keepAlive := keepAlive }) := calm_setConnection rfl rfl
      exact hdone.advances.trans (advances_onMessageDone ch t hborn hidle)
    | failed result => exact ((updates_failConnection c result).calm id).advances
  · exact hsame.advances

/-- A destruction that is scheduled is calm. -/
theorem calm_scheduleDestroy (p : PooledId) (terminal : Terminal) :
    s.Calm (s.scheduleDestroy p terminal) := by
  cases terminal with
  | none => exact calm_of_eq rfl
  | closed => exact calm_post rfl
  | detached => exact calm_post rfl

/-- Releasing a pooled channel is calm. -/
theorem calm_release (p : PooledId) : s.Calm (s.release p) := by
  have hset : s.Calm (s.setPooled p { s.pooled p with held := false }) := calm_of_eq rfl
  exact hset.trans (calm_scheduleDestroy p _)

/-- The end of a pooled channel is calm. -/
theorem calm_onPooledClosed (p : PooledId) : s.Calm (s.onPooledClosed p) := by
  unfold HttpConnector.onPooledClosed
  split
  · exact calm_of_eq rfl
  · exact (calm_scheduleDestroy (s := setPooledStage
      { s with
        idle := s.idle.erase ((s.pooled p).key, p)
        idleDestroying := s.idleDestroying + 1 } p .closed) p .closed).after rfl

/-- Its last detachment is calm. -/
theorem calm_onPooledDetached (p : PooledId) : s.Calm (s.onPooledDetached p) := by
  unfold HttpConnector.onPooledDetached
  split
  · exact calm_of_eq rfl
  · exact (calm_scheduleDestroy (s := s.setPooledStage p .detached) p .detached).after rfl

/-- Adopting a channel is calm. -/
theorem Sound.calm_onAdopt (h : s.Sound) (ch : ChannelId) (failure : Option BCResult) :
    s.Calm (s.onAdopt ch failure) := by
  have hsame : s.Calm s := calm_of_eq rfl
  unfold HttpConnector.onAdopt
  split
  · exact hsame
  rename_i c rest hadopts
  split
  · exact hsame
  have hidle : s.activity c = .idle := (h.channels.adopting hadopts).2.1.2.1
  split
  · have hadopted : s.Calm (s.adopted ch c rest) := by
      have hset : s.Calm ((s.setChannel ch
          { s.channel ch with
            adopts := rest
            parked := false
            handler := some (.connection c) }).setOwner ch (.connection c)) := calm_of_eq rfl
      exact hset.trans (calm_note (by simp [Action.kind]) (by simp))
    unfold HttpConnector.takeOver
    split
    · exact (hadopted.trans (calm_onPooledDetached _)).trans
        ((updates_onChannelReady c failure).calm id)
    · exact hadopted.trans ((updates_onChannelReady c failure).calm id)
  · have hset : s.Calm (s.setConnection c
        { s.connection c with channel := some s.nextChannel }) := calm_setConnection rfl rfl
    have hleft : s.Calm ((s.setConnection c
        { s.connection c with channel := some s.nextChannel }).setActivity c
          (.openFresh ch s.closing)) :=
      hset.trans (calm_setActivity (by simp [setConnection, hidle, Activity.armedOn])
        (by simp [setConnection, hidle, Activity.callingOn]))
    exact hleft.then rfl

/-- The end of a channel advances its thread. -/
theorem Sound.advances_onClosed (h : s.Sound) (ch : ChannelId) (t : Thread) (result : BCResult)
    (finishes : Bool) : s.Advances t (s.onClosed ch t result finishes) := by
  have hsame : s.Calm s := calm_of_eq rfl
  unfold HttpConnector.onClosed
  split
  case isFalse => exact hsame.advances
  rename_i hclosing
  obtain ⟨hinside, hstate, -⟩ := hclosing
  have hclosed : s.Calm (s.setChannel ch { s.channel ch with state := .closed }) := calm_of_eq rfl
  split
  · rename_i c hhandler
    obtain ⟨hidle, hborn⟩ := h.idle_of_handler (.inr (.inr hstate)) hinside hhandler
    have hset : s.Calm ((s.setChannel ch { s.channel ch with state := .closed }).setInside ch
        (some c)) := calm_of_eq rfl
    refine hset.advances.trans (advances_deliverOnce result finishes ch t .detach hborn ?_ ?_)
    · simp [setInside, setChannel, hidle, Activity.armedOn]
    · simp [setInside, setChannel, hidle, Activity.callingOn]
  · exact Calm.advances (hclosed.trans (calm_onPooledClosed _))
  · exact hclosed.advances

/-- Opening a fresh channel advances its thread. -/
theorem Sound.advances_openFresh (h : s.Sound) {c : ConnectionId} {ch : ChannelId}
    {closing : Bool} (hactivity : s.activity c = .openFresh ch closing) (t : Thread)
    (result : BCResult) : s.Advances t (s.openFresh c ch closing t result) := by
  have hborn := h.lt_of_serving ((h.channels.standing c).active (by simp [hactivity]))
  have harmed : (s.activity c).armedOn = none := by rw [hactivity]; rfl
  have hcalling : (s.activity c).callingOn = none := by rw [hactivity]; rfl
  have hfail (reason : BCResult) : s.Advances t
      ((s.setFailResult c reason).deliverOnce c ch t reason false .detach) := by
    have hset : s.Calm (s.setFailResult c reason) := calm_setConnection rfl rfl
    exact hset.advances.trans (advances_deliverOnce reason false ch t .detach hborn harmed
      hcalling)
  unfold HttpConnector.openFresh
  split
  · exact hfail shuttingDown
  split
  · exact hfail result
  split
  · exact Calm.advances (calm_of_eq rfl)
  · rename_i fresh hfresh
    have hopened : s.Calm (s.opened fresh c) := calm_of_eq rfl
    have hleft : (s.opened fresh c).Calm ((s.opened fresh c).setActivity c .idle) :=
      calm_setActivity harmed.symm hcalling.symm
    have hinside : ((s.opened fresh c).setActivity c .idle).Calm
        (((s.opened fresh c).setActivity c .idle).setInside ch none) := calm_of_eq rfl
    exact Calm.advances (((hopened.trans hleft).trans hinside).trans (calm_post rfl))

/-- Returning a channel to the pool is calm. -/
theorem calm_returnToPool {c : ConnectionId} {ch : ChannelId}
    (hactivity : s.activity c = .park ch) : s.Calm (s.returnToPool c ch) := by
  have hset : s.Calm (s.setConnection c { s.connection c with channel := none }) :=
    calm_setConnection rfl rfl
  have hleft : s.Calm ((s.setConnection c { s.connection c with channel := none }).setActivity c
      (.detach ch)) :=
    hset.trans (calm_setActivity (by simp [setConnection, hactivity, Activity.armedOn])
      (by simp [setConnection, hactivity, Activity.callingOn]))
  unfold HttpConnector.returnToPool
  split <;> exact hleft.then rfl

/-- A channel's thread goes on in a connection. -/
theorem Sound.advances_resume (h : s.Sound) (c : ConnectionId) (t : Thread) (result : BCResult) :
    s.Advances t (s.resume c t result) := by
  have hsame : s.Advances t s := (calm_of_eq rfl).advances
  unfold HttpConnector.resume
  split
  · exact hsame
  · rename_i ch t' o next hactivity
    split
    · rename_i heq
      subst heq
      intro a ha
      have hstage : a.stage (.request c) = .armed t :=
        ((ha.telling c).armed t).mpr (by rw [hactivity]; rfl)
      exact ⟨_, .single (.start hstage), ha.start _ hactivity⟩
    · exact hsame
  · rename_i ch t' o next hactivity
    split
    · rename_i heq
      subst heq
      intro a ha
      have hstage : a.stage (.request c) = .calling t :=
        ((ha.telling c).calling t).mpr (by rw [hactivity]; rfl)
      exact ⟨_, .single (.finish hstage), ha.finish hactivity⟩
    · exact hsame
  · rename_i ch hactivity
    exact Calm.advances (calm_returnToPool hactivity)
  · rename_i ch hactivity
    have hset : s.Calm (setStage
        { s with
          conns := s.conns.erase c
          destroying := if c ∈ s.conns then insert c s.destroying else s.destroying } c
        .condemned) := calm_of_eq rfl
    have hleft : s.Calm (HttpConnector.setInside (HttpConnector.setActivity (setStage
        { s with
          conns := s.conns.erase c
          destroying := if c ∈ s.conns then insert c s.destroying else s.destroying } c
        .condemned) c .idle) ch none) :=
      (hset.trans (calm_setActivity (by simp [setStage, hactivity, Activity.armedOn])
        (by simp [setStage, hactivity, Activity.callingOn]))).then rfl
    exact Calm.advances (hleft.trans (calm_post rfl))
  · rename_i ch closing hactivity
    exact h.advances_openFresh hactivity t result

/-! ### `Request` and posted tasks -/

/-- The return of a request is calm. -/
theorem calm_returns (r : RequestId) (result : BCResult) : s.Calm (s.returns r result) := by
  have hset : s.Calm (s.setPhase r (.returned result)) := calm_of_eq rfl
  exact hset.trans (calm_note (by simp [Action.kind]) (by simp))

/-- What is left of a call is calm. -/
theorem calm_goOn (k : Cont) : s.Calm (s.goOn k) := by
  cases k with
  | done => exact calm_of_eq rfl
  | request r k =>
    cases k with
    | retry p => exact calm_of_eq rfl
    | giveUp result => exact calm_returns r result
  | destructor =>
    simp only [HttpConnector.goOn]
    split <;> exact calm_of_eq rfl

/-- The section in which the last thing is removed. -/
theorem advances_notifyOr (t : Thread) (k : Cont) : s.Advances t (s.notifyOr t k) := by
  unfold HttpConnector.notifyOr
  split
  · rename_i hmust
    intro a ha
    have hwaiting := ha.noticing.waiting.mpr hmust.2.2.1
    exact ⟨_, .single (.arm hwaiting), ha.armClosed hmust.2.2.1 rfl rfl⟩
  · exact Calm.advances (calm_goOn k)

/-- The notice that everything is closed advances its thread. -/
theorem advances_notifyClosedIfDrained (t : Thread) (k : Cont) :
    s.Advances t (s.notifyClosedIfDrained t k) := by
  unfold HttpConnector.notifyClosedIfDrained
  split
  · exact Calm.advances (calm_goOn k)
  rename_i hfirst
  have hnotified : s.closedNotified = false := by
    rw [not_or, not_or, Bool.not_eq_true] at hfirst
    simpa using hfirst.2.2
  split
  · exact Calm.advances (calm_goOn k)
  split
  · rename_i hhandler
    have hskip : s.Advances t { s with closedNotified := true } := by
      intro a ha
      have hwaiting := ha.noticing.waiting.mpr hnotified
      exact ⟨_, .single (.skip hwaiting), ha.skipClosed hnotified hhandler⟩
    exact hskip.trans (calm_goOn k).advances
  · intro a ha
    have hwaiting := ha.noticing.waiting.mpr hnotified
    exact ⟨_, .single (.arm hwaiting), ha.armClosed hnotified rfl rfl⟩

/-- A fresh connection is calm. -/
theorem Sound.calm_newFreshConnection (h : s.Sound) (r : RequestId) :
    s.Calm (s.newFreshConnection r) :=
  (h.calm_newConnection r s.nextChannel).then rfl

/-- A call of `Request` gives its connection up. -/
theorem advances_proceedDetach (r : RequestId) (c : ConnectionId) (k : After) (t : Thread) :
    s.Advances t (s.proceedDetach r c k t) := by
  have hforget : s.Calm (s.forget c) := calm_of_eq rfl
  refine hforget.advances.trans ?_
  unfold HttpConnector.proceedDetach HttpConnector.armClosed armed
  split
  · rename_i hmust
    intro a ha
    have hnotified : (s.forget c).closedNotified = false := hmust.2.2.1
    have hwaiting := ha.noticing.waiting.mpr hnotified
    have harmed := ha.armClosed (t := t) (w := .drop c (some t) (.request r k)) hnotified rfl rfl
    exact ⟨_, .single (.arm hwaiting), harmed.calm (calm_of_eq rfl)⟩
  · have hposted : (s.forget c).Calm
        ((s.forget c).post (.drop c none (.request r k))) := calm_post rfl
    exact Calm.advances (hposted.then rfl)

/-- A call of `Request` that does not give its connection up calls nobody. -/
theorem Sound.calm_proceed (h : s.Sound) {r : RequestId}
    (hkeeps : ∀ c k, (s.request r).phase ≠ .detach c k) (t : Thread) (result : BCResult) :
    s.Calm (s.proceed r t result) := by
  have hsame : s.Calm s := calm_of_eq rfl
  have hclosed (p : PooledId) : s.Calm ((s.closeChannel (s.pooled p).channel).release p) :=
    (calm_release (s := s.closeChannel (s.pooled p).channel) p).after rfl
  have haccepted (x : HttpConnector) (hx : s.Calm x) (c : ConnectionId) :
      s.Calm (x.note (.accepted r c)) :=
    hx.trans (calm_note (by simp [Action.kind]) (by simp))
  unfold HttpConnector.proceed
  split
  · exact hsame
  · exact hsame
  · exact hsame
  · unfold HttpConnector.proceedTake
    split
    · exact calm_of_eq rfl
    split <;> exact calm_of_eq rfl
  · rename_i b hphase
    cases b with
    | none =>
      simp only [HttpConnector.proceedInsert]
      split
      · exact calm_returns r shuttingDown
      · exact (h.calm_newFreshConnection r).then rfl
    | some p =>
      simp only [HttpConnector.proceedInsert]
      split
      · exact (hclosed p).trans (calm_returns r shuttingDown)
      · exact (h.calm_newConnection r (s.pooled p).channel).then rfl
  · unfold HttpConnector.startFresh
    split
    · exact hsame
    split
    · refine haccepted _ ?_ _
      exact calm_of_eq rfl
    · exact calm_of_eq rfl
  · have hdisown (c : ConnectionId) (p : PooledId) : s.Calm (s.disown r c p) := by
      have hset : s.Calm (s.setConnection c { s.connection c with channel := none }) :=
        calm_setConnection rfl rfl
      exact hset.then rfl
    unfold HttpConnector.startReused
    split
    · exact hsame
    split
    · exact calm_of_eq rfl
    · exact hdisown _ _
  · rename_i c p hphase
    unfold HttpConnector.proceedAcquire
    split
    · exact hsame
    split
    · have hset : s.Calm (s.setConnection c { s.connection c with channel := none }) :=
        calm_setConnection rfl rfl
      exact hset.then rfl
    · refine haccepted _ ?_ _
      exact calm_of_eq rfl
  · exact (calm_release _).then rfl
  · rename_i c k hphase
    exact absurd hphase (hkeeps c k)
  · exact (hclosed _).then rfl
  · split
    · exact calm_returns r shuttingDown
    · exact (h.calm_newFreshConnection r).then rfl
  · split
    · exact ((updates_cancel _).calm id).trans (calm_returns r .success)
    · exact calm_returns r .success

/-- Going on with a request advances its thread. -/
theorem Sound.advances_proceed (h : s.Sound) (r : RequestId) (t : Thread) (result : BCResult) :
    s.Advances t (s.proceed r t result) := by
  by_cases hphase : ∃ c k, (s.request r).phase = .detach c k
  · obtain ⟨c, k, hphase⟩ := hphase
    simp only [HttpConnector.proceed, hphase]
    exact advances_proceedDetach r c k t
  · have hkeeps : ∀ c k, (s.request r).phase ≠ .detach c k := fun c k hdetach =>
      hphase ⟨c, k, hdetach⟩
    exact (h.calm_proceed hkeeps t result).advances

/-- Deleting a connection is calm. -/
theorem calm_deleteConnection (c : ConnectionId) : s.Calm (s.deleteConnection c) := by
  unfold HttpConnector.deleteConnection
  split
  · exact calm_note (by simp [Action.kind]) (by simp)
  · rename_i ch hch
    have hset : s.Calm (s.setConnection c { s.connection c with channel := none }) :=
      calm_setConnection rfl rfl
    have hchannel := hset.trans
      (calm_note (b := .deletedChannel ch (.connection c)) (by simp [Action.kind]) (by simp))
    have hconnection := hchannel.trans
      (calm_note (b := .deletedConnection c) (by simp [Action.kind]) (by simp))
    exact hconnection.then rfl

/-- Something posted or begun is done. -/
theorem advances_doWork {w : Work} {t : Thread} (hmay : s.MayDo t w) :
    s.Advances t (HttpConnector.doWork { s with works := s.works.erase w } t w) := by
  have herase (hw : w.thread = none) : s.Calm { s with works := s.works.erase w } :=
    calm_erase hw
  obtain ⟨hmem, hthread, -⟩ := hmay
  cases w with
  | deleteConnection c =>
    have hdeleted := (herase rfl).trans (calm_deleteConnection c)
    have hposted := hdeleted.trans (calm_post (w := .finishDestroy c) rfl)
    exact Calm.advances (hposted.then rfl)
  | finishDestroy c =>
    have hforgotten : s.Calm ((HttpConnector.forget
        { s with works := s.works.erase (.finishDestroy c) } c).setStage c .gone) :=
      (herase rfl).then rfl
    exact hforgotten.advances.trans (advances_notifyOr t .done)
  | deleteClosed p =>
    have hchannel := (herase rfl).trans (calm_note
      (b := .deletedChannel (s.pooled p).channel (.pooled p)) (by simp [Action.kind]) (by simp))
    have hpooled := hchannel.trans
      (calm_note (b := .deletedPooled p) (by simp [Action.kind]) (by simp))
    exact Calm.advances ((hpooled.trans (calm_post (w := .finishIdle p) rfl)).then rfl)
  | deleteDetached p =>
    have hpooled := (herase rfl).trans
      (calm_note (b := .deletedPooled p) (by simp [Action.kind]) (by simp))
    exact Calm.advances (hpooled.then rfl)
  | finishIdle p =>
    have hgone : s.Calm (HttpConnector.setPooledStage
        { s with
          works := s.works.erase (.finishIdle p)
          idleDestroying := s.idleDestroying - 1 } p .gone) := (herase rfl).then rfl
    exact hgone.advances.trans (advances_notifyOr t .done)
  | recheck c =>
    simp only [HttpConnector.doWork]
    split
    · exact Calm.advances ((herase rfl).trans ((updates_cancel c).calm id))
    · exact Calm.advances (herase rfl)
  | notifyClosed k => exact (herase rfl).advances.trans (advances_notifyClosedIfDrained t k)
  | drop c armed k =>
    cases armed with
    | none =>
      have hdeleted := (herase rfl).trans (calm_deleteConnection c)
      have hstage : s.Calm ((HttpConnector.deleteConnection
          { s with works := s.works.erase (.drop c none k) } c).setStage c .discarded) :=
        hdeleted.then rfl
      exact Calm.advances (hstage.trans (calm_goOn k))
    | some t' =>
      have hposted := calm_handover hmem
      cases hch : (s.connection c).channel with
      | none =>
        have hdeleted := hposted.trans
          (calm_note (b := .deletedConnection c) (by simp [Action.kind]) (by simp))
        simp only [HttpConnector.doWork, HttpConnector.deleteConnection, hch]
        exact Calm.advances (hdeleted.then rfl)
      | some ch =>
        have hset := hposted.trans
          (calm_setConnection (x := { s.connection c with channel := none }) rfl rfl)
        have hchannel := hset.trans
          (calm_note (b := .deletedChannel ch (.connection c)) (by simp [Action.kind]) (by simp))
        have hdeleted := hchannel.trans
          (calm_note (b := .deletedConnection c) (by simp [Action.kind]) (by simp))
        simp only [HttpConnector.doWork, HttpConnector.deleteConnection, hch]
        exact Calm.advances (hdeleted.then rfl)
  | onClosed t' k =>
    obtain rfl : t' = t := by simpa [Work.thread, Work.armedOn] using hthread
    intro a ha
    exact ⟨_, .single (.start (ha.noticing.stage_armed hmem rfl)), ha.startClosed hmem⟩
  | inOnClosed t' k =>
    obtain rfl : t' = t := by simpa [Work.thread] using hthread
    have hfinish : s.Advances t' (HttpConnector.disarm
        { s with works := s.works.erase (.inOnClosed t' k) } t' .closed) := by
      intro a ha
      exact ⟨_, .single (.finish (ha.noticing.stage_calling hmem rfl)), ha.finishClosed hmem⟩
    exact hfinish.trans (calm_goOn k).advances

/-- `Close` is calm. -/
theorem calm_close (k : Cont) : s.Calm (s.close k) := by
  have hnoted : s.Calm (s.note .closeCalled) := calm_note (by simp [Action.kind]) (by simp)
  have hclosed : s.Calm s.closeAll := hnoted.then rfl
  exact hclosed.trans (calm_post rfl)

/-- The destructor gives up waiting. -/
theorem calm_abandon (t : Thread) : s.Calm (s.abandon t) := by
  have hsame : s.Calm s := calm_of_eq rfl
  refine { hsame with flags := ?_, delivered := ?_, handler := ?_, trace := adds_of_eq rfl }
  · exact ⟨rfl, fun _ => rfl, fun _ => rfl⟩
  · intro c
    simp only [abandon, clearHandlers]
    split <;> rfl
  · exact fun c _ => .inr (.inl rfl)

/-- The other events call nobody. -/
theorem Sound.calm_handle (h : s.Sound) (t : Thread) {e : Event} (he : ¬ e.Tells) :
    s.Calm (s.handle t e) := by
  have hsame : s.Calm s := calm_of_eq rfl
  have hdestroyed (x : HttpConnector) (hx : s.Calm x) : s.Calm (x.note .destroyed) :=
    hx.trans (calm_note (by simp [Action.kind]) (by simp))
  cases e with
  | call args =>
    simp only [HttpConnector.handle, HttpConnector.call]
    split
    · split
      · exact (calm_returns s.nextRequest args.precheck).after rfl
      · exact calm_of_eq rfl
    · exact hsame
  | adopt ch failure => exact h.calm_onAdopt ch failure
  | proceed _ _ | data _ _ | closed _ _ _ | resume _ _ | work _ => exact absurd trivial he
  | close =>
    simp only [HttpConnector.handle]
    split
    · exact calm_close .done
    · exact hsame
  | destroy =>
    simp only [HttpConnector.handle, HttpConnector.destroy]
    split
    · exact (calm_close .destructor).after rfl
    · exact hsame
  | endWait =>
    simp only [HttpConnector.handle, HttpConnector.endWait]
    split
    · split
      · refine hdestroyed _ ?_
        exact calm_of_eq rfl
      · exact calm_abandon t
    · exact hsame
  | endAbandon =>
    simp only [HttpConnector.handle, HttpConnector.endAbandon]
    split <;> exact calm_of_eq rfl
  | clearSink =>
    simp only [HttpConnector.handle, HttpConnector.clearSink]
    split
    · refine hdestroyed _ ?_
      exact calm_of_eq rfl
    · exact hsame
  | _ => exact Updates.calm (updates_handle t trivial) id

/-- Every event is a step of the guarded calls, or none. -/
theorem Sound.advances_handle (h : s.Sound) (t : Thread) (e : Event) :
    s.Advances t (s.handle t e) := by
  cases e with
  | proceed r result => exact h.advances_proceed r t result
  | data ch parsed => exact h.advances_onRecvData ch t parsed
  | closed ch result finishes => exact h.advances_onClosed ch t result finishes
  | resume c result => exact h.advances_resume c t result
  | work w =>
    simp only [HttpConnector.handle]
    split
    · rename_i hmay
      exact advances_doWork hmay
    · exact (calm_of_eq rfl).advances
  | _ => exact (h.calm_handle t id).advances

/-- Every step advances the thread that takes it. -/
theorem Sound.advances_step (h : s.Sound) (e : Thread × Event) : s.Advances e.1 (s.step e) := by
  unfold HttpConnector.step
  split
  · exact Calm.advances (calm_of_eq rfl)
  · exact h.advances_handle e.1 e.2

/-- In the beginning nothing has been counted. -/
theorem counted_create (maxIdlePerKey : ℕ) (handler logSink : Bool) :
    (create maxIdlePerKey handler logSink).Counted .init := by
  refine ⟨Dispatches.State.coherent_init, rfl, rfl, fun c => ?_, ?_⟩
  · constructor
    all_goals simp [create, Dispatches.State.init, Activity.armedOn, Activity.callingOn]
  · constructor
    all_goals simp [create, Dispatches.State.init]

/-- Whatever the threads of a connector do, its calls are a run of guarded calls. -/
theorem counted_run (maxIdlePerKey : ℕ) (handler logSink : Bool)
    (events : List (Thread × Event)) :
    ∃ a, Relation.ReflTransGen (fun a a' => ∃ t, Dispatches.Step t a a') .init a ∧
      (Runs.run step (create maxIdlePerKey handler logSink) events).Counted a := by
  have hstep : ∀ (s : HttpConnector) (a : Dispatches.State Dispatch Thread) (e : Thread × Event),
      s.Sound ∧ s.Counted a → ∃ a', Relation.ReflTransGen (Dispatches.Step e.1) a a' ∧
        (s.step e).Sound ∧ (s.step e).Counted a' := by
    rintro s a e ⟨hsound, hcounted⟩
    obtain ⟨a', hreach, hnext⟩ := hsound.advances_step e a hcounted
    exact ⟨a', hreach, hsound.step e, hnext⟩
  obtain ⟨a, hreach, -, hcounted⟩ := Runs.exists_followed hstep
    ⟨sound_create maxIdlePerKey handler logSink, counted_create maxIdlePerKey handler logSink⟩
    events
  exact ⟨a, hreach.lift id fun _ _ ⟨e, h⟩ => ⟨e.1, h⟩, hcounted⟩

/-! ### What the guards say -/

/-- The armed guards are counted, and each protects one call that is about to be made or is
being made. -/
structure Protects (s : HttpConnector) : Prop where
  /-- `callbacks_in_flight`. -/
  inFlight : s.callbacksInFlight = s.guards.length
  /-- The guards of the handlers of requests. -/
  request : ∀ c t, s.guards.count ⟨t, .request c⟩ =
    if (s.activity c).armedOn = some t ∨ (s.activity c).callingOn = some t then 1 else 0
  /-- The guards of `OnClosed`. -/
  closed : ∀ t, s.guards.count ⟨t, .closed⟩ = s.works.countP fun w => w.thread = some t
  /-- There is at most one. -/
  closedOnce : (s.guards.countP fun g => g.dispatch = .closed) ≤ 1

/-- The work of a thread is what is armed on it and what calls on it. -/
theorem countP_thread (works : List Work) (t : Thread) :
    (works.countP fun w => w.thread = some t) =
      (works.countP fun w => w.armedOn = some t) + works.countP fun w => w.callingOn = some t := by
  induction works with
  | nil => rfl
  | cons w works ih =>
    have hw : ∀ n m : ℕ, n + m + (if w.thread = some t then 1 else 0) =
        n + (if w.armedOn = some t then 1 else 0) +
          (m + if w.callingOn = some t then 1 else 0) := by
      intro n m
      cases w <;> grind [Work.thread, Work.armedOn, Work.callingOn]
    simpa only [List.countP_cons, ih, decide_eq_true_eq] using hw _ _

/-- The guards of a connector are those of its calls. -/
theorem Counted.count_guards (h : s.Counted a) (t : Thread) (d : Dispatch) :
    s.guards.count ⟨t, d⟩ = if (a.stage d).guard = some t then 1 else 0 := by
  rw [← h.coherent.guards, h.guards]
  exact (List.count_map_of_injective s.guards _ injective_pair ⟨t, d⟩).symm

/-- Where the counts are right, what is called is protected. -/
theorem Counted.protects (h : s.Counted a) : s.Protects := by
  refine ⟨?_, fun c t => ?_, fun t => ?_, ?_⟩
  · rw [← h.inFlight, h.coherent.inFlight, h.guards, List.length_map]
  · rw [h.count_guards]
    have harmed := (h.telling c).armed t
    have hcalling := (h.telling c).calling t
    cases hstage : a.stage (.request c) <;> grind [Dispatches.Stage.guard]
  · rw [h.count_guards, countP_thread, h.noticing.armed, h.noticing.calling]
    cases hstage : a.stage .closed <;> simp [Dispatches.Stage.guard]
  · -- all of them are on the thread of the one call
    have heq : ∀ g ∈ s.guards, g.dispatch = .closed → (a.stage .closed).guard = some g.thread := by
      intro g hg hclosed
      have hpos := List.count_pos_iff.mpr hg
      obtain ⟨t, d⟩ := g
      subst hclosed
      rw [h.count_guards] at hpos
      by_contra hne
      rw [if_neg hne] at hpos
      exact absurd hpos (Nat.lt_irrefl 0)
    cases hguard : (a.stage .closed).guard with
    | none =>
      have hnone : (s.guards.countP fun g => g.dispatch = .closed) = 0 := by
        apply List.countP_eq_zero.mpr
        intro g hg hclosed
        have := heq g hg (of_decide_eq_true hclosed)
        rw [hguard] at this
        cases this
      omega
    | some t =>
      have hle : (s.guards.countP fun g => g.dispatch = .closed) ≤ s.guards.count ⟨t, .closed⟩ := by
        apply List.countP_mono_left
        intro g hg hclosed
        have hclosed := of_decide_eq_true hclosed
        have := heq g hg hclosed
        rw [hguard] at this
        obtain ⟨u, d⟩ := g
        simp_all
      rw [h.count_guards, hguard, if_pos rfl] at hle
      exact hle

/-- Whatever the threads of a connector do, `callbacks_in_flight` is the number of the armed
guards, and each of them protects one call of a handler. -/
theorem protects_run (maxIdlePerKey : ℕ) (handler logSink : Bool)
    (events : List (Thread × Event)) :
    (Runs.run step (create maxIdlePerKey handler logSink) events).Protects := by
  obtain ⟨a, -, hcounted⟩ := counted_run maxIdlePerKey handler logSink events
  exact hcounted.protects

end HttpConnector

end Http
