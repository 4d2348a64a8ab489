import TTSignal.Server.Server

/-!
# One QUIC connection for each connection object

A connection object creates its QUIC connection when it handles an initial packet and then
tells the application of it. An initial packet whose source id already stands in the map is
handed to the connection there, again as an initial packet. Each connection object has one
QUIC connection, and keeps it while it lives, exactly when no initial packet is handled on
an open connection that already holds one.
-/

namespace Server

/-- The entry is about the creation of a QUIC connection. -/
def ConnEntry.isInitial : ConnEntry → Bool
  | .serverConnection _ _ | .accepted => true
  | .connClose _ | .closed => false

/-- A QUIC connection was created successfully. -/
def ConnEntry.isCreated : ConnEntry → Bool
  | .serverConnection _ after => after.isSome
  | .accepted | .connClose _ | .closed => false

/-- The first connection of the engine is an initial event. -/
theorem ConnEntry.isInitial_of_isCreated {e : ConnEntry} (h : e.isCreated = true) :
    e.isInitial = true := by
  cases e <;> simp_all [isCreated, isInitial]

namespace SMPServerConnection

variable (c : SMPServerConnection)

/-- What a connection is meant to keep: at most one QUIC connection is created, the
application is told of it at most once, and `conn_` is not assigned while it is set. -/
structure Single : Prop where
  /-- At most one connection of the engine is created. -/
  created : c.trace.countP ConnEntry.isCreated ≤ 1
  /-- At most one is accepted. -/
  accepted : c.trace.count .accepted ≤ 1
  /-- No connection is created where there is one. -/
  kept : ∀ conn after, ConnEntry.serverConnection (some conn) after ∉ c.trace

/-- The entries about the creation of a QUIC connection. -/
def initials : List ConnEntry := c.trace.filter ConnEntry.isInitial

/-- Another state keeps the initial events. -/
@[simp] theorem setState_initials (state : ConnState) :
    (c.setState state).initials = c.initials := rfl

/-- Posting a task keeps them. -/
@[simp] theorem postTask_initials (t : ConnTask) : (c.postTask t).initials = c.initials := by
  unfold postTask
  split <;> rfl

/-- `_CloseCheck` keeps them. -/
@[simp] theorem closeCheck_initials : c.closeCheck.initials = c.initials := by
  unfold closeCheck finishClosing beginClosing initials
  cases hconn : c.conn <;> split_ifs <;> simp_all [ConnEntry.isInitial]

/-- It keeps the aim. -/
@[simp] theorem closeCheck_newState : c.closeCheck.newState = c.newState := by
  unfold closeCheck finishClosing beginClosing
  split_ifs <;> rfl

/-- It keeps the engine's connection. -/
@[simp] theorem closeCheck_conn : c.closeCheck.conn = c.conn := by
  unfold closeCheck finishClosing beginClosing
  split_ifs <;> rfl

/-- So does `RequestClose`. -/
@[simp] theorem requestClose_conn : c.requestClose.conn = c.conn := by
  unfold requestClose
  split_ifs <;> simp [setState]

/-- `RequestClose` keeps the initial events. -/
@[simp] theorem requestClose_initials : c.requestClose.initials = c.initials := by
  unfold requestClose
  split_ifs <;> simp

/-- A callback of the engine keeps them. -/
@[simp] theorem callback_initials (cb : Callback) : (c.callback cb).initials = c.initials := by
  cases cb with
  | closeNotify =>
    simp only [callback, onClose, requestClose_initials]
    rfl
  | handshakeFinished => rfl
  | updateCid newCid => rfl
  | connect => rfl
  | writePacket sent =>
    simp only [callback, writePacket, closeCheck_initials]
    split_ifs <;> rfl

/-- So do the callbacks of one call. -/
@[simp] theorem callbacks_initials (cbs : List Callback) :
    (c.callbacks cbs).initials = c.initials :=
  Runs.invariant (fun c' cb (h : initials c' = c.initials) => (callback_initials c' cb).trans h)
    rfl cbs

/-- Handing a packet to the engine keeps them. -/
@[simp] theorem processPacket_initials (answer : EngineAnswer) :
    (c.processPacket answer).initials = c.initials := by
  unfold processPacket
  split_ifs <;> simp

/-- The calls for an initial packet are recorded. -/
theorem createServerConnection_initials (created : Option ℕ) :
    (c.createServerConnection created).initials =
      c.initials ++ ConnEntry.serverConnection c.conn created ::
        if created.isSome then [ConnEntry.accepted] else [] := by
  unfold createServerConnection
  split_ifs <;>
    simp [initials, assignConn, notifyConnCreated, setState, ConnEntry.isInitial]

variable {c}

/-- What is initial has been noted. -/
theorem mem_trace_of_mem_initials {e : ConnEntry} (h : e ∈ c.initials) : e ∈ c.trace :=
  (List.mem_filter.mp h).1

/-- What has been noted and is initial is among them. -/
theorem mem_initials {e : ConnEntry} (h : e ∈ c.trace) (he : e.isInitial = true) :
    e ∈ c.initials :=
  List.mem_filter.mpr ⟨h, he⟩

/-- What a connection keeps depends on the entries about its creation only. -/
theorem single_iff_initials : c.Single ↔
    c.initials.countP ConnEntry.isCreated ≤ 1 ∧ c.initials.count .accepted ≤ 1 ∧
      ∀ conn after, ConnEntry.serverConnection (some conn) after ∉ c.initials := by
  have hcreated : c.initials.countP ConnEntry.isCreated = c.trace.countP ConnEntry.isCreated := by
    rw [initials, List.countP_filter]
    refine List.countP_congr fun e _ => ?_
    have := ConnEntry.isInitial_of_isCreated (e := e)
    simp_all
  have haccepted : c.initials.count .accepted = c.trace.count .accepted :=
    List.count_filter rfl
  rw [hcreated, haccepted]
  constructor
  · rintro ⟨h, h', hkept⟩
    exact ⟨h, h', fun conn after hmem => hkept conn after (mem_trace_of_mem_initials hmem)⟩
  · rintro ⟨h, h', hkept⟩
    exact ⟨h, h', fun conn after hmem => hkept conn after (mem_initials hmem rfl)⟩

/-- How far a connection has come: it waits for its initial packet, its QUIC connection was
created and is held until the connection closes, or it could not be created. -/
def Held (c : SMPServerConnection) : Prop :=
  c.initials = [] ∧ c.conn = none ∨
    (∃ conn, c.initials = [.serverConnection none (some conn), .accepted] ∧
      (c.conn.isSome = true ∨ c.newState = .freed)) ∨
    c.initials = [.serverConnection none none] ∧ c.newState = .freed

/-- What holds of a connection on which initial packets are handled properly. -/
structure Settled (c : SMPServerConnection) : Prop where
  /-- Nothing but the whole life or the end is asked for. -/
  requested : c.newState = .max ∨ c.newState = .freed
  /-- A connection that has been freed was to be freed. -/
  stopped : c.state = .freed → c.newState = .freed
  /-- The initial events are those that are held. -/
  held : c.Held

namespace Settled

/-- A connection is closing exactly when its close was requested. -/
theorem closing_iff (hc : Settled c) : c.closing = true ↔ c.newState = .freed := by
  unfold closing
  have hstopped := hc.stopped
  obtain hnew | hnew := hc.requested <;> rw [hnew] <;>
    cases hstate : c.state <;> simp_all [ConnState.val]

/-- A new connection is settled. -/
theorem create (cid : Cid) : Settled (create cid) :=
  ⟨Or.inl rfl, by simp [SMPServerConnection.create], Or.inl ⟨rfl, rfl⟩⟩

/-- What a connection does that creates no QUIC connection: it keeps the one it holds, or
is closing. -/
theorem congr (hc : Settled c) {c' : SMPServerConnection} (hinitials : c'.initials = c.initials)
    (hnew : c'.newState = c.newState ∨ c'.newState = .freed)
    (hstopped : c'.state = .freed → c'.newState = .freed)
    (hconn : c'.conn = c.conn ∨ c'.conn = none ∧ c'.newState = .freed) : Settled c' := by
  refine ⟨?_, hstopped, ?_⟩
  · obtain hnew | hnew := hnew
    · rw [hnew]
      exact hc.requested
    · exact Or.inr hnew
  · have hheld := hc.held
    unfold Held at hheld ⊢
    rw [hinitials]
    grind

/-- Posting a task keeps it settled. -/
theorem postTask (hc : Settled c) (t : ConnTask) : Settled (c.postTask t) := by
  refine hc.congr (c.postTask_initials t) (Or.inl ?_) ?_ (Or.inl ?_)
  · unfold SMPServerConnection.postTask
    split <;> rfl
  · have := hc.stopped
    unfold SMPServerConnection.postTask
    split <;> exact this
  · unfold SMPServerConnection.postTask
    split <;> rfl

/-- So does the end as its state. -/
theorem setFreed (hc : Settled c) : Settled (c.setState .freed) :=
  hc.congr rfl (Or.inr rfl) (fun _ => rfl) (Or.inl rfl)

/-- `_CloseCheck` keeps it settled. -/
theorem closeCheck (hc : Settled c) : Settled c.closeCheck := by
  refine hc.congr c.closeCheck_initials (Or.inl c.closeCheck_newState) ?_
    (Or.inl c.closeCheck_conn)
  have hstopped := hc.stopped
  have hclosing := hc.closing_iff
  unfold SMPServerConnection.closeCheck finishClosing beginClosing
  split_ifs <;> simp_all

/-- `RequestClose` keeps it settled. -/
theorem requestClose (hc : Settled c) : Settled c.requestClose := by
  unfold SMPServerConnection.requestClose
  split
  · exact hc.closeCheck
  · exact hc.setFreed.closeCheck

/-- Once its QUIC connection has ended, a connection is closing. -/
theorem onClose (hc : Settled c) : Settled c.onClose := by
  have hnew : c.onClose.newState = .freed := by
    unfold SMPServerConnection.onClose SMPServerConnection.requestClose
    split
    case isTrue hclosing =>
      rw [closeCheck_newState]
      exact hc.closing_iff.mp hclosing
    case isFalse => rw [closeCheck_newState]; rfl
  refine hc.congr ?_ (Or.inr hnew) (fun _ => hnew) (Or.inr ⟨?_, hnew⟩)
  · exact (requestClose_initials _).trans rfl
  · exact (requestClose_conn _).trans rfl

/-- A callback of the engine keeps it settled. -/
theorem callback (hc : Settled c) (cb : Callback) : Settled (c.callback cb) := by
  cases cb with
  | closeNotify => exact hc.onClose
  | handshakeFinished =>
    exact hc.congr rfl (Or.inl rfl) (by simp [SMPServerConnection.callback]) (Or.inl rfl)
  | updateCid newCid => exact hc.congr rfl (Or.inl rfl) hc.stopped (Or.inl rfl)
  | connect =>
    exact hc.congr rfl (Or.inl rfl) (by simp [SMPServerConnection.callback]) (Or.inl rfl)
  | writePacket sent =>
    simp only [SMPServerConnection.callback, SMPServerConnection.writePacket]
    split
    · exact hc.closeCheck
    · exact hc.setFreed.closeCheck

/-- The callbacks of one call keep it settled. -/
theorem callbacks (hc : Settled c) (cbs : List Callback) : Settled (c.callbacks cbs) :=
  Runs.invariant (I := Settled) (fun _ cb hc' => hc'.callback cb) hc cbs

/-- A packet that is handed to the engine keeps it settled. -/
theorem processPacket (hc : Settled c) (answer : EngineAnswer) :
    Settled (c.processPacket answer) := by
  unfold SMPServerConnection.processPacket
  split
  · split
    · exact ((hc.callbacks _).callbacks _).closeCheck
    · exact hc.callbacks _
  · exact hc.closeCheck

/-- An open connection that holds no QUIC connection is still waiting for its initial
packet. -/
theorem createServerConnection (hc : Settled c) (hclosing : c.closing = false)
    (hconn : c.conn = none) (created : Option ℕ) :
    Settled (c.createServerConnection created) := by
  have hnew : c.newState ≠ .freed := by
    intro hnew
    rw [hc.closing_iff.mpr hnew] at hclosing
    exact absurd hclosing (by simp)
  have hempty : c.initials = [] := by
    obtain ⟨hempty, -⟩ | ⟨_, -, hconn' | hnew'⟩ | ⟨-, hnew'⟩ := hc.held
    · exact hempty
    · simp [hconn] at hconn'
    · exact absurd hnew' hnew
    · exact absurd hnew' hnew
  have hinitials := c.createServerConnection_initials created
  rw [hempty, hconn] at hinitials
  cases created with
  | none =>
    exact ⟨Or.inr rfl, fun _ => rfl, Or.inr (Or.inr ⟨hinitials, rfl⟩)⟩
  | some conn =>
    exact ⟨hc.requested, hc.stopped, Or.inr (Or.inl ⟨conn, hinitials, Or.inl rfl⟩)⟩

/-- So does a task, unless it takes an initial packet where there is a connection. -/
theorem runTask (hc : Settled c) (answer : EngineAnswer) {t : ConnTask}
    (ht : ∀ info, t = .recvData info true → c.closing = false → c.conn = none) :
    Settled (c.runTask answer t) := by
  cases t with
  | recvData info initial =>
    simp only [SMPServerConnection.runTask, SMPServerConnection.recvData]
    split
    · exact hc.closeCheck
    · rename_i hclosing
      have hclosing : c.closing = false := by simpa using hclosing
      cases initial with
      | false => exact hc.processPacket answer
      | true =>
        have hcreated := hc.createServerConnection hclosing (ht info rfl hclosing) answer.created
        exact hcreated.processPacket answer
  | accept bAccept =>
    simp only [SMPServerConnection.runTask, SMPServerConnection.accept]
    split_ifs
    · exact hc.closeCheck
    · exact hc
    · exact hc.setFreed.closeCheck
  | close => exact hc.requestClose
  | nextTick =>
    simp only [SMPServerConnection.runTask, SMPServerConnection.nextTick]
    split_ifs
    · exact hc.closeCheck
    · exact (hc.callbacks _).closeCheck
    · exact hc

end Settled

/-- The next task handles an initial packet on an open connection. -/
def HandlesInitial (c : SMPServerConnection) : Prop :=
  c.shutDown = false ∧ c.closing = false ∧ ∃ info, c.tasks.head? = some (.recvData info true)

namespace Settled

/-- An event keeps it settled under the same condition. -/
theorem step (hc : Settled c) (e : ConnEvent)
    (he : ∀ answer, e = .run answer → c.HandlesInitial → c.conn = none) :
    Settled (c.step e) := by
  cases e with
  | close => exact hc.postTask _
  | accept bAccept => exact hc.postTask _
  | nextTick => exact hc.congr rfl (Or.inl rfl) hc.stopped (Or.inl rfl)
  | processRecvData info initial => exact hc.postTask _
  | run answer =>
    simp only [SMPServerConnection.step]
    split
    case h_1 => exact hc
    case h_2 t ts htasks =>
      split
      case isTrue => exact hc
      case isFalse hlive =>
        have hpopped : Settled { c with tasks := ts } :=
          hc.congr rfl (Or.inl rfl) hc.stopped (Or.inl rfl)
        refine hpopped.runTask answer fun info ht hclosing => ?_
        refine he answer rfl ⟨by simpa using hlive, hclosing, info, ?_⟩
        rw [htasks, ht, List.head?_cons]
  | callback cb =>
    simp only [SMPServerConnection.step]
    split
    · exact hc
    · exact hc.callback cb
  | shutdown =>
    simp only [SMPServerConnection.step]
    split
    · refine hc.congr ?_ (Or.inl rfl) hc.stopped (Or.inl rfl)
      simp [initials, ConnEntry.isInitial]
    · exact hc

/-- A settled connection is single. -/
theorem single (hc : Settled c) : c.Single := by
  rw [single_iff_initials]
  obtain ⟨hinitials, -⟩ | ⟨conn, hinitials, -⟩ | ⟨hinitials, -⟩ := hc.held <;> rw [hinitials]
  · simp
  · simp [List.countP_cons, ConnEntry.isCreated]
  · simp [ConnEntry.isCreated]

end Settled

/-- An initial packet that is handled on an open connection with a QUIC connection has
`conn_` assigned again. -/
theorem not_single_of_handlesInitial (hc : c.HandlesInitial) (hconn : c.conn ≠ none)
    (answer : EngineAnswer) : ¬ (c.step (.run answer)).Single := by
  obtain ⟨hlive, hclosing, info, hhead⟩ := hc
  obtain ⟨conn, hconn⟩ := Option.ne_none_iff_exists'.mp hconn
  obtain ⟨ts, htasks⟩ := List.head?_eq_some_iff.mp hhead
  intro hsingle
  refine (single_iff_initials.mp hsingle).2.2 conn answer.created ?_
  have hstep : c.step (.run answer) =
      ({ c with tasks := ts }.createServerConnection answer.created).processPacket answer := by
    have hclosing' : ¬ { c with tasks := ts }.closing = true := by
      change ¬ c.closing = true
      simp [hclosing]
    simp only [step, htasks]
    rw [if_neg (by simp [hlive])]
    simp only [runTask, recvData]
    rw [if_neg hclosing', if_pos trivial]
  rw [hstep, processPacket_initials, createServerConnection_initials, hconn]
  simp

end SMPServerConnection

/-- A property holds of every connection object. -/
def SMPServer.All (I : SMPServerConnection → Prop) (s : SMPServer) : Prop :=
  ∀ id c, s.conns id = some c → I c

namespace SMPServer.All

variable {I : SMPServerConnection → Prop} {s : SMPServer}

/-- One connection handles an event. -/
theorem connStep (hs : s.All I) {id : ℕ} {e : ConnEvent}
    (he : ∀ c, s.conns id = some c → I c → I (c.step e)) : (s.connStep id e).All I := by
  intro id' c' hc'
  by_cases hid : id' = id
  · subst hid
    simp only [SMPServer.connStep, Function.update_self, Option.map_eq_some_iff] at hc'
    obtain ⟨c, hc, rfl⟩ := hc'
    exact he c hc (hs id' c hc)
  · simp only [SMPServer.connStep, Function.update_of_ne hid] at hc'
    exact hs id' c' hc'

/-- What holds of all connections holds behind a loop. -/
theorem foldl {α : Type} (f : SMPServer → α → SMPServer)
    (hf : ∀ s a, s.All I → (f s a).All I) (l : List α) (hs : s.All I) : (l.foldl f s).All I := by
  induction l generalizing s with
  | nil => exact hs
  | cons a l ih => exact ih (hf s a hs)

section

variable (hpost : ∀ c e, ConnEvent.Posts e → I c → I (c.step e))
include hpost

/-- A close check at most posts tasks to connections. -/
theorem closeCheck (hs : s.All I) : s.closeCheck.All I := by
  have hdrain : s.beginDrain.All I := by
    unfold SMPServer.beginDrain
    split
    · have hfold := foldl (fun s (entry : (_ : Cid) × ℕ) => s.connStep entry.2 .close)
        (fun s entry hs => connStep hs fun c _ => hpost c .close trivial) s.connsMap.entries hs
      exact hfold
    · exact hs
  unfold SMPServer.closeCheck SMPServer.destroyEngine SMPServer.endDrain
  split_ifs
  all_goals first | exact hdrain | exact hs

/-- `RequestClose` of the server keeps it. -/
theorem requestClose (hs : s.All I) : s.requestClose.All I := by
  unfold SMPServer.requestClose
  split
  · exact closeCheck hpost hs
  · have hset : (s.setState .freed).All I := hs
    exact closeCheck hpost hset

variable (hcreate : ∀ cid, I (SMPServerConnection.create cid))
include hcreate

/-- A new connection keeps it. -/
theorem createConnection (hs : s.All I) (info : RecvInfo) (created : Bool) :
    (s.createConnection info created).All I := by
  unfold SMPServer.createConnection
  split
  · exact closeCheck hpost hs
  · split
    · exact connStep hs fun c _ => hpost c _ trivial
    · split
      · refine closeCheck hpost fun id c hc => ?_
        by_cases hid : id = s.nextConnId
        · subst hid
          simp only [SMPServer.addConnection, Function.update_self, Option.some.injEq] at hc
          exact hc ▸ hpost _ _ trivial (hcreate info.scid)
        · simp only [SMPServer.addConnection, Function.update_of_ne hid] at hc
          exact hs id c hc
      · exact hs

/-- What new connections have, and calls and the event at hand preserve, is kept. -/
theorem step (hs : s.All I) (e : Event)
    (he : ∀ id ce c, e = .conn id ce → s.conns id = some c → I c → I (c.step ce)) :
    (s.step e).All I := by
  cases e with
  | createConnection info => exact hs
  | close => exact hs
  | recvData packets =>
    simp only [SMPServer.step, SMPServer.onRecvData]
    split
    · exact closeCheck hpost hs
    · refine closeCheck hpost (foldl _ (fun s p hs => ?_) packets hs)
      obtain ⟨_ | id | _, info⟩ := p
      · exact hs
      · exact connStep hs fun c _ => hpost c _ trivial
      · exact hs
  | udpClosed => exact hs
  | run created =>
    simp only [SMPServer.step]
    split
    case h_1 => exact hs
    case h_2 t ts _ =>
      have hpopped : SMPServer.All I { s with tasks := ts } := hs
      cases t with
      | createConnection info => exact createConnection hpost hcreate hpopped info created
      | closeCheck => exact closeCheck hpost hpopped
      | close => exact requestClose hpost hpopped
      | udpClosed =>
        have hclosed : SMPServer.All I { s with tasks := ts, udpSocket := false } := hs
        exact requestClose hpost hclosed
      | onClosed => exact hs
  | conn id ce =>
    have hconn : (s.connStep id ce).All I := connStep hs fun c hc => he id ce c rfl hc
    cases ce with
    | shutdown =>
      simp only [SMPServer.step, SMPServer.connShutdown]
      split
      · split
        · exact hconn
        · exact hs
      · exact hs
    | _ => exact hconn

end

end SMPServer.All

/-- An initial packet is handled on an open connection only when that connection holds no
QUIC connection. -/
def HandlesFirstInitial (s : SMPServer) : Event → Prop
  | .conn id (.run _) => ∀ c, s.conns id = some c → c.HandlesInitial → c.conn = none
  | _ => True

/-- A property of connections that every call which posts a task leaves alone. -/
theorem settled_of_posts (c : SMPServerConnection) (e : ConnEvent) (he : e.Posts)
    (hc : c.Settled) : (c.step e).Settled := by
  refine hc.step e ?_
  rintro answer rfl
  exact absurd he (by simp [ConnEvent.Posts])

/-- Every connection object creates at most one QUIC connection, is announced at most once,
and keeps its QUIC connection while it lives, in every state of a run, exactly when no
initial packet is handled on an open connection that holds one. -/
theorem single_iff_handlesFirstInitial (events : List Event) :
    (∀ first, first <+: events →
        (Runs.run SMPServer.step SMPServer.create first).All SMPServerConnection.Single) ↔
      Runs.Meets SMPServer.step HandlesFirstInitial SMPServer.create events := by
  refine Runs.always_iff_meets (C := HandlesFirstInitial)
    (I := SMPServer.All SMPServerConnection.Settled) (fun s hs id c hc => (hs id c hc).single)
    (fun s e hs he => ?_) (fun s e hs he hsingle => ?_)
    (fun id c hc => absurd hc (by simp [SMPServer.create])) events
  · refine SMPServer.All.step settled_of_posts SMPServerConnection.Settled.create hs e ?_
    rintro id ce c rfl hc hsettled
    refine hsettled.step ce ?_
    rintro answer rfl
    exact he c hc
  · cases e with
    | conn id ce =>
      cases ce with
      | run answer =>
        simp only [HandlesFirstInitial, not_forall] at he
        obtain ⟨c, hc, hhandles, hconn⟩ := he
        have hstep : (s.step (.conn id (.run answer))).conns id = some (c.step (.run answer)) := by
          simp [SMPServer.step, SMPServer.connStep, hc]
        exact SMPServerConnection.not_single_of_handlesInitial hhandles hconn answer
          (hsingle id _ hstep)
      | _ => exact absurd trivial he
    | _ => exact absurd trivial he

/-- Two initial packets of one peer are handed over before the first is handled. -/
def duplicateRun : List Event :=
  [.createConnection ⟨[1]⟩, .createConnection ⟨[1]⟩, .run true, .run true,
    .conn 1 (.run ⟨some 0, [], true, []⟩), .conn 1 (.run ⟨some 1, [], true, []⟩)]

/-- The connection object creates a second QUIC connection over the first one. -/
theorem duplicateRun_not_single :
    ((Runs.run SMPServer.step SMPServer.create duplicateRun).conns 1).map
        SMPServerConnection.trace =
      some [.serverConnection none (some 0), .accepted,
        .serverConnection (some 0) (some 1), .accepted] ∧
    ¬ (Runs.run SMPServer.step SMPServer.create duplicateRun).All SMPServerConnection.Single := by
  have htrace : ((Runs.run SMPServer.step SMPServer.create duplicateRun).conns 1).map
      SMPServerConnection.trace =
      some [.serverConnection none (some 0), .accepted,
        .serverConnection (some 0) (some 1), .accepted] := by decide
  refine ⟨htrace, fun h => ?_⟩
  obtain ⟨c, hc, hctrace⟩ := Option.map_eq_some_iff.mp htrace
  refine (h 1 c hc).kept 0 (some 1) ?_
  rw [hctrace]
  simp

end Server
