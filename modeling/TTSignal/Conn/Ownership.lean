import TTSignal.Conn.Tunnel
import TTSignal.Runs
import TTSignal.Traces

/-!
# A connection and its tunnel

Inside a MASQUE tunnel two connections point to each other and have an event queue each.
The inner connection makes the tunnel, asks it to close, and deletes it when it handles the
task that the tunnel posts from `OnEventProcShutdown`; the tunnel posts tasks to the inner
connection as long as its own queue lasts.

What one connection asks of the other stands in its record and in its pointer; here it is
carried out at the other one.
-/

namespace Conn

open Runs Traces

/-- The tunnel of a connection. -/
structure Tunnel where
  /-- The connection to the proxy. -/
  conn : SMPConnection
  /-- `OnEventProcShutdown` has been called. -/
  shutDown : Bool

/-- What happens between the two connections. -/
inductive Happening where
  /-- `CreateMasqueTunnel` has made the tunnel. -/
  | created
  /-- The event queue of the tunnel has shut down. -/
  | shutDown
  /-- The tunnel posts a task to the inner connection. -/
  | posted (task : Task)
  /-- The inner connection is detached. -/
  | detached
  /-- The inner connection deletes the tunnel. -/
  | deleted
  deriving DecidableEq

/-- An inner connection and its tunnel, as long as there is one. -/
structure Pair where
  /-- The configuration of the tunnel. -/
  tunnelConfig : Config
  /-- The inner connection. -/
  inner : SMPConnection
  /-- The tunnel. -/
  tunnel : Option Tunnel
  /-- What has happened. -/
  trace : List Happening

/-- What can happen to the pair. -/
inductive PairEvent where
  /-- An event of the inner connection. -/
  | inner (e : SMPConnection.Event)
  /-- An event of the tunnel. -/
  | tunnel (e : SMPConnection.Event)
  /-- `MasqueOnDatagram` of the tunnel, with a packet for the inner connection. -/
  | tunnelDatagram
  /-- The engine of the inner connection writes a packet. -/
  | innerSends
  /-- `OnEventProcShutdown` of the tunnel. -/
  | tunnelShutdown

/-- Events that are not calls of the other connection. -/
def FromOutside : SMPConnection.Event → Bool
  | .tunnelReady _ => false
  | .tunnelClosed => false
  | .masqueConnectToProxy => false
  | .engineCall .masqueOnTunneledPacket => false
  | .engineCall .masqueSendDatagram => false
  | _ => true

/-- What a connection has recorded in a step. -/
def recorded (before after : SMPConnection) : List Entry := after.trace.drop before.trace.length

/-- The task that `MasqueOnConnectUdpResponse` posts. -/
def readyTask : Entry → Option Task
  | .tunnelReady result => some (.masqueOnTunnelReady result)
  | _ => none

namespace Pair

variable (s : Pair)

/-- A connection without a tunnel. -/
def initial (config tunnelConfig : Config) : Pair where
  tunnelConfig := tunnelConfig
  inner := SMPConnection.create config false
  tunnel := none
  trace := []

/-- A tunnel has been made and is told to connect to the proxy. -/
def newTunnel : Tunnel :=
  ⟨(SMPConnection.create s.tunnelConfig true).step .masqueConnectToProxy, false⟩

/-- The tunnel that the inner connection has made when its pointer is set. -/
def attach (t : SMPConnection) : Pair :=
  if s.inner.masqueTunnel = false ∧ t.masqueTunnel = true then
    { s with tunnel := some s.newTunnel, trace := s.trace ++ [.created] }
  else s

/-- The tunnel is asked to close if the inner connection has asked for that. -/
def askToClose (t : SMPConnection) : Pair :=
  if .tunnelClose ∈ recorded s.inner t then
    { s with tunnel := s.tunnel.map fun o => { o with conn := o.conn.close } }
  else s

/-- The inner connection has deleted the tunnel when its pointer is clear again. -/
def release (t : SMPConnection) : Pair :=
  if s.inner.masqueTunnel = true ∧ t.masqueTunnel = false then
    { s with tunnel := none, trace := s.trace ++ [.deleted] }
  else s

/-- The detachment of the inner connection is recorded. -/
def markDetached (t : SMPConnection) : Pair :=
  if .detach ∈ recorded s.inner t then { s with trace := s.trace ++ [.detached] } else s

/-- The inner connection has become another. -/
def withInner (t : SMPConnection) : Pair := { s with inner := t }

/-- A step of the inner connection, with what it does to the tunnel. -/
def innerBecomes (t : SMPConnection) : Pair :=
  ((((s.attach t).askToClose t).release t).markDetached t).withInner t

/-- The tunnel posts tasks to the inner connection. -/
def post (tasks : List Task) : Pair :=
  { s with
    inner := tasks.foldl SMPConnection.postTask s.inner
    trace := s.trace ++ tasks.map Happening.posted }

/-- A step of the tunnel, with what it posts. -/
def tunnelBecomes (before after : SMPConnection) : Pair :=
  { s with tunnel := some ⟨after, false⟩ }.post ((recorded before after).filterMap readyTask)

/-- `MasqueOnDatagram`. -/
def onDatagram (o : Tunnel) : Pair :=
  if o.conn.masqueInner = true ∧ o.conn.phase ≠ .idle then
    s.post [.engineCall .masqueOnTunneledPacket]
  else s

/-- `MasqueSendDatagram`, from the engine of the inner connection. -/
def sendDatagram : Pair :=
  if s.inner.phase ≠ .idle ∧ ConnState.closingSock.val < s.inner.state.val ∧
      s.inner.masqueTunnel = true then
    { s with
      tunnel := s.tunnel.map fun o =>
        { o with conn := o.conn.step (.engineCall .masqueSendDatagram) } }
  else s

/-- What the shutdown of the tunnel's queue does. -/
def shut (o : Tunnel) : Pair :=
  { s with
    tunnel := some ⟨{ o.conn with masqueInner := false }, true⟩
    trace := s.trace ++ [.shutDown] }

/-- `OnEventProcShutdown` of the tunnel, with what it does to the inner connection. -/
def onEventProcShutdown (o : Tunnel) : Pair :=
  if o.conn.masqueInner = true then
    (s.shut o).post [.masqueOnTunnelClosed]
  else s.shut o

/-- One event. A queue shuts down behind its detachment, and afterwards nothing runs on it. -/
def step : PairEvent → Pair
  | .inner e => if FromOutside e then s.innerBecomes (s.inner.step e) else s
  | .tunnel e =>
    match s.tunnel with
    | some ⟨conn, false⟩ => if FromOutside e then s.tunnelBecomes conn (conn.step e) else s
    | _ => s
  | .tunnelDatagram =>
    match s.tunnel with
    | some ⟨conn, false⟩ => s.onDatagram ⟨conn, false⟩
    | _ => s
  | .innerSends => s.sendDatagram
  | .tunnelShutdown =>
    match s.tunnel with
    | some ⟨conn, false⟩ =>
      if .detach ∈ conn.trace ∧ conn.phase = .idle then s.onEventProcShutdown ⟨conn, false⟩ else s
    | _ => s

/-- A task is posted. -/
def IsPosted : Happening → Prop
  | .posted _ => True
  | _ => False

/-- The two connections fit together. -/
structure Owned (s : Pair) : Prop where
  /-- The inner connection is tied to its tunnel. -/
  tied : s.inner.Tied
  /-- Without a tunnel the pointer is clear, and no end is told. -/
  absent : s.tunnel = none → s.inner.masqueTunnel = false ∧ s.inner.closes = 0
  /-- The pointer to a tunnel is set. -/
  present : ∀ o, s.tunnel = some o → s.inner.masqueTunnel = true
  /-- A tunnel whose queue lasts has not told its end. -/
  lasting : ∀ o, s.tunnel = some o → o.shutDown = false → s.inner.closes = 0
  /-- A tunnel tells its end once, when its queue has shut down. -/
  ended : ∀ o, s.tunnel = some o → o.shutDown = true →
    s.inner.closes ≤ 1 ∧ .shutDown ∈ s.trace
  /-- A connection makes no tunnel behind the one it has deleted. -/
  last : .deleted ∈ s.trace → s.tunnel = none ∧ s.inner.masqueRole = .inner
  /-- The detachment is that of the inner connection. -/
  detached : .detached ∈ s.trace ↔ .detach ∈ s.inner.trace
  /-- The inner connection is deleted once at most. -/
  deletedOnce : NoneAfter (· = .deleted) (· = .deleted) s.trace
  /-- It is deleted only behind its shutdown. -/
  behindShutdown : Preceded (· = .deleted) (· = .shutDown) s.trace
  /-- Nothing is posted to it behind its detachment. -/
  silent : NoneAfter (· = .detached) IsPosted s.trace

variable {s : Pair}

/-- At first there is no tunnel. -/
theorem owned_initial (config tunnelConfig : Config) : (initial config tunnelConfig).Owned where
  tied := SMPConnection.tied_create config false
  absent := fun _ => ⟨rfl, rfl⟩
  present := by simp [initial]
  lasting := by simp [initial]
  ended := by simp [initial]
  last := by simp [initial]
  detached := by simp [initial, SMPConnection.create]
  deletedOnce := noneAfter_nil
  behindShutdown := preceded_nil
  silent := noneAfter_nil

/-- As long as there is a tunnel, the inner connection is not detached. -/
theorem Owned.not_detached (h : s.Owned) {o : Tunnel} (ho : s.tunnel = some o) :
    .detached ∉ s.trace := by
  intro hmem
  have hnone := (h.tied.detached (h.detached.mp hmem)).2
  rw [h.present o ho] at hnone
  cases hnone

/-- A change of the tunnel alone. -/
theorem Owned.withTunnel (h : s.Owned) {f : Tunnel → Tunnel}
    (hf : ∀ o, (f o).shutDown = o.shutDown) : Owned { s with tunnel := s.tunnel.map f } := by
  have hmapped {o : Tunnel} (ho : s.tunnel.map f = some o) :
      ∃ o', s.tunnel = some o' ∧ o.shutDown = o'.shutDown := by
    obtain ⟨o', ho', rfl⟩ := Option.map_eq_some_iff.mp ho
    exact ⟨o', ho', hf o'⟩
  refine ⟨h.tied, fun hnone => h.absent (by simpa using hnone), ?_, ?_, ?_, ?_, h.detached,
    h.deletedOnce, h.behindShutdown, h.silent⟩
  · intro o ho
    obtain ⟨o', ho', -⟩ := hmapped ho
    exact h.present o' ho'
  · intro o ho hlasts
    obtain ⟨o', ho', hsame⟩ := hmapped ho
    exact h.lasting o' ho' (hsame.symm.trans hlasts)
  · intro o ho hshut
    obtain ⟨o', ho', hsame⟩ := hmapped ho
    exact h.ended o' ho' (hsame.symm.trans hshut)
  · intro hmem
    obtain ⟨hnone, hrole⟩ := h.last hmem
    exact ⟨by simp [hnone], hrole⟩

/-- The mark of a detachment, if there is one. -/
theorem markDetached_eq (s : Pair) {t : SMPConnection} (hbegins : s.inner.trace <+: t.trace) :
    ∃ mark, s.markDetached t = { s with trace := s.trace ++ mark } ∧
      (mark = [] ∨ mark = [.detached] ∧ .detach ∈ t.trace) ∧
        (.detach ∈ t.trace → .detach ∈ s.inner.trace ∨ .detached ∈ mark) := by
  obtain ⟨new, hnew⟩ := hbegins
  have hrecorded : recorded s.inner t = new := by rw [recorded, ← hnew, List.drop_left]
  unfold markDetached
  rw [hrecorded]
  split
  · rename_i hmem
    refine ⟨_, rfl, Or.inr ⟨rfl, ?_⟩, fun _ => Or.inr (List.mem_singleton.mpr rfl)⟩
    rw [← hnew]
    exact List.mem_append_right _ hmem
  · rename_i hmem
    refine ⟨[], by simp, Or.inl rfl, fun hin => Or.inl ?_⟩
    rw [← hnew] at hin
    exact (List.mem_append.mp hin).resolve_right hmem

/-- A mark is none of the other happenings. -/
theorem of_mem_mark {mark : List Happening} {t : SMPConnection}
    (h : mark = [] ∨ mark = [.detached] ∧ .detach ∈ t.trace) :
    ∀ a ∈ mark, a = .detached ∧ .detach ∈ t.trace := by
  rcases h with rfl | ⟨rfl, hmem⟩
  · simp
  · intro a ha
    exact ⟨List.mem_singleton.mp ha, hmem⟩

/-- A step of the inner connection that leaves the pointer as it is. -/
theorem Owned.moved (h : s.Owned) {t : SMPConnection} (hmoved : SMPConnection.Moved s.inner t)
    (hkept : t.masqueTunnel = s.inner.masqueTunnel) : ((s.markDetached t).withInner t).Owned := by
  obtain ⟨mark, hmark, hmarked, hfull⟩ := markDetached_eq s hmoved.trace_prefix
  have hall := of_mem_mark hmarked
  have hmem {a : Happening} (ha : a ≠ .detached) (hin : a ∈ s.trace ++ mark) : a ∈ s.trace :=
    (List.mem_append.mp hin).resolve_right fun hin => ha (hall a hin).1
  rw [hmark]
  refine ⟨hmoved.tied, ?_, ?_, ?_, ?_, ?_, ?_, ?_, ?_, ?_⟩
  · intro hnone
    obtain ⟨hclear, hcloses⟩ := h.absent hnone
    exact ⟨hkept.trans hclear, hmoved.closes_eq.trans hcloses⟩
  · intro o ho
    exact hkept.trans (h.present o ho)
  · intro o ho hlasts
    exact hmoved.closes_eq.trans (h.lasting o ho hlasts)
  · intro o ho hshut
    obtain ⟨hle, hin⟩ := h.ended o ho hshut
    have hcount : t.closes ≤ 1 := by rw [hmoved.closes_eq]; exact hle
    exact ⟨hcount, List.mem_append_left _ hin⟩
  · intro hin
    obtain ⟨hnone, hrole⟩ := h.last (hmem (by decide) hin)
    exact ⟨hnone, (hmoved.role (by rw [hrole]; decide)).trans hrole⟩
  · constructor
    · intro hin
      rcases List.mem_append.mp hin with hin | hin
      · exact hmoved.trace_prefix.subset (h.detached.mp hin)
      · exact (hall _ hin).2
    · intro hin
      rcases hfull hin with hin | hin
      · exact List.mem_append_left _ (h.detached.mpr hin)
      · exact List.mem_append_right _ hin
  · rcases hmarked with rfl | ⟨rfl, -⟩
    · simpa [withInner] using h.deletedOnce
    · exact h.deletedOnce.concat_other (by decide)
  · exact h.behindShutdown.append fun a ha => by rw [(hall a ha).1]; decide
  · rcases hmarked with rfl | ⟨rfl, -⟩
    · simpa [withInner] using h.silent
    · exact h.silent.concat_other id

/-- The request to close changes neither the inner connection nor the record. -/
theorem Owned.askToClose (h : s.Owned) (t : SMPConnection) :
    (s.askToClose t).Owned ∧ (s.askToClose t).inner = s.inner ∧
      (s.askToClose t).trace = s.trace ∧
        ∀ o, s.tunnel = some o → ∃ o', (s.askToClose t).tunnel = some o' ∧
          o'.shutDown = o.shutDown := by
  unfold Pair.askToClose
  split
  · refine ⟨h.withTunnel fun _ => rfl, rfl, rfl, fun o ho => ?_⟩
    exact ⟨_, congrArg (Option.map _) ho, rfl⟩
  · exact ⟨h, rfl, rfl, fun o ho => ⟨o, ho, rfl⟩⟩

/-- A step of the inner connection in which the pointer stays. -/
theorem Owned.innerBecomes_kept (h : s.Owned) {t : SMPConnection}
    (hmoved : SMPConnection.Moved s.inner t) (hkept : t.masqueTunnel = s.inner.masqueTunnel) :
    (s.innerBecomes t).Owned := by
  have hattach : s.attach t = s := if_neg fun hc => by simp [hkept, hc.1] at hc
  obtain ⟨hasked, hinner, -, -⟩ := h.askToClose t
  have hrelease : (s.askToClose t).release t = s.askToClose t :=
    if_neg fun hc => by rw [hinner, ← hkept, hc.2] at hc; simp at hc
  rw [innerBecomes, hattach, hrelease]
  exact hasked.moved (by rw [hinner]; exact hmoved) (by rw [hinner]; exact hkept)

/-- A step of the inner connection in which the tunnel is made. -/
theorem Owned.innerBecomes_made (h : s.Owned) {t : SMPConnection}
    (hmoved : SMPConnection.Moved s.inner t) (hclear : s.inner.masqueTunnel = false)
    (hmade : t.masqueTunnel = true) (hrole : s.inner.masqueRole = .none) :
    (s.innerBecomes t).Owned := by
  have hnone : s.tunnel = none := by
    cases ho : s.tunnel with
    | none => rfl
    | some o =>
      have hset := h.present o ho
      rw [hclear] at hset
      cases hset
  have hundeleted : .deleted ∉ s.trace := by
    intro hmem
    have hinner := (h.last hmem).2
    rw [hrole] at hinner
    cases hinner
  have hattached : .detach ∉ t.trace := by
    intro hmem
    have hfree := (hmoved.tied.detached hmem).2
    rw [hmade] at hfree
    cases hfree
  have hattach : s.attach t =
      { s with tunnel := some s.newTunnel, trace := s.trace ++ [.created] } :=
    if_pos ⟨hclear, hmade⟩
  obtain ⟨o, hasked, ho⟩ : ∃ o, (s.attach t).askToClose t =
      { s with tunnel := some o, trace := s.trace ++ [.created] } ∧ o.shutDown = false := by
    rw [hattach]
    unfold Pair.askToClose
    split
    · exact ⟨_, rfl, rfl⟩
    · exact ⟨_, rfl, rfl⟩
  have hbecomes : s.innerBecomes t =
      { s with inner := t, tunnel := some o, trace := s.trace ++ [.created] } := by
    have hrelease : Pair.release { s with tunnel := some o, trace := s.trace ++ [.created] } t =
        { s with tunnel := some o, trace := s.trace ++ [.created] } :=
      if_neg fun hc => by rw [hmade] at hc; simp at hc
    have hmark : Pair.markDetached { s with tunnel := some o, trace := s.trace ++ [.created] } t =
        { s with tunnel := some o, trace := s.trace ++ [.created] } :=
      if_neg fun hmem => hattached (List.mem_of_mem_drop hmem)
    rw [innerBecomes, hasked, hrelease, hmark]
    rfl
  have hin {a : Happening} (ha : a ≠ .created) (hmem : a ∈ s.trace ++ [.created]) :
      a ∈ s.trace := by
    simpa [ha] using hmem
  rw [hbecomes]
  refine ⟨hmoved.tied, by simp, fun _ _ => hmade, fun _ _ _ => ?_, ?_, ?_, ?_,
    h.deletedOnce.concat_other (by decide), h.behindShutdown.append (by simp),
    h.silent.concat_other id⟩
  · exact hmoved.closes_eq.trans (h.absent hnone).2
  · intro o' ho' hshut
    cases ho'
    rw [ho] at hshut
    cases hshut
  · intro hmem
    exact absurd (hin (by decide) hmem) hundeleted
  · constructor
    · intro hmem
      exact hmoved.trace_prefix.subset (h.detached.mp (hin (by decide) hmem))
    · intro hmem
      exact absurd hmem hattached

/-- The step of the inner connection in which the tunnel is deleted. -/
theorem Owned.innerBecomes_ends (h : s.Owned) {e : SMPConnection.Event}
    (hend : s.inner.EndsTunnel e) : (s.innerBecomes (s.inner.step e)).Owned := by
  have hcloses : 0 < s.inner.closes := by
    obtain ⟨rest, hevents⟩ := List.head?_eq_some_iff.mp hend.2.2
    simp [SMPConnection.closes, hevents]
  obtain ⟨o, ho⟩ : ∃ o, s.tunnel = some o := by
    cases ho : s.tunnel with
    | none =>
      have hnone := (h.absent ho).2
      omega
    | some o => exact ⟨o, rfl⟩
  have hset := h.present o ho
  have hshut : o.shutDown = true := by
    rw [← Bool.not_eq_false]
    intro hlasts
    have hnone := h.lasting o ho hlasts
    omega
  obtain ⟨hle, hshutDown⟩ := h.ended o ho hshut
  obtain ⟨htied, hcount, hbegins, hrole, hclear⟩ :=
    SMPConnection.step_of_endsTunnel h.tied hset hend
  generalize s.inner.step e = t at *
  have hundeleted : .deleted ∉ s.trace := by
    intro hmem
    rw [(h.last hmem).1] at ho
    cases ho
  have hattach : s.attach t = s := if_neg fun hc => by simp [hset] at hc
  obtain ⟨-, hinner, htrace, -⟩ := h.askToClose t
  have hrelease : (s.askToClose t).release t =
      { s.askToClose t with tunnel := none, trace := s.trace ++ [.deleted] } := by
    rw [release, if_pos ⟨by rw [hinner]; exact hset, hclear⟩, htrace]
  obtain ⟨mark, hmark, hmarked, hfull⟩ := markDetached_eq
    { s.askToClose t with tunnel := none, trace := s.trace ++ [.deleted] }
    (t := t) (by rw [hinner]; exact hbegins)
  have hall := of_mem_mark hmarked
  rw [innerBecomes, hattach, hrelease, hmark]
  have honce : NoneAfter (· = .deleted) (· = .deleted) (s.trace ++ [.deleted]) :=
    h.deletedOnce.concat fun _ a ha heq => hundeleted (heq ▸ ha)
  have hbehind : Preceded (· = .deleted) (· = .shutDown) (s.trace ++ [.deleted]) :=
    h.behindShutdown.concat fun _ => ⟨_, hshutDown, rfl⟩
  have hsilent : NoneAfter (· = .detached) IsPosted (s.trace ++ [.deleted]) :=
    h.silent.concat_other id
  refine ⟨htied, fun _ => ⟨hclear, ?_⟩, by simp [withInner], by simp [withInner],
    by simp [withInner], fun _ => ⟨rfl, hrole⟩, ?_, ?_, ?_, ?_⟩
  · change t.closes = 0
    omega
  · constructor
    · intro hmem
      rcases List.mem_append.mp hmem with hmem | hmem
      · have hin : .detached ∈ s.trace := by simpa using hmem
        exact hbegins.subset (h.detached.mp hin)
      · exact (hall _ hmem).2
    · intro hmem
      rcases hfull hmem with hmem | hmem
      · rw [hinner] at hmem
        exact List.mem_append_left _ (List.mem_append_left _ (h.detached.mpr hmem))
      · exact List.mem_append_right _ hmem
  · rcases hmarked with rfl | ⟨rfl, -⟩
    · simpa [withInner] using honce
    · exact honce.concat_other (by decide)
  · exact hbehind.append fun a ha => by rw [(hall a ha).1]; decide
  · rcases hmarked with rfl | ⟨rfl, -⟩
    · simpa [withInner] using hsilent
    · exact hsilent.concat_other id

/-- Tasks that the tunnel posts reach an inner connection that is not detached. -/
theorem Owned.posted (h : s.Owned) {o : Tunnel} (ho : s.tunnel = some o) {tasks : List Task}
    (htied : (s.post tasks).inner.Tied)
    (hpointer : (s.post tasks).inner.masqueTunnel = s.inner.masqueTunnel)
    (htrace : (s.post tasks).inner.trace = s.inner.trace)
    (hlasting : o.shutDown = false → (s.post tasks).inner.closes = 0)
    (hended : o.shutDown = true → (s.post tasks).inner.closes ≤ 1) : (s.post tasks).Owned := by
  have hin {a : Happening} (ha : ¬ IsPosted a) (hmem : a ∈ (s.post tasks).trace) :
      a ∈ s.trace := by
    refine (List.mem_append.mp hmem).resolve_right fun hnew => ?_
    obtain ⟨task, -, rfl⟩ := List.mem_map.mp hnew
    exact ha trivial
  have hnew {p : Happening → Prop} (hp : ∀ task, ¬ p (.posted task)) :
      ∀ a ∈ tasks.map Happening.posted, ¬ p a := by
    rintro a hmem
    obtain ⟨task, -, rfl⟩ := List.mem_map.mp hmem
    exact hp task
  have hundeleted : .deleted ∉ s.trace := by
    intro hmem
    rw [(h.last hmem).1] at ho
    cases ho
  have hattached := h.not_detached ho
  refine ⟨htied, ?_, fun o' ho' => hpointer.trans (h.present o' ho'), ?_, ?_, ?_, ?_, ?_, ?_, ?_⟩
  · intro hnone
    change s.tunnel = none at hnone
    rw [ho] at hnone
    cases hnone
  · intro o' ho' hlasts
    cases ho.symm.trans ho'
    exact hlasting hlasts
  · intro o' ho' hshut
    cases ho.symm.trans ho'
    exact ⟨hended hshut, List.mem_append_left _ (h.ended o ho hshut).2⟩
  · intro hmem
    exact absurd (hin id hmem) hundeleted
  · rw [htrace, ← h.detached]
    exact ⟨hin id, List.mem_append_left _⟩
  · exact h.deletedOnce.append_of_none (fun a ha heq => hundeleted (heq ▸ ha))
      (hnew (by simp))
  · exact h.behindShutdown.append (hnew (by simp))
  · exact h.silent.append_of_none (fun a ha heq => hattached (heq ▸ ha)) (hnew (by simp))

/-- Tasks other than that of the end may be posted at any time. -/
theorem Owned.post (h : s.Owned) {o : Tunnel} (ho : s.tunnel = some o) {tasks : List Task}
    (htasks : ∀ task ∈ tasks, task ≠ .masqueOnTunnelClosed) : (s.post tasks).Owned := by
  have hkeeps := SMPConnection.keeps_foldl_postTask (s := s.inner) htasks
  have hmoved := hkeeps.moves h.tied
  refine h.posted ho hmoved.tied hkeeps.tunnel_eq ?_ ?_ ?_
  · exact SMPConnection.foldl_postTask_trace tasks
  · intro hlasts
    exact hmoved.closes_eq.trans (h.lasting o ho hlasts)
  · intro hshut
    have hcount := hmoved.closes_eq
    have hle := (h.ended o ho hshut).1
    exact hcount ▸ hle

/-- A step of the tunnel posts the answer to the request at most. -/
theorem Owned.tunnelBecomes (h : s.Owned) {before : SMPConnection}
    (ho : s.tunnel = some ⟨before, false⟩) (after : SMPConnection) :
    (s.tunnelBecomes before after).Owned := by
  have hchanged : { s with tunnel := some ⟨after, false⟩ } =
      { s with tunnel := s.tunnel.map fun o => { o with conn := after } } := by
    rw [ho]
    rfl
  have howned : Owned { s with tunnel := some ⟨after, false⟩ } := by
    rw [hchanged]
    exact h.withTunnel fun _ => rfl
  refine howned.post rfl fun task htask => ?_
  obtain ⟨entry, -, hready⟩ := List.mem_filterMap.mp htask
  rintro rfl
  cases entry <;> simp [readyTask] at hready

/-- A datagram that is handed in leaves it owned. -/
theorem Owned.onDatagram (h : s.Owned) {o : Tunnel} (ho : s.tunnel = some o) :
    (s.onDatagram o).Owned := by
  unfold Pair.onDatagram
  split
  · exact h.post ho (by simp)
  · exact h

/-- So does a datagram that is sent. -/
theorem Owned.sendDatagram (h : s.Owned) : s.sendDatagram.Owned := by
  unfold Pair.sendDatagram
  split
  · exact h.withTunnel fun _ => rfl
  · exact h

/-- When the queue of the tunnel has shut down, the end may be told once. -/
theorem Owned.shut (h : s.Owned) {conn : SMPConnection}
    (ho : s.tunnel = some ⟨conn, false⟩) :
    (s.shut ⟨conn, false⟩).Owned ∧ (s.shut ⟨conn, false⟩).inner.closes = 0 := by
  have hcloses := h.lasting _ ho rfl
  have hin {a : Happening} (ha : a ≠ .shutDown) (hmem : a ∈ s.trace ++ [.shutDown]) :
      a ∈ s.trace := by
    simpa [ha] using hmem
  refine ⟨⟨h.tied, by simp [Pair.shut], fun _ _ => h.present _ ho, fun _ _ _ => hcloses, ?_, ?_,
    ?_, h.deletedOnce.concat_other (by decide), h.behindShutdown.append (by simp),
    h.silent.concat_other id⟩, hcloses⟩
  · intro o' _ _
    have hle : s.inner.closes ≤ 1 := by omega
    exact ⟨hle, List.mem_append_right _ (List.mem_singleton.mpr rfl)⟩
  · intro hmem
    have hnone := (h.last (hin (by decide) hmem)).1
    rw [ho] at hnone
    cases hnone
  · exact ⟨fun hmem => h.detached.mp (hin (by decide) hmem),
      fun hmem => List.mem_append_left _ (h.detached.mpr hmem)⟩

/-- So does the shutdown of the inner connection. -/
theorem Owned.onEventProcShutdown (h : s.Owned) {conn : SMPConnection}
    (ho : s.tunnel = some ⟨conn, false⟩) : (s.onEventProcShutdown ⟨conn, false⟩).Owned := by
  obtain ⟨hshut, hcloses⟩ := h.shut ho
  unfold Pair.onEventProcShutdown
  split
  · obtain ⟨htied, hcount⟩ := SMPConnection.step_tunnelClosed hshut.tied
    refine hshut.posted rfl htied rfl rfl (by simp) fun _ => ?_
    change (SMPConnection.step _ .tunnelClosed).closes ≤ 1
    omega
  · exact hshut

/-- A step of the inner connection. -/
theorem Owned.innerStep (h : s.Owned) {e : SMPConnection.Event} (he : FromOutside e = true) :
    (s.innerBecomes (s.inner.step e)).Owned := by
  have hclosed : e ≠ .tunnelClosed := by
    rintro rfl
    cases he
  by_cases hend : s.inner.EndsTunnel e
  · exact h.innerBecomes_ends hend
  · have hmoved := SMPConnection.moves_step hclosed hend h.tied
    rcases hmoved.tunnel with hkept | ⟨hclear, hmade, hrole⟩
    · exact h.innerBecomes_kept hmoved hkept
    · exact h.innerBecomes_made hmoved hclear hmade hrole

/-- Every step keeps the two connections fitting together. -/
theorem Owned.step (h : s.Owned) (e : PairEvent) : (s.step e).Owned := by
  unfold Pair.step
  cases e with
  | inner e =>
    dsimp only
    split
    · rename_i he
      exact h.innerStep he
    · exact h
  | tunnel e =>
    dsimp only
    split
    · rename_i conn ho
      split
      · exact h.tunnelBecomes ho _
      · exact h
    · exact h
  | tunnelDatagram =>
    dsimp only
    split
    · rename_i conn ho
      exact h.onDatagram ho
    · exact h
  | innerSends => exact h.sendDatagram
  | tunnelShutdown =>
    dsimp only
    split
    · rename_i conn ho
      split
      · exact h.onEventProcShutdown ho
      · exact h
    · exact h

/-- The tunnel is deleted in a step of the inner connection only, when this handles the end of
the tunnel. -/
theorem Owned.deleted_by (h : s.Owned) {e : PairEvent} {o : Tunnel} (ho : s.tunnel = some o)
    (hnone : (s.step e).tunnel = none) : ∃ e', e = .inner e' ∧ s.inner.EndsTunnel e' := by
  have hclear := ((h.step e).absent hnone).1
  have hset := h.present o ho
  cases e with
  | inner e =>
    refine ⟨e, rfl, ?_⟩
    by_contra hend
    by_cases he : FromOutside e = true
    · have hclosed : e ≠ .tunnelClosed := by
        rintro rfl
        cases he
      have hstep : s.step (.inner e) = s.innerBecomes (s.inner.step e) := if_pos he
      rw [hstep] at hclear
      change (s.inner.step e).masqueTunnel = false at hclear
      rcases (SMPConnection.moves_step hclosed hend h.tied).tunnel with hkept | ⟨hfree, -, -⟩
      · rw [hkept, hset] at hclear
        cases hclear
      · rw [hset] at hfree
        cases hfree
    · have hstep : s.step (.inner e) = s := if_neg he
      rw [hstep, ho] at hnone
      cases hnone
  | tunnel e =>
    simp only [Pair.step, ho] at hnone
    split at hnone
    · split at hnone
      · cases hnone
      · cases ho.symm.trans hnone
    · cases ho.symm.trans hnone
  | tunnelDatagram =>
    simp only [Pair.step, ho, Pair.onDatagram] at hnone
    split at hnone
    · split at hnone
      · cases ho.symm.trans hnone
      · cases ho.symm.trans hnone
    · cases ho.symm.trans hnone
  | innerSends =>
    simp only [Pair.step, Pair.sendDatagram, ho] at hnone
    split at hnone
    · cases hnone
    · cases ho.symm.trans hnone
  | tunnelShutdown =>
    simp only [Pair.step, ho, Pair.onEventProcShutdown] at hnone
    split at hnone
    · split at hnone
      · split at hnone
        · cases hnone
        · cases hnone
      · cases ho.symm.trans hnone
    · cases ho.symm.trans hnone

/-- The rules between a connection and its tunnel. -/
structure KeepsOwnership (s : Pair) : Prop where
  /-- No connection is deleted twice. -/
  deletedOnce : NoneAfter (· = .deleted) (· = .deleted) s.trace
  /-- The queue of the tunnel has shut down before the deletion. -/
  behindShutdown : Preceded (· = .deleted) (· = .shutDown) s.trace
  /-- Only a step of the inner connection deletes the tunnel. -/
  deletedByInner : ∀ e o, s.tunnel = some o → (s.step e).tunnel = none →
    ∃ e', e = .inner e' ∧ s.inner.EndsTunnel e'
  /-- The inner connection has a pointer exactly to a tunnel that is there. -/
  pointer : s.inner.masqueTunnel = true ↔ ∃ o, s.tunnel = some o
  /-- A freed connection is detached. -/
  freed : s.inner.state = .freed → .detach ∈ s.inner.trace
  /-- A detached connection has no tunnel. -/
  detached : .detach ∈ s.inner.trace → s.inner.masqueTunnel = false
  /-- The detachment stands in the common record. -/
  marked : .detached ∈ s.trace ↔ .detach ∈ s.inner.trace
  /-- No task is posted to a detached connection. -/
  silent : NoneAfter (· = .detached) IsPosted s.trace

/-- Two connections that fit together keep the rules. -/
theorem Owned.keepsOwnership (h : s.Owned) : s.KeepsOwnership where
  deletedOnce := h.deletedOnce
  behindShutdown := h.behindShutdown
  deletedByInner := fun _ _ ho hnone => h.deleted_by ho hnone
  pointer := by
    constructor
    · intro hset
      rw [← Option.ne_none_iff_exists']
      intro hnone
      rw [(h.absent hnone).1] at hset
      cases hset
    · rintro ⟨o, ho⟩
      exact h.present o ho
  freed := h.tied.freed
  detached := fun hmem => (h.tied.detached hmem).2
  marked := h.detached
  silent := h.silent

/-- In whatever order the two queues run, the rules are kept. -/
theorem run_keepsOwnership (config tunnelConfig : Config) (events : List PairEvent) :
    (run step (initial config tunnelConfig) events).KeepsOwnership := by
  have howned : Owned (run step (initial config tunnelConfig) events) :=
    invariant (I := Owned) (fun _ e h => h.step e) (owned_initial config tunnelConfig) events
  exact howned.keepsOwnership

end Pair

end Conn
