import TTSignal.Server.Server

/-!
# The accounting of the server's connections

The server counts the connections it has created and those that have reported their end,
and enters the ones in between into `conns_map_` under the source id of their first packet.
A connection reports its end with its current id, which the engine may have replaced. The
map, the counters and the end of the drain agree in every state of a run exactly when every
connection ends under the id it was created under.
-/

namespace Server

open SMPServerConnection (create)

namespace SMPServerConnection

variable (c : SMPServerConnection)

/-- The id that a connection was created under, and whether it has ended. -/
def birth : Cid × Bool := (c.createdUnder, c.shutDown)

/-- A new connection is born under its CID and lives. -/
@[simp] theorem create_birth (cid : Cid) : (create cid).birth = (cid, false) := rfl

/-- Posting a task keeps the birth of a connection. -/
@[simp] theorem postTask_birth (t : ConnTask) : (c.postTask t).birth = c.birth := by
  unfold postTask
  split <;> rfl

/-- Another state keeps it. -/
@[simp] theorem setState_birth (state : ConnState) : (c.setState state).birth = c.birth := rfl

/-- `_CloseCheck` keeps it. -/
@[simp] theorem closeCheck_birth : c.closeCheck.birth = c.birth := by
  unfold closeCheck finishClosing beginClosing
  split_ifs <;> rfl

/-- `RequestClose` keeps it. -/
@[simp] theorem requestClose_birth : c.requestClose.birth = c.birth := by
  unfold requestClose
  split_ifs <;> simp

/-- A callback of the engine keeps it. -/
@[simp] theorem callback_birth (cb : Callback) : (c.callback cb).birth = c.birth := by
  cases cb with
  | closeNotify => simp only [callback, onClose, requestClose_birth]; rfl
  | handshakeFinished => rfl
  | updateCid newCid => rfl
  | connect => rfl
  | writePacket sent =>
    simp only [callback, writePacket, closeCheck_birth]
    split_ifs <;> rfl

/-- So do the callbacks of one call. -/
@[simp] theorem callbacks_birth (cbs : List Callback) : (c.callbacks cbs).birth = c.birth :=
  Runs.invariant (fun c' cb (h : birth c' = c.birth) => (callback_birth c' cb).trans h) rfl cbs

/-- Creating the engine's connection keeps it. -/
@[simp] theorem createServerConnection_birth (created : Option ℕ) :
    (c.createServerConnection created).birth = c.birth := by
  unfold createServerConnection
  split_ifs <;> rfl

/-- Handing a packet to the engine keeps it. -/
@[simp] theorem processPacket_birth (answer : EngineAnswer) :
    (c.processPacket answer).birth = c.birth := by
  unfold processPacket
  split_ifs <;> simp

/-- A task of the connection keeps it. -/
@[simp] theorem runTask_birth (answer : EngineAnswer) (t : ConnTask) :
    (c.runTask answer t).birth = c.birth := by
  cases t with
  | recvData info initial =>
    simp only [runTask, recvData]
    split_ifs <;> simp
  | accept bAccept =>
    simp only [runTask, accept]
    split_ifs <;> simp
  | close => exact c.requestClose_birth
  | nextTick =>
    simp only [runTask, nextTick]
    split_ifs <;> simp

/-- Only the shutdown of its event queue ends a connection. -/
theorem step_birth {e : ConnEvent} (he : e ≠ .shutdown) : (c.step e).birth = c.birth := by
  cases e with
  | close => exact c.postTask_birth _
  | accept bAccept => exact c.postTask_birth _
  | nextTick => rfl
  | processRecvData info initial => exact c.postTask_birth _
  | run answer =>
    simp only [step]
    split
    · rfl
    · split_ifs
      · rfl
      · rw [runTask_birth]
        rfl
  | callback cb =>
    simp only [step]
    split_ifs <;> simp
  | shutdown => exact absurd rfl he

end SMPServerConnection

namespace SMPServer

variable (s : SMPServer)

/-- The births of the connection objects. -/
def births (id : ℕ) : Option (Cid × Bool) := (s.conns id).map SMPServerConnection.birth

/-- A birth that is known is the one of a connection that is known. -/
theorem births_eq_some {id : ℕ} {b : Cid × Bool} :
    s.births id = some b ↔ ∃ c, s.conns id = some c ∧ c.birth = b := by
  simp [births, Option.map_eq_some_iff]

/-- What happens to a connection leaves the births alone, apart from its shutdown. -/
theorem connStep_births (id : ℕ) {e : ConnEvent} (he : e ≠ .shutdown) :
    (s.connStep id e).births = s.births := by
  funext id'
  by_cases hid : id' = id
  · subst hid
    cases hc : s.conns id' with
    | none => simp [births, connStep, hc]
    | some c => simp [births, connStep, hc, c.step_birth he]
  · simp [births, connStep, hid]

end SMPServer

/-- Erasing a key that is there removes one entry. -/
theorem length_entries_erase {α : Type*} {β : α → Type*} [DecidableEq α] {m : AList β} {a : α}
    (h : a ∈ m.keys) : (m.erase a).entries.length + 1 = m.entries.length := by
  have hlength : (m.erase a).keys.length + 1 = m.keys.length := by
    rw [AList.keys_erase, List.length_erase_of_mem h]
    have := List.length_pos_of_mem h
    omega
  simpa only [AList.keys, List.keys, List.length_map] using hlength

/-- The fields that the accounting is about agree. -/
structure SameBooks (s s' : SMPServer) : Prop where
  /-- The births of all connections. -/
  births : s'.births = s.births
  /-- The map from CIDs to connections. -/
  connsMap : s'.connsMap = s.connsMap
  /-- The next number of a connection. -/
  nextConnId : s'.nextConnId = s.nextConnId
  /-- The count of connections that have been allocated. -/
  allocated : s'.totalAllocatedConns = s.totalAllocatedConns
  /-- The count of connections that have been freed. -/
  freed : s'.totalFreedConns = s.totalFreedConns

namespace SameBooks

variable {s s' s'' : SMPServer}

/-- A server has its own books. -/
theorem refl (s : SMPServer) : SameBooks s s := ⟨rfl, rfl, rfl, rfl, rfl⟩

/-- What has kept the books twice has kept them. -/
theorem trans (h : SameBooks s s') (h' : SameBooks s' s'') : SameBooks s s'' where
  births := h'.births.trans h.births
  connsMap := h'.connsMap.trans h.connsMap
  nextConnId := h'.nextConnId.trans h.nextConnId
  allocated := h'.allocated.trans h.allocated
  freed := h'.freed.trans h.freed

/-- An event of one connection keeps them, unless it shuts the connection down. -/
theorem connStep (s : SMPServer) (id : ℕ) {e : ConnEvent} (he : e ≠ .shutdown) :
    SameBooks s (s.connStep id e) :=
  ⟨s.connStep_births id he, rfl, rfl, rfl, rfl⟩

/-- Steps of several connections, none of which ends. -/
theorem foldl {α : Type} (f : SMPServer → α → SMPServer) (hf : ∀ s a, SameBooks s (f s a))
    (l : List α) (s : SMPServer) : SameBooks s (l.foldl f s) := by
  induction l generalizing s with
  | nil => exact refl s
  | cons a l ih => exact (hf s a).trans (ih _)

/-- The beginning of the drain keeps them. -/
theorem beginDrain (s : SMPServer) : SameBooks s s.beginDrain := by
  unfold SMPServer.beginDrain
  split
  · have h := foldl (fun s (entry : (_ : Cid) × ℕ) => s.connStep entry.2 .close)
      (fun s entry => connStep s entry.2 (by simp)) s.connsMap.entries s
    exact ⟨h.births, h.connsMap, h.nextConnId, h.allocated, h.freed⟩
  · exact refl s

/-- Its end keeps them. -/
theorem endDrain (s : SMPServer) : SameBooks s s.endDrain := by
  unfold SMPServer.endDrain
  split
  · exact ⟨rfl, rfl, rfl, rfl, rfl⟩
  · exact refl s

/-- The end of the engine keeps them. -/
theorem destroyEngine (s : SMPServer) : SameBooks s s.destroyEngine := by
  unfold SMPServer.destroyEngine
  split
  · exact ⟨rfl, rfl, rfl, rfl, rfl⟩
  · exact refl s

/-- `_CloseCheck` of the server keeps them. -/
theorem closeCheck (s : SMPServer) : SameBooks s s.closeCheck := by
  unfold SMPServer.closeCheck
  split
  · exact ((beginDrain s).trans (endDrain _)).trans (destroyEngine _)
  · exact refl s

/-- `RequestClose` of the server keeps them. -/
theorem requestClose (s : SMPServer) : SameBooks s s.requestClose := by
  unfold SMPServer.requestClose
  split
  · exact closeCheck s
  · have h := closeCheck (s.setState .freed)
    exact ⟨h.births, h.connsMap, h.nextConnId, h.allocated, h.freed⟩

/-- A packet to a connection that is known keeps them. -/
theorem recvPacket (s : SMPServer) (p : PreProcess × RecvInfo) : SameBooks s (s.recvPacket p) := by
  obtain ⟨_ | id | _, info⟩ := p
  · exact refl s
  · exact connStep s id (by simp)
  · exact ⟨rfl, rfl, rfl, rfl, rfl⟩

/-- So do the packets of one receive. -/
theorem onRecvData (s : SMPServer) (packets : List (PreProcess × RecvInfo)) :
    SameBooks s (s.onRecvData packets) := by
  unfold SMPServer.onRecvData
  split
  · exact closeCheck s
  · exact (foldl _ recvPacket packets s).trans (closeCheck _)

end SameBooks

/-- The map holds the connections that have not ended, each under the id it was created
under, and the counters count them. -/
structure Booked (s : SMPServer) : Prop where
  /-- Numbers that have not been given out belong to no connection. -/
  numbered : ∀ id, s.nextConnId ≤ id → s.births id = none
  /-- The map holds the living connections under the CIDs of their births. -/
  mapped : ∀ cid id, s.connsMap.lookup cid = some id ↔ s.births id = some (cid, false)
  /-- What has been allocated has been freed or is in the map. -/
  counted : s.totalAllocatedConns = s.totalFreedConns + s.connsMap.entries.length

namespace Booked

variable {s s' : SMPServer}

/-- They carry over to a server with the same books. -/
theorem congr (h : SameBooks s s') (hs : Booked s) : Booked s' where
  numbered := by rw [h.births, h.nextConnId]; exact hs.numbered
  mapped := by rw [h.births, h.connsMap]; exact hs.mapped
  counted := by rw [h.allocated, h.freed, h.connsMap]; exact hs.counted

/-- A new connection is entered under a free id. -/
theorem addConnection (hs : Booked s) {info : RecvInfo}
    (hfree : s.connsMap.lookup info.scid = none) : Booked (s.addConnection info) := by
  have hnew : (s.addConnection info).births =
      Function.update s.births s.nextConnId (some (info.scid, false)) := by
    funext id
    by_cases hid : id = s.nextConnId
    · subst hid
      simp only [SMPServer.births, SMPServer.addConnection, Function.update_self,
        Option.map_some, SMPServerConnection.step]
      rw [SMPServerConnection.postTask_birth, SMPServerConnection.create_birth]
    · simp [SMPServer.births, SMPServer.addConnection, hid]
  have hunborn := hs.numbered s.nextConnId le_rfl
  constructor
  · intro id hid
    have hid' : s.nextConnId + 1 ≤ id := hid
    rw [hnew, Function.update_of_ne (by omega)]
    exact hs.numbered id (by omega)
  · intro cid id
    rw [hnew]
    change (s.connsMap.insert info.scid s.nextConnId).lookup cid = some id ↔ _
    by_cases hcid : cid = info.scid
    · subst hcid
      rw [AList.lookup_insert]
      by_cases hid : id = s.nextConnId
      · subst hid
        simp
      · have := hs.mapped info.scid id
        rw [Function.update_of_ne hid, ← this, hfree]
        simp [Ne.symm hid]
    · rw [AList.lookup_insert_ne hcid]
      by_cases hid : id = s.nextConnId
      · subst hid
        have := hs.mapped cid s.nextConnId
        rw [hunborn] at this
        simp [this, Ne.symm hcid]
      · rw [Function.update_of_ne hid]
        exact hs.mapped cid id
  · have hnotMem : info.scid ∉ s.connsMap := AList.lookup_eq_none.mp hfree
    have hcount := hs.counted
    change s.totalAllocatedConns + 1 =
      s.totalFreedConns + (s.connsMap.insert info.scid s.nextConnId).entries.length
    rw [AList.entries_insert_of_notMem hnotMem, List.length_cons]
    omega

/-- A connection that ends under the id it was created under leaves the map. -/
theorem connShutdown (hs : Booked s) {id : ℕ}
    (hid : ∀ c, s.conns id = some c → c.detached = true → c.shutDown = false →
      c.cid = c.createdUnder) : Booked (s.connShutdown id) := by
  unfold SMPServer.connShutdown
  split
  case h_2 => exact hs
  case h_1 c hc =>
    split
    case isFalse => exact hs
    case isTrue hend =>
      obtain ⟨hdetached, hlive⟩ := hend
      have hlive : c.shutDown = false := by simpa using hlive
      have hcid := hid c hc hdetached hlive
      have hbirth : s.births id = some (c.cid, false) :=
        s.births_eq_some.mpr ⟨c, hc, by rw [SMPServerConnection.birth, hcid, hlive]⟩
      have hbirths : ((s.notifyConnClosed c.cid).connStep id .shutdown).births =
          Function.update s.births id (some (c.cid, true)) := by
        funext id'
        by_cases hid' : id' = id
        · subst hid'
          simp [SMPServer.births, SMPServer.connStep, SMPServer.notifyConnClosed,
            SMPServer.postTask, hc, SMPServerConnection.step, SMPServerConnection.birth,
            hdetached, hlive, hcid]
        · simp [SMPServer.births, SMPServer.connStep, SMPServer.notifyConnClosed,
            SMPServer.postTask, hid']
      have hmapped : s.connsMap.lookup c.cid = some id := (hs.mapped c.cid id).mpr hbirth
      constructor
      · intro id' hid'
        rw [hbirths]
        have hne : id' ≠ id := by
          rintro rfl
          have := hs.numbered id' hid'
          simp [this] at hbirth
        rw [Function.update_of_ne hne]
        exact hs.numbered id' hid'
      · intro cid id'
        rw [hbirths]
        change (s.connsMap.erase c.cid).lookup cid = some id' ↔ _
        by_cases hcid' : cid = c.cid
        · subst hcid'
          rw [AList.lookup_erase]
          by_cases hid' : id' = id
          · subst hid'
            simp
          · rw [Function.update_of_ne hid', ← hs.mapped, hmapped]
            simp [Ne.symm hid']
        · rw [AList.lookup_erase_ne hcid']
          by_cases hid' : id' = id
          · subst hid'
            rw [hs.mapped, hbirth]
            simp [Ne.symm hcid']
          · rw [Function.update_of_ne hid']
            exact hs.mapped cid id'
      · have hmem : c.cid ∈ s.connsMap.keys := AList.lookup_isSome.mp (by rw [hmapped]; rfl)
        have hcount := hs.counted
        have hlength := length_entries_erase hmem
        change s.totalAllocatedConns =
          s.totalFreedConns + 1 + (s.connsMap.erase c.cid).entries.length
        omega

end Booked

/-! ## Closing and draining -/

/-- A requested close has been begun, whatever tasks are pending. -/
structure Opened (s : SMPServer) : Prop where
  /-- Nothing but the whole life or the end is asked for. -/
  requested : s.newState = .max ∨ s.newState = .freed
  /-- The life is not beyond its last state. -/
  bounded : s.state ≠ .max
  /-- A draining server is to be freed. -/
  draining : s.state = .drain → s.newState = .freed

/-- A requested close has been begun, and a drain without connections is about to end. -/
structure Phased (s : SMPServer) : Prop extends Opened s where
  /-- A server that is to be freed works no longer. -/
  begun : s.newState = .freed → s.state ≠ .working
  /-- A drain without connections waits for a task other than its own end. -/
  pending : s.state = .drain → s.connsMap.entries = [] → ∃ t ∈ s.tasks, t ≠ Task.onClosed

/-- The fields that closing is about agree. -/
structure SamePhase (s s' : SMPServer) : Prop where
  /-- The state it is in. -/
  state : s'.state = s.state
  /-- The state it goes to. -/
  newState : s'.newState = s.newState
  /-- Its connections. -/
  connsMap : s'.connsMap = s.connsMap
  /-- Its tasks. -/
  tasks : s'.tasks = s.tasks

namespace SamePhase

variable {s s' s'' : SMPServer}

/-- Two parts that keep the phase keep it together. -/
theorem trans (h : SamePhase s s') (h' : SamePhase s' s'') : SamePhase s s'' where
  state := h'.state.trans h.state
  newState := h'.newState.trans h.newState
  connsMap := h'.connsMap.trans h.connsMap
  tasks := h'.tasks.trans h.tasks

/-- A loop over such parts keeps it. -/
theorem foldl {α : Type} (f : SMPServer → α → SMPServer) (hf : ∀ s a, SamePhase s (f s a))
    (l : List α) (s : SMPServer) : SamePhase s (l.foldl f s) := by
  induction l generalizing s with
  | nil => exact ⟨rfl, rfl, rfl, rfl⟩
  | cons a l ih => exact (hf s a).trans (ih _)

/-- An event of a connection keeps it. -/
theorem connStep (s : SMPServer) (id : ℕ) (e : ConnEvent) : SamePhase s (s.connStep id e) :=
  ⟨rfl, rfl, rfl, rfl⟩

/-- A packet keeps it. -/
theorem recvPacket (s : SMPServer) (p : PreProcess × RecvInfo) :
    SamePhase s (s.recvPacket p) := by
  obtain ⟨_ | id | _, info⟩ := p
  · exact ⟨rfl, rfl, rfl, rfl⟩
  · exact connStep s id _
  · exact ⟨rfl, rfl, rfl, rfl⟩

end SamePhase

namespace Opened

variable {s s' : SMPServer}

/-- It carries over to a server in the same phase. -/
theorem congr (h : SamePhase s s') (hs : Opened s) : Opened s' where
  requested := by rw [h.newState]; exact hs.requested
  bounded := by rw [h.state]; exact hs.bounded
  draining := by rw [h.state, h.newState]; exact hs.draining

/-- Before a close is requested, a server that is not freed is not closing. -/
theorem closing_iff (hs : Opened s) :
    s.closing = true ↔ s.newState = .freed ∨ s.state = .freed := by
  unfold SMPServer.closing
  have hbounded := hs.bounded
  obtain hnew | hnew := hs.requested <;> rw [hnew] <;>
    cases hstate : s.state <;> simp_all [ServerState.val]

/-- Without a requested close, nothing is drained. -/
theorem phased_of_not_closing (hs : Opened s) (h : s.closing = false) : Phased s := by
  have hnew : s.newState ≠ .freed := by
    intro hnew
    simp [hs.closing_iff.mpr (Or.inl hnew)] at h
  exact ⟨hs, fun h' => absurd h' hnew, fun h' => absurd (hs.draining h') hnew⟩

/-- The connections are asked to close, and the drain begins. -/
theorem beginDrain (hs : Opened s) (hclosing : s.closing = true) :
    Opened s.beginDrain ∧ s.beginDrain.state ≠ .working := by
  unfold SMPServer.beginDrain
  split
  case isTrue hworking =>
    have hnew : s.newState = .freed := by
      obtain h | h := hs.closing_iff.mp hclosing
      · exact h
      · simp [hworking] at h
    have h := SamePhase.foldl (fun s (entry : (_ : Cid) × ℕ) => s.connStep entry.2 .close)
      (fun s entry => SamePhase.connStep s entry.2 .close) s.connsMap.entries s
    exact ⟨⟨Or.inr (h.newState.trans hnew), by simp, fun _ => h.newState.trans hnew⟩, by simp⟩
  case isFalse hworking => exact ⟨hs, hworking⟩

/-- The drain ends when there are no connections. -/
theorem endDrain (hs : Opened s) (hworking : s.state ≠ .working) : Phased s.endDrain := by
  unfold SMPServer.endDrain
  split
  case isTrue h => exact ⟨⟨hs.requested, by simp, by simp⟩, by simp, by simp⟩
  case isFalse h =>
    refine ⟨hs, fun _ => hworking, fun hdrain hempty => ?_⟩
    exact absurd ⟨hdrain, by rw [hempty]; rfl⟩ h

end Opened

namespace Phased

variable {s s' : SMPServer}

/-- More pending tasks do not harm. -/
theorem congr (hs : Phased s) (hstate : s'.state = s.state) (hnew : s'.newState = s.newState)
    (hmap : s'.connsMap = s.connsMap) (htasks : ∀ t ∈ s.tasks, t ∈ s'.tasks) : Phased s' where
  requested := by rw [hnew]; exact hs.requested
  bounded := by rw [hstate]; exact hs.bounded
  draining := by rw [hstate, hnew]; exact hs.draining
  begun := by rw [hstate, hnew]; exact hs.begun
  pending := by
    rw [hstate, hmap]
    intro hdrain hempty
    obtain ⟨t, ht, hne⟩ := hs.pending hdrain hempty
    exact ⟨t, htasks t ht, hne⟩

/-- The end of the engine keeps the phases. -/
theorem destroyEngine (hs : Phased s) : Phased s.destroyEngine := by
  unfold SMPServer.destroyEngine
  split
  · exact ⟨⟨hs.requested, by simp, by simp⟩, by simp, by simp⟩
  · exact hs

end Phased

namespace Opened

variable {s : SMPServer}

/-- A close check begins the close that is requested, and ends a drain without connections. -/
theorem closeCheck (hs : Opened s) : Phased s.closeCheck := by
  unfold SMPServer.closeCheck
  split
  case isTrue hclosing =>
    obtain ⟨hopened, hworking⟩ := hs.beginDrain hclosing
    exact (hopened.endDrain hworking).destroyEngine
  case isFalse hclosing => exact hs.phased_of_not_closing (by simpa using hclosing)

/-- `RequestClose` keeps them. -/
theorem requestClose (hs : Opened s) : Phased s.requestClose := by
  unfold SMPServer.requestClose
  split
  · exact hs.closeCheck
  · have hfreed : Opened (s.setState .freed) := ⟨Or.inr rfl, hs.bounded, fun _ => rfl⟩
    exact hfreed.closeCheck

/-- A new connection comes while the server works, and keeps them. -/
theorem createConnection (hs : Opened s) (info : RecvInfo) (created : Bool) :
    Phased (s.createConnection info created) := by
  unfold SMPServer.createConnection
  split
  case isTrue => exact hs.closeCheck
  case isFalse hclosing =>
    have hphased := hs.phased_of_not_closing (by simpa using hclosing)
    split
    case h_1 => exact hphased.congr rfl rfl rfl fun _ h => h
    case h_2 =>
      split
      case isTrue =>
        have hadd : Opened (s.addConnection info) := ⟨hs.requested, hs.bounded, hs.draining⟩
        exact hadd.closeCheck
      case isFalse => exact hphased.congr rfl rfl rfl fun _ h => h

end Opened

namespace Phased

variable {s : SMPServer}

/-- The packets of a receive keep them. -/
theorem onRecvData (hs : Phased s) (packets : List (PreProcess × RecvInfo)) :
    Phased (s.onRecvData packets) := by
  unfold SMPServer.onRecvData
  split
  · exact hs.closeCheck
  · have hfold := SamePhase.foldl _ SamePhase.recvPacket packets s
    exact (hs.toOpened.congr hfold).closeCheck

/-- Another task keeps them. -/
theorem postTask (hs : Phased s) (t : Task) : Phased (s.postTask t) :=
  hs.congr rfl rfl rfl fun _ h => List.mem_append_left _ h

/-- A connection that ends leaves a close check pending. -/
theorem connShutdown (hs : Phased s) (id : ℕ) : Phased (s.connShutdown id) := by
  unfold SMPServer.connShutdown
  split
  · split
    · refine ⟨⟨hs.requested, hs.bounded, hs.draining⟩, hs.begun, fun _ _ => ?_⟩
      exact ⟨.closeCheck, List.mem_append_right _ (by simp), by simp⟩
    · exact hs
  · exact hs

/-- The oldest task is run. -/
theorem run (hs : Phased s) (created : Bool) : Phased (s.step (.run created)) := by
  simp only [SMPServer.step]
  split
  case h_1 => exact hs
  case h_2 t ts htasks =>
    have hopened : Opened { s with tasks := ts } := ⟨hs.requested, hs.bounded, hs.draining⟩
    cases t with
    | createConnection info => exact hopened.createConnection info created
    | closeCheck => exact hopened.closeCheck
    | close => exact hopened.requestClose
    | udpClosed =>
      have hclosed : Opened { s with tasks := ts, udpSocket := false } :=
        ⟨hs.requested, hs.bounded, hs.draining⟩
      exact hclosed.requestClose
    | onClosed =>
      refine ⟨⟨hs.requested, hs.bounded, hs.draining⟩, hs.begun, fun hdrain hempty => ?_⟩
      obtain ⟨t, ht, hne⟩ := hs.pending hdrain hempty
      rw [htasks] at ht
      obtain rfl | ht := List.mem_cons.mp ht
      · exact absurd rfl hne
      · exact ⟨t, ht, hne⟩

/-- Every event keeps them. -/
theorem step (hs : Phased s) (e : Event) : Phased (s.step e) := by
  cases e with
  | createConnection info => exact hs.postTask _
  | close => exact hs.postTask _
  | recvData packets => exact hs.onRecvData packets
  | udpClosed => exact hs.postTask _
  | run created => exact hs.run created
  | conn id e =>
    cases e with
    | shutdown => exact hs.connShutdown id
    | _ => exact hs.congr rfl rfl rfl fun _ h => h

end Phased

/-! ## Whole runs -/

/-- A connection that ends does so under the id that it was created under. -/
def EndsUnderItsKey (s : SMPServer) : Event → Prop
  | .conn id .shutdown =>
    ∀ c, s.conns id = some c → c.detached = true → c.shutDown = false → c.cid = c.createdUnder
  | _ => True

namespace Booked

variable {s : SMPServer}

/-- A new connection is booked. -/
theorem createConnection (hs : Booked s) (info : RecvInfo) (created : Bool) :
    Booked (s.createConnection info created) := by
  unfold SMPServer.createConnection
  split
  · exact hs.congr (SameBooks.closeCheck s)
  · split
    case h_1 => exact hs.congr (SameBooks.connStep s _ (by simp))
    case h_2 hfree =>
      split
      · exact (hs.addConnection hfree).congr (SameBooks.closeCheck _)
      · exact ⟨fun id hid => hs.numbered id (Nat.le_of_succ_le hid), hs.mapped, hs.counted⟩

/-- A task of the server keeps the books in order. -/
theorem run (hs : Booked s) (created : Bool) : Booked (s.step (.run created)) := by
  simp only [SMPServer.step]
  split
  case h_1 => exact hs
  case h_2 t ts _ =>
    have hpopped : Booked { s with tasks := ts } := ⟨hs.numbered, hs.mapped, hs.counted⟩
    cases t with
    | createConnection info => exact hpopped.createConnection info created
    | closeCheck => exact hpopped.congr (SameBooks.closeCheck _)
    | close => exact hpopped.congr (SameBooks.requestClose _)
    | udpClosed =>
      have hclosed : Booked { s with tasks := ts, udpSocket := false } :=
        ⟨hs.numbered, hs.mapped, hs.counted⟩
      exact hclosed.congr (SameBooks.requestClose _)
    | onClosed => exact ⟨hs.numbered, hs.mapped, hs.counted⟩

/-- So does every event under which a connection ends under its key. -/
theorem step (hs : Booked s) (e : Event) (he : EndsUnderItsKey s e) : Booked (s.step e) := by
  cases e with
  | createConnection info => exact ⟨hs.numbered, hs.mapped, hs.counted⟩
  | close => exact ⟨hs.numbered, hs.mapped, hs.counted⟩
  | recvData packets => exact hs.congr (SameBooks.onRecvData s packets)
  | udpClosed => exact ⟨hs.numbered, hs.mapped, hs.counted⟩
  | run created => exact hs.run created
  | conn id e =>
    cases e with
    | shutdown => exact hs.connShutdown he
    | _ => exact hs.congr (SameBooks.connStep s id (by simp))

/-- The books of a new server are in order. -/
theorem create : Booked SMPServer.create where
  numbered := fun _ _ => rfl
  mapped := by
    intro cid id
    constructor
    · intro h
      exact absurd h (by simp [SMPServer.create])
    · intro h
      exact absurd h (by simp [SMPServer.births, SMPServer.create])
  counted := rfl

end Booked

/-- A new server is in its first phase. -/
theorem Phased.create : Phased SMPServer.create :=
  ⟨⟨Or.inl rfl, by simp [SMPServer.create], by simp [SMPServer.create]⟩,
    by simp [SMPServer.create], by simp [SMPServer.create]⟩

/-- What the server is meant to keep: the map holds exactly the connections that were
created and have not reported their end, each once, the counters count them, and when
after a close request all connections have ended and no task of the server is pending but
the report to the application, the drain is over. -/
structure Accounted (s : SMPServer) : Prop where
  /-- The map holds exactly the connections that have not been shut down. -/
  live : ∀ id, (∃ cid, s.connsMap.lookup cid = some id) ↔
    ∃ c, s.conns id = some c ∧ c.shutDown = false
  /-- Each of them under one CID. -/
  once : ∀ cid cid' id, s.connsMap.lookup cid = some id → s.connsMap.lookup cid' = some id →
    cid = cid'
  /-- The connections in the map are those that were allocated and not freed. -/
  counted : s.totalAllocatedConns = s.totalFreedConns + s.connsMap.entries.length
  /-- A server that is to be freed, with nothing left to do, has been freed. -/
  drained : s.newState = .freed → (∀ id c, s.conns id = some c → c.shutDown = true) →
    (∀ t ∈ s.tasks, t = Task.onClosed) → s.state = .init ∨ s.state = .freed

/-- What holds in every state of a run whose connections end under their keys. -/
structure Tracked (s : SMPServer) : Prop where
  /-- Its books are in order. -/
  booked : Booked s
  /-- Its phases are. -/
  phased : Phased s

namespace Tracked

variable {s : SMPServer}

/-- Both hold of a new server. -/
theorem create : Tracked SMPServer.create := ⟨Booked.create, Phased.create⟩

/-- Both are kept by every event under which a connection ends under its key. -/
theorem step (hs : Tracked s) (e : Event) (he : EndsUnderItsKey s e) : Tracked (s.step e) :=
  ⟨hs.booked.step e he, hs.phased.step e⟩

/-- Without live connections the map is empty. -/
theorem entries_eq_nil (hs : Tracked s)
    (h : ∀ id c, s.conns id = some c → c.shutDown = true) : s.connsMap.entries = [] := by
  cases hentries : s.connsMap.entries with
  | nil => rfl
  | cons entry rest =>
    have hlookup : s.connsMap.lookup entry.1 = some entry.2 :=
      AList.mem_lookup_iff.mpr (by rw [hentries]; exact List.mem_cons_self)
    obtain ⟨c, hc, hbirth⟩ :=
      s.births_eq_some.mp ((hs.booked.mapped entry.1 entry.2).mp hlookup)
    have hlive : c.shutDown = false := congrArg Prod.snd hbirth
    rw [h _ c hc] at hlive
    exact absurd hlive (by simp)

/-- What is tracked is accounted for. -/
theorem accounted (hs : Tracked s) : Accounted s where
  live := by
    intro id
    constructor
    · rintro ⟨cid, hcid⟩
      obtain ⟨c, hc, hbirth⟩ := s.births_eq_some.mp ((hs.booked.mapped cid id).mp hcid)
      exact ⟨c, hc, congrArg Prod.snd hbirth⟩
    · rintro ⟨c, hc, hlive⟩
      refine ⟨c.createdUnder, (hs.booked.mapped _ id).mpr (s.births_eq_some.mpr ⟨c, hc, ?_⟩)⟩
      rw [SMPServerConnection.birth, hlive]
  once := by
    intro cid cid' id h h'
    have hbirth := (hs.booked.mapped cid id).mp h
    rw [(hs.booked.mapped cid' id).mp h'] at hbirth
    exact (congrArg Prod.fst (Option.some.inj hbirth)).symm
  counted := hs.booked.counted
  drained := by
    intro hnew hended htasks
    have hempty := hs.entries_eq_nil hended
    have hworking := hs.phased.begun hnew
    have hbounded := hs.phased.bounded
    have hdrain : s.state ≠ .drain := by
      intro hdrain
      obtain ⟨t, ht, hne⟩ := hs.phased.pending hdrain hempty
      exact hne (htasks t ht)
    cases hstate : s.state <;> simp_all

/-- A connection that ends under another id stays in the map. -/
theorem not_accounted (hs : Tracked s) {e : Event} (he : ¬ EndsUnderItsKey s e) :
    ¬ Accounted (s.step e) := by
  cases e with
  | conn id e =>
    cases e with
    | shutdown =>
      intro h
      simp only [EndsUnderItsKey, not_forall] at he
      obtain ⟨c, hc, hdetached, hlive, hcid⟩ := he
      have hmapped : s.connsMap.lookup c.createdUnder = some id :=
        (hs.booked.mapped _ id).mpr
          (s.births_eq_some.mpr ⟨c, hc, by rw [SMPServerConnection.birth, hlive]⟩)
      have hstep : s.step (.conn id .shutdown) =
          (s.notifyConnClosed c.cid).connStep id .shutdown := by
        simp [SMPServer.step, SMPServer.connShutdown, hc, hdetached, hlive]
      rw [hstep] at h
      have hstays : ((s.notifyConnClosed c.cid).connStep id .shutdown).connsMap.lookup
          c.createdUnder = some id := by
        change (s.connsMap.erase c.cid).lookup c.createdUnder = some id
        rw [AList.lookup_erase_ne (Ne.symm hcid), hmapped]
      obtain ⟨c', hc', hlive'⟩ := (h.live id).mp ⟨_, hstays⟩
      have hended : c' = c.step .shutdown := by
        simpa [SMPServer.connStep, SMPServer.notifyConnClosed, SMPServer.postTask, hc]
          using hc'.symm
      rw [hended] at hlive'
      simp [SMPServerConnection.step, hdetached, hlive] at hlive'
    | _ => exact absurd trivial he
  | _ => exact absurd trivial he

end Tracked

/-- The map, the counters and the drain agree in every state of a run exactly when every
connection ends under the id it was created under. -/
theorem accounted_iff_endsUnderItsKey (events : List Event) :
    (∀ first, first <+: events → Accounted (Runs.run SMPServer.step SMPServer.create first)) ↔
      Runs.Meets SMPServer.step EndsUnderItsKey SMPServer.create events :=
  Runs.always_iff_meets (C := EndsUnderItsKey) (I := Tracked) (P := Accounted)
    (fun _ h => h.accounted) (fun _ e h he => h.step e he) (fun _ _ h he => h.not_accounted he)
    Tracked.create events

/-- One connection is created under the id 1 and gets the id 2, the server is closed, and
the connection ends. -/
def updatedCidRun : List Event :=
  [.createConnection ⟨[1]⟩, .run true, .conn 1 (.run ⟨some 0, [], true, []⟩),
    .conn 1 (.callback (.updateCid [2])), .close, .run true,
    .conn 1 (.run ⟨none, [], true, []⟩), .conn 1 (.callback .closeNotify), .conn 1 .shutdown,
    .run true]

/-- The ended connection stays in the map, and the server in its drain with no task left. -/
theorem updatedCidRun_leaks :
    let s := Runs.run SMPServer.step SMPServer.create updatedCidRun
    s.state = .drain ∧ s.tasks = [] ∧ s.totalAllocatedConns = 1 ∧ s.totalFreedConns = 1 ∧
      s.connsMap.lookup [1] = some 1 ∧ ¬ Accounted s := by
  refine ⟨by decide, by decide, by decide, by decide, by decide, fun h => ?_⟩
  have hcounted := h.counted
  revert hcounted
  decide

end Server
