import TTSignal.Runs
import TTSignal.Smp.Packet
import TTSignal.Smp.RoundTrip

/-!
# The server's send path

`SMPServerStream` has no send queue: `Send` offers its bytes to the transport once and
ignores how many of them were taken, and the write notification does nothing. The bytes
on the stream are therefore in order exactly as long as no call that takes bytes follows
one that took fewer than it was offered.
-/

namespace SMP

open BC Runs

/-- One call of `xqc_stream_send`. -/
structure SendCall where
  /-- The bytes offered. -/
  offered : List UInt8
  /-- The bytes taken. -/
  taken : List UInt8
  deriving DecidableEq

/-- The call took fewer bytes than it was offered. -/
def SendCall.Short (c : SendCall) : Prop := c.taken.length < c.offered.length

/-- Shortness can be tested. -/
instance (c : SendCall) : Decidable c.Short := inferInstanceAs (Decidable (_ < _))

/-- No call that takes bytes follows a short one. -/
def NoneAfterShort (calls : List SendCall) : Prop :=
  calls.Pairwise fun earlier later => earlier.Short → later.taken = []

/-- The order of the calls can be tested. -/
instance (calls : List SendCall) : Decidable (NoneAfterShort calls) :=
  inferInstanceAs (Decidable (calls.Pairwise _))

/-- The read cursors of the packet's buffers have not passed their used bytes. -/
structure SMPacket.CursorsValid (pkt : SMPacket) : Prop where
  /-- The original data. -/
  origion : pkt.origionData.nCurrent ≤ pkt.origionData.nUsed
  /-- The packed data, if there is any. -/
  packed : ∀ buff ∈ pkt.packedJmpData, buff.nCurrent ≤ buff.nUsed

/-- The inputs of a server stream's send path. -/
inductive ServerStreamEvent where
  /-- `SMPServerStream::SendPacket`. -/
  | sendPacket (pkt : SMPacket) (valid : pkt.CursorsValid)
  /-- `SMPServer::on_stream_write_notify`. -/
  | writeNotify

/-- `SMPServerStream`, as far as sending uses it. -/
structure SMPServerStream where
  /-- `stream_` is not null. -/
  isOpen : Bool
  /-- `parser_`. -/
  parser : SMPParser
  /-- The `xqc_stream_send` calls made so far. -/
  calls : List SendCall

/-- A stream after `Create`. -/
def SMPServerStream.create (streamId : UInt32) : SMPServerStream where
  isOpen := true
  parser := SMPParser.create streamId
  calls := []

namespace SMPServerStream

variable (t : Transport)

/-- `SMPServerStream::Send`: whatever the transport answers, the stream goes on. -/
def send (s : SMPServerStream) (data : List UInt8) : SMPServerStream :=
  if s.isOpen then { s with calls := s.calls ++ [⟨data, t.taken s.calls.length data⟩] } else s

/-- The loop of `SendPacket` over the blocks of the packed data. -/
def sendBlocks : ℕ → SMPServerStream → BCBuffer → SMPServerStream
  | 0, s, _ => s
  | fuel + 1, s, payload =>
    let r := payload.readBlock (2 ^ 32 - 1)
    if r.1 = [] then s else sendBlocks fuel (s.send t r.1) r.2

/-- `SMPServerStream::OnDataPacked` with the outcome of `PackData`. -/
def onDataPacked (s : SMPServerStream) (r : SMPParser × Option (List UInt8)) : SMPServerStream :=
  match r.2 with
  | some data => send t { s with parser := r.1 } data
  | none => { s with parser := r.1 }

/-- `SMPServerStream::SendPacket`. -/
def sendPacket (s : SMPServerStream) (pkt : SMPacket) : SMPServerStream :=
  match pkt.packedJmpData with
  | some buff => s.sendBlocks t (buff.nUsed + 1) buff.refClone
  | none =>
    s.onDataPacked t (s.parser.packData pkt.type pkt.timestamp pkt.transId pkt.origionData)

/-- One event of the send path. -/
def step (s : SMPServerStream) : ServerStreamEvent → SMPServerStream
  | .sendPacket pkt _ => s.sendPacket t pkt
  | .writeNotify => s

/-- The bytes the transport took. -/
def accepted (s : SMPServerStream) : List UInt8 := s.calls.flatMap SendCall.taken

end SMPServerStream

/-- The packed frame of a packet: its packed data, or what `PackData` makes of it. -/
def SMPacket.frame (pkt : SMPacket) : List UInt8 :=
  match pkt.packedJmpData with
  | some buff => buff.remaining
  | none =>
    headerBytes pkt.type pkt.origionData.remaining.length pkt.timestamp pkt.transId ++
      pkt.origionData.remaining

/-- A packet that is not packed yet has a frame whose size an `int` can count. -/
def SMPacket.Packable (pkt : SMPacket) : Prop :=
  pkt.packedJmpData = none → 17 + pkt.origionData.remaining.length < 2 ^ 31

/-- The packed frames of the submitted packets, in order. -/
def serverFrames (events : List ServerStreamEvent) : List UInt8 :=
  events.flatMap fun
    | .sendPacket pkt _ => pkt.frame
    | .writeNotify => []

/-- Every submitted packet can be packed. -/
def AllPackable (events : List ServerStreamEvent) : Prop :=
  ∀ pkt valid, ServerStreamEvent.sendPacket pkt valid ∈ events → pkt.Packable

namespace SMPServerStream

variable {t : Transport} {s : SMPServerStream} {frames : List UInt8}

/-- Unless a call took bytes after a short one, the accepted bytes are all the frames, or
a prefix of them to which no more can be added. -/
def InOrder (frames : List UInt8) (s : SMPServerStream) : Prop :=
  NoneAfterShort s.calls →
    s.accepted = frames ∨
      s.accepted <+: frames ∧ (s.isOpen = false ∨ ∃ c ∈ s.calls, c.Short)

/-- One `Send` adds its bytes to the frames. -/
theorem InOrder.send (h : InOrder frames s) (data : List UInt8) :
    InOrder (frames ++ data) (s.send t data) := by
  intro hcalls
  cases hopen : s.isOpen with
  | false =>
    have hsame : s.send t data = s := by simp [SMPServerStream.send, hopen]
    rw [hsame] at hcalls ⊢
    refine Or.inr ⟨?_, Or.inl hopen⟩
    rcases h hcalls with heq | ⟨hfront, -⟩
    · rw [heq]
      exact List.prefix_append _ _
    · exact hfront.trans (List.prefix_append _ _)
  | true =>
    set c : SendCall := ⟨data, t.taken s.calls.length data⟩ with hc
    have hsent : (s.send t data).calls = s.calls ++ [c] := by
      simp [SMPServerStream.send, hopen, hc]
    have hisOpen : (s.send t data).isOpen = true := by simp [SMPServerStream.send, hopen]
    have haccepted : (s.send t data).accepted = s.accepted ++ c.taken := by
      simp [accepted, hsent]
    have htaken : c.taken <+: data := List.take_prefix _ _
    rw [hsent] at hcalls
    obtain ⟨hbefore, -, hlast⟩ := List.pairwise_append.mp hcalls
    rw [haccepted, hsent]
    rcases h hbefore with heq | ⟨hfront, hclosed | ⟨short, hmem, hshort⟩⟩
    · by_cases hfull : c.Short
      · refine Or.inr ⟨?_, Or.inr ⟨c, by simp, hfull⟩⟩
        rw [heq]
        exact (List.prefix_append_right_inj _).mpr htaken
      · have hall : c.taken = data := htaken.eq_of_length_le (not_lt.mp hfull)
        exact Or.inl (by rw [heq, hall])
    · rw [hopen] at hclosed
      exact absurd hclosed (by simp)
    · have hnone : c.taken = [] := hlast short hmem c (by simp) hshort
      refine Or.inr ⟨?_, Or.inr ⟨short, by simp [hmem], hshort⟩⟩
      rw [hnone, List.append_nil]
      exact hfront.trans (List.prefix_append _ _)

/-- The block loop adds the remaining bytes of the packed data to the frames. -/
theorem InOrder.sendBlocks {fuel : ℕ} {payload : BCBuffer} (h : InOrder frames s)
    (hcur : payload.nCurrent ≤ payload.nUsed)
    (hfuel : payload.nUsed - payload.nCurrent < fuel) :
    InOrder (frames ++ payload.remaining) (s.sendBlocks t fuel payload) := by
  induction fuel generalizing s payload frames with
  | zero => omega
  | succ fuel ih =>
    have hused := payload.used_lt
    have hmod := Nat.mod_lt payload.nCurrent (show 0 < 8192 by norm_num)
    have hpeek : payload.peekBlock (2 ^ 32 - 1) =
        payload.remaining.take (min (2 ^ 32 - 1) (8192 - payload.nCurrent % 8192)) :=
      BCBuffer.peekBlock_eq hcur
    have hread : payload.readBlock (2 ^ 32 - 1) = (payload.peekBlock (2 ^ 32 - 1),
        payload.advance (payload.peekBlock (2 ^ 32 - 1)).length) :=
      BCBuffer.readBlock_eq hcur
    have hrem := BCBuffer.length_remaining hcur
    rw [BCBuffer.remainingLength_eq hcur] at hrem
    rw [SMPServerStream.sendBlocks, hread]
    simp only
    set data := payload.peekBlock (2 ^ 32 - 1) with hdata
    by_cases hdone : data = []
    · have hempty : payload.remaining = [] := by
        rw [hpeek, List.take_eq_nil_iff] at hdone
        exact hdone.resolve_left (by omega)
      rw [if_pos hdone, hempty, List.append_nil]
      exact h
    · rw [if_neg hdone]
      have hpos := List.length_pos_iff.mpr hdone
      have hle : data.length ≤ payload.nUsed - payload.nCurrent := by
        rw [hpeek, List.length_take, hrem]
        exact Nat.min_le_right _ _
      have hsplit : payload.remaining = data ++ payload.remaining.drop data.length := by
        conv_lhs => rw [← List.take_append_drop data.length payload.remaining]
        congr 1
        rw [hpeek, List.length_take, List.take_eq_take_iff]
        omega
      have hcur' : (payload.advance data.length).nCurrent = payload.nCurrent + data.length :=
        Nat.mod_eq_of_lt (by omega)
      have hused' : (payload.advance data.length).nUsed = payload.nUsed := rfl
      rw [hsplit, ← List.append_assoc, ← BCBuffer.remaining_advance (by omega)]
      exact ih (h.send data) (by omega) (by omega)

/-- What `PackData` hands over is sent at once. -/
theorem InOrder.onDataPacked {r : SMPParser × Option (List UInt8)} {data : List UInt8}
    (h : InOrder frames s) (hout : r.2 = some data) :
    InOrder (frames ++ data) (s.onDataPacked t r) := by
  have hparser : InOrder frames { s with parser := r.1 } := h
  rw [SMPServerStream.onDataPacked, hout]
  exact hparser.send data

/-- Submitting a packet that can be packed adds its frame. -/
theorem InOrder.sendPacket {pkt : SMPacket} (h : InOrder frames s) (valid : pkt.CursorsValid)
    (hpack : pkt.Packable) : InOrder (frames ++ pkt.frame) (s.sendPacket t pkt) := by
  cases hbuff : pkt.packedJmpData with
  | some buff =>
    have hcur := valid.packed buff (by simp [hbuff])
    simp only [SMPServerStream.sendPacket, SMPacket.frame, hbuff, BCBuffer.refClone]
    exact h.sendBlocks hcur (by omega)
  | none =>
    have hout := s.parser.pack_of_lt
      (a := ⟨pkt.type, pkt.timestamp, pkt.transId, pkt.origionData, valid.origion⟩) (hpack hbuff)
    have hframe : pkt.frame = PackArgs.frame
        ⟨pkt.type, pkt.timestamp, pkt.transId, pkt.origionData, valid.origion⟩ := by
      rw [SMPacket.frame, hbuff]
      rfl
    rw [SMPServerStream.sendPacket, hbuff, hframe]
    exact h.onDataPacked hout

/-- The accepted bytes are in order in every run without a call that takes bytes after a
short one. -/
theorem inOrder_run (t : Transport) (streamId : UInt32) {events : List ServerStreamEvent}
    (hpack : AllPackable events) :
    InOrder (serverFrames events) (run (SMPServerStream.step t) (create streamId) events) := by
  induction events using List.reverseRecOn with
  | nil => exact fun _ => Or.inl rfl
  | append_singleton events e ih =>
    have hbefore := ih fun pkt valid hmem => hpack pkt valid (by simp [hmem])
    have hframes : serverFrames (events ++ [e]) = serverFrames events ++ serverFrames [e] :=
      List.flatMap_append
    rw [run_concat, hframes]
    cases e with
    | sendPacket pkt valid =>
      have hframe : serverFrames [.sendPacket pkt valid] = pkt.frame := by simp [serverFrames]
      rw [hframe]
      exact hbefore.sendPacket valid (hpack pkt valid (by simp))
    | writeNotify =>
      have hframe : serverFrames [.writeNotify] = [] := rfl
      rw [hframe, List.append_nil]
      exact hbefore

/-- In every run in which no call that takes bytes follows one that took fewer than it was
offered, the accepted bytes are a prefix of the packed frames in submission order. -/
theorem accepted_prefix_frames (t : Transport) (streamId : UInt32)
    (events : List ServerStreamEvent) (hpack : AllPackable events)
    (hcalls : NoneAfterShort (run (SMPServerStream.step t) (create streamId) events).calls) :
    (run (SMPServerStream.step t) (create streamId) events).accepted <+: serverFrames events := by
  rcases inOrder_run t streamId hpack hcalls with heq | ⟨hfront, -⟩
  · rw [heq]
  · exact hfront

/-- A packet without data. -/
def bare (type : UInt8) : SMPacket := ⟨type, 0, 0, 0, BCBuffer.empty, none⟩

/-- The cursors of a packet without data are at its start. -/
theorem bare_valid (type : UInt8) : (bare type).CursorsValid := ⟨le_rfl, by simp [bare]⟩

/-- A transport that takes all of the first frame, three bytes of the second one, and then
nothing. -/
def blockedAtSecond : Transport where
  result call data :=
    if call = 0 then data.length else if call = 1 then (data.take 3).length else 0
  result_le := by
    intro call data
    split
    · exact le_rfl
    · split
      · exact Int.ofNat_le.mpr (List.length_take_le' 3 data)
      · exact Int.natCast_nonneg _

/-- A transport whose first call takes one byte and whose later calls take everything. -/
def blockedAtFirst : Transport where
  result call data := if call = 0 then (data.take 1).length else data.length
  result_le := by
    intro call data
    split
    · exact Int.ofNat_le.mpr (List.length_take_le' 1 data)
    · exact le_rfl

/-- A ping, a pong and another ping, with a notice that the stream can be written to. -/
def pingPong : List ServerStreamEvent :=
  [.sendPacket (bare 4) (bare_valid 4), .sendPacket (bare 5) (bare_valid 5), .writeNotify,
    .sendPacket (bare 4) (bare_valid 4)]

/-- A transport that blocks within the pong has been given a prefix of 20 bytes. -/
theorem accepted_ping_pong :
    (run (SMPServerStream.step blockedAtSecond) (create 0) pingPong).accepted.length = 20 ∧
      (run (SMPServerStream.step blockedAtSecond) (create 0) pingPong).accepted <+:
        serverFrames pingPong := by
  refine ⟨by decide, accepted_prefix_frames blockedAtSecond 0 _ ?_ (by decide)⟩
  intro pkt valid hmem
  simp only [pingPong, List.mem_cons, ServerStreamEvent.sendPacket.injEq, reduceCtorEq,
    List.not_mem_nil, or_false, false_or] at hmem
  rcases hmem with rfl | rfl | rfl
  · exact fun _ => by decide
  · exact fun _ => by decide
  · exact fun _ => by decide

/-- After a partial write of a ping the pong follows the gap, although the transport
announced that it can be written to again. -/
theorem not_accepted_after_gap :
    ¬ (run (SMPServerStream.step blockedAtFirst) (create 0)
      [.sendPacket (bare 4) (bare_valid 4), .writeNotify,
        .sendPacket (bare 5) (bare_valid 5)]).accepted <+:
      serverFrames [.sendPacket (bare 4) (bare_valid 4), .writeNotify,
        .sendPacket (bare 5) (bare_valid 5)] := by
  decide

end SMPServerStream

end SMP
