import TTSignal.BC.Extract
import TTSignal.Loops
import TTSignal.Tcp.Steps

/-!
# What `_SendRaw` passes to the socket

`_SendRaw` cuts a buffer of more than `BC_SOCKET_MAXSCATTERGATHER` blocks into slices and
passes them to the socket one after the other. Since a slice repeats the first block, the
bytes come through exactly when no slice is cut, or when the buffer itself repeats its first
block; and when more blocks are reserved than one slice holds, the loop does not end.
-/

namespace Tcp

open BC Blocks Loops

/-- The channel, the buffer and the buffers passed to `SendV` within the loop. -/
structure RawSend where
  /-- The channel. -/
  channel : TcpChannel
  /-- `buf`. -/
  buf : SharedBuffer
  /-- What was passed to `SendV` and accepted. -/
  sent : List SharedBuffer

/-- A send operation has been started. -/
def TcpChannel.sendStarted (s : TcpChannel) : TcpChannel :=
  { s with
    counters.pendingSend := s.counters.pendingSend + 1
    ops.sends := s.ops.sends + 1 }

/-- One turn of the loop of `_SendRaw`, and what follows the loop. The results of `SendV`
are counted by the calls before. -/
def RawSend.turn (sendV : ℕ → BCResult) (s : RawSend) :
    RawSend ⊕ TcpChannel × List SharedBuffer :=
  if maxScatterGather < s.buf.getBlockCount then
    if (sendV s.sent.length).Started then
      .inl
        ⟨s.channel.sendStarted, (s.buf.extract maxScatterGather).2.2,
          s.sent ++ [(s.buf.extract maxScatterGather).2.1]⟩
    else .inr (s.channel.fail (sendV s.sent.length) .sendFailed, s.sent)
  else if 0 < s.buf.remainingLength then
    if (sendV s.sent.length).Started then
      .inr (s.channel.sendStarted, s.sent ++ [s.buf.refClone])
    else .inr (s.channel.fail (sendV s.sent.length) .sendFailed, s.sent)
  else .inr (s.channel, s.sent)

/-- `_SendRaw` returns, with the channel and the buffers passed to the socket. -/
def SendRawReturns (sendV : ℕ → BCResult) (s : TcpChannel) (buf : Option SharedBuffer)
    (r : TcpChannel × List SharedBuffer) : Prop :=
  if s.closing ∨ s.socket = none then r = (s, [])
  else
    match buf with
    | none => r = (s, [])
    | some buf => Ends (RawSend.turn sendV) ⟨s, buf, []⟩ r

/-- `_SendRaw` returns and has passed the remaining bytes to the socket. -/
def SendsRemaining (heap : Heap) (sendV : ℕ → BCResult) (s : TcpChannel) (buf : SharedBuffer) :
    Prop :=
  ∃ r, SendRawReturns sendV s (some buf) r ∧
    r.2.flatMap (SharedBuffer.remaining heap) = buf.remaining heap

/-- Every used byte is the one at its position in the first block. -/
def RepeatsFirstBlock (heap : Heap) (buf : SharedBuffer) : Prop :=
  ∀ i < buf.nUsed, (buf.content heap)[i]? = (buf.content heap)[i % 8192]?

namespace RawSend

variable {heap : Heap} {b : SharedBuffer} {c : TcpChannel} {sent : List SharedBuffer}
  {sendV : ℕ → BCResult}

variable (c sent) in
/-- The turn that leaves the loop when every send is accepted. -/
theorem turn_of_le (haccept : ∀ k, (sendV k).Started) (hb : b.WellFormed heap)
    (hcount : b.getBlockCount ≤ maxScatterGather) :
    ∃ r, turn sendV ⟨c, b, sent⟩ = .inr r ∧ ∃ slices, r.2 = sent ++ slices ∧
      slices.flatMap (SharedBuffer.remaining heap) = b.remaining heap := by
  have hlt := hb.used_lt
  have hle := hb.current_le
  simp only [turn, if_neg (Nat.not_lt.mpr hcount), if_pos (haccept _)]
  split
  · exact ⟨_, rfl, [b.refClone], rfl, List.flatMap_singleton _ _⟩
  · rename_i hnone
    refine ⟨_, rfl, [], (List.append_nil _).symm, ?_⟩
    have hempty : b.nUsed ≤ b.nCurrent := by
      simp only [SharedBuffer.remainingLength] at hnone
      omega
    rw [SharedBuffer.remaining, List.drop_eq_nil_of_le (hb.length_content.trans_le hempty)]
    rfl

variable (c sent) in
/-- A turn that cuts a slice. -/
theorem turn_of_lt (haccept : ∀ k, (sendV k).Started)
    (hcount : maxScatterGather < b.getBlockCount) :
    turn sendV ⟨c, b, sent⟩ =
      .inl
        ⟨c.sendStarted, (b.extract maxScatterGather).2.2,
          sent ++ [(b.extract maxScatterGather).2.1]⟩ := by
  simp only [turn, if_pos hcount, if_pos (haccept _)]

variable (c sent) in
/-- As long as used blocks are left the slices repeat the first block; the blocks left at
the end begin with the first block again. -/
theorem ends (haccept : ∀ k, (sendV k).Started) (hb : b.WellFormed heap)
    (hcur : maxScatterGather < b.getBlockCount ∨ b.nCurrent = 0)
    (hcount : b.getBlockCount ≤ maxScatterGather + b.usedBlocks) :
    ∃ r, Ends (turn sendV) ⟨c, b, sent⟩ r ∧ ∃ slices stop, r.2 = sent ++ slices ∧
      Echoes 8192 (slices.flatMap (SharedBuffer.remaining heap)) (b.content heap) stop ∧
        (maxScatterGather < b.getBlockCount → 0 < stop) := by
  induction hblocks : b.usedBlocks using Nat.strongRecOn generalizing b c sent with
  | ind n ih =>
    rcases Nat.lt_or_ge maxScatterGather b.getBlockCount with hlt | hle
    · have hturn := turn_of_lt c sent haccept hlt
      simp only [SharedBuffer.getBlockCount, maxScatterGather] at hcount hlt
      obtain ⟨slice, rest, hextract, hcut⟩ := hb.extract_isCut (n := maxScatterGather)
        (by decide) (by omega : 0 < b.usedBlocks)
      have husedBlocks := hcut.usedBlocks_eq
      have hlength := hcut.length_eq
      rw [hextract] at hturn
      simp only [maxScatterGather] at husedBlocks hlength
      obtain ⟨r, hends, slices, stop, hsent, hechoes, -⟩ :=
        ih rest.usedBlocks (by omega) c.sendStarted (sent ++ [slice]) hcut.wellFormed
          (Or.inr hcut.current_eq)
          (by simp only [SharedBuffer.getBlockCount, maxScatterGather]; omega) rfl
      have hpos := hcut.pos
      rw [hcut.content_eq] at hechoes
      refine ⟨r, .again hturn hends, slice :: slices, (slice.remaining heap).length + stop, ?_,
        ?_, fun _ => by omega⟩
      · rw [hsent, List.append_assoc, List.singleton_append]
      · rw [List.flatMap_cons]
        exact hechoes.append hcut.le hcut.whole hcut.copies
    · obtain ⟨r, hturn, slices, hsent, hslices⟩ :=
        turn_of_le c sent haccept hb hle
      have hcur := hcur.resolve_left (Nat.not_lt.mpr hle)
      refine ⟨r, .leave hturn, slices, 0, hsent, ?_, fun h => absurd h (Nat.not_lt.mpr hle)⟩
      rw [hslices, SharedBuffer.remaining, hcur, List.drop_zero]
      exact Echoes.refl _

/-- With more blocks reserved than that the loop does not end. -/
theorem not_terminates (haccept : ∀ k, (sendV k).Started) (hb : b.WellFormed heap)
    (hcount : maxScatterGather + b.usedBlocks < b.getBlockCount) :
    ¬ Terminates (turn sendV) ⟨c, b, sent⟩ := by
  refine not_terminates_of_invariant (I := fun s => s.buf.WellFormed heap ∧
    maxScatterGather + s.buf.usedBlocks < s.buf.getBlockCount) ?_ ⟨hb, hcount⟩
  rintro ⟨c, b, sent⟩ ⟨hb, hcount⟩
  have hturn := turn_of_lt c sent haccept
    (lt_of_le_of_lt (Nat.le_add_right _ _) hcount)
  refine ⟨_, hturn, ?_⟩
  rcases Nat.eq_zero_or_pos b.usedBlocks with hzero | hpos
  · obtain ⟨hwf, hdata, hused⟩ := hb.extract_unused hzero maxScatterGather
    refine ⟨hwf, ?_⟩
    simp only [SharedBuffer.getBlockCount, hdata, hused, hzero] at hcount ⊢
    exact hcount
  · obtain ⟨slice, rest, hextract, hcut⟩ := hb.extract_isCut (n := maxScatterGather)
      (by decide) hpos
    have husedBlocks := hcut.usedBlocks_eq
    have hlength := hcut.length_eq
    rw [hextract]
    refine ⟨hcut.wellFormed, ?_⟩
    simp only [SharedBuffer.getBlockCount, maxScatterGather] at hcount husedBlocks hlength ⊢
    omega

/-- What decides whether `_SendRaw` passes the remaining bytes to the socket. -/
theorem sendsRemaining_iff (haccept : ∀ k, (sendV k).Started) (hclosing : c.closing = false)
    (hsocket : c.socket ≠ none) (hb : b.WellFormed heap) :
    SendsRemaining heap sendV c b ↔
      b.getBlockCount ≤ maxScatterGather ∨
        b.getBlockCount ≤ maxScatterGather + b.usedBlocks ∧ b.nCurrent = 0 ∧
          RepeatsFirstBlock heap b := by
  have hopen : ¬ (c.closing = true ∨ c.socket = none) := by simp [hclosing, hsocket]
  simp only [SendsRemaining, SendRawReturns, if_neg hopen]
  rcases Nat.lt_or_ge maxScatterGather b.getBlockCount with hlt | hle
  · rw [or_iff_right (Nat.not_le.mpr hlt)]
    rcases Nat.lt_or_ge (maxScatterGather + b.usedBlocks) b.getBlockCount with hmany | hfew
    · refine iff_of_false ?_ fun h => absurd h.1 (Nat.not_le.mpr hmany)
      rintro ⟨r, hends, -⟩
      exact not_terminates haccept hb hmany ⟨r, hends⟩
    · obtain ⟨r, hends, slices, stop, hsent, hechoes, hstop⟩ :=
        ends c [] haccept hb (Or.inl hlt) hfew
      have hrepeats := hechoes.eq_iff (hstop hlt)
      have hpos := (hstop hlt).trans_le hechoes.stop_le
      rw [hb.length_content] at hrepeats hpos
      rw [List.nil_append] at hsent
      constructor
      · rintro ⟨r', hends', hremaining⟩
        obtain rfl := hends.unique hends'
        rw [hsent] at hremaining
        -- The slices count all used bytes, so none of them was consumed before.
        have hcur : b.nCurrent = 0 := by
          have hlength := hechoes.length_eq
          rw [hremaining, SharedBuffer.remaining, List.length_drop, hb.length_content] at hlength
          omega
        rw [SharedBuffer.remaining, hcur, List.drop_zero] at hremaining
        exact ⟨hfew, hcur, hrepeats.mp hremaining⟩
      · rintro ⟨-, hcur, hrepeat⟩
        refine ⟨r, hends, ?_⟩
        rw [hsent, SharedBuffer.remaining, hcur, List.drop_zero]
        exact hrepeats.mpr hrepeat
  · obtain ⟨r, hturn, slices, hsent, hslices⟩ :=
      turn_of_le c [] haccept hb hle
    refine iff_of_true ⟨r, .leave hturn, ?_⟩ (Or.inl hle)
    rw [hsent, List.nil_append, hslices]

end RawSend

/-- On an open channel whose socket accepts every `SendV`, for every buffer, `_SendRaw`
returns and has passed exactly the remaining bytes to the socket if and only if the buffer
has no more blocks than one send takes, or the blocks without used bytes are no more than
that, the cursor is at the beginning and the content repeats its first block. -/
theorem sendRaw_lossless_iff {sendV : ℕ → BCResult} (haccept : ∀ k, (sendV k).Started)
    {s : TcpChannel} (hclosing : s.closing = false) (hsocket : s.socket ≠ none) {heap : Heap}
    {b : SharedBuffer} {v : BCBuffer} (hb : Shows heap b v) (hcur : v.nCurrent ≤ v.nUsed) :
    SendsRemaining heap sendV s b ↔
      b.getBlockCount ≤ maxScatterGather ∨
        b.getBlockCount ≤ maxScatterGather + b.usedBlocks ∧ b.nCurrent = 0 ∧
          RepeatsFirstBlock heap b :=
  RawSend.sendsRemaining_iff haccept hclosing hsocket (hb.wellFormed hcur)

/-- An open channel with the default configuration. -/
def plainChannel : TcpChannel :=
  { TcpChannel.create
      { host := "", port := 0, tls := false, resolvedIp := "", policy := .unset, ifIndex := 0,
        androidNetHandle := 0, dns := ⟨.unset, 0, 0⟩, tlsCfg := ⟨[], []⟩,
        connectTimeoutMs := 10000 } with
    state := .ready
    socket := some 3 }

/-- Blocks of zeros at the even addresses and of ones at the others. -/
def stripes : Heap where
  block a := List.replicate 8192 (if a % 2 = 0 then 0 else 1)
  next := 1025

/-- They have the block size. -/
theorem length_stripes (a : ℕ) : (stripes.block a).length = 8192 := List.length_replicate

/-- Blocks of zeros. -/
def zeros : Heap where
  block _ := List.replicate 8192 0
  next := 1025

/-- These have the block size too. -/
theorem length_zeros (a : ℕ) : (zeros.block a).length = 8192 := List.length_replicate

/-- `n` full blocks of the heap. -/
def fullBuffer (n : ℕ) : SharedBuffer := ⟨List.range n, 8192 * n % 2 ^ 32, 8192 * n, 0⟩

section FullBuffer

variable {heap : Heap} (hblocks : ∀ a, (heap.block a).length = 8192)

include hblocks in
/-- The first `n` blocks have the block size. -/
theorem length_firstBlocks (n : ℕ) :
    ∀ block ∈ (List.range n).map heap.block, block.length = 8192 := by
  intro block hblock
  obtain ⟨a, -, rfl⟩ := List.mem_map.mp hblock
  exact hblocks a

/-- The same buffer with its blocks. -/
def fullBlocks (n : ℕ) (hn : 8192 * n < 2 ^ 32) : BCBuffer where
  lstData := (List.range n).map heap.block
  nSize := 8192 * n % 2 ^ 32
  nUsed := 8192 * n
  nCurrent := 0
  length_block := length_firstBlocks hblocks n
  size_eq := by rw [List.length_map, List.length_range]
  used_lt := hn
  used_le := by rw [List.length_map, List.length_range]

/-- The shared buffer shows the buffer of blocks. -/
theorem shows_fullBlocks {n : ℕ} (hn : n ≤ 1025) (hnext : heap.next = 1025) :
    Shows heap (fullBuffer n) (fullBlocks hblocks n (by omega)) :=
  ⟨rfl, rfl, rfl, rfl, List.nodup_range,
    fun _ ha => (List.mem_range.mp ha).trans_le (hn.trans_eq hnext.symm)⟩

include hblocks in
/-- The bytes of the full blocks. -/
theorem getElem?_content_fullBuffer {n i : ℕ} (hi : i < 8192 * n) :
    ((fullBuffer n).content heap)[i]? = (heap.block (i / 8192))[i % 8192]? := by
  have hindex : i / 8192 < n := by omega
  rw [SharedBuffer.content, fullBuffer, List.getElem?_take_of_lt hi,
    getElem?_flatten (length_firstBlocks hblocks n) (by omega),
    List.getD_eq_getElem _ _ (by rwa [List.length_map, List.length_range]),
    List.getElem_map, List.getElem_range]

end FullBuffer

/-- Two blocks are sent as they are, and so are 1025 blocks of zeros: there the first block is as
good as any. -/
theorem sendRaw_lossless_zeros :
    SendsRemaining stripes (fun _ => .success) plainChannel (fullBuffer 2) ∧
      maxScatterGather < (fullBuffer 1025).getBlockCount ∧
      SendsRemaining zeros (fun _ => .success) plainChannel (fullBuffer 1025) := by
  have hsocket : plainChannel.socket ≠ none := by simp [plainChannel]
  refine ⟨?_, ?_, ?_⟩
  · refine (sendRaw_lossless_iff (fun _ => Or.inl rfl) rfl hsocket
      (shows_fullBlocks length_stripes (by omega) rfl) (Nat.zero_le _)).mpr (Or.inl ?_)
    simp [SharedBuffer.getBlockCount, fullBuffer, maxScatterGather]
  · simp [SharedBuffer.getBlockCount, fullBuffer, maxScatterGather]
  · refine (sendRaw_lossless_iff (fun _ => Or.inl rfl) rfl hsocket
      (shows_fullBlocks length_zeros (Nat.le_refl _) rfl) (Nat.zero_le _)).mpr (Or.inr ?_)
    refine ⟨?_, rfl, fun i hi => ?_⟩
    · simp [SharedBuffer.getBlockCount, SharedBuffer.usedBlocks, fullBuffer, maxScatterGather]
    · have hi' : i < 8192 * 1025 := hi
      rw [getElem?_content_fullBuffer length_zeros hi',
        getElem?_content_fullBuffer length_zeros (by omega), Nat.mod_mod]
      rfl

/-- Of 1025 blocks the second one is not sent. -/
theorem sendRaw_not_lossless :
    Shows stripes (fullBuffer 1025) (fullBlocks length_stripes 1025 (by omega)) ∧
      ¬ SendsRemaining stripes (fun _ => .success) plainChannel (fullBuffer 1025) := by
  have hshows := shows_fullBlocks length_stripes (Nat.le_refl 1025) rfl
  refine ⟨hshows, fun h => ?_⟩
  rw [RawSend.sendsRemaining_iff (fun _ => Or.inl rfl) rfl (by simp [plainChannel])
    (hshows.wellFormed (Nat.zero_le _))] at h
  rcases h with hcount | ⟨-, -, hrepeat⟩
  · simp [SharedBuffer.getBlockCount, fullBuffer, maxScatterGather] at hcount
  · have hbyte : ∀ i < 8192 * 1025, ((fullBuffer 1025).content stripes)[i]? =
        (stripes.block (i / 8192))[i % 8192]? := fun i hi =>
      getElem?_content_fullBuffer length_stripes hi
    have h : some (1 : UInt8) = some 0 :=
      calc
        some 1 = (stripes.block (8192 / 8192))[8192 % 8192]? := rfl
        _ = ((fullBuffer 1025).content stripes)[8192]? := (hbyte 8192 (by omega)).symm
        _ = ((fullBuffer 1025).content stripes)[8192 % 8192]? :=
          hrepeat 8192 (by simp only [fullBuffer]; omega)
        _ = (stripes.block (8192 % 8192 / 8192))[8192 % 8192 % 8192]? :=
          hbyte (8192 % 8192) (by omega)
        _ = some 0 := rfl
    exact absurd h (by decide)

end Tcp
