import Mathlib.Data.List.SplitLengths
import TTSignal.Smp.Decoding

/-!
# The read path of a client stream

`SMPStream::OnRead` reads from the transport until it would block and hands every read to
the stream's parser. On a WebTransport connection the peer puts a prefix of three bytes in
front of the stream; the first read is compared with it, and the prefix is left out. The
comparison looks at the first three bytes of the read buffer however many were read.
-/

namespace SMP

open Blocks Bytes Framing

/-- `webtransport_hdr_mask`. -/
def webtransportHdrMask : List UInt8 := [0x40, 0x41, 0x00]

/-- The results of `xqc_stream_recv`. -/
inductive RecvResult where
  /-- Bytes, and whether they are the last of the stream. -/
  | data (bytes : List UInt8) (fin : Bool)
  /-- `-XQC_EAGAIN`. -/
  | again
  /-- Another negative result. -/
  | error
  deriving DecidableEq

/-- The receiving fields of `SMPStream`. The last fields are a record kept by the model. -/
structure SMPStreamReader where
  /-- `parser_`. -/
  parser : SMPParser
  /-- `recv_buff_`. -/
  recvBuff : List UInt8
  /-- `recv_wt_mask_`. -/
  recvWtMask : Bool
  /-- The packets handed over so far. -/
  parsed : List Parsed
  /-- The counts handed to `Parse` so far, before they become a `size_t`. -/
  counts : List ℤ
  /-- `Parse` has been given a negative count. -/
  crashed : Bool

namespace SMPStreamReader

/-- A stream after `Create`. -/
def create (streamId : UInt32) : SMPStreamReader where
  parser := SMPParser.create streamId
  recvBuff := List.replicate 4096 0
  recvWtMask := false
  parsed := []
  counts := []
  crashed := false

/-- `skip_size` for a read, with the read buffer as it is after it. -/
def skipSize (sniff : Bool) (buff : List UInt8) : ℕ :=
  if sniff ∧ buff.take 3 = webtransportHdrMask then 3 else 0

/-- A read of some bytes. A negative count is a huge `size_t`, and nothing is modelled
behind it. -/
def onRecv (webtransport : Bool) (s : SMPStreamReader) (data : List UInt8) : SMPStreamReader :=
  if s.crashed then s
  else
    let buff := splice s.recvBuff 0 data
    let sniff := webtransport && !s.recvWtMask
    let skip := skipSize sniff buff
    let count : ℤ := data.length - skip
    let r := s.parser.parse ((buff.drop skip).take count.toNat)
    { parser := if count < 0 then s.parser else r.1
      recvBuff := buff
      recvWtMask := s.recvWtMask || sniff
      parsed := if count < 0 then s.parsed else s.parsed ++ r.2
      counts := s.counts ++ [count]
      crashed := decide (count < 0) }

/-- The loop of `OnRead` over the results of `xqc_stream_recv`. -/
def readLoop (webtransport : Bool) : List RecvResult → SMPStreamReader → SMPStreamReader
  | [], s => s
  | .again :: _, s => s
  | .error :: _, s => s
  | .data bytes fin :: results, s =>
    if bytes ≠ [] ∧ ¬ fin then readLoop webtransport results (s.onRecv webtransport bytes)
    else s.onRecv webtransport bytes

/-- `SMPStream::OnRead`, on a connection that is closing or not. -/
def onRead (webtransport closing : Bool) (s : SMPStreamReader) (results : List RecvResult) :
    SMPStreamReader :=
  if closing then s else readLoop webtransport results s

end SMPStreamReader

/-- What ends the loop of one `OnRead` call. -/
inductive Ending where
  | again
  | error
  | fin
  deriving DecidableEq

/-- The sizes of the reads of one `OnRead` call, and what ends it. -/
abbrev Notification := List ℕ × Ending

/-- The results of `xqc_stream_recv` for reads and an ending. -/
def results : List (List UInt8) → Ending → List RecvResult
  | [], .again => [.again]
  | [], .error => [.error]
  | [], .fin => []
  | [bytes], .fin => [.data bytes true]
  | bytes :: reads, ending => .data bytes false :: results reads ending

/-- The results of the calls when a stream is split into reads. -/
def split : List Notification → List UInt8 → List (List RecvResult)
  | [], _ => []
  | (sizes, ending) :: notifications, bytes =>
    results (sizes.splitLengths bytes) ending :: split notifications (bytes.drop sizes.sum)

/-- The sizes of all reads. -/
def readSizes (notifications : List Notification) : List ℕ := notifications.flatMap Prod.fst

/-- The size of the first read. -/
def firstRead (notifications : List Notification) : ℕ := (readSizes notifications).headD 0

/-- A stream read on an open connection in these notifications. -/
def received (streamId : UInt32) (webtransport : Bool) (notifications : List Notification)
    (bytes : List UInt8) : SMPStreamReader :=
  (split notifications bytes).foldl (fun s r => s.onRead webtransport false r)
    (SMPStreamReader.create streamId)

/-- The reads make up a stream of this length, and each has at least one byte and fits
into the read buffer. -/
structure Splits (notifications : List Notification) (length : ℕ) : Prop where
  /-- The sizes add up to the length. -/
  sum_eq : (readSizes notifications).sum = length
  /-- Every read has at least one byte and fits. -/
  size_le : ∀ size ∈ readSizes notifications, 1 ≤ size ∧ size ≤ 4096

/-- What a peer sends: on a WebTransport connection the prefix comes first. -/
def Sent (webtransport : Bool) (bytes : List UInt8) : Prop :=
  webtransport = true → webtransportHdrMask <+: bytes

/-- No count handed to `Parse` was negative. -/
def CountsFit (s : SMPStreamReader) : Prop := ∀ count ∈ s.counts, 0 ≤ count

/-- The same packets are delivered in both ways of reading, and no count is negative. -/
def SameReads (streamId : UInt32) (webtransport : Bool) (first second : List Notification)
    (bytes : List UInt8) : Prop :=
  (received streamId webtransport first bytes).parsed =
      (received streamId webtransport second bytes).parsed ∧
    CountsFit (received streamId webtransport first bytes) ∧
      CountsFit (received streamId webtransport second bytes)

/-- The first reads of a stream of this length treat the prefix alike: they hold all of it,
or just its first byte. When no packet fits into the stream it only matters that neither
holds two bytes. -/
def FirstReadsFit (first second : List Notification) (length : ℕ) : Prop :=
  (3 ≤ firstRead first ∧ 3 ≤ firstRead second) ∨ (firstRead first = 1 ∧ firstRead second = 1) ∨
    (length < 20 ∧ firstRead first ≠ 2 ∧ firstRead second ≠ 2)

/-- The reader has parsed exactly the given bytes. -/
structure Tracks (streamId : UInt32) (given : List UInt8) (s : SMPStreamReader) : Prop where
  /-- The parser waits with the rest of them. -/
  represents : s.parser.Represents streamId ((frameDecoder streamId).drain given).2
  /-- The complete frames have been delivered. -/
  parsed_eq : s.parsed = ((frameDecoder streamId).drain given).1
  /-- No count was negative. -/
  counts_fit : CountsFit s
  /-- `Parse` has not been given a negative count. -/
  alive : s.crashed = false

variable {streamId : UInt32} {webtransport : Bool} {s : SMPStreamReader} {given data : List UInt8}

/-- A new stream has parsed nothing. -/
theorem tracks_create (streamId : UInt32) :
    Tracks streamId [] (SMPStreamReader.create streamId) := by
  have hnil := Decoder.drain_of_none (frameDecoder_next_nil streamId)
  refine ⟨?_, ?_, ?_, rfl⟩
  · rw [hnil]
    exact SMPParser.represents_create streamId
  · rw [hnil]
    rfl
  · intro count hcount
    cases hcount

/-- Writing at the front of the read buffer. -/
theorem splice_zero (buff data : List UInt8) :
    splice buff 0 data = data ++ buff.drop data.length := by
  simp [splice]

/-- A read from which `skip` bytes are left out. -/
theorem Tracks.onRecv_skip {skip : ℕ} (h : Tracks streamId given s)
    (hskip : SMPStreamReader.skipSize (webtransport && !s.recvWtMask)
      (splice s.recvBuff 0 data) = skip) (hle : skip ≤ data.length) :
    Tracks streamId (given ++ data.drop skip) (s.onRecv webtransport data) := by
  have hcount : ¬ ((data.length : ℤ) - skip < 0) := by omega
  have htoNat : ((data.length : ℤ) - skip).toNat = (data.drop skip).length := by
    rw [List.length_drop]
    omega
  have htake : ((splice s.recvBuff 0 data).drop skip).take (data.drop skip).length =
      data.drop skip := by
    rw [splice_zero, List.drop_append_of_le_length hle, List.take_left]
  obtain ⟨hrep, hout, -⟩ := SMPParser.parse_spec h.represents (data.drop skip)
  have hdrain := (frameDecoder streamId).drain_append given (data.drop skip)
  simp only [SMPStreamReader.onRecv, h.alive, hskip, htoNat, htake, hcount, if_false,
    Bool.false_eq_true, decide_false]
  refine ⟨?_, ?_, ?_, rfl⟩
  · rw [hdrain]
    exact hrep
  · simp only
    rw [hdrain, hout, h.parsed_eq]
  · intro count hmem
    rcases List.mem_append.mp hmem with hold | hnew
    · exact h.counts_fit count hold
    · rw [List.mem_singleton.mp hnew]
      omega

/-- Reads that are not compared with the prefix are parsed whole. -/
theorem Tracks.onRecv (h : Tracks streamId given s)
    (hsettled : (webtransport && !s.recvWtMask) = false) (data : List UInt8) :
    Tracks streamId (given ++ data) (s.onRecv webtransport data) ∧
      (webtransport && !(s.onRecv webtransport data).recvWtMask) = false := by
  constructor
  · have hskip : SMPStreamReader.skipSize (webtransport && !s.recvWtMask)
        (splice s.recvBuff 0 data) = 0 := by
      rw [hsettled]
      simp [SMPStreamReader.skipSize]
    exact h.onRecv_skip hskip (Nat.zero_le _)
  · simp only [SMPStreamReader.onRecv, h.alive, Bool.false_eq_true, if_false]
    cases webtransport <;> simp_all

/-- All reads behind the first one are parsed whole. -/
theorem Tracks.foldl (h : Tracks streamId given s)
    (hsettled : (webtransport && !s.recvWtMask) = false) (reads : List (List UInt8)) :
    Tracks streamId (given ++ reads.flatten) (reads.foldl (·.onRecv webtransport ·) s) := by
  induction reads generalizing s given with
  | nil => simpa using h
  | cons data reads ih =>
    obtain ⟨hread, hsettled'⟩ := h.onRecv hsettled data
    have hrest := ih hread hsettled'
    rwa [List.append_assoc, ← List.flatten_cons] at hrest

/-- Nothing is modelled behind a negative count. -/
theorem foldl_of_crashed (hcrashed : s.crashed = true) (reads : List (List UInt8)) :
    reads.foldl (·.onRecv webtransport ·) s = s := by
  induction reads with
  | nil => rfl
  | cons data reads ih =>
    have hread : s.onRecv webtransport data = s := by
      rw [SMPStreamReader.onRecv, if_pos hcrashed]
    rw [List.foldl_cons, hread, ih]

/-- The loop of one call makes its reads one after the other. -/
theorem readLoop_results {reads : List (List UInt8)} (hreads : ∀ bytes ∈ reads, bytes ≠ [])
    (ending : Ending) (s : SMPStreamReader) :
    SMPStreamReader.readLoop webtransport (results reads ending) s =
      reads.foldl (·.onRecv webtransport ·) s := by
  induction reads generalizing s with
  | nil => cases ending <;> rfl
  | cons bytes reads ih =>
    have hbytes := hreads bytes (by simp)
    have hrest := ih fun b hb => hreads b (by simp [hb])
    have hstep (results : List RecvResult) :
        SMPStreamReader.readLoop webtransport (.data bytes false :: results) s =
          SMPStreamReader.readLoop webtransport results (s.onRecv webtransport bytes) := by
      rw [SMPStreamReader.readLoop, if_pos ⟨hbytes, Bool.false_ne_true⟩]
    cases reads with
    | nil =>
      cases ending with
      | again => exact hstep _
      | error => exact hstep _
      | fin => simp [results, SMPStreamReader.readLoop]
    | cons bytes' reads =>
      have hresults : results (bytes :: bytes' :: reads) ending =
          .data bytes false :: results (bytes' :: reads) ending := by
        cases ending <;> rfl
      rw [hresults, hstep, hrest]
      rfl

/-- Reads of sizes that a string has room for are not empty. -/
theorem splitLengths_ne_nil {sizes : List ℕ} {bytes : List UInt8}
    (hsizes : ∀ size ∈ sizes, 1 ≤ size) (hlength : sizes.sum ≤ bytes.length) :
    ∀ read ∈ sizes.splitLengths bytes, read ≠ [] := by
  intro read hread hnil
  have hmap := List.map_splitLengths_length bytes sizes hlength
  have hmem : read.length ∈ sizes := by
    rw [← hmap]
    exact List.mem_map_of_mem hread
  have hpos := hsizes _ hmem
  rw [hnil, List.length_nil] at hpos
  omega

/-- The pieces of a concatenation of sizes. -/
theorem splitLengths_append (sizes sizes' : List ℕ) (bytes : List UInt8) :
    (sizes ++ sizes').splitLengths bytes =
      sizes.splitLengths bytes ++ sizes'.splitLengths (bytes.drop sizes.sum) := by
  induction sizes generalizing bytes with
  | nil => simp
  | cons size sizes ih =>
    rw [List.cons_append, List.splitLengths_cons, ih, List.splitLengths_cons, List.cons_append,
      List.drop_drop, List.sum_cons]

/-- How the reads are spread over the notifications does not matter. -/
theorem received_eq {notifications : List Notification} {bytes : List UInt8}
    (h : Splits notifications bytes.length) :
    received streamId webtransport notifications bytes =
      ((readSizes notifications).splitLengths bytes).foldl (·.onRecv webtransport ·)
        (SMPStreamReader.create streamId) := by
  have hfold : ∀ (notifications : List Notification) (bytes : List UInt8) (s : SMPStreamReader),
      (∀ size ∈ readSizes notifications, 1 ≤ size) →
        (readSizes notifications).sum ≤ bytes.length →
          (split notifications bytes).foldl (fun s r => s.onRead webtransport false r) s =
            ((readSizes notifications).splitLengths bytes).foldl (·.onRecv webtransport ·) s := by
    intro notifications
    induction notifications with
    | nil =>
      intro bytes s _ _
      rfl
    | cons notification notifications ih =>
      intro bytes s hsizes hsum
      obtain ⟨sizes, ending⟩ := notification
      have hcons : readSizes ((sizes, ending) :: notifications) =
          sizes ++ readSizes notifications := rfl
      rw [hcons] at hsizes hsum ⊢
      rw [List.sum_append] at hsum
      have hreads : ∀ read ∈ sizes.splitLengths bytes, read ≠ [] :=
        splitLengths_ne_nil (fun size hsize => hsizes size (List.mem_append_left _ hsize))
          (by omega)
      rw [split, List.foldl_cons, splitLengths_append, List.foldl_append,
        ih _ _ (fun size hsize => hsizes size (List.mem_append_right _ hsize))
          (by rw [List.length_drop]; omega)]
      simp only [SMPStreamReader.onRead, Bool.false_eq_true, if_false, readLoop_results hreads]
  exact hfold notifications bytes _ (fun size hsize => (h.size_le size hsize).1) (by rw [h.sum_eq])

/-- Without WebTransport exactly the packets of the stream are delivered. -/
theorem received_plain {notifications : List Notification} {bytes : List UInt8}
    (h : Splits notifications bytes.length) :
    Tracks streamId bytes (received streamId false notifications bytes) := by
  have hall : Tracks streamId ([] ++ ((readSizes notifications).splitLengths bytes).flatten)
      (((readSizes notifications).splitLengths bytes).foldl (·.onRecv false ·)
        (SMPStreamReader.create streamId)) :=
    (tracks_create streamId).foldl rfl _
  rw [List.flatten_splitLengths _ _ (by rw [h.sum_eq]), List.nil_append] at hall
  rw [received_eq h]
  exact hall

/-- The first read of a new stream settles the comparison with the prefix. -/
theorem settled_of_first (data : List UInt8) :
    (true && !((SMPStreamReader.create streamId).onRecv true data).recvWtMask) = false := by
  rfl

/-- A first read that holds the whole prefix. -/
theorem tracks_first_whole (streamId : UInt32) (data : List UInt8) :
    Tracks streamId data
      ((SMPStreamReader.create streamId).onRecv true (webtransportHdrMask ++ data)) := by
  have hskip : SMPStreamReader.skipSize
      (true && !(SMPStreamReader.create streamId).recvWtMask)
      (splice (SMPStreamReader.create streamId).recvBuff 0 (webtransportHdrMask ++ data)) = 3 := by
    rw [splice_zero]
    rfl
  have hread := (tracks_create streamId).onRecv_skip hskip (by simp [webtransportHdrMask])
  rwa [List.nil_append] at hread

/-- A first read of just the first byte of the prefix is parsed. -/
theorem tracks_first_byte (streamId : UInt32) :
    Tracks streamId [0x40] ((SMPStreamReader.create streamId).onRecv true [0x40]) := by
  have hskip : SMPStreamReader.skipSize
      (true && !(SMPStreamReader.create streamId).recvWtMask)
      (splice (SMPStreamReader.create streamId).recvBuff 0 [0x40]) = 0 := by
    rw [splice_zero]
    rfl
  have hread := (tracks_create streamId).onRecv_skip hskip (Nat.zero_le _)
  rwa [List.nil_append, List.drop_zero] at hread

/-- After a first read of two bytes of the prefix the zero behind them completes it, and a
negative count is handed to `Parse`. -/
theorem crashed_first_two (streamId : UInt32) :
    ((SMPStreamReader.create streamId).onRecv true [0x40, 0x41]).crashed = true ∧
      ¬ CountsFit ((SMPStreamReader.create streamId).onRecv true [0x40, 0x41]) := by
  have hskip : SMPStreamReader.skipSize
      (true && !(SMPStreamReader.create streamId).recvWtMask)
      (splice (SMPStreamReader.create streamId).recvBuff 0 [0x40, 0x41]) = 3 := by
    rw [splice_zero]
    rfl
  constructor
  · simp only [SMPStreamReader.onRecv, hskip]
    rfl
  · intro hfit
    have hcount : (-1 : ℤ) ∈
        ((SMPStreamReader.create streamId).onRecv true [0x40, 0x41]).counts := by
      simp only [SMPStreamReader.onRecv, hskip]
      apply List.mem_append_right
      exact List.mem_singleton_self _
    exact absurd (hfit _ hcount) (by decide)

/-- The first read and the bytes of the reads behind it. -/
theorem readSizes_of_splits {notifications : List Notification} {bytes : List UInt8}
    (h : Splits notifications bytes.length) (hbytes : bytes ≠ []) :
    ∃ sizes : List ℕ, 1 ≤ firstRead notifications ∧
      (readSizes notifications).splitLengths bytes =
        bytes.take (firstRead notifications) ::
          sizes.splitLengths (bytes.drop (firstRead notifications)) ∧
      (sizes.splitLengths (bytes.drop (firstRead notifications))).flatten =
        bytes.drop (firstRead notifications) := by
  have hsum := h.sum_eq
  have hsize := h.size_le
  rw [firstRead]
  cases hreads : readSizes notifications with
  | nil =>
    rw [hreads, List.sum_nil] at hsum
    exact absurd (List.length_eq_zero_iff.mp hsum.symm) hbytes
  | cons size sizes =>
    rw [hreads, List.sum_cons] at hsum
    rw [hreads] at hsize
    refine ⟨sizes, (hsize size (by simp)).1, ?_, ?_⟩
    · rw [List.headD_cons, List.splitLengths_cons]
    · rw [List.headD_cons, List.flatten_splitLengths]
      rw [List.length_drop]
      omega

variable {notifications : List Notification} {body : List UInt8}

/-- A first read that holds the whole prefix leaves the prefix out. -/
theorem received_whole (h : Splits notifications (webtransportHdrMask ++ body).length)
    (hfirst : 3 ≤ firstRead notifications) :
    Tracks streamId body
      (received streamId true notifications (webtransportHdrMask ++ body)) := by
  obtain ⟨sizes, -, hreads, hrest⟩ := readSizes_of_splits h (by simp [webtransportHdrMask])
  have htake : (webtransportHdrMask ++ body).take (firstRead notifications) =
      webtransportHdrMask ++ body.take (firstRead notifications - 3) := by
    rw [List.take_append, List.take_of_length_le (by simpa [webtransportHdrMask] using hfirst)]
    rfl
  have hdrop : (webtransportHdrMask ++ body).drop (firstRead notifications) =
      body.drop (firstRead notifications - 3) := by
    rw [List.drop_append, List.drop_of_length_le (by simpa [webtransportHdrMask] using hfirst)]
    rfl
  have hall := (tracks_first_whole streamId
    (body.take (firstRead notifications - 3))).foldl (settled_of_first _)
    (sizes.splitLengths ((webtransportHdrMask ++ body).drop (firstRead notifications)))
  rw [hrest, hdrop, List.take_append_drop] at hall
  rw [received_eq h, hreads, htake, hdrop]
  exact hall

/-- A first read of one byte leaves the prefix in the parsed bytes. -/
theorem received_byte (h : Splits notifications (webtransportHdrMask ++ body).length)
    (hfirst : firstRead notifications = 1) :
    Tracks streamId (webtransportHdrMask ++ body)
      (received streamId true notifications (webtransportHdrMask ++ body)) := by
  obtain ⟨sizes, -, hreads, hrest⟩ := readSizes_of_splits h (by simp [webtransportHdrMask])
  rw [hfirst] at hreads hrest
  have hall := (tracks_first_byte streamId).foldl (settled_of_first _)
    (sizes.splitLengths ((webtransportHdrMask ++ body).drop 1))
  rw [hrest] at hall
  rw [received_eq h, hreads]
  exact hall

/-- A first read of two bytes hands a negative count to `Parse`. -/
theorem received_two (h : Splits notifications (webtransportHdrMask ++ body).length)
    (hfirst : firstRead notifications = 2) :
    ¬ CountsFit (received streamId true notifications (webtransportHdrMask ++ body)) := by
  obtain ⟨sizes, -, hreads, -⟩ := readSizes_of_splits h (by simp [webtransportHdrMask])
  obtain ⟨hcrashed, hcounts⟩ := crashed_first_two streamId
  have htake : (webtransportHdrMask ++ body).take (firstRead notifications) = [0x40, 0x41] := by
    rw [hfirst]
    rfl
  rw [received_eq h, hreads, htake, List.foldl_cons, foldl_of_crashed hcrashed]
  exact hcounts

/-- The size field that a stream with its prefix seems to announce. -/
theorem nDataSize_prefix (streamId : UInt32) (body : List UInt8) (hlen : 2 ≤ body.length) :
    0x41000000 ≤
      (readHeader streamId (webtransportHdrMask ++ body)).nDataSize.toNat := by
  obtain ⟨b₀, b₁, rest, rfl⟩ : ∃ b₀ b₁ rest, body = b₀ :: b₁ :: rest := by
    match body, hlen with
    | b₀ :: b₁ :: rest, _ => exact ⟨b₀, b₁, rest, rfl⟩
  have hvalue : (readHeader streamId (webtransportHdrMask ++ b₀ :: b₁ :: rest)).nDataSize =
      UInt32.ofNat (beValue [0x41, 0x00, b₀, b₁]) := rfl
  have hlt := beValue_lt [0x41, 0x00, b₀, b₁]
  have heq : beValue [0x41, 0x00, b₀, b₁] = 0x41000000 + (256 * b₀.toNat + b₁.toNat) := by
    simp [beValue]
    omega
  rw [hvalue, UInt32.toNat_ofNat']
  simp only [List.length_cons, List.length_nil] at hlt
  omega

/-- No packet fits into fewer than twenty bytes with the prefix in front. -/
theorem drain_short (streamId : UInt32) (hlen : body.length < 17) :
    ((frameDecoder streamId).drain body).1 = [] ∧
      ((frameDecoder streamId).drain (webtransportHdrMask ++ body)).1 = [] := by
  constructor
  · rw [Decoder.drain_of_none (nextFrame_of_lt (Or.inl hlen))]
  · have hshort : (webtransportHdrMask ++ body).length = 3 + body.length := by
      rw [List.length_append]
      rfl
    have hnone : nextFrame streamId (webtransportHdrMask ++ body) = none := by
      apply nextFrame_of_lt
      by_cases htwo : 2 ≤ body.length
      · have hsize := nDataSize_prefix streamId body htwo
        right
        omega
      · left
        omega
    rw [Decoder.drain_of_none hnone]

/-- A string that starts with an empty packet, if it is long enough. -/
def emptyPacket (length : ℕ) : List UInt8 := (1 :: List.replicate length 0).take length

/-- The string has the given length. -/
@[simp] theorem length_emptyPacket (length : ℕ) : (emptyPacket length).length = length := by
  simp [emptyPacket]

/-- With the prefix in front, an empty packet is not what the parser finds. -/
theorem drain_emptyPacket_ne (streamId : UInt32) {length : ℕ} (hlen : 17 ≤ length) :
    ((frameDecoder streamId).drain (emptyPacket length)).1 ≠
      ((frameDecoder streamId).drain (webtransportHdrMask ++ emptyPacket length)).1 := by
  obtain ⟨more, rfl⟩ := Nat.exists_eq_add_of_le hlen
  have hsplit : emptyPacket (17 + more) = emptyPacket 17 ++ List.replicate more 0 := by
    have hlength : 17 + more = 16 + more + 1 := by omega
    rw [emptyPacket, hlength, List.take_succ_cons, List.take_replicate, min_eq_left (by omega),
      List.replicate_add]
    rfl
  have hheader : readHeader streamId (emptyPacket (17 + more)) = ⟨1, 0, 0, 0, streamId⟩ := by
    rw [hsplit, readHeader_append (by simp)]
    rfl
  have hnext : (frameDecoder streamId).next (emptyPacket (17 + more)) = _ :=
    nextFrame_of_le (by simp) (by rw [hheader]; simp)
  rw [Decoder.drain_of_some hnext]
  intro heq
  cases hwhole : (frameDecoder streamId).next (webtransportHdrMask ++ emptyPacket (17 + more)) with
  | none =>
    rw [Decoder.drain_of_none hwhole] at heq
    cases heq
  | some found =>
    obtain ⟨m, rest⟩ := found
    obtain ⟨-, -, hm, -⟩ := nextFrame_eq_some hwhole
    rw [Decoder.drain_of_some hwhole, hheader, hm] at heq
    have htype := congrArg (fun ms : List Parsed => ms.map fun m => m.1.eDataType) heq
    rw [List.map_cons, List.map_cons, List.cons.injEq] at htype
    exact absurd htype.1 (by change (1 : UInt8) ≠ 0x40; decide)

/-- Reads of the same kind deliver the same packets. -/
theorem sameReads_of_tracks {first second : List Notification} {bytes given : List UInt8}
    (hfirst : Tracks streamId given (received streamId webtransport first bytes))
    (hsecond : Tracks streamId given (received streamId webtransport second bytes)) :
    SameReads streamId webtransport first second bytes :=
  ⟨hfirst.parsed_eq.trans hsecond.parsed_eq.symm, hfirst.counts_fit, hsecond.counts_fit⟩

/-- What has been delivered from a stream with the prefix, by the size of the first read. -/
theorem received_cases (h : Splits notifications (webtransportHdrMask ++ body).length)
    (hfirst : firstRead notifications ≠ 2) :
    Tracks streamId body
        (received streamId true notifications (webtransportHdrMask ++ body)) ∨
      Tracks streamId (webtransportHdrMask ++ body)
        (received streamId true notifications (webtransportHdrMask ++ body)) := by
  obtain ⟨-, hpos, -⟩ := readSizes_of_splits h (by simp [webtransportHdrMask])
  by_cases hwhole : 3 ≤ firstRead notifications
  · left
    exact received_whole h hwhole
  · right
    exact received_byte h (by omega)

/-- Reads that fit deliver the same packets. -/
theorem sameReads_of_fit {first second : List Notification}
    (hfirst : Splits first (webtransportHdrMask ++ body).length)
    (hsecond : Splits second (webtransportHdrMask ++ body).length)
    (hfit : FirstReadsFit first second (webtransportHdrMask ++ body).length) :
    SameReads streamId true first second (webtransportHdrMask ++ body) := by
  rcases hfit with ⟨h₁, h₂⟩ | ⟨h₁, h₂⟩ | ⟨hshort, h₁, h₂⟩
  · exact sameReads_of_tracks (received_whole hfirst h₁) (received_whole hsecond h₂)
  · exact sameReads_of_tracks (received_byte hfirst h₁) (received_byte hsecond h₂)
  · rw [List.length_append] at hshort
    have hbody : body.length < 17 := by
      have hmask : webtransportHdrMask.length = 3 := rfl
      omega
    obtain ⟨hplain, hwire⟩ := drain_short streamId hbody
    have hnothing {notifications : List Notification}
        (h : Splits notifications (webtransportHdrMask ++ body).length)
        (hne : firstRead notifications ≠ 2) :
        (received streamId true notifications (webtransportHdrMask ++ body)).parsed = [] ∧
          CountsFit (received streamId true notifications (webtransportHdrMask ++ body)) := by
      rcases received_cases h hne with htracks | htracks
      · exact ⟨htracks.parsed_eq.trans hplain, htracks.counts_fit⟩
      · exact ⟨htracks.parsed_eq.trans hwire, htracks.counts_fit⟩
    obtain ⟨hparsed₁, hcounts₁⟩ := hnothing hfirst h₁
    obtain ⟨hparsed₂, hcounts₂⟩ := hnothing hsecond h₂
    exact ⟨hparsed₁.trans hparsed₂.symm, hcounts₁, hcounts₂⟩

/-- If a stream of an empty packet is received alike, the first reads fit. -/
theorem fit_of_sameReads {first second : List Notification}
    (hfirst : Splits first (webtransportHdrMask ++ body).length)
    (hsecond : Splits second (webtransportHdrMask ++ body).length)
    (hbody : body = emptyPacket body.length)
    (hsame : SameReads streamId true first second (webtransportHdrMask ++ body)) :
    FirstReadsFit first second (webtransportHdrMask ++ body).length := by
  obtain ⟨hparsed, hcounts₁, hcounts₂⟩ := hsame
  have h₁ : firstRead first ≠ 2 := fun htwo => received_two hfirst htwo hcounts₁
  have h₂ : firstRead second ≠ 2 := fun htwo => received_two hsecond htwo hcounts₂
  obtain ⟨-, hpos₁, -⟩ := readSizes_of_splits hfirst (by simp [webtransportHdrMask])
  obtain ⟨-, hpos₂, -⟩ := readSizes_of_splits hsecond (by simp [webtransportHdrMask])
  have hlength : (webtransportHdrMask ++ body).length = 3 + body.length := List.length_append
  by_cases hshort : body.length < 17
  · exact Or.inr (Or.inr ⟨by omega, h₁, h₂⟩)
  · have hne := drain_emptyPacket_ne streamId (Nat.le_of_not_lt hshort)
    rw [← hbody] at hne
    by_cases hwhole₁ : 3 ≤ firstRead first <;> by_cases hwhole₂ : 3 ≤ firstRead second
    · exact Or.inl ⟨hwhole₁, hwhole₂⟩
    · have hbyte : Tracks streamId _ _ := received_byte hsecond (by omega)
      rw [(received_whole hfirst hwhole₁).parsed_eq, hbyte.parsed_eq] at hparsed
      exact absurd hparsed hne
    · have hbyte : Tracks streamId _ _ := received_byte hfirst (by omega)
      rw [hbyte.parsed_eq, (received_whole hsecond hwhole₂).parsed_eq] at hparsed
      exact absurd hparsed.symm hne
    · exact Or.inr (Or.inl ⟨by omega, by omega⟩)

/-- Every stream of a length is received alike in two ways of reading it exactly when the
first reads treat the prefix alike. -/
theorem sameReads_iff_firstReadsFit (streamId : UInt32) (webtransport : Bool)
    {first second : List Notification} {length : ℕ} (hfirst : Splits first length)
    (hsecond : Splits second length) (hwire : webtransport = true → 3 ≤ length) :
    (∀ bytes : List UInt8, bytes.length = length → Sent webtransport bytes →
        SameReads streamId webtransport first second bytes) ↔
      (webtransport = true → FirstReadsFit first second length) := by
  constructor
  · rintro hall rfl
    obtain ⟨n, rfl⟩ := Nat.exists_eq_add_of_le (hwire rfl)
    have hlength : (webtransportHdrMask ++ emptyPacket n).length = 3 + n := by
      rw [List.length_append, length_emptyPacket]
      rfl
    have hsame := hall _ hlength fun _ => List.prefix_append _ _
    rw [← hlength] at hfirst hsecond ⊢
    exact fit_of_sameReads hfirst hsecond (by rw [length_emptyPacket]) hsame
  · intro hfit bytes hlength hsent
    subst hlength
    cases webtransport with
    | false => exact sameReads_of_tracks (received_plain hfirst) (received_plain hsecond)
    | true =>
      obtain ⟨body, rfl⟩ := hsent rfl
      exact sameReads_of_fit hfirst hsecond (hfit rfl)

/-- A packet behind the prefix, read at once or in two pieces. -/
theorem sameReads_ping : SameReads 0 true [([20], .again)] [([3], .again), ([17], .fin)]
    (webtransportHdrMask ++ emptyPacket 17) := by
  have hfirst : Splits [([20], .again)] 20 := ⟨rfl, by decide⟩
  have hsecond : Splits [([3], .again), ([17], .fin)] 20 := ⟨rfl, by decide⟩
  have hall := (sameReads_iff_firstReadsFit 0 true hfirst hsecond fun _ => by decide).mpr
    fun _ => Or.inl ⟨by decide, by decide⟩
  exact hall _ rfl fun _ => List.prefix_append _ _

/-- The same stream is not received alike when a first read holds two of its bytes. -/
theorem not_sameReads_two : ¬ ∀ (streamId : UInt32) (webtransport : Bool)
    (first second : List Notification) (bytes : List UInt8), Splits first bytes.length →
      Splits second bytes.length → Sent webtransport bytes →
        SameReads streamId webtransport first second bytes := by
  intro hall
  have hsame := hall 0 true [([2, 18], .again)] [([20], .again)]
    (webtransportHdrMask ++ emptyPacket 17) ⟨rfl, by decide⟩ ⟨rfl, by decide⟩
    fun _ => List.prefix_append _ _
  exact received_two ⟨rfl, by decide⟩ rfl hsame.2.1

end SMP
