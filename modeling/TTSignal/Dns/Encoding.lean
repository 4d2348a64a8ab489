import TTSignal.Dns.Parse

/-!
# Encoded messages are read back

How a query and a response are laid out as bytes: names with their labels and perhaps a
compression pointer, the question and the resource records. A query that `BuildQuery` makes is
decoded to the name that was asked for, and of a well-formed response `ParseResponse` returns
just the addresses.
-/

namespace Dns

open Bytes Reading Tcp

/-- The host splits at its dots into labels that can be encoded. -/
def IsDomainName (host : List UInt8) : Prop :=
  (∀ label ∈ host.splitOn 0x2E, 1 ≤ label.length ∧ label.length ≤ 63) ∧
    (encodeName (host.splitOn 0x2E)).length ≤ 255

/-- The labels with their lengths. -/
def encodeLabels (labels : List (List UInt8)) : List UInt8 :=
  labels.flatMap fun label => UInt8.ofNat label.length :: label

/-- A name in a message: some labels, and where the rest of the name stands if it is not the
root that follows. -/
structure EncodedName where
  /-- The labels. -/
  labels : List (List UInt8)
  /-- A label has 1 to 63 bytes. -/
  labels_length : ∀ label ∈ labels, 1 ≤ label.length ∧ label.length ≤ 63
  /-- The offset in the compression pointer. -/
  target : Option ℕ
  /-- An offset has 14 bits. -/
  target_lt : ∀ t ∈ target, t < 2 ^ 14

/-- A resource record. -/
structure ResourceRecord where
  /-- NAME. -/
  name : EncodedName
  /-- TYPE. -/
  type : UInt16
  /-- CLASS. -/
  cls : UInt16
  /-- TTL. -/
  ttl : UInt32
  /-- RDATA. -/
  rdata : List UInt8
  /-- RDLENGTH has 16 bits. -/
  rdata_length : rdata.length < 2 ^ 16

/-- A response with one question and its answers, and anything behind them. -/
structure Response where
  /-- ID. -/
  id : UInt16
  /-- The first byte of the flags. -/
  flags : UInt8
  /-- The second byte of the flags. -/
  flags3 : UInt8
  /-- NSCOUNT and ARCOUNT. -/
  counts : UInt16 × UInt16
  /-- The host in the question. -/
  host : List UInt8
  /-- QTYPE and QCLASS. -/
  question : UInt16 × UInt16
  /-- The answers. -/
  answers : List ResourceRecord
  /-- ANCOUNT has 16 bits. -/
  answers_length : answers.length < 2 ^ 16
  /-- The other sections. -/
  rest : List UInt8

namespace EncodedName

/-- The bytes that end a name. -/
def ending (name : EncodedName) : List UInt8 :=
  match name.target with
  | none => [0]
  | some t => [UInt8.ofNat (192 + t / 256), UInt8.ofNat (t % 256)]

/-- The bytes of a name. -/
def bytes (name : EncodedName) : List UInt8 := encodeLabels name.labels ++ name.ending

/-- The pointer of a name at this position leads into the message, and not to itself. -/
def PointsInto (name : EncodedName) (length pos : ℕ) : Prop :=
  ∀ t ∈ name.target, t < length ∧ t ≠ pos + (encodeLabels name.labels).length

end EncodedName

namespace ResourceRecord

/-- The bytes of a record. -/
def bytes (record : ResourceRecord) : List UInt8 :=
  record.name.bytes ++ (beBytes 2 record.type.toNat ++ (beBytes 2 record.cls.toNat ++
    (beBytes 4 record.ttl.toNat ++ (beBytes 2 record.rdata.length ++ record.rdata))))

/-- The address of an A or an AAAA record. -/
def address (record : ResourceRecord) : Option SockAddr :=
  if record.type = 1 ∧ record.rdata.length = 4 then some ⟨false, record.rdata, 0⟩
  else if record.type = 28 ∧ record.rdata.length = 16 then some ⟨true, record.rdata, 0⟩
  else none

/-- The pointers of the names of records from a position on lead into the message. -/
def PointInto (length : ℕ) : ℕ → List ResourceRecord → Prop
  | _, [] => True
  | pos, record :: records =>
    record.name.PointsInto length pos ∧ PointInto length (pos + record.bytes.length) records

/-- The addresses of records, in their order. -/
def addresses (records : List ResourceRecord) : List SockAddr := records.filterMap address

/-- The TTLs of the records with an address. -/
def ttls (records : List ResourceRecord) : List ℕ :=
  (records.filter fun record => record.address.isSome).map fun record => record.ttl.toNat

end ResourceRecord

namespace Response

/-- The header. -/
def header (r : Response) : List UInt8 :=
  beBytes 2 r.id.toNat ++ ([r.flags, r.flags3] ++ (beBytes 2 1 ++ (beBytes 2 r.answers.length ++
    (beBytes 2 r.counts.1.toNat ++ beBytes 2 r.counts.2.toNat))))

/-- The question. -/
def questionBytes (r : Response) : List UInt8 :=
  encodeName (r.host.splitOn 0x2E) ++
    (beBytes 2 r.question.1.toNat ++ beBytes 2 r.question.2.toNat)

/-- The bytes of a response. -/
def bytes (r : Response) : List UInt8 :=
  r.header ++ (r.questionBytes ++ (r.answers.flatMap ResourceRecord.bytes ++ r.rest))

/-- The response answers a query for a host: QR is 1, TC is 0, RCODE is 0, the host is the one
that was asked for, and the pointers in the names of the answers lead into the message. -/
structure Answers (r : Response) (host : List UInt8) (id : UInt16) : Prop where
  /-- The id of the query. -/
  id : r.id = id
  /-- The host of the query. -/
  host : r.host = host
  /-- QR. -/
  qr : r.flags &&& 0x80 ≠ 0
  /-- TC. -/
  tc : r.flags &&& 0x02 = 0
  /-- RCODE. -/
  rcode : r.flags3 &&& 0x0F = 0
  /-- Compression pointers. -/
  pointers : ResourceRecord.PointInto r.bytes.length (12 + r.questionBytes.length) r.answers

end Response

/-! ### Single fields -/

section Fields

variable {data : List UInt8} {pos n : ℕ}

/-- `_ReadU16` reads an encoded number. -/
theorem readU16_of_stands (h : Stands data pos (beBytes 2 n)) (hn : n < 2 ^ 16) :
    readU16 data pos = .ok n := by
  have hbytes : beBytes 2 n = [UInt8.ofNat (n / 256), UInt8.ofNat n] := by simp [beBytes]
  rw [hbytes] at h
  have hvalue : (UInt8.ofNat (n / 256)).toNat <<< 8 ||| (UInt8.ofNat n).toNat = n := by
    rw [← Nat.shiftLeft_add_eq_or_of_lt (UInt8.toNat_lt _), Nat.shiftLeft_eq, UInt8.toNat_ofNat',
      UInt8.toNat_ofNat']
    omega
  rw [readU16, h.head.byteAt, h.tail.byteAt]
  exact congrArg Except.ok hvalue

/-- `_ReadU32` reads an encoded number. -/
theorem readU32_of_stands (h : Stands data pos (beBytes 4 n)) (hn : n < 2 ^ 32) :
    readU32 data pos = .ok n := by
  have hbytes : beBytes 4 n = [UInt8.ofNat (n / 256 ^ 3), UInt8.ofNat (n / 256 ^ 2),
      UInt8.ofNat (n / 256), UInt8.ofNat n] := by simp [beBytes]
  rw [hbytes] at h
  have hvalue : (UInt8.ofNat (n / 256 ^ 3)).toNat <<< 24 |||
      (UInt8.ofNat (n / 256 ^ 2)).toNat <<< 16 ||| (UInt8.ofNat (n / 256)).toNat <<< 8 |||
        (UInt8.ofNat n).toNat = n := by
    have h1 := (UInt8.ofNat (n / 256 ^ 2)).toNat_lt
    have h2 := (UInt8.ofNat (n / 256)).toNat_lt
    have h3 := (UInt8.ofNat n).toNat_lt
    have hfirst (a b c d : ℕ) (hb : b < 2 ^ 8) (hc : c < 2 ^ 8) (hd : d < 2 ^ 8) :
        a <<< 24 ||| b <<< 16 ||| c <<< 8 ||| d = ((a * 256 + b) * 256 + c) * 256 + d := by
      have hab : a <<< 24 ||| b <<< 16 = (a * 256 + b) <<< 16 := by
        rw [← Nat.shiftLeft_add_eq_or_of_lt (by rw [Nat.shiftLeft_eq]; omega)]
        simp only [Nat.shiftLeft_eq]
        omega
      have habc : (a * 256 + b) <<< 16 ||| c <<< 8 = ((a * 256 + b) * 256 + c) <<< 8 := by
        rw [← Nat.shiftLeft_add_eq_or_of_lt (by rw [Nat.shiftLeft_eq]; omega)]
        simp only [Nat.shiftLeft_eq]
        omega
      rw [hab, habc, ← Nat.shiftLeft_add_eq_or_of_lt hd, Nat.shiftLeft_eq]
    rw [hfirst _ _ _ _ h1 h2 h3]
    simp only [UInt8.toNat_ofNat']
    omega
  rw [readU32, h.head.byteAt, h.tail.head.byteAt, h.tail.tail.head.byteAt,
    h.tail.tail.tail.byteAt]
  exact congrArg Except.ok hvalue

/-- The length byte of a label. -/
theorem label_byte {label : List UInt8} (h : 1 ≤ label.length ∧ label.length ≤ 63) :
    UInt8.ofNat label.length &&& 0xC0 = 0 ∧ UInt8.ofNat label.length ≠ 0 ∧
      (UInt8.ofNat label.length).toNat = label.length := by
  have hall : ∀ i : Fin 64, 1 ≤ i.val → UInt8.ofNat i &&& 0xC0 = 0 ∧ UInt8.ofNat i ≠ 0 ∧
      (UInt8.ofNat i).toNat = i := by decide +kernel
  exact hall ⟨label.length, by omega⟩ h.1

/-- The bytes of a compression pointer. -/
theorem pointer_bytes {t : ℕ} (ht : t < 2 ^ 14) :
    UInt8.ofNat (192 + t / 256) &&& 0xC0 = 0xC0 ∧
      pointerTarget (UInt8.ofNat (192 + t / 256)) (UInt8.ofNat (t % 256)) = t := by
  have hall : ∀ i : Fin 64, UInt8.ofNat (192 + i) &&& 0xC0 = 0xC0 ∧
      (UInt8.ofNat (192 + i) &&& 0x3F).toNat = i := by decide +kernel
  obtain ⟨htop, hlow⟩ := hall ⟨t / 256, by omega⟩
  refine ⟨htop, ?_⟩
  have hbyte := (UInt8.ofNat (t % 256)).toNat_lt
  rw [pointerTarget, hlow, ← Nat.shiftLeft_add_eq_or_of_lt hbyte, Nat.shiftLeft_eq,
    UInt8.toNat_ofNat']
  dsimp only
  omega

end Fields

/-! ### Names -/

section Names

variable {data : List UInt8} {pos : ℕ}

/-- The bytes of labels, one by one. -/
theorem encodeLabels_cons (label : List UInt8) (labels : List (List UInt8)) :
    encodeLabels (label :: labels) =
      UInt8.ofNat label.length :: (label ++ encodeLabels labels) := by
  rw [encodeLabels, List.flatMap_cons]
  rfl

/-- `_SkipName` passes the labels of a name. -/
theorem skipNameLoop_labels {labels : List (List UInt8)} {ending : List UInt8}
    (hlabels : ∀ label ∈ labels, 1 ≤ label.length ∧ label.length ≤ 63)
    (h : Stands data pos (encodeLabels labels ++ ending)) (consumed : ℕ) :
    skipNameLoop data pos consumed =
      skipNameLoop data (pos + (encodeLabels labels).length)
        (consumed + (encodeLabels labels).length) := by
  induction labels generalizing pos consumed with
  | nil => rfl
  | cons label labels ih =>
    obtain ⟨htop, hne, hvalue⟩ := label_byte (hlabels label List.mem_cons_self)
    rw [encodeLabels_cons, List.cons_append, List.append_assoc] at h
    have hrest := h.tail.right
    have hlen := h.tail.left.le_length
    have hpos := h.head.le_length
    rw [List.length_singleton] at hpos
    have hpointer : ¬ UInt8.ofNat label.length &&& 0xC0 = 0xC0 := by
      rw [htop]
      decide
    rw [skipNameLoop, dif_pos (by omega), h.head.byteAt]
    simp only [bind, Except.bind]
    rw [if_neg hpointer, if_neg (not_not.mpr htop), if_neg hne, hvalue, if_neg (by omega),
      ih (fun l hl => hlabels l (List.mem_cons_of_mem label hl)) hrest, encodeLabels_cons]
    simp only [List.length_cons, List.length_append]
    congr 1 <;> omega

/-- `_SkipName` finds the length of a name. -/
theorem skipName_of_stands {name : EncodedName} (h : Stands data pos name.bytes)
    (hpointer : name.PointsInto data.length pos) :
    skipName data pos = .ok name.bytes.length := by
  have hending := h.right
  rw [skipName, skipNameLoop_labels name.labels_length h, EncodedName.bytes, List.length_append,
    Nat.zero_add]
  have hpos := hending.le_length
  unfold EncodedName.ending at hending hpos ⊢
  cases htarget : name.target with
  | none =>
    simp only [htarget, List.length_singleton] at hending hpos ⊢
    rw [skipNameLoop, dif_pos (by omega), hending.byteAt]
    rfl
  | some t =>
    obtain ⟨htop, ht⟩ := pointer_bytes (name.target_lt t htarget)
    obtain ⟨hlt, hne⟩ := hpointer t htarget
    simp only [htarget, List.length_cons, List.length_nil] at hending hpos ⊢
    rw [skipNameLoop, dif_pos (by omega), hending.head.byteAt]
    simp only [bind, Except.bind, htop, if_true]
    rw [if_neg (by omega), hending.tail.byteAt]
    simp only [ht]
    rw [if_neg (by omega), if_neg (by omega)]
    rfl

/-- `_DecodeQuestionName` reads the labels of a name without a pointer. -/
theorem decodeLoop_of_stands {labels : List (List UInt8)}
    (hlabels : ∀ label ∈ labels, 1 ≤ label.length ∧ label.length ≤ 63)
    (h : Stands data pos (encodeName labels)) (jumps : ℕ) (first : Bool) (outName : List UInt8) :
    decodeLoop data pos jumps first outName = .ok (some (outName ++ spelled first labels)) := by
  induction labels generalizing pos first outName with
  | nil =>
    have hpos := h.le_length
    have hzero : Stands data pos [0] := h
    rw [encodeName, List.flatMap_nil, List.nil_append, List.length_singleton] at hpos
    rw [decodeLoop, dif_neg (by omega), hzero.byteAt, spelled, List.append_nil]
    rfl
  | cons label labels ih =>
    obtain ⟨htop, hne, hvalue⟩ := label_byte (hlabels label List.mem_cons_self)
    have hbytes : encodeName (label :: labels) =
        UInt8.ofNat label.length :: (label ++ encodeName labels) := by
      simp [encodeName]
    rw [hbytes] at h
    have hlen := h.tail.left.le_length
    have hpos := h.head.le_length
    rw [List.length_singleton] at hpos
    have hpointer : ¬ UInt8.ofNat label.length &&& 0xC0 = 0xC0 := by
      rw [htop]
      decide
    rw [decodeLoop, dif_neg (by omega), h.head.byteAt]
    simp only [bind, Except.bind]
    rw [if_neg hpointer, if_neg (not_not.mpr htop), if_neg hne, hvalue, if_neg (by omega),
      h.tail.left.bytesAt]
    dsimp only
    rw [ih (fun l hl => hlabels l (List.mem_cons_of_mem label hl)) h.tail.right, spelled]
    cases first <;> simp

end Names

/-! ### Records -/

/-- What a record adds to the addresses. -/
def ResourceRecord.addTo (g : Gathered) (record : ResourceRecord) : Gathered :=
  match record.address with
  | none => g
  | some addr => g.push record.ttl.toNat addr

section Records

variable {data : List UInt8} {pos : ℕ}

/-- A record adds its address, if it has one. -/
theorem takeRecord_of_stands (record : ResourceRecord) (h : Stands data pos record.rdata)
    (g : Gathered) :
    takeRecord data g record.type.toNat record.ttl.toNat record.rdata.length pos =
      .ok (record.addTo g) := by
  have hbytes := h.bytesAt (ε := ParseError)
  have h1 : record.type.toNat = 1 ↔ record.type = 1 := UInt16.toNat_inj (b := 1)
  have h28 : record.type.toNat = 28 ↔ record.type = 28 := UInt16.toNat_inj (b := 28)
  rw [takeRecord]
  simp only [h1, h28]
  split
  · rename_i ha
    have haddress : record.address = some ⟨false, record.rdata, 0⟩ := if_pos ha
    rw [ha.2] at hbytes
    rw [hbytes, ResourceRecord.addTo, haddress]
    rfl
  · rename_i ha
    split
    · rename_i haaaa
      have haddress : record.address = some ⟨true, record.rdata, 0⟩ := by
        rw [ResourceRecord.address, if_neg ha, if_pos haaaa]
      rw [haaaa.2] at hbytes
      rw [hbytes, ResourceRecord.addTo, haddress]
      rfl
    · rename_i haaaa
      have haddress : record.address = none := by
        rw [ResourceRecord.address, if_neg ha, if_neg haaaa]
      rw [ResourceRecord.addTo, haddress]
      rfl

/-- The loop over the answers passes all records and adds their addresses. -/
theorem answers_of_stands {records : List ResourceRecord}
    (h : Stands data pos (records.flatMap ResourceRecord.bytes))
    (hpointers : ResourceRecord.PointInto data.length pos records) (g : Gathered) :
    answers data false records.length pos g = .ok (records.foldl ResourceRecord.addTo g) := by
  induction records generalizing pos g with
  | nil => rfl
  | cons record records ih =>
    obtain ⟨hpointer, hrest⟩ := hpointers
    rw [List.flatMap_cons] at h
    have hrecord := h.left
    have hname := skipName_of_stands hrecord.left hpointer
    have hnonzero : record.name.bytes.length ≠ 0 := by
      rw [EncodedName.bytes, List.length_append, EncodedName.ending]
      cases record.name.target <;> simp
    -- the fields of the head stand one behind the other
    have htype := hrecord.right.left
    have httl := hrecord.right.right.right.left
    have hrdlen := hrecord.right.right.right.right.left
    have hrdata := hrecord.right.right.right.right.right
    have hlen := hrdata.le_length
    simp only [length_beBytes, Nat.add_assoc] at htype httl hrdlen hrdata hlen
    have hnext : pos + record.bytes.length =
        pos + (record.name.bytes.length + (10 + record.rdata.length)) := by
      rw [ResourceRecord.bytes]
      simp only [List.length_append, length_beBytes]
      omega
    have hlater := h.right
    rw [hnext] at hlater hrest
    rw [List.length_cons, answers, hname]
    simp only [bind, Except.bind]
    rw [if_neg hnonzero, if_neg (by omega)]
    simp only [Nat.add_assoc]
    rw [readU16_of_stands htype record.type.toNat_lt]
    dsimp only
    rw [readU32_of_stands httl record.ttl.toNat_lt]
    dsimp only
    rw [readU16_of_stands hrdlen record.rdata_length]
    dsimp only
    rw [if_neg (by omega), takeRecord_of_stands record hrdata g]
    exact ih hlater hrest (record.addTo g)

/-- The addresses that are added. -/
theorem outAddrs_foldl (records : List ResourceRecord) (g : Gathered) :
    (records.foldl ResourceRecord.addTo g).outAddrs =
      g.outAddrs ++ ResourceRecord.addresses records := by
  induction records generalizing g with
  | nil => exact (List.append_nil _).symm
  | cons record records ih =>
    rw [List.foldl_cons, ih, ResourceRecord.addresses, ResourceRecord.addresses,
      List.filterMap_cons, ResourceRecord.addTo]
    cases record.address with
    | none => rfl
    | some addr => simp [Gathered.push]

/-- The smallest TTL of the records that add an address. -/
theorem outMinTtl_foldl (records : List ResourceRecord) (g : Gathered) :
    (records.foldl ResourceRecord.addTo g).outMinTtl =
      (((if g.haveTtl then [g.outMinTtl] else []) ++ ResourceRecord.ttls records).min?).getD
        g.outMinTtl := by
  induction records generalizing g with
  | nil => cases g.haveTtl <;> rfl
  | cons record records ih =>
    rw [List.foldl_cons, ih, ResourceRecord.ttls, ResourceRecord.ttls, ResourceRecord.addTo]
    cases haddress : record.address with
    | none => rw [List.filter_cons_of_neg (by simp [haddress])]
    | some addr =>
      rw [List.filter_cons_of_pos (by simp [haddress]), List.map_cons]
      cases hhave : g.haveTtl with
      | false => simp [Gathered.push, hhave]
      | true =>
        have hmin : (if record.ttl.toNat < g.outMinTtl then record.ttl.toNat else g.outMinTtl) =
            min g.outMinTtl record.ttl.toNat := by
          split <;> omega
        simp only [Gathered.push, hhave, hmin, if_true, Bool.true_eq_false, false_or,
          List.cons_append, List.nil_append, List.min?_cons', List.foldl_cons, Option.getD_some]

end Records

/-! ### Messages -/

section Messages

variable {host : List UInt8}

/-- The labels of a domain name can be encoded. -/
theorem IsDomainName.labels (h : IsDomainName host) :
    ∀ label ∈ host.splitOn 0x2E, 1 ≤ label.length ∧ label.length ≤ 63 := h.1

/-- The name of the host, in lower case. -/
theorem spelled_splitOn (host : List UInt8) :
    spelled true (host.splitOn 0x2E) = host.map toLower := by
  rw [spelled_true, List.intercalate_splitOn]

/-- The host is not empty. -/
theorem IsDomainName.ne_nil (h : IsDomainName host) : host ≠ [] := by
  rintro rfl
  have := (h.labels [] (by simp)).1
  simp at this

/-- `BuildQuery` for a domain name. -/
theorem buildQuery_of_isDomainName (h : IsDomainName host) (qtype txid : ℕ) :
    buildQuery host qtype txid =
      [UInt8.ofNat (txid >>> 8), UInt8.ofNat (txid &&& 0xFF), 0x01, 0x00, 0x00, 0x01, 0x00, 0x00,
        0x00, 0x00, 0x00, 0x00] ++ encodeName (host.splitOn 0x2E) ++
        [UInt8.ofNat (qtype >>> 8), UInt8.ofNat (qtype &&& 0xFF), 0x00, 0x01] := by
  have hlabels : ¬ ∃ label ∈ host.splitOn 0x2E, label.length = 0 ∨ 63 < label.length := by
    rintro ⟨label, hmem, hlen⟩
    have := h.labels label hmem
    omega
  have hlength : ¬ 255 < (encodeName (host.splitOn 0x2E)).length := by
    have := h.2
    omega
  simp only [buildQuery]
  rw [if_neg h.ne_nil, if_neg hlabels, if_neg hlength]

/-- `BuildQuery` makes a message for domain names only. -/
theorem buildQuery_ne_nil_iff (host : List UInt8) (qtype txid : ℕ) :
    buildQuery host qtype txid ≠ [] ↔ IsDomainName host := by
  constructor
  · intro hne
    simp only [buildQuery] at hne
    split at hne
    · exact absurd rfl hne
    split at hne
    · exact absurd rfl hne
    rename_i hlabels
    split at hne
    · exact absurd rfl hne
    · rename_i hlength
      refine ⟨fun label hmem => ?_, by omega⟩
      by_contra hlen
      exact hlabels ⟨label, hmem, by omega⟩
  · intro h
    rw [buildQuery_of_isDomainName h]
    simp

/-- The question of a query is decoded to the host in lower case. -/
theorem decodeQuestionName_buildQuery (h : IsDomainName host) (qtype txid : ℕ) :
    decodeQuestionName (buildQuery host qtype txid) 12 = .ok (some (host.map toLower)) := by
  have hstands := Stands.refl (buildQuery host qtype txid)
  rw [buildQuery_of_isDomainName h, List.append_assoc] at hstands
  have hname := hstands.right.left
  rw [← spelled_splitOn]
  rw [← List.append_assoc, ← buildQuery_of_isDomainName h] at hname
  exact decodeLoop_of_stands h.labels hname 0 true []

/-- The check of the first question passes when it asks for the expected host. -/
theorem checkQuestion_of_stands {data expectHost : List UInt8} {pos : ℕ} (h : IsDomainName host)
    (hstands : Stands data pos (encodeName (host.splitOn 0x2E)))
    (hexpect : lowerNoTrailingDot expectHost = host.map toLower) :
    checkQuestion data expectHost pos = .ok () := by
  have hdecode : decodeQuestionName data pos = .ok (some (host.map toLower)) := by
    rw [← spelled_splitOn]
    exact decodeLoop_of_stands h.labels hstands 0 true []
  rw [checkQuestion, hdecode]
  simp only [bind, Except.bind]
  rw [if_neg (not_not.mpr hexpect.symm)]
  rfl

/-- The one question is passed. -/
theorem questions_of_stands {data expectHost : List UInt8} {pos : ℕ} (h : IsDomainName host)
    {q : UInt16 × UInt16} (hstands : Stands data pos (encodeName (host.splitOn 0x2E) ++
      (beBytes 2 q.1.toNat ++ beBytes 2 q.2.toNat)))
    (hexpect : expectHost = [] ∨ lowerNoTrailingDot expectHost = host.map toLower) :
    questions data expectHost 1 true pos =
      .ok (pos + (encodeName (host.splitOn 0x2E)).length + 4) := by
  have hskip : skipName data pos = .ok (encodeName (host.splitOn 0x2E)).length :=
    @skipName_of_stands _ _ ⟨host.splitOn 0x2E, h.labels, none, by simp⟩ hstands.left
      (by intro t ht; cases ht)
  have hlen := hstands.le_length
  simp only [List.length_append, length_beBytes] at hlen
  have hnonzero : (encodeName (host.splitOn 0x2E)).length ≠ 0 := by simp [encodeName]
  have hrest :
      (do
        let nameLen ← skipName data pos
        if nameLen = 0 then refuse .questionSkip
        else if data.length < pos + nameLen + 4 then refuse .questionBounds
        else questions data expectHost 0 false (pos + nameLen + 4) : Parse ℕ) =
        .ok (pos + (encodeName (host.splitOn 0x2E)).length + 4) := by
    simp only [bind, Except.bind, hskip]
    rw [if_neg hnonzero, if_neg (by omega)]
    rfl
  rw [questions]
  by_cases hasks : true = true ∧ expectHost ≠ []
  · have hname := hexpect.resolve_left hasks.2
    rw [if_pos hasks, checkQuestion_of_stands h hstands.left hname]
    exact hrest
  · rw [if_neg hasks]
    exact hrest

/-- Of a well-formed response to a query for the host the addresses are returned, with their
smallest TTL. -/
theorem parseResponse_of_answers (h : IsDomainName host) {id : UInt16} {r : Response}
    (hr : r.Answers host id) (outMinTtl : ℕ) {expectHost : List UInt8}
    (hexpect : expectHost = [] ∨ lowerNoTrailingDot expectHost = host.map toLower) :
    parseResponse r.bytes id.toNat [] outMinTtl expectHost =
      some (.parsed (ResourceRecord.addresses r.answers)
        ((ResourceRecord.ttls r.answers).min?.getD outMinTtl)) := by
  obtain ⟨rfl, rfl, hqr, htc, hrcode, hpointers⟩ := hr
  have hall := Stands.refl r.bytes
  have hheader := hall.left
  have hbody := hall.right
  have hlength : r.header.length = 12 := by simp [Response.header]
  rw [hlength, Nat.zero_add] at hbody
  have hid := hheader.left
  have hflags := hheader.right.left
  have hqdcount := hheader.right.right.left
  have hancount := hheader.right.right.right.left
  simp only [length_beBytes, List.length_cons, List.length_nil] at hflags hqdcount hancount
  have hquestions := questions_of_stands h hbody.left hexpect
  have hanswers := answers_of_stands hbody.right.left hpointers ⟨[], outMinTtl, false⟩
  have hstart : 12 + (encodeName (r.host.splitOn 0x2E)).length + 4 =
      12 + r.questionBytes.length := by
    simp only [Response.questionBytes, List.length_append, length_beBytes]
    omega
  have hle := hheader.le_length
  rw [hstart] at hquestions
  have hmessage : parseMessage r.bytes r.id.toNat ⟨[], outMinTtl, false⟩ expectHost =
      .ok (r.answers.foldl ResourceRecord.addTo ⟨[], outMinTtl, false⟩) := by
    rw [parseMessage, if_neg (by omega), hflags.head.byteAt]
    simp only [bind, Except.bind]
    rw [if_neg hqr, readU16_of_stands hid r.id.toNat_lt]
    dsimp only
    rw [if_neg (by simp), hflags.tail.byteAt]
    dsimp only
    rw [if_neg (not_not.mpr hrcode), readU16_of_stands hqdcount (by omega)]
    dsimp only
    rw [readU16_of_stands hancount r.answers_length]
    dsimp only
    rw [if_neg (by simp), hquestions]
    simp only [htc, ne_eq, not_true_eq_false, decide_false]
    rw [hanswers]
    dsimp only
    rw [if_neg fun hfail => hfail.1]
    rfl
  rw [parseResponse, hmessage]
  dsimp only
  rw [outAddrs_foldl, outMinTtl_foldl]
  rfl

/-- A query is made for domain names only, its question is decoded to the host in lower case,
and of every well-formed response to it the addresses of the A and AAAA records are returned, in
their order, with the smallest TTL of these records. -/
theorem query_and_response (host : List UInt8) (qtype txid : ℕ) :
    (buildQuery host qtype txid ≠ [] ↔ IsDomainName host) ∧
      (IsDomainName host →
        decodeQuestionName (buildQuery host qtype txid) 12 = .ok (some (host.map toLower)) ∧
          ∀ (id : UInt16) (r : Response), r.Answers host id → ∀ (outMinTtl : ℕ) (expectHost),
            expectHost = [] ∨ lowerNoTrailingDot expectHost = host.map toLower →
              parseResponse r.bytes id.toNat [] outMinTtl expectHost =
                some (.parsed (ResourceRecord.addresses r.answers)
                  ((ResourceRecord.ttls r.answers).min?.getD outMinTtl))) := by
  refine ⟨buildQuery_ne_nil_iff host qtype txid, fun h => ⟨decodeQuestionName_buildQuery h _ _, ?_⟩⟩
  intro id r hr outMinTtl expectHost hexpect
  exact parseResponse_of_answers h hr outMinTtl hexpect

/-- A response to a query for `a.b` with one address, whose name points to the question. -/
def pointingResponse : Response where
  id := 7
  flags := 0x81
  flags3 := 0x80
  counts := (0, 0)
  host := [0x61, 0x2E, 0x62]
  question := (1, 1)
  answers := [⟨⟨[], by simp, some 12, by simp⟩, 1, 1, 300, [192, 0, 2, 1], by decide⟩]
  answers_length := by decide
  rest := []

/-- Its host is a domain name. -/
theorem isDomainName_pointing : IsDomainName [0x61, 0x2E, 0x62] := by
  refine ⟨?_, ?_⟩ <;> decide

/-- It is a well-formed response to a query for its host. -/
theorem pointingResponse_answers : pointingResponse.Answers [0x61, 0x2E, 0x62] 7 := by
  refine ⟨rfl, rfl, by decide, by decide, by decide, ⟨?_, trivial⟩⟩
  rintro t ht
  cases ht
  decide

/-- Its address is returned. -/
theorem query_and_response_pointing :
    buildQuery [0x61, 0x2E, 0x62] 1 7 ≠ [] ∧
      parseResponse pointingResponse.bytes 7 [] 0 [0x61, 0x2E, 0x62] =
        some (.parsed [⟨false, [192, 0, 2, 1], 0⟩] 300) := by
  have hall := query_and_response [0x61, 0x2E, 0x62] 1 7
  exact ⟨hall.1.mpr isDomainName_pointing,
    (hall.2 isDomainName_pointing).2 7 pointingResponse pointingResponse_answers 0 _
      (.inr (by decide))⟩

end Messages

end Dns
