import TTSignal.Bytes
import TTSignal.Dns.Message

/-!
# What a parsed response says

The layout of a DNS message as relations on positions: where a name ends, what it spells when
its pointers are followed, and which records follow the questions. `ParseResponse` reads
nothing outside the message, and what it accepts has this layout.
-/

namespace Dns

open Bytes Reading Tcp

variable {data : List UInt8}

/-- An encoded name begins at a position and ends before another one. -/
inductive NameEnds (data : List UInt8) : ℕ → ℕ → Prop
  | root {pos : ℕ} (hb : data[pos]? = some 0) : NameEnds data pos (pos + 1)
  | pointer {pos : ℕ} {b lo : UInt8} (hb : data[pos]? = some b) (htop : b &&& 0xC0 = 0xC0)
      (hlo : data[pos + 1]? = some lo) : NameEnds data pos (pos + 2)
  | label {pos next : ℕ} {b : UInt8} (hb : data[pos]? = some b) (htop : b &&& 0xC0 = 0)
      (hne : b ≠ 0) (hlen : pos + 1 + b.toNat ≤ data.length)
      (hrest : NameEnds data (pos + 1 + b.toNat) next) : NameEnds data pos next

/-- The labels that a name spells when its pointers are followed. -/
inductive Spells (data : List UInt8) : ℕ → List (List UInt8) → Prop
  | root {pos : ℕ} (hb : data[pos]? = some 0) : Spells data pos []
  | pointer {pos : ℕ} {b lo : UInt8} {labels : List (List UInt8)} (hb : data[pos]? = some b)
      (htop : b &&& 0xC0 = 0xC0) (hlo : data[pos + 1]? = some lo)
      (hrest : Spells data (pointerTarget b lo) labels) : Spells data pos labels
  | label {pos : ℕ} {b : UInt8} {labels : List (List UInt8)} (hb : data[pos]? = some b)
      (htop : b &&& 0xC0 = 0) (hne : b ≠ 0) (hlen : pos + 1 + b.toNat ≤ data.length)
      (hrest : Spells data (pos + 1 + b.toNat) labels) :
      Spells data pos ((data.drop (pos + 1)).take b.toNat :: labels)

/-- A 16-bit number of the message. -/
def numberAt (data : List UInt8) (pos : ℕ) : ℕ := beValue ((data.drop pos).take 2)

/-- So many questions stand between two positions. -/
inductive Questions (data : List UInt8) : ℕ → ℕ → ℕ → Prop
  | none {pos : ℕ} : Questions data 0 pos pos
  | more {n pos nameEnd next : ℕ} (hname : NameEnds data pos nameEnd)
      (hlen : nameEnd + 4 ≤ data.length) (hrest : Questions data n (nameEnd + 4) next) :
      Questions data (n + 1) pos next

/-- A record of this type and with this RDATA stands between two positions of the message. -/
structure Record (data : List UInt8) (start type : ℕ) (rdata : List UInt8) (next : ℕ) : Prop where
  /-- Its name, its head and its RDATA. -/
  layout : ∃ nameEnd, NameEnds data start nameEnd ∧ type = numberAt data nameEnd ∧
    rdata.length = numberAt data (nameEnd + 8) ∧
      rdata = (data.drop (nameEnd + 10)).take rdata.length ∧ next = nameEnd + 10 + rdata.length
  /-- It lies inside the message. -/
  le_length : next ≤ data.length

/-- A record among the first ones from a position on. -/
inductive Answer (data : List UInt8) : ℕ → ℕ → ℕ → List UInt8 → Prop
  | here {n start next type : ℕ} {rdata : List UInt8} (h : Record data start type rdata next) :
      Answer data (n + 1) start type rdata
  | later {n start next type type' : ℕ} {rdata rdata' : List UInt8}
      (h : Record data start type' rdata' next) (hrest : Answer data n next type rdata) :
      Answer data (n + 1) start type rdata

/-- The address of an A or an AAAA record. -/
inductive AddressOf : ℕ → List UInt8 → SockAddr → Prop
  | a {rdata : List UInt8} (hlen : rdata.length = 4) : AddressOf 1 rdata ⟨false, rdata, 0⟩
  | aaaa {rdata : List UInt8} (hlen : rdata.length = 16) : AddressOf 28 rdata ⟨true, rdata, 0⟩

section Numbers

/-- `_ReadU16` inside the message. -/
theorem ensures_readU16 {pos : ℕ} (h : pos + 2 ≤ data.length) :
    Ensures (readU16 data pos) fun v => v = numberAt data pos := by
  refine (ensures_byteAt (by omega)).bind fun hi hhi => ?_
  refine (ensures_byteAt (by omega)).bind fun lo hlo => ?_
  rw [ensures_pure, numberAt, ← Nat.shiftLeft_add_eq_or_of_lt lo.toNat_lt, Nat.shiftLeft_eq]
  obtain ⟨h1, rfl⟩ := List.getElem?_eq_some_iff.mp hhi
  obtain ⟨h2, rfl⟩ := List.getElem?_eq_some_iff.mp hlo
  rw [List.drop_eq_getElem_cons h1, List.drop_eq_getElem_cons h2]
  simp only [List.take_succ_cons, List.take_zero, beValue, List.foldl_cons, List.foldl_nil]
  omega

/-- `_ReadU32` inside the message. -/
theorem ensures_readU32 {pos : ℕ} (h : pos + 4 ≤ data.length) :
    Ensures (readU32 data pos) fun _ => True := by
  refine (ensures_byteAt (by omega)).bind fun _ _ => ?_
  refine (ensures_byteAt (by omega)).bind fun _ _ => ?_
  refine (ensures_byteAt (by omega)).bind fun _ _ => ?_
  exact (ensures_byteAt (by omega)).bind fun _ _ => trivial

end Numbers

section Names

/-- `_SkipName` reads inside the message and finds the end of the name. -/
theorem ensures_skipNameLoop (pos consumed : ℕ) :
    Ensures (skipNameLoop data pos consumed) fun r =>
      r = 0 ∨ ∃ next, NameEnds data pos next ∧ r + pos = consumed + next := by
  induction hn : data.length - pos using Nat.strongRecOn generalizing pos consumed with
  | ind n ih =>
    rw [skipNameLoop]
    split
    · rename_i hpos
      refine (ensures_byteAt hpos).bind fun b hb => ?_
      split
      · rename_i htop
        split
        · exact Or.inl rfl
        · refine (ensures_byteAt (by omega)).bind fun lo hlo => ?_
          split
          · exact Or.inl rfl
          · split
            · exact Or.inl rfl
            · exact Or.inr ⟨pos + 2, .pointer hb htop hlo, by omega⟩
      · split
        · exact Or.inl rfl
        · rename_i htop
          split
          · rename_i hzero
            subst hzero
            exact Or.inr ⟨pos + 1, .root hb, by omega⟩
          · rename_i hne
            split
            · exact Or.inl rfl
            · rename_i hlen
              refine (ih _ (by omega) _ _ rfl).mono fun r hr => ?_
              rcases hr with hr | ⟨next, hnext, hr⟩
              · exact Or.inl hr
              · refine Or.inr ⟨next, .label hb (not_not.mp htop) hne (by omega) hnext, ?_⟩
                omega
    · exact Or.inl rfl

/-- `_SkipName` in one step. -/
theorem ensures_skipName (pos : ℕ) :
    Ensures (skipName data pos) fun r => r = 0 ∨ NameEnds data pos (pos + r) := by
  refine (ensures_skipNameLoop pos 0).mono fun r hr => ?_
  rcases hr with hr | ⟨next, hnext, hr⟩
  · exact Or.inl hr
  · obtain rfl : next = pos + r := by omega
    exact Or.inr hnext

/-- The text of labels, in lower case, with a dot before each of them or only between them. -/
def spelled : Bool → List (List UInt8) → List UInt8
  | _, [] => []
  | first, label :: labels =>
    (if first then [] else [0x2E]) ++ label.map toLower ++ spelled false labels

/-- A dot between labels. -/
theorem spelled_true (labels : List (List UInt8)) :
    spelled true labels = (List.intercalate [0x2E] labels).map toLower := by
  have hdot : toLower 0x2E = 0x2E := by decide
  induction labels with
  | nil => rfl
  | cons label labels ih =>
    cases labels with
    | nil => simp [spelled, List.intercalate]
    | cons second labels =>
      have hrest : spelled false (second :: labels) =
          0x2E :: spelled true (second :: labels) := by simp [spelled]
      rw [spelled, hrest, ih]
      simp [List.intercalate, hdot]

/-- `_DecodeQuestionName` reads inside the message and returns what the name spells. -/
theorem ensures_decodeLoop (pos jumps : ℕ) (first : Bool) (outName : List UInt8) :
    Ensures (decodeLoop data pos jumps first outName) fun r =>
      ∀ name, r = some name → ∃ labels, Spells data pos labels ∧
        name = outName ++ spelled first labels := by
  induction pos, jumps, first, outName using decodeLoop.induct data with
  | case1 pos jumps first outName hpos =>
    rw [decodeLoop, dif_pos hpos]
    simp
  | case2 pos jumps first outName hpos ihPointer ihLabel =>
    have hnone : ∀ name : List UInt8, (none : Option (List UInt8)) = some name →
        ∃ labels, Spells data pos labels ∧ name = outName ++ spelled first labels :=
      fun name h => absurd h (by simp)
    rw [decodeLoop, dif_neg hpos]
    refine (ensures_byteAt (by omega)).bind fun b hb => ?_
    split
    · rename_i htop
      split
      · exact hnone
      · refine (ensures_byteAt (by omega)).bind fun lo hlo => ?_
        split
        · exact hnone
        · split
          · exact hnone
          · rename_i hjumps
            refine (ihPointer b lo hjumps).mono fun r hr name hname => ?_
            obtain ⟨labels, hlabels, hspelled⟩ := hr name hname
            exact ⟨labels, .pointer hb htop hlo hlabels, hspelled⟩
    · split
      · exact hnone
      · rename_i htop
        split
        · rename_i hzero
          rintro name hname
          obtain rfl := Option.some.inj hname
          exact ⟨[], .root (hzero ▸ hb), by simp [spelled]⟩
        · rename_i hne
          split
          · exact hnone
          · rename_i hlen
            refine (ensures_bytesAt (by omega)).bind fun label hlabel => ?_
            refine (ihLabel b hlen label).mono fun r hr name hname => ?_
            obtain ⟨labels, hlabels, hspelled⟩ := hr name hname
            refine ⟨_, .label hb (not_not.mp htop) hne (by omega) hlabels, ?_⟩
            rw [hspelled, hlabel, spelled]
            cases first <;> simp

end Names

section Message

variable {expectHost : List UInt8}

/-- The name of the first question is the expected one. -/
def AsksFor (data expectHost : List UInt8) (pos : ℕ) : Prop :=
  ∃ labels, Spells data pos labels ∧
    (List.intercalate [0x2E] labels).map toLower = lowerNoTrailingDot expectHost

/-- The check of the first question. -/
theorem ensures_checkQuestion (pos : ℕ) :
    Ensures (checkQuestion data expectHost pos) fun _ => AsksFor data expectHost pos := by
  refine (ensures_decodeLoop pos 0 true []).bind fun r hr => ?_
  cases r with
  | none => exact ensures_refused
  | some qname =>
    obtain ⟨labels, hlabels, hspelled⟩ := hr qname rfl
    rw [List.nil_append, spelled_true] at hspelled
    dsimp only
    split
    · exact ensures_refused
    · rename_i heq
      exact ⟨labels, hlabels, hspelled ▸ not_not.mp heq⟩

/-- The questions are passed one after the other, and the first one is checked. -/
theorem ensures_questions (n : ℕ) (first : Bool) (pos : ℕ) :
    Ensures (questions data expectHost n first pos) fun next =>
      Questions data n pos next ∧
        (0 < n → first = true → expectHost ≠ [] → AsksFor data expectHost pos) := by
  induction n generalizing first pos with
  | zero => exact ⟨.none, fun h => absurd h (Nat.lt_irrefl 0)⟩
  | succ n ih =>
    have hrest : Ensures
        (do
          let nameLen ← skipName data pos
          if nameLen = 0 then refuse .questionSkip
          else if data.length < pos + nameLen + 4 then refuse .questionBounds
          else questions data expectHost n false (pos + nameLen + 4) : Parse ℕ)
        fun next => Questions data (n + 1) pos next := by
      refine (ensures_skipName pos).bind fun nameLen hname => ?_
      split
      · exact ensures_refused
      · rename_i hne
        split
        · exact ensures_refused
        · rename_i hlen
          refine (ih false (pos + nameLen + 4)).mono fun next hnext => ?_
          exact .more (hname.resolve_left hne) (by omega) hnext.1
    rw [questions]
    by_cases hcheck : first = true ∧ expectHost ≠ []
    · rw [if_pos hcheck]
      refine (ensures_checkQuestion pos).bind fun _ hasks => ?_
      exact hrest.mono fun next hnext => ⟨hnext, fun _ _ _ => hasks⟩
    · rw [if_neg hcheck]
      exact hrest.mono fun next hnext =>
        ⟨hnext, fun _ hfirst hhost => absurd ⟨hfirst, hhost⟩ hcheck⟩

/-- Every address that was added is the RDATA of an answer. -/
def AddsAnswers (data : List UInt8) (n start : ℕ) (given gathered : Gathered) : Prop :=
  ∃ added, gathered.outAddrs = given.outAddrs ++ added ∧
    ∀ addr ∈ added, ∃ type rdata, Answer data n start type rdata ∧ AddressOf type rdata addr

/-- What a record adds. -/
theorem ensures_takeRecord (g : Gathered) (type ttl rdlen pos : ℕ)
    (hlen : pos + rdlen ≤ data.length) :
    Ensures (takeRecord data g type ttl rdlen pos) fun gathered =>
      ∃ added, gathered.outAddrs = g.outAddrs ++ added ∧
        ∀ addr ∈ added, AddressOf type ((data.drop pos).take rdlen) addr := by
  have htake : ((data.drop pos).take rdlen).length = rdlen := by
    rw [List.length_take, List.length_drop]
    omega
  rw [takeRecord]
  split
  · rename_i h
    obtain ⟨rfl, rfl⟩ := h
    refine (ensures_bytesAt hlen).bind fun in4 hin4 => ?_
    refine ⟨[⟨false, in4, 0⟩], rfl, fun addr haddr => ?_⟩
    rw [List.mem_singleton.mp haddr, hin4]
    exact .a htake
  · split
    · rename_i h
      obtain ⟨rfl, rfl⟩ := h
      refine (ensures_bytesAt hlen).bind fun in6 hin6 => ?_
      refine ⟨[⟨true, in6, 0⟩], rfl, fun addr haddr => ?_⟩
      rw [List.mem_singleton.mp haddr, hin6]
      exact .aaaa htake
    · exact ⟨[], (List.append_nil _).symm, by simp⟩

/-- Nothing added. -/
theorem AddsAnswers.refl (n start : ℕ) (g : Gathered) : AddsAnswers data n start g g :=
  ⟨[], (List.append_nil _).symm, by simp⟩

/-- The loop over the answers adds the RDATA of answers. -/
theorem ensures_answers (truncated : Bool) (n start : ℕ) (g : Gathered) :
    Ensures (answers data truncated n start g) fun gathered =>
      AddsAnswers data n start g gathered := by
  induction n generalizing start g with
  | zero => exact .refl 0 start g
  | succ n ih =>
    -- A message that cannot be read further is refused, or it ends here.
    have hend (e : ParseError) : Ensures
        (if truncated then return g else refuse e : Parse Gathered)
        fun gathered => AddsAnswers data (n + 1) start g gathered := by
      split
      · exact .refl (n + 1) start g
      · exact ensures_refused
    rw [answers]
    refine (ensures_skipName start).bind fun nameLen hname => ?_
    split
    · exact hend .answerSkip
    · rename_i hne
      have hname := hname.resolve_left hne
      split
      · exact hend .recordHead
      · rename_i hhead
        refine (ensures_readU16 (by omega)).bind fun type htype => ?_
        refine (ensures_readU32 (by omega)).bind fun ttl _ => ?_
        refine (ensures_readU16 (by omega)).bind fun rdlen hrdlen => ?_
        split
        · exact hend .rdataBounds
        · rename_i hrdata
          have hlength : ((data.drop (start + nameLen + 10)).take rdlen).length = rdlen := by
            rw [List.length_take, List.length_drop]
            omega
          have hrecord : Record data start type
              ((data.drop (start + nameLen + 10)).take rdlen) (start + nameLen + 10 + rdlen) := by
            refine ⟨⟨start + nameLen, hname, htype, ?_, ?_, ?_⟩, by omega⟩
            · rw [hlength, hrdlen]
            · rw [hlength]
            · rw [hlength]
          refine (ensures_takeRecord g type ttl rdlen _ (by omega)).bind fun g' hg' => ?_
          refine (ih _ g').mono fun gathered hgathered => ?_
          obtain ⟨first, hfirst, haddr⟩ := hg'
          obtain ⟨added, hadded, hanswers⟩ := hgathered
          refine ⟨first ++ added, by rw [hadded, hfirst, List.append_assoc], fun addr hmem => ?_⟩
          rcases List.mem_append.mp hmem with hmem | hmem
          · exact ⟨type, _, .here hrecord, haddr addr hmem⟩
          · obtain ⟨type', rdata, hanswer, hof⟩ := hanswers addr hmem
            exact ⟨type', rdata, .later hrecord hanswer, hof⟩

/-- A response to the expected query. -/
structure Responds (data : List UInt8) (expectTxid : ℕ) (expectHost : List UInt8) : Prop where
  /-- The QR bit is 1. -/
  qr : ∃ flags, data[2]? = some flags ∧ flags &&& 0x80 ≠ 0
  /-- The transaction id. -/
  txid : numberAt data 0 = expectTxid
  /-- The RCODE is 0. -/
  rcode : ∃ flags, data[3]? = some flags ∧ flags &&& 0x0F = 0
  /-- There is a question. -/
  question : 0 < numberAt data 4
  /-- The first one asks for the expected name. -/
  asks : AsksFor data expectHost 12

/-- The answer section begins behind the questions. -/
def AnswersAfterQuestions (data : List UInt8) (given gathered : Gathered) : Prop :=
  ∃ start, Questions data (numberAt data 4) 12 start ∧
    AddsAnswers data (numberAt data 6) start given gathered

variable (data expectHost) in
/-- What `ParseResponse` does before it returns. -/
theorem ensures_parseMessage (expectTxid : ℕ) (given : Gathered) :
    Ensures (parseMessage data expectTxid given expectHost) fun gathered =>
      (expectHost ≠ [] → Responds data expectTxid expectHost) ∧
        AnswersAfterQuestions data given gathered := by
  rw [parseMessage]
  split
  · exact ensures_refused
  · rename_i hlen
    refine (ensures_byteAt (by omega)).bind fun flags hflags => ?_
    split
    · exact ensures_refused
    · rename_i hqr
      refine (ensures_readU16 (by omega)).bind fun gotTxid htxid => ?_
      split
      · exact ensures_refused
      · rename_i hsame
        refine (ensures_byteAt (by omega)).bind fun flags3 hflags3 => ?_
        split
        · exact ensures_refused
        · rename_i hrcode
          refine (ensures_readU16 (by omega)).bind fun qdcount hqdcount => ?_
          refine (ensures_readU16 (by omega)).bind fun ancount hancount => ?_
          split
          · exact ensures_refused
          · rename_i hquestion
            refine (ensures_questions qdcount true 12).bind fun pos hpos => ?_
            refine (ensures_answers _ ancount pos given).bind fun gathered hgathered => ?_
            split
            · exact ensures_refused
            · subst hqdcount hancount
              refine ⟨fun hhost => ?_, pos, hpos.1, hgathered⟩
              have hcount : 0 < numberAt data 4 :=
                Nat.pos_of_ne_zero fun hzero => hquestion ⟨hhost, hzero⟩
              exact ⟨⟨flags, hflags, hqr⟩, htxid ▸ not_not.mp hsame,
                ⟨flags3, hflags3, not_not.mp hrcode⟩, hcount, hpos.2 hcount rfl hhost⟩

end Message

/-- For every byte string, transaction id and expected host, `ParseResponse` ends and reads
nothing outside the bytes. When it fails it leaves no address; when it succeeds, a message
for a non-empty host is a response with QR, the transaction id, RCODE 0 and a first question
for that host, and every address that it adds is the RDATA of an A or AAAA record that lies
in the answer section. -/
theorem parseResponse_sound (data : List UInt8) (expectTxid : ℕ) (outAddrs : List SockAddr)
    (outMinTtl : ℕ) (expectHost : List UInt8) :
    ∃ result, parseResponse data expectTxid outAddrs outMinTtl expectHost = some result ∧
      match result with
      | .failed addrs _ => addrs = []
      | .parsed addrs _ =>
        (expectHost ≠ [] → Responds data expectTxid expectHost) ∧
          ∃ start, Questions data (numberAt data 4) 12 start ∧
            ∃ added, addrs = outAddrs ++ added ∧ ∀ addr ∈ added, ∃ type rdata,
              Answer data (numberAt data 6) start type rdata ∧ AddressOf type rdata addr := by
  have h := ensures_parseMessage data expectHost expectTxid ⟨outAddrs, outMinTtl, false⟩
  rw [parseResponse]
  split
  · rename_i g hg
    exact ⟨_, rfl, h.of_eq_ok hg⟩
  · exact ⟨_, rfl, rfl⟩
  · rename_i hg
    exact absurd hg h.ne_outside

end Dns
