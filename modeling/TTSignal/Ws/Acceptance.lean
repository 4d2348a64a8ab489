import TTSignal.Http.Assembling
import TTSignal.Ws.Check
import TTSignal.Ws.Connection

/-!
# Which responses are accepted

A `WSConnection` puts the header of the response together as an `HttpConnection` does, with
the same limits. A response whose header is within the limits is accepted exactly when it
switches to the WebSocket protocol and shows the digest of the key; the pieces in which
`llhttp` hands the fields over make no difference.
-/

namespace WS

open Text Guarded
open Http (Pieces Assembly joinedValue distinctNames fieldBytes)

section Assembling

variable {r : Response} {t : Assembly} {c : Checked} {x : Except Http.ResponseFailure Assembly}

/-- The response has been put together as an `HttpConnection` does it. -/
structure Mirrors (r : Response) (t : Assembly) : Prop where
  /-- The name of the half-built field. -/
  curField_eq : r.curField = t.curField
  /-- Its value. -/
  curValue_eq : r.curValue = t.curValue
  /-- Whether its value has begun. -/
  lastWasValue_eq : r.lastWasValue = t.lastWasValue
  /-- The bytes that have been counted. -/
  headerBytes_eq : r.hsHeaderBytes = t.headerBytes
  /-- The map. -/
  find_eq : ∀ key, r.hsHeaders.find key = t.headers[key]?
  /-- Its size. -/
  length_eq : r.hsHeaders.length = t.headers.size
  /-- Its names differ. -/
  nodup : (r.hsHeaders.map Prod.fst).Nodup

/-- Both fail, or none does and the results mirror each other. -/
def Agree (c : Checked) : Except Http.ResponseFailure Assembly → Prop
  | .ok t => c.2 = none ∧ Mirrors c.1 t
  | .error _ => c.2 ≠ none

/-- Going on after results that agree. -/
theorem Agree.andThen {f : Response → Checked} {g : Assembly → Except Http.ResponseFailure Assembly}
    (h : Agree c x) (hnext : ∀ r t, Mirrors r t → Agree (f r) (g t)) :
    Agree (c.andThen f) (x >>= g) := by
  cases x with
  | ok t =>
    obtain ⟨hnone, hmirrors⟩ := h
    have hthen : c.andThen f = f c.1 := by
      unfold Checked.andThen
      rw [hnone]
    rw [hthen]
    exact hnext _ _ hmirrors
  | error e =>
    have hthen : c.andThen f = c := by
      unfold Checked.andThen
      split
      · rename_i hnone
        exact absurd hnone h
      · rfl
    rw [hthen]
    exact h

/-- The field that has been built is added to both maps. -/
theorem Mirrors.add (h : Mirrors r t) (key value : List UInt8) :
    let joined := match r.hsHeaders.find key with
      | none => value
      | some old => old ++ literal ", " ++ value
    Mirrors ({ r with hsHeaders := r.hsHeaders.set key joined }.headerDone)
      { t.cleared with headers := Http.HttpHeaderMap.add t.headers key value } := by
  intro joined
  refine ⟨rfl, rfl, rfl, h.headerBytes_eq, fun k => ?_, ?_, HttpHeaderMap.nodup_set h.nodup⟩
  · change (r.hsHeaders.set key joined).find k = (Http.HttpHeaderMap.add t.headers key value)[k]?
    rw [HttpHeaderMap.find_set, Http.HttpHeaderMap.getElem?_add]
    by_cases hk : k = key
    · rw [if_pos hk, if_pos hk.symm]
      change some (match r.hsHeaders.find key with
        | none => value
        | some old => old ++ literal ", " ++ value) = _
      rw [h.find_eq key]
      rfl
    · rw [if_neg hk, if_neg fun heq => hk heq.symm]
      exact h.find_eq k
  · change (r.hsHeaders.set key joined).length = (Http.HttpHeaderMap.add t.headers key value).size
    rw [HttpHeaderMap.length_set, Http.HttpHeaderMap.size_add, h.length_eq, h.find_eq key]
    have hmem : (t.headers[key]?).isSome = true ↔ key ∈ t.headers := by simp
    by_cases hkey : key ∈ t.headers
    · rw [if_pos (hmem.mpr hkey), if_pos hkey]
    · rw [if_neg fun hsome => hkey (hmem.mp hsome), if_neg hkey]

/-- The end of a field. -/
theorem Mirrors.commitHeader (h : Mirrors r t) : Agree r.commitHeader t.commitHeader := by
  unfold Response.commitHeader Assembly.commitHeader
  rw [h.curField_eq]
  by_cases hfield : t.curField = []
  · rw [if_pos hfield, if_pos hfield]
    exact ⟨rfl, rfl, rfl, rfl, h.headerBytes_eq, h.find_eq, h.length_eq, h.nodup⟩
  · have hadd := h.add (lower t.curField) t.curValue
    rw [if_neg hfield, if_neg hfield, toLowerAscii_eq]
    have hmem : lower t.curField ∈ t.headers ↔
        (r.hsHeaders.find (lower t.curField)).isSome = true := by
      rw [h.find_eq]
      simp
    cases hfind : r.hsHeaders.find (lower t.curField) with
    | none =>
      rw [hfind] at hadd hmem
      have hnew : lower t.curField ∉ t.headers := fun hin => absurd (hmem.mp hin) (by simp)
      change Agree (if r.hsHeaders.length ≥ kMaxHeaderCount then _ else _) (if _ ∨ _ then _ else _)
      by_cases hroom : t.headers.size < Http.kMaxHeaderCount
      · have hsmall : ¬ r.hsHeaders.length ≥ kMaxHeaderCount := by
          rw [h.length_eq]
          exact Nat.not_le.mpr hroom
        rw [if_pos (Or.inr hroom), if_neg hsmall, h.curValue_eq]
        exact ⟨rfl, hadd⟩
      · have hfull : r.hsHeaders.length ≥ kMaxHeaderCount := by
          rw [h.length_eq]
          exact Nat.not_lt.mp hroom
        rw [if_neg (not_or.mpr ⟨hnew, hroom⟩), if_pos hfull]
        exact Option.some_ne_none _
    | some old =>
      rw [hfind] at hadd hmem
      rw [if_pos (Or.inl (hmem.mpr rfl)), h.curValue_eq]
      exact ⟨rfl, hadd⟩

/-- Bytes are counted. -/
theorem Mirrors.chargeHeaderBytes (h : Mirrors r t) (n : ℕ) :
    Agree (r.chargeHeaderBytes n) (t.chargeHeaderBytes n) := by
  unfold Response.chargeHeaderBytes Assembly.chargeHeaderBytes
  rw [h.headerBytes_eq]
  by_cases hroom : t.headerBytes + n ≤ Http.kMaxHeaderTotalBytes
  · have hno : ¬ t.headerBytes + n > kMaxHeaderTotalBytes := Nat.not_lt.mpr hroom
    rw [if_pos hroom, if_neg hno]
    exact ⟨rfl, h.curField_eq, h.curValue_eq, h.lastWasValue_eq, rfl, h.find_eq, h.length_eq,
      h.nodup⟩
  · have hover : t.headerBytes + n > kMaxHeaderTotalBytes := Nat.not_le.mp hroom
    rw [if_neg hroom, if_pos hover]
    exact Option.some_ne_none _

/-- The size of the field is checked. -/
theorem Mirrors.checkSingleHeaderSize (h : Mirrors r t) (n : ℕ) :
    Agree (r.checkSingleHeaderSize n) (t.checkSingleHeaderSize n) := by
  unfold Response.checkSingleHeaderSize Assembly.checkSingleHeaderSize
  rw [h.curField_eq, h.curValue_eq]
  by_cases hroom : t.curField.length + t.curValue.length + n ≤ Http.kMaxSingleHeaderBytes
  · have hno : ¬ t.curField.length + t.curValue.length + n > kMaxSingleHeaderBytes :=
      Nat.not_lt.mpr hroom
    rw [if_pos hroom, if_neg hno]
    exact ⟨rfl, h⟩
  · have hover : t.curField.length + t.curValue.length + n > kMaxSingleHeaderBytes :=
      Nat.not_le.mp hroom
    rw [if_neg hroom, if_pos hover]
    exact Option.some_ne_none _

/-- A piece of a name. -/
theorem Mirrors.onHeaderField (h : Mirrors r t) (data : List UInt8) :
    Agree (r.onHeaderField data) (t.httpOnHeaderField data) := by
  have hrest (r : Response) (t : Assembly) (h : Mirrors r t) :
      Agree ((r.chargeHeaderBytes data.length).andThen fun r =>
          (r.checkSingleHeaderSize data.length).andThen fun r =>
            ({ r with curField := r.curField ++ data }, none))
        (t.charge data.length >>= fun t => .ok { t with curField := t.curField ++ data }) := by
    rw [Assembly.charge, bind_assoc]
    refine (h.chargeHeaderBytes _).andThen fun r t h => (h.checkSingleHeaderSize _).andThen
      fun r t h => ?_
    exact ⟨rfl, congrArg (· ++ data) h.curField_eq, h.curValue_eq, h.lastWasValue_eq,
      h.headerBytes_eq, h.find_eq, h.length_eq, h.nodup⟩
  unfold Response.onHeaderField
  rw [Assembly.httpOnHeaderField, h.lastWasValue_eq]
  cases t.lastWasValue with
  | true => exact h.commitHeader.andThen hrest
  | false => exact hrest r t h

/-- A piece of a value. -/
theorem Mirrors.onHeaderValue (h : Mirrors r t) (data : List UInt8) :
    Agree (r.onHeaderValue data) (t.httpOnHeaderValue data) := by
  have hvalue : Mirrors { r with lastWasValue := true } { t with lastWasValue := true } :=
    ⟨h.curField_eq, h.curValue_eq, rfl, h.headerBytes_eq, h.find_eq, h.length_eq, h.nodup⟩
  unfold Response.onHeaderValue Assembly.httpOnHeaderValue Assembly.charge
  rw [bind_assoc]
  refine (hvalue.chargeHeaderBytes _).andThen fun r t h => (h.checkSingleHeaderSize _).andThen
    fun r t h => ?_
  exact ⟨rfl, h.curField_eq, congrArg (· ++ data) h.curValue_eq, h.lastWasValue_eq,
    h.headerBytes_eq, h.find_eq, h.length_eq, h.nodup⟩

end Assembling

/-- A field as `llhttp` hands it over, which lets no zero byte through. -/
structure FieldPieces extends Pieces where
  /-- There is no zero byte. -/
  no_zero : ∀ data ∈ names ++ values, 0 ∉ data

/-- The callbacks that hand a field over. -/
def FieldPieces.callbacks (f : FieldPieces) : List HttpCallback :=
  f.names.map .onHeaderField ++ f.values.map .onHeaderValue

/-- A response up to the end of its header, in pieces. -/
structure Answer where
  /-- The status code. -/
  status : ℤ
  /-- The pieces of the reason phrase. -/
  reason : List (List UInt8)
  /-- The fields. -/
  fields : List FieldPieces

namespace Answer

/-- The callbacks that hand over the header in front of its end. -/
def headerCallbacks (a : Answer) : List HttpCallback :=
  a.reason.map .onStatus ++ a.fields.flatMap FieldPieces.callbacks

/-- The callbacks that hand it over. -/
def callbacks (a : Answer) : List HttpCallback :=
  a.headerCallbacks ++ [.onHeadersComplete a.status]

/-- The fields. -/
def header (a : Answer) : List (List UInt8 × List UInt8) := a.fields.map fun f => f.field

end Answer

/-- A header is within the limits: the sum of all sizes, each field, and the number of
different names. -/
structure HeaderFits (reason : List UInt8) (fields : List (List UInt8 × List UInt8)) :
    Prop where
  /-- The sum of all sizes. -/
  total_le : reason.length + fieldBytes fields ≤ kMaxHeaderTotalBytes
  /-- Each field. -/
  single_le : ∀ field ∈ fields, field.1.length + field.2.length ≤ kMaxSingleHeaderBytes
  /-- The number of different names. -/
  count_le : distinctNames fields ≤ kMaxHeaderCount

section Header

variable {r : Response} {t : Assembly}

/-- A callback in front of the end of the header. -/
def Response.handle (r : Response) : HttpCallback → Checked
  | .onStatus data => r.onStatus data
  | .onHeaderField data => r.onHeaderField data
  | .onHeaderValue data => r.onHeaderValue data
  | _ => (r, none)

/-- Such callbacks one after the other, up to the first that fails. -/
def Response.handleAll : Response → List HttpCallback → Checked
  | r, [] => (r, none)
  | r, c :: cs => (r.handle c).andThen fun r => r.handleAll cs

/-- Going on after a step that does not fail. -/
theorem Checked.andThen_of_none {c : Checked} (h : c.2 = none) (next : Response → Checked) :
    c.andThen next = next c.1 := by
  unfold Checked.andThen
  rw [h]

/-- A failure ends the callback. -/
theorem Checked.andThen_of_ne {c : Checked} (h : c.2 ≠ none) (next : Response → Checked) :
    c.andThen next = c := by
  unfold Checked.andThen
  split
  · rename_i hnone
    exact absurd hnone h
  · rfl

/-- Callbacks one after the other. -/
theorem Response.handleAll_append (r : Response) (first second : List HttpCallback) :
    r.handleAll (first ++ second) =
      (r.handleAll first).andThen fun r => r.handleAll second := by
  induction first generalizing r with
  | nil => rfl
  | cons c cs ih =>
    rw [List.cons_append, handleAll, handleAll]
    by_cases hnone : (r.handle c).2 = none
    · rw [Checked.andThen_of_none hnone, Checked.andThen_of_none hnone, ih]
    · rw [Checked.andThen_of_ne hnone, Checked.andThen_of_ne hnone,
        Checked.andThen_of_ne hnone]

/-- The reason phrase is counted. -/
theorem Response.handleAll_status (r : Response) (pieces : List (List UInt8))
    (hroom : r.hsHeaderBytes ≤ kMaxHeaderTotalBytes) :
    (r.hsHeaderBytes + pieces.flatten.length ≤ kMaxHeaderTotalBytes →
      r.handleAll (pieces.map .onStatus) =
        ({ r with hsHeaderBytes := r.hsHeaderBytes + pieces.flatten.length }, none)) ∧
      (¬ r.hsHeaderBytes + pieces.flatten.length ≤ kMaxHeaderTotalBytes →
        (r.handleAll (pieces.map .onStatus)).2 ≠ none) := by
  induction pieces generalizing r with
  | nil => exact ⟨fun _ => rfl, fun h => absurd hroom h⟩
  | cons data pieces ih =>
    rw [List.map_cons, handleAll, List.flatten_cons, List.length_append, ← Nat.add_assoc]
    by_cases hdata : r.hsHeaderBytes + data.length ≤ kMaxHeaderTotalBytes
    · have hcharge : r.handle (.onStatus data) =
          ({ r with hsHeaderBytes := r.hsHeaderBytes + data.length }, none) :=
        if_neg (Nat.not_lt.mpr hdata)
      rw [hcharge, Checked.andThen_of_none rfl]
      exact ih { r with hsHeaderBytes := r.hsHeaderBytes + data.length } hdata
    · have hcharge : (r.handle (.onStatus data)).2 ≠ none := by
        change (r.chargeHeaderBytes data.length).2 ≠ none
        unfold Response.chargeHeaderBytes
        rw [if_pos (Nat.not_le.mp hdata)]
        exact Option.some_ne_none _
      rw [Checked.andThen_of_ne hcharge]
      exact ⟨fun h => absurd h (by omega), fun _ => hcharge⟩

/-- Fields are put together as an `HttpConnection` does it. -/
theorem Mirrors.handleAll (h : Mirrors r t) (cfg : Http.ResponseSettings)
    (fields : List FieldPieces) :
    Agree (r.handleAll (fields.flatMap FieldPieces.callbacks))
      (t.handleAll cfg ((fields.map FieldPieces.toPieces).flatMap Pieces.calls)) := by
  have hnames (names : List (List UInt8)) (r : Response) (t : Assembly) (h : Mirrors r t) :
      Agree (r.handleAll (names.map .onHeaderField))
        (t.handleAll cfg (names.map .headerField)) := by
    induction names generalizing r t with
    | nil => exact ⟨rfl, h⟩
    | cons data names ih =>
      rw [Assembly.handleAll, List.map_cons, List.map_cons, List.foldlM_cons]
      exact (h.onHeaderField data).andThen ih
  have hvalues (values : List (List UInt8)) (r : Response) (t : Assembly) (h : Mirrors r t) :
      Agree (r.handleAll (values.map .onHeaderValue))
        (t.handleAll cfg (values.map .headerValue)) := by
    induction values generalizing r t with
    | nil => exact ⟨rfl, h⟩
    | cons data values ih =>
      rw [Assembly.handleAll, List.map_cons, List.map_cons, List.foldlM_cons]
      exact (h.onHeaderValue data).andThen ih
  induction fields generalizing r t with
  | nil => exact ⟨rfl, h⟩
  | cons f fields ih =>
    rw [List.map_cons, List.flatMap_cons, List.flatMap_cons, Assembly.handleAll_append,
      Response.handleAll_append, FieldPieces.callbacks, Pieces.calls, Assembly.handleAll_append,
      Response.handleAll_append]
    exact ((hnames _ _ _ h).andThen (hvalues _)).andThen fun r t h => ih h

/-- A connection that has counted the reason phrase. -/
def counted (n : ℕ) : Assembly := { Assembly.fresh 0 with headerBytes := n }

/-- The header is put together when it is within the limits, to a map of the joined values. -/
theorem Answer.header_spec (a : Answer) :
    let c := (({} : Response).handleAll a.headerCallbacks).andThen Response.commitHeader
    (c.2 = none ↔ HeaderFits a.reason.flatten a.header) ∧
      (c.2 = none → (c.1.hsHeaders.map Prod.fst).Nodup ∧
        ∀ key, c.1.hsHeaders.find key = joinedValue a.header key) := by
  intro c
  set n := a.reason.flatten.length with hn
  have hreason := Response.handleAll_status {} a.reason (Nat.zero_le _)
  change (0 + n ≤ _ → _ = (({ hsHeaderBytes := 0 + n } : Response), none)) ∧ (¬ 0 + n ≤ _ → _)
    at hreason
  rw [Nat.zero_add] at hreason
  have hc : c = ((({} : Response).handleAll (a.reason.map .onStatus)).andThen fun r =>
      r.handleAll (a.fields.flatMap FieldPieces.callbacks)).andThen Response.commitHeader := by
    rw [← Response.handleAll_append]
    rfl
  by_cases hroom : n ≤ kMaxHeaderTotalBytes
  · have hmirrors : Mirrors { hsHeaderBytes := n } (counted n) :=
      ⟨rfl, rfl, rfl, rfl, fun _ => rfl, rfl, List.nodup_nil⟩
    have hclean : (counted n).Clean := ⟨rfl, rfl, rfl⟩
    have hcommit : Guards (counted n).commitHeader True Http.TooLarge (counted n) := by
      rw [Assembly.commitHeader_of_clean hclean]
      exact Guards.pure _
    have hguards := @Assembly.guards_pieces ⟨false, 0⟩ _ _ _ (Or.inr hclean) hcommit
      (fun _ => hclean) (fun _ => ⟨hroom, Nat.zero_le _⟩) (a.fields.map FieldPieces.toPieces)
    have hagree := (hmirrors.handleAll ⟨false, 0⟩ a.fields).andThen fun r t h => h.commitHeader
    have hheader : (a.fields.map FieldPieces.toPieces).map Pieces.field = a.header :=
      List.map_map
    rw [hheader] at hguards
    have hfits : True ∧ (counted n).Fits a.header ↔ HeaderFits a.reason.flatten a.header := by
      change True ∧ n + _ ≤ _ ∧ _ ∧ (Http.HttpHeaderMap.addAll ∅ a.header).size ≤ _ ↔ _
      rw [(Http.size_addAll _).1]
      exact ⟨fun ⟨_, htotal, hsingle, hcount⟩ => ⟨htotal, hsingle, hcount⟩,
        fun h => ⟨trivial, h.total_le, h.single_le, h.count_le⟩⟩
    rw [hreason.1 hroom, Checked.andThen_of_none (c := ({ hsHeaderBytes := n }, none)) rfl] at hc
    rw [← hc] at hagree
    by_cases hlimits : HeaderFits a.reason.flatten a.header
    · rw [hguards.ok (hfits.mpr hlimits)] at hagree
      obtain ⟨hnone, hend⟩ := hagree
      refine ⟨iff_of_true hnone hlimits, fun _ => ⟨hend.nodup, fun key => ?_⟩⟩
      rw [hend.find_eq key]
      exact Http.getElem?_addAll a.header key
    · obtain ⟨e, he, -⟩ := hguards.error fun h => hlimits (hfits.mp h)
      rw [he] at hagree
      exact ⟨iff_of_false hagree hlimits, fun hnone => absurd hnone hagree⟩
  · rw [Checked.andThen_of_ne (hreason.2 hroom), Checked.andThen_of_ne (hreason.2 hroom)] at hc
    have hno : ¬ HeaderFits a.reason.flatten a.header := by
      intro hfits
      have htotal := hfits.total_le
      omega
    rw [hc]
    exact ⟨iff_of_false (hreason.2 hroom) hno, fun hnone => absurd hnone (hreason.2 hroom)⟩

end Header

section Plain

variable {m : HttpHeaderMap} {fields : List (List UInt8 × List UInt8)} {key value : List UInt8}

/-- In a map whose names differ each entry is found. -/
theorem HttpHeaderMap.find_of_mem (h : (m.map Prod.fst).Nodup) {e : List UInt8 × List UInt8}
    (he : e ∈ m) : m.find e.1 = some e.2 := by
  induction m with
  | nil => cases he
  | cons d m ih =>
    obtain ⟨hnew, hrest⟩ := List.nodup_cons.mp h
    rw [find, List.lookup_cons]
    rcases List.mem_cons.mp he with rfl | he
    · rw [beq_self_eq_true]
    · have hne : e.1 ≠ d.1 := fun heq => hnew (heq ▸ List.mem_map_of_mem he)
      rw [beq_false_of_ne hne]
      exact ih hrest he

/-- Values are joined without a zero byte. -/
theorem joinedValue_no_zero (hfields : ∀ field ∈ fields, 0 ∉ field.2)
    (h : joinedValue fields key = some value) : 0 ∉ value := by
  induction fields using List.reverseRecOn generalizing value with
  | nil => cases h
  | append_singleton fields field ih =>
    have hrest : ∀ field ∈ fields, 0 ∉ field.2 := fun f hf => hfields f (by simp [hf])
    have hlast : 0 ∉ field.2 := hfields field (by simp)
    have hcomma : (0 : UInt8) ∉ ofString ", " := by decide
    rw [Http.joinedValue_concat] at h
    split at h
    · rw [Option.some.injEq] at h
      rw [← h]
      cases hold : joinedValue fields key with
      | none => exact hlast
      | some old =>
        have hzero := ih hrest hold
        simp only [List.mem_append, not_or]
        exact ⟨⟨hzero, hcomma⟩, hlast⟩
    · exact ih hrest h

/-- A name with joined values is one of the names in lower case. -/
theorem exists_of_joinedValue (h : joinedValue fields key = some value) :
    ∃ field ∈ fields, lower field.1 = key := by
  unfold joinedValue at h
  split at h
  · cases h
  · rename_i first rest hvalues
    have hmem : first ∈ (fields.filter fun field => lower field.1 = key).map Prod.snd := by
      rw [hvalues]
      exact List.mem_cons_self
    obtain ⟨field, hfield, -⟩ := List.mem_map.mp hmem
    obtain ⟨hin, hname⟩ := List.mem_filter.mp hfield
    exact ⟨field, hin, of_decide_eq_true hname⟩

/-- A field has no zero byte. -/
theorem FieldPieces.field_no_zero (f : FieldPieces) : 0 ∉ f.field.1 ∧ 0 ∉ f.field.2 := by
  constructor
  · intro hmem
    obtain ⟨data, hdata, hzero⟩ := List.mem_flatten.mp hmem
    exact f.no_zero data (List.mem_append_left _ hdata) hzero
  · intro hmem
    obtain ⟨data, hdata, hzero⟩ := List.mem_flatten.mp hmem
    exact f.no_zero data (List.mem_append_right _ hdata) hzero

/-- The map of the joined values of a response is plain. -/
theorem Answer.plain (a : Answer) (hnodup : (m.map Prod.fst).Nodup)
    (hfind : ∀ key, m.find key = joinedValue a.header key) : m.Plain := by
  have hfields : ∀ field ∈ a.header, 0 ∉ field.1 ∧ 0 ∉ field.2 := by
    intro field hfield
    obtain ⟨f, -, rfl⟩ := List.mem_map.mp hfield
    exact f.field_no_zero
  have hjoined : ∀ e ∈ m, joinedValue a.header e.1 = some e.2 := fun e he => by
    rw [← hfind, HttpHeaderMap.find_of_mem hnodup he]
  refine ⟨hnodup, fun e he => ?_, fun e he => ⟨?_, ?_⟩⟩
  · obtain ⟨field, -, hname⟩ := exists_of_joinedValue (hjoined e he)
    rw [← hname, lower_lower]
  · obtain ⟨field, hfield, hname⟩ := exists_of_joinedValue (hjoined e he)
    intro hzero
    rw [← hname] at hzero
    obtain ⟨c, hc, hlower⟩ := List.mem_map.mp hzero
    rw [lowerByte_eq_iff (by decide)] at hlower
    exact (hfields field hfield).1 (hlower ▸ hc)
  · exact joinedValue_no_zero (fun field hfield => (hfields field hfield).2) (hjoined e he)

end Plain

section Verdict

variable {L P : Type}

namespace Session

variable (E : Parsers L P) {s : Session L P}

/-- `llhttp` calls back at the given times, up to the first call that does not return 0. -/
def handleHttp : Session L P → List (ℕ × HttpCallback) → Session L P
  | s, [] => s
  | s, call :: calls =>
    if (s.onHttp E call.1 call.2).1 = 0 then (s.onHttp E call.1 call.2).2.handleHttp calls
    else (s.onHttp E call.1 call.2).2

/-- A failure does not change the protocols. -/
theorem upgraded_fail (result : BCRESULT) (message : String) :
    (s.fail result message).upgraded = s.upgraded := by
  unfold fail closeChannel
  split <;> split <;> rfl

variable {E}

/-- Callbacks in front of the end of the header change the response, and the first one that
fails is the last one. -/
theorem handleHttp_reading {calls : List (ℕ × HttpCallback)} {cs : List HttpCallback}
    (hcalls : calls.map Prod.snd = cs)
    (hreading : ∀ now, ∀ c ∈ cs, ∀ s : Session L P,
      s.onHttp E now c = s.checked (s.response.handle c)) (rest : List (ℕ × HttpCallback)) :
    ((s.response.handleAll cs).2 = none → s.handleHttp E (calls ++ rest) =
      (s.withResponse (s.response.handleAll cs).1).handleHttp E rest) ∧
      ((s.response.handleAll cs).2 ≠ none →
        (s.handleHttp E (calls ++ rest)).upgraded = s.upgraded) := by
  induction calls generalizing s cs with
  | nil =>
    subst hcalls
    exact ⟨fun _ => rfl, fun h => absurd rfl h⟩
  | cons call calls ih =>
    subst hcalls
    rw [List.map_cons] at hreading ⊢
    have hfirst := hreading call.1 call.2 List.mem_cons_self s
    rw [List.cons_append, handleHttp, hfirst, checked, Response.handleAll]
    cases hmessage : (s.response.handle call.2).2 with
    | none =>
      rw [Checked.andThen_of_none hmessage, if_pos rfl]
      exact ih (s := s.withResponse (s.response.handle call.2).1) rfl
        fun now c hc => hreading now c (List.mem_cons_of_mem _ hc)
    | some message =>
      have hne : (s.response.handle call.2).2 ≠ none := by
        rw [hmessage]
        exact Option.some_ne_none _
      rw [Checked.andThen_of_ne hne]
      exact ⟨fun h => absurd h hne, fun _ => upgraded_fail _ _⟩

/-- The connection is upgraded at the end of the header exactly when the last field fits and
the check of the response succeeds. -/
theorem upgraded_onHeadersComplete (hupgraded : s.upgraded = false) (now : ℕ) (status : ℤ) :
    (s.onHeadersComplete E now status).2.upgraded = true ↔
      s.response.commitHeader.2 = none ∧ checkHandshakeResponse E.wsAcceptKey status
        s.response.commitHeader.1.hsHeaders s.secKey = .ok () := by
  unfold onHeadersComplete
  rcases hcommit : s.response.commitHeader with ⟨r, _ | message⟩
  · change ((s.withResponse { r with hsStatus := status }).checkResponse E now).2.upgraded = true ↔
      none = none ∧ checkHandshakeResponse E.wsAcceptKey status r.hsHeaders s.secKey = .ok ()
    cases hcheck : checkHandshakeResponse E.wsAcceptKey status r.hsHeaders s.secKey with
    | error e =>
      have hfail := upgraded_fail (s := s.withResponse { r with hsStatus := status })
        bcrWsHandshakeFailed e
      rw [checkResponse_of_error E (s.withResponse { r with hsStatus := status }) hcheck]
      exact iff_of_false (by rw [hfail]; exact Bool.eq_false_iff.mp hupgraded) (by simp)
    | ok u =>
      rw [checkResponse_of_ok E (s.withResponse { r with hsStatus := status }) hcheck]
      refine iff_of_true ?_ ⟨rfl, rfl⟩
      change (accept _ now).upgraded = true
      unfold accept scheduleCheck deliverConnectResult
      split <;> split <;> rfl
  · have hfail := upgraded_fail (s := s.withResponse r) bcrUnexpectedToken message
    exact iff_of_false (by rw [hfail]; exact Bool.eq_false_iff.mp hupgraded) (by simp)

end Session

/-- The response switches to the WebSocket protocol within the limits. -/
structure Accepted (sha1 : List UInt8 → Vector UInt8 20) (secKey : List UInt8) (status : ℤ)
    (reason : List UInt8) (fields : List (List UInt8 × List UInt8)) : Prop where
  /-- The header is within the limits. -/
  fits : HeaderFits reason fields
  /-- The status is 101. -/
  status_eq : status = 101
  /-- The fields say so, with the digest of the key. -/
  switches : Switches (joinedValue fields)
    (Base64.encode (sha1 (secKey ++ wsHandshakeGuid)).toList)

/-- A connection that has read nothing of a response is upgraded by one exactly when the
response is accepted, in whatever pieces it comes. -/
theorem upgraded_iff_accepted {E : Parsers L P} {sha1 : List UInt8 → Vector UInt8 20}
    (hdigest : E.wsAcceptKey = wsAcceptKey sha1) {s : Session L P} (hresponse : s.response = {})
    (hupgraded : s.upgraded = false) (a : Answer) {calls : List (ℕ × HttpCallback)}
    (hcalls : calls.map Prod.snd = a.callbacks) :
    (s.handleHttp E calls).upgraded = true ↔
      Accepted sha1 s.secKey a.status a.reason.flatten a.header := by
  obtain ⟨front, last, rfl, hfront, hlast⟩ := List.map_eq_append_iff.mp hcalls
  obtain ⟨⟨now, c⟩, rfl, hc⟩ := List.map_eq_singleton_iff.mp hlast
  cases hc
  have hreading : ∀ now, ∀ c ∈ a.headerCallbacks, ∀ s : Session L P,
      s.onHttp E now c = s.checked (s.response.handle c) := by
    intro now c hc s
    rcases List.mem_append.mp hc with hc | hc
    · obtain ⟨data, -, rfl⟩ := List.mem_map.mp hc
      rfl
    · obtain ⟨f, -, hc⟩ := List.mem_flatMap.mp hc
      rcases List.mem_append.mp hc with hc | hc
      · obtain ⟨data, -, rfl⟩ := List.mem_map.mp hc
        rfl
      · obtain ⟨data, -, rfl⟩ := List.mem_map.mp hc
        rfl
  obtain ⟨hgo, hstop⟩ := Session.handleHttp_reading (s := s) hfront hreading
    [(now, .onHeadersComplete a.status)]
  obtain ⟨hlimits, hmap⟩ := a.header_spec
  rw [hresponse] at hgo hstop
  set r := ({} : Response).handleAll a.headerCallbacks with hr
  by_cases hnone : r.2 = none
  · rw [Checked.andThen_of_none hnone] at hlimits hmap
    have hend : (s.handleHttp E (front ++ [(now, .onHeadersComplete a.status)])).upgraded =
        ((s.withResponse r.1).onHeadersComplete E now a.status).2.upgraded := by
      rw [hgo hnone, Session.handleHttp]
      change Session.upgraded (if _ then _ else _) = _
      split
      · rfl
      · rfl
    rw [hend, Session.upgraded_onHeadersComplete (s := s.withResponse r.1) hupgraded]
    change r.1.commitHeader.2 = none ∧ checkHandshakeResponse E.wsAcceptKey a.status
      r.1.commitHeader.1.hsHeaders s.secKey = .ok () ↔ _
    rw [hdigest]
    constructor
    · rintro ⟨hfits, hcheck⟩
      obtain ⟨hnodup, hfind⟩ := hmap hfits
      obtain ⟨hstatus, hswitches⟩ := (checkHandshakeResponse_eq_ok (a.plain hnodup hfind)
        (wsAcceptKey_ne_nil sha1 s.secKey)).mp hcheck
      rw [wsAcceptKey, base64Encode_eq, funext hfind] at hswitches
      exact ⟨hlimits.mp hfits, hstatus, hswitches⟩
    · rintro ⟨hfits, hstatus, hswitches⟩
      obtain ⟨hnodup, hfind⟩ := hmap (hlimits.mpr hfits)
      refine ⟨hlimits.mpr hfits, (checkHandshakeResponse_eq_ok (a.plain hnodup hfind)
        (wsAcceptKey_ne_nil sha1 s.secKey)).mpr ⟨hstatus, ?_⟩⟩
      rw [wsAcceptKey, base64Encode_eq, funext hfind]
      exact hswitches
  · rw [Checked.andThen_of_ne hnone] at hlimits
    refine iff_of_false ?_ fun h => hnone (hlimits.mpr h.fits)
    rw [hstop hnone, hupgraded]
    exact Bool.false_ne_true

end Verdict

section Sample

/-- A digest. -/
def sampleDigest : Vector UInt8 20 :=
  #v[0xb3, 0x7a, 0x4f, 0x2c, 0xc0, 0x62, 0x4f, 0x16, 0x90, 0xf6, 0x46, 0x06, 0xcf, 0x38, 0x59,
    0x45, 0xb2, 0xbe, 0xc4, 0xea]

/-- A field with the pieces of its name and of its value. -/
def sampleField (names values : List String) (hname : (names.map literal).flatten ≠ [])
    (hvalues : values.map literal ≠ [])
    (hzero : ∀ data ∈ names.map literal ++ values.map literal, 0 ∉ data) : FieldPieces where
  names := names.map literal
  values := values.map literal
  name_ne := hname
  values_ne := hvalues
  no_zero := hzero

/-- A response in pieces that changes the protocol. -/
def sampleAnswer : Answer where
  status := 101
  reason := [literal "Switching", literal " Protocols"]
  fields :=
    [sampleField ["Up", "grade"] ["Web", "Socket"] (by decide) (by decide) (by decide),
      sampleField ["connection"] ["keep-alive"] (by decide) (by decide) (by decide),
      sampleField ["Connection"] ["", "x , Upgrade"] (by decide) (by decide) (by decide),
      sampleField ["Sec-WebSocket-Accept"] ["s3pPLMBiTxaQ9kYG", "zzhZRbK+xOo="] (by decide)
        (by decide) (by decide)]

/-- What a connection is built on here. -/
def digestParsers : Parsers Unit Unit where
  execute _ _ := .done .ok none ()
  resumeAfterUpgrade l := l
  parseWSFrame p _ := ([], none, p)
  wsAcceptKey := wsAcceptKey fun _ => sampleDigest
  bcResult2String _ := ""

/-- A connection that waits for a response. -/
def waitingSession : Session Unit Unit where
  config := ⟨0, 0, 0⟩
  secKey := literal "dGhlIHNhbXBsZSBub25jZQ=="
  http := ()
  parser := ()

/-- It is upgraded by the response. -/
theorem waitingSession_upgraded :
    (waitingSession.handleHttp digestParsers
      (sampleAnswer.callbacks.map fun c => (3, c))).upgraded = true := by
  have hcalls : (sampleAnswer.callbacks.map fun c => (3, c)).map Prod.snd =
      sampleAnswer.callbacks := by
    rw [List.map_map]
    exact List.map_id _
  have hdigest : digestParsers.wsAcceptKey = wsAcceptKey fun _ => sampleDigest := rfl
  refine (upgraded_iff_accepted hdigest rfl rfl sampleAnswer hcalls).mpr
    ⟨⟨by decide, by decide, by decide⟩, rfl, ?_⟩
  refine ⟨⟨literal "WebSocket", by decide, by decide⟩,
    ⟨literal "keep-alive, x , Upgrade", by decide, ?_⟩, by decide⟩
  have hsplit : literal " Upgrade" ∈ (literal "keep-alive, x , Upgrade").splitOn 44 := by
    decide +kernel
  exact ⟨literal " Upgrade", hsplit, literal " ", literal "Upgrade", [], by decide,
    by decide +kernel, by decide⟩

end Sample

end WS
