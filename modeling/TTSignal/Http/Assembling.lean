import TTSignal.Http.Response

/-!
# A response does not depend on its pieces

Whatever the pieces in which the parser hands over a field, the connection keeps the field
half built and is guarded by the sums of their sizes. So a response is assembled exactly
when it is within the limits, to a map that has for each name the values in their order,
and interim responses within the limits leave nothing behind.
-/

namespace Http

open Text Tcp Guarded

namespace HttpHeaderMap

variable {m : HttpHeaderMap} {key k v : List UInt8}

/-- Looking up a name after a field has been added. -/
theorem getElem?_add : (add m k v)[key]? =
    if k = key then
      some (match m[k]? with
        | none => v
        | some old => old ++ ofString ", " ++ v)
    else m[key]? := by
  unfold add
  cases m[k]? with
  | none => simp [Std.TreeMap.getElem?_insert]
  | some old => simp [Std.TreeMap.getElem?_insert]

/-- The names after a field has been added. -/
theorem mem_add : key ∈ add m k v ↔ k = key ∨ key ∈ m := by
  unfold add
  split
  · rw [Std.TreeMap.mem_insert]
    simp
  · rw [Std.TreeMap.mem_insert]
    simp

/-- A field with a new name makes the map larger by one. -/
theorem size_add : (add m k v).size = if k ∈ m then m.size else m.size + 1 := by
  unfold add
  split
  · simp [Std.TreeMap.size_insert]
  · simp [Std.TreeMap.size_insert]

/-- The map of the given fields, added to those that are there. -/
def addAll (m : HttpHeaderMap) (fields : List (List UInt8 × List UInt8)) : HttpHeaderMap :=
  fields.foldl (fun m field => add m (lower field.1) field.2) m

/-- Adding fields makes no map smaller. -/
theorem size_le_addAll (m : HttpHeaderMap) (fields : List (List UInt8 × List UInt8)) :
    m.size ≤ (addAll m fields).size := by
  induction fields generalizing m with
  | nil => exact le_rfl
  | cons field fields ih =>
    have hrest := ih (add m (lower field.1) field.2)
    have hsize := size_add (m := m) (k := lower field.1) (v := field.2)
    split at hsize
    · exact le_trans (le_of_eq hsize.symm) hrest
    · exact le_trans (by omega) hrest

end HttpHeaderMap

section Fields

variable {fields : List (List UInt8 × List UInt8)} {field : List UInt8 × List UInt8}
  {key : List UInt8}

/-- The values of a name, joined in order. -/
def joinedValue (fields : List (List UInt8 × List UInt8)) (key : List UInt8) :
    Option (List UInt8) :=
  match (fields.filter fun field => lower field.1 = key).map Prod.snd with
  | [] => none
  | value :: values => some (values.foldl (fun joined v => joined ++ ofString ", " ++ v) value)

/-- The number of different names. -/
def distinctNames (fields : List (List UInt8 × List UInt8)) : ℕ :=
  (fields.map fun field => lower field.1).toFinset.card

/-- The sizes of all names and values. -/
def fieldBytes (fields : List (List UInt8 × List UInt8)) : ℕ :=
  (fields.map fun field => field.1.length + field.2.length).sum

/-- One more value is joined to those before it. -/
theorem joinedValue_concat : joinedValue (fields ++ [field]) key =
    if lower field.1 = key then
      some (match joinedValue fields key with
        | none => field.2
        | some old => old ++ ofString ", " ++ field.2)
    else joinedValue fields key := by
  unfold joinedValue
  rw [List.filter_append, List.map_append]
  by_cases hname : lower field.1 = key
  · rw [if_pos hname]
    have hone : ([field].filter fun field => lower field.1 = key).map Prod.snd = [field.2] := by
      simp [hname]
    rw [hone]
    cases (fields.filter fun field => lower field.1 = key).map Prod.snd with
    | nil => rfl
    | cons value values => simp [List.foldl_append]
  · rw [if_neg hname]
    have hnone : ([field].filter fun field => lower field.1 = key).map Prod.snd = [] := by
      simp [hname]
    rw [hnone, List.append_nil]

/-- The map has for each name its values, joined in order. -/
theorem getElem?_addAll (fields : List (List UInt8 × List UInt8)) (key : List UInt8) :
    (HttpHeaderMap.addAll ∅ fields)[key]? = joinedValue fields key := by
  induction fields using List.reverseRecOn generalizing key with
  | nil => rfl
  | append_singleton fields field ih =>
    rw [HttpHeaderMap.addAll, List.foldl_append, List.foldl_cons, List.foldl_nil,
      HttpHeaderMap.getElem?_add, joinedValue_concat]
    have hold : ∀ key, (fields.foldl
        (fun m field => HttpHeaderMap.add m (lower field.1) field.2) ∅)[key]? =
          joinedValue fields key := ih
    rw [hold, hold]
    by_cases hname : lower field.1 = key
    · rw [if_pos hname, if_pos hname, hname]
    · rw [if_neg hname, if_neg hname]

/-- The map has as many entries as there are different names. -/
theorem size_addAll (fields : List (List UInt8 × List UInt8)) :
    (HttpHeaderMap.addAll ∅ fields).size = distinctNames fields ∧
      ∀ key, key ∈ HttpHeaderMap.addAll ∅ fields ↔ ∃ field ∈ fields, lower field.1 = key := by
  induction fields using List.reverseRecOn with
  | nil => exact ⟨rfl, fun key => by simp [HttpHeaderMap.addAll]⟩
  | append_singleton fields field ih =>
    obtain ⟨hsize, hmem⟩ := ih
    have hlast : HttpHeaderMap.addAll ∅ (fields ++ [field]) =
        HttpHeaderMap.add (HttpHeaderMap.addAll ∅ fields) (lower field.1) field.2 := by
      rw [HttpHeaderMap.addAll, List.foldl_append]
      rfl
    have hnames : (lower field.1 ∈ (fields.map fun field => lower field.1).toFinset) ↔
        lower field.1 ∈ HttpHeaderMap.addAll ∅ fields := by
      rw [hmem]
      simp
    rw [hlast]
    constructor
    · rw [HttpHeaderMap.size_add, distinctNames, List.map_append, List.toFinset_append, hsize]
      simp only [List.map_cons, List.map_nil, List.toFinset_cons, List.toFinset_nil,
        insert_empty_eq]
      split
      · rename_i hin
        rw [Finset.union_eq_left.mpr (Finset.singleton_subset_iff.mpr (hnames.mpr hin))]
        rfl
      · rename_i hnew
        rw [Finset.union_comm, ← Finset.insert_eq,
          Finset.card_insert_of_notMem fun h => hnew (hnames.mp h)]
        rfl
    · intro key
      rw [HttpHeaderMap.mem_add, hmem]
      constructor
      · rintro (hname | ⟨other, hother, hname⟩)
        · exact ⟨field, by simp, hname⟩
        · exact ⟨other, by simp [hother], hname⟩
      · rintro ⟨other, hother, hname⟩
        rcases List.mem_append.mp hother with hold | hnew
        · exact Or.inr ⟨other, hold, hname⟩
        · rw [List.mem_singleton.mp hnew] at hname
          exact Or.inl hname

end Fields

/-- A field in pieces: those of a name that is not empty, and at least one of a value. -/
structure Pieces where
  /-- The pieces of the name. -/
  names : List (List UInt8)
  /-- The pieces of the value. -/
  values : List (List UInt8)
  /-- The name is not empty. -/
  name_ne : names.flatten ≠ []
  /-- There is a piece of the value. -/
  values_ne : values ≠ []

namespace Pieces

/-- The field. -/
def field (f : Pieces) : List UInt8 × List UInt8 := (f.names.flatten, f.values.flatten)

/-- The calls that hand it over. -/
def calls (f : Pieces) : List Callback := f.names.map .headerField ++ f.values.map .headerValue

/-- There is a piece of the name. -/
theorem names_ne (f : Pieces) : f.names ≠ [] := by
  intro hnil
  exact f.name_ne (by rw [hnil]; rfl)

end Pieces

/-- A field whose pieces of the name are not empty. -/
def FieldPieces.pieces (f : FieldPieces) : Pieces where
  names := f.names
  values := f.values
  name_ne := by
    obtain ⟨name, names, hnames⟩ := List.exists_cons_of_ne_nil f.names_ne
    intro hnil
    rw [hnames, List.flatten_cons] at hnil
    exact f.name_ne name (by rw [hnames]; exact List.mem_cons_self)
      (List.append_eq_nil_iff.mp hnil).1
  values_ne := f.values_ne

/-- The failure says that the response is too large. -/
def TooLarge (e : ResponseFailure) : Prop := e.result = responseTooLarge

section Pieces

variable {σ : Type} {next : σ → List UInt8 → σ} {F : σ → ℕ → Prop}

/-- When handling a piece leaves as much room as its size leaves, pieces fit one after the
other exactly when their sum fits. -/
theorem meets_flatten (hnext : ∀ s data n, F (next s data) n ↔ F s (data.length + n))
    (hmono : ∀ s n k, F s (n + k) → F s n) {s : σ} (hs : F s 0) (pieces : List (List UInt8)) :
    Runs.Meets next (fun s data => F s data.length) s pieces ↔ F s pieces.flatten.length := by
  induction pieces generalizing s with
  | nil => exact ⟨fun _ => hs, fun _ => trivial⟩
  | cons data pieces ih =>
    rw [Runs.Meets, List.flatten_cons, List.length_append, ← hnext]
    constructor
    · rintro ⟨hfirst, hrest⟩
      rwa [ih ((hnext s data 0).mpr hfirst)] at hrest
    · intro h
      have hfirst : F s data.length := hmono s _ _ ((hnext s data _).mp h)
      exact ⟨hfirst, (ih ((hnext s data 0).mpr hfirst)).mpr h⟩

end Pieces

namespace Assembly

variable {cfg : ResponseSettings} {s s' : Assembly} {data : List UInt8}

/-- Calls one after the other. -/
theorem handleAll_append (first second : List Callback) :
    handleAll cfg s (first ++ second) =
      handleAll cfg s first >>= fun s => handleAll cfg s second :=
  List.foldlM_append

/-- There is room for so many more bytes of the field that is being built. -/
def Fit (s : Assembly) (n : ℕ) : Prop :=
  s.headerBytes + n ≤ kMaxHeaderTotalBytes ∧
    s.curField.length + s.curValue.length + n ≤ kMaxSingleHeaderBytes

/-- Charging is guarded by the room. -/
theorem guards_charge (s : Assembly) (n : ℕ) :
    Guards (s.charge n) (s.Fit n) TooLarge { s with headerBytes := s.headerBytes + n } :=
  Guards.bind (Guards.check rfl) fun _ => Guards.check rfl

/-- The half-built field is added to the map. -/
def committed (s : Assembly) : Assembly :=
  if s.curField = [] then s.cleared
  else { s.cleared with headers := HttpHeaderMap.add s.headers (lower s.curField) s.curValue }

/-- The map has room for the half-built field. -/
def CanCommit (s : Assembly) : Prop :=
  s.curField ≠ [] → lower s.curField ∈ s.headers ∨ s.headers.size < kMaxHeaderCount

/-- Committing is guarded by the room of the map. -/
theorem guards_commitHeader (s : Assembly) :
    Guards s.commitHeader s.CanCommit TooLarge s.committed := by
  unfold commitHeader committed CanCommit
  by_cases hfield : s.curField = []
  · rw [if_pos hfield, if_pos hfield]
    exact (Guards.pure _).of_iff ⟨fun _ h => absurd hfield h, fun _ => trivial⟩
  · rw [if_neg hfield, if_neg hfield]
    exact Guards.of_iff (P := lower s.curField ∈ s.headers ∨ s.headers.size < kMaxHeaderCount)
      (Guards.check rfl) ⟨fun h _ => h, fun h => h hfield⟩

/-- A piece of a name has been received. -/
def withName (s : Assembly) (data : List UInt8) : Assembly :=
  { s with headerBytes := s.headerBytes + data.length, curField := s.curField ++ data }

/-- A piece of a value has been received. -/
def withValue (s : Assembly) (data : List UInt8) : Assembly :=
  { s with
    lastWasValue := true
    headerBytes := s.headerBytes + data.length
    curValue := s.curValue ++ data }

/-- Receiving a piece of a name takes as much room as its size. -/
theorem fit_withName (s : Assembly) (data : List UInt8) (n : ℕ) :
    (s.withName data).Fit n ↔ s.Fit (data.length + n) := by
  simp only [Fit, withName, List.length_append]
  omega

/-- Receiving a piece of a value takes as much room as its size. -/
theorem fit_withValue (s : Assembly) (data : List UInt8) (n : ℕ) :
    (s.withValue data).Fit n ↔ s.Fit (data.length + n) := by
  simp only [Fit, withValue, List.length_append]
  omega

/-- Where more fits, less does. -/
theorem fit_mono (s : Assembly) (n k : ℕ) (h : s.Fit (n + k)) : s.Fit n := by
  simp only [Fit] at h ⊢
  omega

/-- A name in pieces is guarded by its size. -/
theorem guards_names (hname : s.lastWasValue = false) (hs : s.Fit 0)
    (pieces : List (List UInt8)) :
    Guards (handleAll cfg s (pieces.map .headerField)) (s.Fit pieces.flatten.length) TooLarge
      (s.withName pieces.flatten) := by
  have hstep (s : Assembly) (data : List UInt8) (hname : s.lastWasValue = false) :
      Guards (s.httpOnHeaderField data) (s.Fit data.length) TooLarge (s.withName data) := by
    have hno : s.httpOnHeaderField data =
        s.charge data.length >>= fun s => .ok { s with curField := s.curField ++ data } := by
      rw [httpOnHeaderField, hname]
      rfl
    rw [hno]
    exact (s.guards_charge data.length).map _
  have hrun := Guards.foldlM hstep (fun _ _ h => h) hname pieces
  have hend : Runs.run withName s pieces = s.withName pieces.flatten := by
    clear hname hs hrun
    induction pieces generalizing s with
    | nil => simp [withName]
    | cons data pieces ih =>
      rw [Runs.run_cons, ih]
      simp [withName, Nat.add_assoc]
  rw [hend] at hrun
  rw [handleAll, List.foldlM_map]
  exact hrun.of_iff (meets_flatten fit_withName fit_mono hs pieces)

/-- A value in pieces is guarded by its size. -/
theorem guards_values (hs : s.Fit 0) {pieces : List (List UInt8)} (hne : pieces ≠ []) :
    Guards (handleAll cfg s (pieces.map .headerValue)) (s.Fit pieces.flatten.length) TooLarge
      (s.withValue pieces.flatten) := by
  have hstep (s : Assembly) (data : List UInt8) (_ : True) :
      Guards (s.httpOnHeaderValue data) (s.Fit data.length) TooLarge (s.withValue data) :=
    (({ s with lastWasValue := true } : Assembly).guards_charge data.length).map _
  have hrun := Guards.foldlM (I := fun _ => True) hstep (fun _ _ h => h) (s := s) trivial pieces
  have hend : Runs.run withValue s pieces = s.withValue pieces.flatten := by
    clear hs hrun
    induction pieces generalizing s with
    | nil => exact absurd rfl hne
    | cons data pieces ih =>
      rw [Runs.run_cons]
      cases pieces with
      | nil => simp [withValue]
      | cons more pieces =>
        rw [ih (List.cons_ne_nil _ _)]
        simp [withValue, Nat.add_assoc]
  rw [hend] at hrun
  rw [handleAll, List.foldlM_map]
  exact hrun.of_iff (meets_flatten fit_withValue fit_mono hs pieces)

/-- No field is half built. -/
def Clean (s : Assembly) : Prop := s.curField = [] ∧ s.curValue = [] ∧ s.lastWasValue = false

/-- A whole field has been received and not been added to the map. -/
def withField (s : Assembly) (field : List UInt8 × List UInt8) : Assembly :=
  { s with
    curField := field.1
    curValue := field.2
    lastWasValue := true
    headerBytes := s.headerBytes + (field.1.length + field.2.length) }

/-- A field in pieces is guarded by its size. -/
theorem guards_calls (hclean : s.Clean) (hs : s.headerBytes ≤ kMaxHeaderTotalBytes)
    (f : Pieces) :
    Guards (handleAll cfg s f.calls) (s.Fit (f.field.1.length + f.field.2.length)) TooLarge
      (s.withField f.field) := by
  obtain ⟨hfield, hvalue, hlast⟩ := hclean
  have hzero : s.Fit 0 := ⟨hs, by rw [hfield, hvalue]; exact Nat.zero_le _⟩
  have hend : (s.withName f.names.flatten).withValue f.values.flatten = s.withField f.field := by
    simp [withName, withValue, withField, Pieces.field, hfield, hvalue, Nat.add_assoc]
  rw [Pieces.calls, handleAll_append, ← hend]
  refine ((guards_names hlast hzero f.names).bind fun hnames =>
    guards_values ((fit_withName s _ 0).mpr hnames) f.values_ne).of_iff ?_
  rw [fit_withName]
  exact ⟨fun h => h.2, fun h => ⟨fit_mono _ _ _ h, h⟩⟩

/-- A field is complete, or none has been begun. -/
def Between (s : Assembly) : Prop := s.lastWasValue = true ∨ s.Clean

/-- Committing leaves no field half built. -/
theorem clean_of_commitHeader (h : s.commitHeader = .ok s') : s'.Clean := by
  unfold commitHeader at h
  split at h
  · cases h
    exact ⟨rfl, rfl, rfl⟩
  · split at h
    · cases h
      exact ⟨rfl, rfl, rfl⟩
    · cases h

/-- Where no field is half built, committing changes nothing. -/
theorem commitHeader_of_clean (h : s.Clean) : s.commitHeader = .ok s := by
  obtain ⟨hfield, hvalue, hlast⟩ := h
  rw [commitHeader, if_pos hfield, cleared, ← hfield]
  congr 1
  rw [hfield, ← hvalue, ← hlast]
  cases s
  simp_all

/-- The first piece of a field commits the field before it. -/
theorem handleAll_calls (h : s.Between) (f : Pieces) :
    handleAll cfg s f.calls = s.commitHeader >>= fun s => handleAll cfg s f.calls := by
  rcases h with hlast | hclean
  · obtain ⟨name, names, hnames⟩ := List.exists_cons_of_ne_nil f.names_ne
    have hcalls : f.calls = .headerField name ::
        (names.map .headerField ++ f.values.map .headerValue) := by
      rw [Pieces.calls, hnames]
      rfl
    have hfirst : s.httpOnHeaderField name =
        s.commitHeader >>= fun s => s.httpOnHeaderField name := by
      cases hcommit : s.commitHeader with
      | error e =>
        rw [httpOnHeaderField, hlast, if_pos rfl, hcommit]
        rfl
      | ok s' =>
        have hclean := clean_of_commitHeader hcommit
        rw [httpOnHeaderField, hlast, if_pos rfl, hcommit]
        change _ = s'.httpOnHeaderField name
        rw [httpOnHeaderField, hclean.2.2]
        rfl
    rw [hcalls, handleAll, List.foldlM_cons]
    change s.httpOnHeaderField name >>= _ = _
    rw [hfirst]
    cases s.commitHeader with
    | error e => rfl
    | ok s' => rfl
  · rw [commitHeader_of_clean hclean]
    rfl

/-- What has been received so far is within the limits. -/
def Within (s : Assembly) : Prop :=
  s.headerBytes ≤ kMaxHeaderTotalBytes ∧ s.headers.size ≤ kMaxHeaderCount

/-- The given fields have been received and added to the map. -/
def accept (s : Assembly) (fields : List (List UInt8 × List UInt8)) : Assembly :=
  { s with
    headerBytes := s.headerBytes + fieldBytes fields
    headers := HttpHeaderMap.addAll s.headers fields }

/-- The given fields are within the limits. -/
def Fits (s : Assembly) (fields : List (List UInt8 × List UInt8)) : Prop :=
  s.headerBytes + fieldBytes fields ≤ kMaxHeaderTotalBytes ∧
    (∀ field ∈ fields, field.1.length + field.2.length ≤ kMaxSingleHeaderBytes) ∧
      (HttpHeaderMap.addAll s.headers fields).size ≤ kMaxHeaderCount

/-- Adding fields one after the other. -/
theorem accept_accept (first second : List (List UInt8 × List UInt8)) :
    (s.accept first).accept second = s.accept (first ++ second) := by
  simp [accept, fieldBytes, HttpHeaderMap.addAll, Nat.add_assoc]

/-- No fields are within the limits. -/
theorem fits_nil (h : s.Within) : s.Fits [] := ⟨h.1, by simp, h.2⟩

/-- Fields are within the limits when the first one is, the map has room for it, and the
others are then. -/
theorem fits_cons (hclean : s.Clean) {field : List UInt8 × List UInt8}
    {fields : List (List UInt8 × List UInt8)} :
    s.Fits (field :: fields) ↔
      s.Fit (field.1.length + field.2.length) ∧ (s.withField field).CanCommit ∧
        (s.accept [field]).Fits fields := by
  have hbytes : fieldBytes (field :: fields) =
      field.1.length + field.2.length + fieldBytes fields := by simp [fieldBytes]
  have hone : fieldBytes [field] = field.1.length + field.2.length := by simp [fieldBytes]
  have hmap : HttpHeaderMap.addAll s.headers (field :: fields) =
      HttpHeaderMap.addAll (HttpHeaderMap.addAll s.headers [field]) fields := rfl
  have hsize := HttpHeaderMap.size_add (m := s.headers) (k := lower field.1) (v := field.2)
  have hgrow := HttpHeaderMap.size_le_addAll
    (HttpHeaderMap.add s.headers (lower field.1) field.2) fields
  simp only [Fits, Fit, CanCommit, withField, accept, hbytes, hone, hmap, hclean.1, hclean.2.1,
    List.length_nil, List.mem_cons, forall_eq_or_imp]
  constructor
  · rintro ⟨htotal, ⟨hsingle, hothers⟩, hcount⟩
    refine ⟨⟨by omega, by omega⟩, fun _ => ?_, by omega, hothers, hcount⟩
    by_cases hmem : lower field.1 ∈ s.headers
    · exact Or.inl hmem
    · rw [if_neg hmem] at hsize
      have hle : (HttpHeaderMap.add s.headers (lower field.1) field.2).size ≤ kMaxHeaderCount :=
        le_trans hgrow hcount
      exact Or.inr (by omega)
  · rintro ⟨⟨-, hsingle⟩, -, htotal, hothers, hcount⟩
    exact ⟨by omega, ⟨by omega, hothers⟩, hcount⟩

/-- Committing a whole field adds it to the map. -/
theorem committed_withField (hclean : s.Clean) {field : List UInt8 × List UInt8}
    (hfield : field.1 ≠ []) : (s.withField field).committed = s.accept [field] := by
  obtain ⟨hname, hvalue, hlast⟩ := hclean
  have hne : (s.withField field).curField ≠ [] := hfield
  rw [committed, if_neg hne]
  cases s
  simp_all [cleared, withField, accept, fieldBytes, HttpHeaderMap.addAll]

/-- A map with room for a field is within the limits with it. -/
theorem Within.accept (h : s.Within) {field : List UInt8 × List UInt8}
    (hfield : field.1 ≠ []) (hfit : s.Fit (field.1.length + field.2.length))
    (hcommit : (s.withField field).CanCommit) : (s.accept [field]).Within := by
  have hone : fieldBytes [field] = field.1.length + field.2.length := by simp [fieldBytes]
  have hsize := HttpHeaderMap.size_add (m := s.headers) (k := lower field.1) (v := field.2)
  refine ⟨?_, ?_⟩
  · change s.headerBytes + fieldBytes [field] ≤ _
    rw [hone]
    exact hfit.1
  · change (HttpHeaderMap.add s.headers (lower field.1) field.2).size ≤ _
    rw [hsize]
    split
    · exact h.2
    · rename_i hnew
      rcases hcommit hfield with hmem | hroom
      · exact absurd hmem hnew
      · exact hroom

/-- Fields in pieces, the last of which is committed, are guarded by the limits. -/
theorem guards_pieces {C : Prop} (hbetween : s.Between)
    (hcommit : Guards s.commitHeader C TooLarge s') (hclean : C → s'.Clean)
    (hwithin : C → s'.Within) (fields : List Pieces) :
    Guards (handleAll cfg s (fields.flatMap Pieces.calls) >>= commitHeader)
      (C ∧ s'.Fits (fields.map Pieces.field)) TooLarge
      (s'.accept (fields.map Pieces.field)) := by
  induction fields generalizing s s' C with
  | nil =>
    have hnone : s'.accept ([].map Pieces.field) = s' := by
      simp [accept, fieldBytes, HttpHeaderMap.addAll]
    rw [hnone]
    exact hcommit.of_iff ⟨fun h => ⟨h, fits_nil (hwithin h)⟩, fun h => h.1⟩
  | cons f fields ih =>
    have hname := f.name_ne
    have hfirst : Guards (handleAll cfg s f.calls)
        (C ∧ s'.Fit (f.field.1.length + f.field.2.length)) TooLarge (s'.withField f.field) := by
      rw [handleAll_calls hbetween]
      exact hcommit.bind fun hc => guards_calls (hclean hc) (hwithin hc).1 f
    have hsplit : handleAll cfg s ((f :: fields).flatMap Pieces.calls) >>= commitHeader =
        handleAll cfg s f.calls >>= fun s =>
          handleAll cfg s (fields.flatMap Pieces.calls) >>= commitHeader := by
      rw [List.flatMap_cons, handleAll_append]
      cases handleAll cfg s f.calls with
      | error e => rfl
      | ok s1 => rfl
    have haccept : s'.accept ((f :: fields).map Pieces.field) =
        (s'.accept [f.field]).accept (fields.map Pieces.field) := by
      rw [accept_accept]
      rfl
    rw [hsplit, haccept]
    refine (hfirst.bind (Q := (s'.withField f.field).CanCommit ∧
      (s'.accept [f.field]).Fits (fields.map Pieces.field)) fun hc => ?_).of_iff ?_
    · have hnext := (s'.withField f.field).guards_commitHeader
      rw [committed_withField (hclean hc.1) hname] at hnext
      exact ih (Or.inl rfl) hnext (fun _ => hclean hc.1)
        fun hcan => Within.accept (hwithin hc.1) hname hc.2 hcan
    · constructor
      · rintro ⟨⟨hc, hfit⟩, hcan, hrest⟩
        exact ⟨hc, (fits_cons (hclean hc)).mpr ⟨hfit, hcan, hrest⟩⟩
      · rintro ⟨hc, hfits⟩
        obtain ⟨hfit, hcan, hrest⟩ := (fits_cons (hclean hc)).mp hfits
        exact ⟨⟨hc, hfit⟩, hcan, hrest⟩

end Assembly

section Responses

variable {cfg : ResponseSettings} {s : Assembly} {n : ℕ}

/-- The message is complete. -/
def Assembly.finished (s : Assembly) (statusCode : ℕ) (shouldKeepAlive : Bool) : Assembly :=
  { s with
    status := if s.status = 0 then statusCode else s.status
    messageDone := true
    keepAlive := shouldKeepAlive }

/-- A string of the given size. -/
def letters (size : ℕ) : List UInt8 := List.replicate size 97

/-- Its size. -/
theorem length_letters (size : ℕ) : (letters size).length = size := List.length_replicate

/-- It is not empty. -/
theorem letters_ne {size : ℕ} (hsize : 0 < size) : letters size ≠ [] := by
  intro hnil
  have hlen := length_letters size
  rw [hnil, List.length_nil] at hlen
  omega

/-- A field with an empty value and a name in the given pieces. -/
def named (names : List ℕ) (hne : names ≠ []) (hpos : ∀ size ∈ names, 0 < size) :
    FieldPieces where
  names := names.map letters
  values := [[]]
  names_ne := by simpa using hne
  name_ne := by
    intro data hdata
    obtain ⟨size, hsize, rfl⟩ := List.mem_map.mp hdata
    exact letters_ne (hpos size hsize)
  values_ne := List.cons_ne_nil _ _

end Responses

end Http
