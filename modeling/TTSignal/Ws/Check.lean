import TTSignal.Base64
import TTSignal.Http.Url
import TTSignal.Ws.Handshake

/-!
# The check of the answer to the opening handshake

`GetLowerCaseHeaders` copies a header map, `_HasToken` looks for an element of a list, and
`WSAcceptKey` writes the digest of the key. For a map without zero bytes the check of the
response succeeds exactly when the map says that the protocol is changed to WebSocket and shows
the digest.
-/

namespace WS

open Text

section Letters

/-- The two ways to write a letter in lower case agree. -/
theorem lowerLetter_eq (c : UInt8) : lowerLetter c = lowerByte c := by
  unfold lowerLetter lowerByte
  change (if 65 ≤ c ∧ c ≤ 90 then c + 32 else c) = if 65 ≤ c ∧ c ≤ 90 then c - 65 + 97 else c
  split
  · have hc := c.toNat_lt
    refine UInt8.toNat.inj ?_
    rw [UInt8.toNat_add, UInt8.toNat_add, UInt8.toNat_sub]
    change (c.toNat + 32) % 2 ^ 8 = ((2 ^ 8 - 65 + c.toNat) % 2 ^ 8 + 97) % 2 ^ 8
    omega
  · rfl

/-- The two ways to write a string in lower case agree. -/
theorem map_lowerLetter (s : List UInt8) : s.map lowerLetter = lower s :=
  List.map_congr_left fun c _ => lowerLetter_eq c

/-- `_ToLowerAscii` is the lower case of the model. -/
theorem toLowerAscii_eq (s : List UInt8) : toLowerAscii s = lower s := map_lowerLetter s

/-- A string without a zero is shown whole. -/
theorem cString_eq_self {s : List UInt8} (h : 0 ∉ s) : cString s = s := by
  refine List.takeWhile_eq_self_iff.mpr fun c hc => ?_
  rw [decide_eq_true_eq]
  rintro rfl
  exact h hc

end Letters

namespace HttpHeaderMap

variable {m : HttpHeaderMap} {key k v : List UInt8}

/-- A name is there when a value is found for it. -/
theorem any_iff : (m.any fun h => h.1 = key) = true ↔ (m.find key).isSome = true := by
  induction m with
  | nil => simp [find]
  | cons h m ih =>
    rw [find] at ih ⊢
    rw [List.any_cons, List.lookup_cons, Bool.or_eq_true, ih]
    by_cases hk : key = h.1
    · simp [hk]
    · have hne : h.1 ≠ key := fun heq => hk heq.symm
      rw [beq_false_of_ne hk]
      simp [hne]

/-- Putting another value in the place of one does not touch the other names. -/
theorem lookup_map_of_ne (hne : key ≠ k) :
    (m.map fun h => if h.1 = k then (k, v) else h).lookup key = m.lookup key := by
  induction m with
  | nil => rfl
  | cons h m ih =>
    rw [List.map_cons, List.lookup_cons, List.lookup_cons, ih]
    by_cases hk : h.1 = k
    · rw [if_pos hk, hk, beq_false_of_ne hne]
    · rw [if_neg hk]

/-- The value that is put in the place of one is found. -/
theorem lookup_map_self (hmem : (m.any fun h => h.1 = k) = true) :
    (m.map fun h => if h.1 = k then (k, v) else h).lookup k = some v := by
  induction m with
  | nil => cases hmem
  | cons h m ih =>
    rw [List.map_cons, List.lookup_cons]
    by_cases hk : h.1 = k
    · rw [if_pos hk, beq_self_eq_true]
    · rw [List.any_cons, decide_eq_false hk, Bool.false_or] at hmem
      rw [if_neg hk, beq_false_of_ne fun heq => hk heq.symm]
      exact ih hmem

/-- Looking up a name after a value has been set. -/
theorem find_set : (m.set k v).find key = if key = k then some v else m.find key := by
  unfold set find
  split
  · rename_i hmem
    by_cases hkey : key = k
    · rw [if_pos hkey, hkey, lookup_map_self hmem]
    · rw [if_neg hkey, lookup_map_of_ne hkey]
  · rename_i hmem
    rw [List.lookup_append]
    by_cases hkey : key = k
    · rw [any_iff, find, Bool.not_eq_true, Option.isSome_eq_false_iff,
        Option.isNone_iff_eq_none] at hmem
      rw [if_pos hkey, hkey, hmem]
      simp
    · rw [if_neg hkey, List.lookup_cons, beq_false_of_ne hkey]
      simp

/-- The size after a value has been set. -/
theorem length_set :
    (m.set k v).length = if (m.find k).isSome then m.length else m.length + 1 := by
  unfold set
  by_cases hmem : (m.any fun h => h.1 = k) = true
  · rw [if_pos hmem, if_pos (any_iff.mp hmem), List.length_map]
  · rw [if_neg hmem, if_neg fun h => hmem (any_iff.mpr h), List.length_append]
    rfl

/-- The names after a value has been set. -/
theorem keys_set :
    (m.set k v).map Prod.fst =
      if (m.find k).isSome then m.map Prod.fst else m.map Prod.fst ++ [k] := by
  unfold set
  by_cases hmem : (m.any fun h => h.1 = k) = true
  · rw [if_pos hmem, if_pos (any_iff.mp hmem), List.map_map]
    refine List.map_congr_left fun h _ => ?_
    change (if h.1 = k then (k, v) else h).1 = h.1
    split
    · rename_i hk
      exact hk.symm
    · rfl
  · rw [if_neg hmem, if_neg fun h => hmem (any_iff.mpr h), List.map_append]
    rfl

/-- Different names stay different when a value is set. -/
theorem nodup_set (h : (m.map Prod.fst).Nodup) : ((m.set k v).map Prod.fst).Nodup := by
  rw [keys_set]
  split
  · exact h
  · rename_i hnone
    have hk : k ∉ m.map Prod.fst := by
      intro hmem
      obtain ⟨e, he, hek⟩ := List.mem_map.mp hmem
      exact hnone (any_iff.mp (List.any_eq_true.mpr ⟨e, he, decide_eq_true hek⟩))
    exact List.nodup_append.mpr ⟨h, List.nodup_singleton k, fun a ha b hb hab =>
      hk (List.mem_singleton.mp hb ▸ hab ▸ ha)⟩

/-- Setting values for the names of a map, one after the other. -/
theorem find_foldl_set (f : List UInt8 → List UInt8 → List UInt8)
    (h : (m.map Prod.fst).Nodup) (out : HttpHeaderMap) :
    (m.foldl (fun out h => out.set h.1 (f h.1 h.2)) out).find key =
      match find m key with
      | none => out.find key
      | some value => some (f key value) := by
  induction m generalizing out with
  | nil => rfl
  | cons e m ih =>
    obtain ⟨hnew, hrest⟩ := List.nodup_cons.mp h
    rw [List.foldl_cons, ih hrest, find_set]
    have hcons : find (e :: m) key = if key = e.1 then some e.2 else find m key := by
      unfold find
      rw [List.lookup_cons]
      by_cases hkey : key = e.1
      · simp [hkey]
      · rw [beq_false_of_ne hkey, if_neg hkey]
    rw [hcons]
    by_cases hkey : key = e.1
    · have hnone : find m key = none := by
        rw [← Option.isNone_iff_eq_none, ← Option.isSome_eq_false_iff, ← Bool.not_eq_true]
        intro hsome
        have hany := any_iff.mpr hsome
        obtain ⟨d, hd, hdk⟩ := List.any_eq_true.mp hany
        exact hnew (List.mem_map.mpr ⟨d, hd, (of_decide_eq_true hdk).trans hkey⟩)
      rw [hnone, if_pos hkey, if_pos hkey, ← hkey]
    · rw [if_neg hkey, if_neg hkey]

end HttpHeaderMap

/-- The names of the map differ and are in lower case, and there is no zero byte. -/
structure HttpHeaderMap.Plain (m : HttpHeaderMap) : Prop where
  /-- The names differ. -/
  nodup : (m.map Prod.fst).Nodup
  /-- They are in lower case. -/
  lower_eq : ∀ h ∈ m, lower h.1 = h.1
  /-- Names and values have no zero byte. -/
  no_zero : ∀ h ∈ m, 0 ∉ h.1 ∧ 0 ∉ h.2

section LowerCase

variable {m : HttpHeaderMap} {key : List UInt8}

/-- A value of the copy in lower case. -/
def lowerValue (key value : List UInt8) : List UInt8 :=
  if key = literal "sec-websocket-key" ∨ key = literal "sec-websocket-accept" then value
  else lower value

/-- The copy in lower case has the same names. -/
theorem find_getLowerCaseHeaders (h : m.Plain) :
    (getLowerCaseHeaders m).find key = (m.find key).map (lowerValue key) := by
  have hcopy : getLowerCaseHeaders m =
      m.foldl (fun (out : HttpHeaderMap) h => out.set h.1 (lowerValue h.1 h.2)) [] := by
    refine List.foldl_ext _ _ _ fun out e he => ?_
    obtain ⟨hname, hvalue⟩ := h.no_zero e he
    change (if (cString e.1).map lowerLetter = _ ∨ _ then _ else _) = _
    rw [cString_eq_self hname, cString_eq_self hvalue, map_lowerLetter, map_lowerLetter,
      h.lower_eq e he, lowerValue]
    split
    · rfl
    · rfl
  rw [hcopy, HttpHeaderMap.find_foldl_set _ h.nodup]
  cases m.find key with
  | none => rfl
  | some value => rfl

end LowerCase

section Tokens

variable {value token s : List UInt8} {p : UInt8 → Bool}

/-- One of the pieces of a value between commas is the token in some case, with blanks
around it. -/
def IsListed (value token : List UInt8) : Prop :=
  ∃ one ∈ value.splitOn 0x2C, ∃ left word right, one = left ++ word ++ right ∧
    (∀ c ∈ left ++ right, isBlank c = true) ∧ lower word = token

/-- A letter in lower case is no other byte than before, if it is none. -/
theorem lowerByte_eq_iff {c d : UInt8} (hd : d.toNat < 65) : lowerByte c = d ↔ c = d := by
  by_cases hc : 65 ≤ c.toNat ∧ c.toNat ≤ 90
  · have hlower := toNat_lowerByte_of_upper hc
    constructor
    · rintro rfl
      omega
    · rintro rfl
      omega
  · rw [lowerByte_of_not_upper hc]

/-- Lower case keeps the blanks. -/
theorem isBlank_lowerByte (c : UInt8) : isBlank (lowerByte c) = isBlank c := by
  unfold isBlank
  congr 1
  · exact decide_eq_decide.mpr (lowerByte_eq_iff (by decide))
  · exact decide_eq_decide.mpr (lowerByte_eq_iff (by decide))

/-- Lower case keeps the commas. -/
theorem splitOn_lower (s : List UInt8) :
    (lower s).splitOn 0x2C = (s.splitOn 0x2C).map lower := by
  unfold List.splitOn lower
  induction s with
  | nil => rfl
  | cons c s ih =>
    rw [List.map_cons, List.splitOnP_cons_eq_if_modifyHead, List.splitOnP_cons_eq_if_modifyHead,
      ih]
    have hcomma : (lowerByte c == 0x2C) = (c == 0x2C) :=
      Bool.eq_iff_iff.mpr (by rw [beq_iff_eq, beq_iff_eq, lowerByte_eq_iff (by decide)])
    rw [hcomma]
    split
    · rfl
    · obtain ⟨first, rest, hsplit⟩ := List.exists_cons_of_ne_nil
        (List.splitOnP_ne_nil (· == (0x2C : UInt8)) s)
      rw [hsplit]
      rfl

/-- A string without the blanks at its ends. -/
def trim (s : List UInt8) : List UInt8 :=
  ((s.dropWhile isBlank).reverse.dropWhile isBlank).reverse

/-- The blanks at the ends. -/
theorem eq_append_trim (s : List UInt8) :
    ∃ left right, s = left ++ trim s ++ right ∧ ∀ c ∈ left ++ right, isBlank c = true := by
  refine ⟨s.takeWhile isBlank, ((s.dropWhile isBlank).reverse.takeWhile isBlank).reverse, ?_, ?_⟩
  · rw [trim, List.append_assoc, ← List.reverse_append, List.takeWhile_append_dropWhile,
      List.reverse_reverse, List.takeWhile_append_dropWhile]
  · intro c hc
    rcases List.mem_append.mp hc with hc | hc
    · exact List.mem_takeWhile_imp hc
    · exact List.mem_takeWhile_imp (List.mem_reverse.mp hc)

/-- Lower case keeps the blanks at the ends. -/
theorem trim_lower (s : List UInt8) : trim (lower s) = lower (trim s) := by
  have hblank : isBlank ∘ lowerByte = isBlank := funext isBlank_lowerByte
  unfold trim lower
  rw [List.dropWhile_map, hblank, ← List.map_reverse, List.dropWhile_map, hblank,
    List.map_reverse]

/-- Blanks around a string whose ends are none are cut off. -/
theorem trim_append {left word right : List UInt8} (hne : word ≠ [])
    (hword : ∀ c ∈ word, isBlank c = false)
    (hblank : ∀ c ∈ left ++ right, isBlank c = true) : trim (left ++ word ++ right) = word := by
  have hfirst : (left ++ word ++ right).dropWhile isBlank = word ++ right := by
    rw [List.append_assoc, List.dropWhile_append_of_pos fun c hc =>
      hblank c (List.mem_append_left _ hc)]
    obtain ⟨c, word, rfl⟩ := List.exists_cons_of_ne_nil hne
    exact List.dropWhile_cons_of_neg (by simp [hword c List.mem_cons_self])
  have hlast : (word ++ right).reverse.dropWhile isBlank = word.reverse := by
    rw [List.reverse_append, List.dropWhile_append_of_pos fun c hc =>
      hblank c (List.mem_append_right _ (List.mem_reverse.mp hc))]
    obtain ⟨c, rest, hrest⟩ := List.exists_cons_of_ne_nil
      (fun h => hne (List.reverse_eq_nil_iff.mp h) : word.reverse ≠ [])
    rw [hrest]
    have hc : c ∈ word := List.mem_reverse.mp (hrest ▸ List.mem_cons_self)
    exact List.dropWhile_cons_of_neg (by simp [hword c hc])
  rw [trim, hfirst, hlast, List.reverse_reverse]

/-- A token without blanks is found in the value in lower case where it is listed. -/
theorem hasToken_lower (hne : token ≠ []) (htoken : ∀ c ∈ token, isBlank c = false) :
    hasToken (lower value) token = true ↔ IsListed value token := by
  rw [hasToken, splitOn_lower, List.any_map, List.any_eq_true, IsListed]
  refine exists_congr fun one => and_congr_right fun _ => ?_
  change (_ && decide (trim (lower one) = token)) = true ↔ _
  rw [trim_lower, Bool.and_eq_true, decide_eq_true_eq]
  constructor
  · rintro ⟨-, htrim⟩
    obtain ⟨left, right, hsplit, hblank⟩ := eq_append_trim one
    exact ⟨left, trim one, right, hsplit, hblank, htrim⟩
  · rintro ⟨left, word, right, rfl, hblank, hlower⟩
    have hword : ∀ c ∈ word, isBlank c = false := by
      intro c hc
      rw [← isBlank_lowerByte]
      exact htoken _ (hlower ▸ List.mem_map_of_mem hc)
    have hsome : word ≠ [] := by
      rintro rfl
      exact hne hlower.symm
    refine ⟨?_, by rw [trim_append hsome hword hblank, hlower]⟩
    obtain ⟨c, word, rfl⟩ := List.exists_cons_of_ne_nil hsome
    rw [List.any_eq_true]
    refine ⟨lowerByte c, List.mem_map_of_mem (by simp), ?_⟩
    rw [isBlank_lowerByte, hword c List.mem_cons_self]
    rfl

end Tokens

section Check

variable {m : HttpHeaderMap} {status : ℤ} {secKey : List UInt8}
  {wsAcceptKey : List UInt8 → List UInt8}

/-- The header map says that the protocol is changed, and shows the digest of the key. -/
structure Switches (find : List UInt8 → Option (List UInt8)) (accept : List UInt8) : Prop where
  /-- The values of `Upgrade` are `websocket`, in some case. -/
  upgrade : ∃ value, find (literal "upgrade") = some value ∧ lower value = literal "websocket"
  /-- The values of `Connection` list `upgrade`. -/
  connection : ∃ value, find (literal "connection") = some value ∧
    IsListed value (literal "upgrade")
  /-- The values of `Sec-WebSocket-Accept` are the digest. -/
  accept : find (literal "sec-websocket-accept") = some accept

/-- The check of a response, as far as it succeeds. -/
theorem checkHandshakeResponse_eq_ok (h : m.Plain) (hne : wsAcceptKey secKey ≠ []) :
    checkHandshakeResponse wsAcceptKey status m secKey = .ok () ↔
      status = 101 ∧ Switches m.find (wsAcceptKey secKey) := by
  have hupgrade : (getLowerCaseHeaders m).find (literal "upgrade") = some (literal "websocket") ↔
      ∃ value, m.find (literal "upgrade") = some value ∧ lower value = literal "websocket" := by
    rw [find_getLowerCaseHeaders h, Option.map_eq_some_iff]
    rfl
  have hconnection : ((getLowerCaseHeaders m).find (literal "connection")).any
      (hasToken · (literal "upgrade")) = true ↔
        ∃ value, m.find (literal "connection") = some value ∧
          IsListed value (literal "upgrade") := by
    rw [find_getLowerCaseHeaders h]
    cases m.find (literal "connection") with
    | none => simp
    | some value =>
      have hvalue : lowerValue (literal "connection") value = lower value :=
        if_neg (by decide)
      rw [Option.map_some, hvalue, Option.any_some,
        hasToken_lower (by decide) (by decide +kernel)]
      simp
  have haccept : (getLowerCaseHeaders m).find (literal "sec-websocket-accept") =
      m.find (literal "sec-websocket-accept") := by
    rw [find_getLowerCaseHeaders h]
    cases m.find (literal "sec-websocket-accept") with
    | none => rfl
    | some value => rfl
  unfold checkHandshakeResponse
  rw [haccept]
  constructor
  · intro hok
    split at hok
    · cases hok
    · rename_i hstatus
      split at hok
      · cases hok
      · rename_i hup
        split at hok
        · cases hok
        · rename_i hconn
          split at hok
          · cases hok
          · rename_i accept hfind
            split at hok
            · cases hok
            · rename_i heq
              rw [not_not] at hstatus hup hconn heq
              exact ⟨hstatus, hupgrade.mp hup, hconnection.mp hconn, by rw [hfind, heq]⟩
  · rintro ⟨rfl, hup, hconn, hfind⟩
    rw [if_neg (by simp), if_neg (by rw [hupgrade.mpr hup]; simp),
      if_neg (by rw [hconnection.mpr hconn]; simp), hfind]
    change (if _ then _ else _) = _
    rw [if_neg hne, if_neg (by simp)]

end Check

section Digest

/-- `alphabet`. -/
def alphabet : List UInt8 :=
  literal "ABCDEFGHIJKLMNOPQRSTUVWXYZabcdefghijklmnopqrstuvwxyz0123456789+/"

/-- A character of the alphabet. -/
def alphabetAt (a : ℕ) : UInt8 := alphabet.getD a 0

/-- `base64_encode`. -/
def base64Encode : List UInt8 → List UInt8
  | [] => []
  | [p] =>
    [alphabetAt (p.toNat >>> 2), alphabetAt ((p.toNat &&& 0x3) <<< 4), '='.toUInt8, '='.toUInt8]
  | [p, q] =>
    [alphabetAt (p.toNat >>> 2), alphabetAt (((p.toNat &&& 0x3) <<< 4) + (q.toNat >>> 4)),
      alphabetAt ((q.toNat &&& 0xf) <<< 2), '='.toUInt8]
  | p :: q :: r :: rest =>
    alphabetAt (p.toNat >>> 2) :: alphabetAt (((p.toNat &&& 0x3) <<< 4) + (q.toNat >>> 4)) ::
      alphabetAt (((q.toNat &&& 0xf) <<< 2) + (r.toNat >>> 6)) :: alphabetAt (r.toNat &&& 0x3f) ::
        base64Encode rest

/-- The alphabet is that of Base64. -/
theorem alphabetAt_eq {n : ℕ} (hn : n < 64) : alphabetAt n = Base64.char n := by
  have hall : ∀ i : Fin 64, alphabetAt i = Base64.char i := by decide +kernel
  exact hall ⟨n, hn⟩

/-- The low bits of a number. -/
theorem and_three (n : ℕ) : n &&& 0x3 = n % 4 := Nat.and_two_pow_sub_one_eq_mod n 2

/-- The low four bits of a number. -/
theorem and_fifteen (n : ℕ) : n &&& 0xf = n % 16 := Nat.and_two_pow_sub_one_eq_mod n 4

/-- The low six bits of a number. -/
theorem and_sixtyThree (n : ℕ) : n &&& 0x3f = n % 64 := Nat.and_two_pow_sub_one_eq_mod n 6

/-- The text is the one of Base64. -/
theorem base64Encode_eq : ∀ s : List UInt8, base64Encode s = Base64.encode s
  | [] => rfl
  | [p] => by
    have hp := p.toNat_lt
    simp only [base64Encode, Base64.encode, Base64.body, Base64.sextets, and_three,
      Nat.shiftRight_eq_div_pow, Nat.shiftLeft_eq, List.map_cons, List.map_nil]
    rw [alphabetAt_eq (by omega), alphabetAt_eq (by omega)]
    rfl
  | [p, q] => by
    have hp := p.toNat_lt
    have hq := q.toNat_lt
    simp only [base64Encode, Base64.encode, Base64.body, Base64.sextets, and_three, and_fifteen,
      Nat.shiftRight_eq_div_pow, Nat.shiftLeft_eq, List.map_cons, List.map_nil]
    rw [alphabetAt_eq (by omega), alphabetAt_eq (by omega), alphabetAt_eq (by omega)]
    rfl
  | p :: q :: r :: rest => by
    have hp := p.toNat_lt
    have hq := q.toNat_lt
    have hr := r.toNat_lt
    have hpad : (3 - (rest.length + 1 + 1 + 1) % 3) % 3 = (3 - rest.length % 3) % 3 := by omega
    have hrest := base64Encode_eq rest
    simp only [base64Encode, Base64.encode, Base64.body, Base64.sextets, and_three, and_fifteen,
      and_sixtyThree, Nat.shiftRight_eq_div_pow, Nat.shiftLeft_eq, List.map_cons, List.length_cons,
      hpad, List.cons_append] at hrest ⊢
    rw [alphabetAt_eq (by omega), alphabetAt_eq (by omega), alphabetAt_eq (by omega),
      alphabetAt_eq (by omega), hrest]

/-- `WS_HANDSHAKE_GUID`. -/
def wsHandshakeGuid : List UInt8 := literal "258EAFA5-E914-47DA-95CA-C5AB0DC85B11"

/-- `WSParser::WSAcceptKey`, with the digest `SHA1`. -/
def wsAcceptKey (sha1 : List UInt8 → Vector UInt8 20) (clientKey : List UInt8) : List UInt8 :=
  base64Encode (sha1 (clientKey ++ wsHandshakeGuid)).toList

/-- The text of a digest is not empty. -/
theorem wsAcceptKey_ne_nil (sha1 : List UInt8 → Vector UInt8 20) (clientKey : List UInt8) :
    wsAcceptKey sha1 clientKey ≠ [] := by
  intro hnil
  have hlength := congrArg List.length hnil
  rw [wsAcceptKey, base64Encode_eq, Base64.encode, List.length_append, Base64.length_body,
    Vector.length_toList] at hlength
  simp at hlength

end Digest

end WS
