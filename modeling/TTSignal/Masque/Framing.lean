import TTSignal.Bytes

/-!
# The framing of MASQUE datagrams

An HTTP/3 datagram begins with the quarter stream id and the context id, both as QUIC
variable-length integers: the two highest bits of the first byte tell whether one, two, four
or eight bytes are used. The encoder takes the shortest form; the decoder takes every form.
The numbers are 64-bit values of the source; none of the operations on them overflows.
-/

namespace Masque

open Bytes

/-- `VarintLen`. -/
def varintLen (value : ℕ) : ℕ :=
  if value ≤ 0x3F then 1
  else if value ≤ 0x3FFF then 2
  else if value ≤ 0x3FFFFFFF then 4
  else 8

/-- `VarintEncode`: the bytes written, if the capacity is enough. -/
def varintEncode (cap value : ℕ) : Option (List UInt8) :=
  if cap < varintLen value then none
  else
    match varintLen value with
    | 1 => some [UInt8.ofNat value]
    | 2 => some [UInt8.ofNat (0x40 ||| value >>> 8), UInt8.ofNat value]
    | 4 =>
      some
        [UInt8.ofNat (0x80 ||| value >>> 24), UInt8.ofNat (value >>> 16),
          UInt8.ofNat (value >>> 8), UInt8.ofNat value]
    | _ =>
      some
        [UInt8.ofNat (0xC0 ||| value >>> 56), UInt8.ofNat (value >>> 48),
          UInt8.ofNat (value >>> 40), UInt8.ofNat (value >>> 32), UInt8.ofNat (value >>> 24),
          UInt8.ofNat (value >>> 16), UInt8.ofNat (value >>> 8), UInt8.ofNat value]

/-- `VarintDecode`: the number of bytes read and the value, if there are enough bytes. -/
def varintDecode (bytes : List UInt8) : Option (ℕ × ℕ) :=
  match bytes with
  | [] => none
  | b :: rest =>
    if bytes.length < 1 <<< (b >>> 6).toNat then none
    else
      some (1 <<< (b >>> 6).toNat,
        (rest.take (1 <<< (b >>> 6).toNat - 1)).foldl (fun value c => value <<< 8 ||| c.toNat)
          (b &&& 0x3F).toNat)

/-- `kUdpContextId`. -/
def kUdpContextId : ℕ := 0

/-- `DatagramOverhead`. -/
def datagramOverhead (quarterStreamId : ℕ) : ℕ :=
  varintLen quarterStreamId + varintLen kUdpContextId

/-- `EncodeDatagram`. -/
def encodeDatagram (quarterStreamId : ℕ) (payload : List UInt8) : Option (List UInt8) :=
  match varintEncode (datagramOverhead quarterStreamId) quarterStreamId with
  | none => none
  | some id =>
    match varintEncode (datagramOverhead quarterStreamId - id.length) kUdpContextId with
    | none => none
    | some context => some (id ++ context ++ payload)

/-- `DecodeDatagram`: the quarter stream id, the context id and the payload. -/
def decodeDatagram (bytes : List UInt8) : Option (ℕ × ℕ × List UInt8) :=
  match varintDecode bytes with
  | none => none
  | some (n, id) =>
    match varintDecode (bytes.drop n) with
    | none => none
    | some (m, context) => some (id, context, bytes.drop (n + m))

section Varint

variable {cap value : ℕ} {rest : List UInt8}

/-- A number of this kind is encoded in `2 ^ k` bytes. -/
structure Fits (k value : ℕ) : Prop where
  /-- There are four lengths. -/
  lt_four : k < 4
  /-- The length. -/
  length_eq : varintLen value = 2 ^ k
  /-- The two highest bits are free. -/
  lt : value < 64 * 256 ^ (2 ^ k - 1)

/-- Every number below `2 ^ 62` has a length. -/
theorem exists_fits (hvalue : value < 2 ^ 62) : ∃ k, Fits k value := by
  by_cases h1 : value ≤ 0x3F
  · exact ⟨0, by omega, by simp [varintLen, h1], by omega⟩
  by_cases h2 : value ≤ 0x3FFF
  · exact ⟨1, by omega, by simp [varintLen, h1, h2], by omega⟩
  by_cases h4 : value ≤ 0x3FFFFFFF
  · exact ⟨2, by omega, by simp [varintLen, h1, h2, h4], by omega⟩
  · exact ⟨3, by omega, by simp [varintLen, h1, h2, h4], by omega⟩

/-- The length bits stand above the number. -/
theorem or_eq_add {k top : ℕ} (htop : top < 64) : 64 * k ||| top = 64 * k + top :=
  (Nat.two_pow_add_eq_or_of_lt (i := 6) htop k).symm

/-- The bytes of an encoding: the length in the highest bits, then the number. -/
theorem Fits.varintEncode_eq {k : ℕ} (h : Fits k value) (hcap : varintLen value ≤ cap) :
    varintEncode cap value =
      some (UInt8.ofNat (64 * k + value / 256 ^ (2 ^ k - 1)) :: beBytes (2 ^ k - 1) value) := by
  obtain ⟨hk, hlength, hlt⟩ := h
  have htop : value / 256 ^ (2 ^ k - 1) < 64 :=
    Nat.div_lt_of_lt_mul (by rwa [Nat.mul_comm] at hlt)
  rw [varintEncode, if_neg (Nat.not_lt.mpr hcap), hlength, ← or_eq_add htop]
  rcases k with _ | _ | _ | _ | k
  · simp [beBytes]
  · simp [beBytes, Nat.shiftRight_eq_div_pow]
  · simp [beBytes, Nat.shiftRight_eq_div_pow]
  · simp [beBytes, Nat.shiftRight_eq_div_pow]
  · omega

/-- Shifting bytes in reads a number in base 256. -/
theorem foldl_shift (bytes : List UInt8) (start : ℕ) :
    bytes.foldl (fun value c => value <<< 8 ||| c.toNat) start =
      start * 256 ^ bytes.length + beValue bytes := by
  have hstep : (fun (value : ℕ) (c : UInt8) => value <<< 8 ||| c.toNat) =
      fun value c => 256 * value + c.toNat := by
    funext value c
    rw [← Nat.shiftLeft_add_eq_or_of_lt c.toNat_lt, Nat.shiftLeft_eq, Nat.mul_comm]
  rw [hstep, foldl_beValue]

/-- The decoder reads back what the encoder wrote, whatever follows. -/
theorem varintDecode_varintEncode (hvalue : value < 2 ^ 62) (hcap : varintLen value ≤ cap)
    (rest : List UInt8) :
    ∃ bytes, varintEncode cap value = some bytes ∧ bytes.length = varintLen value ∧
      varintDecode (bytes ++ rest) = some (bytes.length, value) := by
  obtain ⟨k, hfits⟩ := exists_fits hvalue
  refine ⟨_, hfits.varintEncode_eq hcap, ?_, ?_⟩
  · rw [List.length_cons, length_beBytes, hfits.length_eq]
    exact Nat.sub_add_cancel Nat.one_le_two_pow
  · obtain ⟨hk, -, hlt⟩ := hfits
    have htop : value / 256 ^ (2 ^ k - 1) < 64 :=
      Nat.div_lt_of_lt_mul (by rwa [Nat.mul_comm] at hlt)
    generalize htop' : value / 256 ^ (2 ^ k - 1) = top at htop ⊢
    have hhead : (UInt8.ofNat (64 * k + top)).toNat = 64 * k + top := by
      rw [UInt8.toNat_ofNat']
      omega
    have hbits : (UInt8.ofNat (64 * k + top) >>> 6).toNat = k := by
      rw [UInt8.toNat_shiftRight, hhead]
      change (64 * k + top) >>> 6 = k
      rw [Nat.shiftRight_eq_div_pow]
      omega
    have hlow : (UInt8.ofNat (64 * k + top) &&& 0x3F).toNat = top := by
      rw [UInt8.toNat_and, hhead]
      change (64 * k + top) &&& (2 ^ 6 - 1) = top
      rw [Nat.and_two_pow_sub_one_eq_mod]
      omega
    have hpow := Nat.one_le_two_pow (n := k)
    have hlength : (beBytes (2 ^ k - 1) value).length = 2 ^ k - 1 := length_beBytes _ _
    have hread : top * 256 ^ (2 ^ k - 1) + beValue (beBytes (2 ^ k - 1) value) = value := by
      rw [beValue_beBytes, ← htop', Nat.mul_comm, Nat.div_add_mod]
    rw [List.cons_append, varintDecode, hbits, hlow, Nat.one_shiftLeft, if_neg]
    · rw [List.take_left' hlength, foldl_shift, hlength, hread, List.length_cons, hlength,
        Nat.sub_add_cancel hpow]
    · rw [List.length_cons, List.length_append, hlength]
      omega

/-- A value has one of the four lengths. -/
theorem varintLen_cases (value : ℕ) :
    varintLen value = 1 ∨ varintLen value = 2 ∨ varintLen value = 4 ∨ varintLen value = 8 := by
  unfold varintLen
  split
  · exact Or.inl rfl
  · split
    · exact Or.inr (Or.inl rfl)
    · split
      · exact Or.inr (Or.inr (Or.inl rfl))
      · exact Or.inr (Or.inr (Or.inr rfl))

/-- With enough capacity the encoder succeeds. -/
theorem varintEncode_isSome (hcap : varintLen value ≤ cap) :
    ∃ bytes, varintEncode cap value = some bytes ∧ bytes.length = varintLen value := by
  rw [varintEncode, if_neg (Nat.not_lt.mpr hcap)]
  rcases varintLen_cases value with h | h | h | h
  all_goals
    rw [h]
    exact ⟨_, rfl, rfl⟩

/-- What the decoder accepts is one of the four lengths, and its value fits the format. -/
theorem varintDecode_bounds {bytes : List UInt8} {n : ℕ}
    (h : varintDecode bytes = some (n, value)) :
    (n = 1 ∨ n = 2 ∨ n = 4 ∨ n = 8) ∧ n ≤ bytes.length ∧ value < 2 ^ 62 := by
  cases bytes with
  | nil => cases h
  | cons b rest =>
    rw [varintDecode, Nat.one_shiftLeft] at h
    split at h
    · cases h
    · rename_i hlong
      simp only [Option.some.injEq, Prod.mk.injEq] at h
      obtain ⟨rfl, rfl⟩ := h
      have hbits : (b >>> 6).toNat < 4 := by
        have hb := b.toNat_lt
        rw [UInt8.toNat_shiftRight]
        change b.toNat >>> 6 < 4
        rw [Nat.shiftRight_eq_div_pow]
        omega
      have htop : (b &&& 0x3F).toNat < 64 := by
        rw [UInt8.toNat_and]
        exact Nat.and_lt_two_pow _ (n := 6) (by decide)
      generalize (b >>> 6).toNat = k at hbits hlong ⊢
      refine ⟨?_, Nat.le_of_not_lt hlong, ?_⟩
      · rcases k with _ | _ | _ | _ | k
        · exact .inl rfl
        · exact .inr (.inl rfl)
        · exact .inr (.inr (.inl rfl))
        · exact .inr (.inr (.inr rfl))
        · omega
      · have hread : (rest.take (2 ^ k - 1)).length ≤ 7 := by
          have hpow : 2 ^ k ≤ 2 ^ 3 := Nat.pow_le_pow_right (by decide) (by omega)
          rw [List.length_take]
          omega
        have hlow := beValue_lt (rest.take (2 ^ k - 1))
        have hpow : 256 ^ (rest.take (2 ^ k - 1)).length ≤ 256 ^ 7 :=
          Nat.pow_le_pow_right (by decide) hread
        rw [foldl_shift]
        generalize 256 ^ (rest.take (2 ^ k - 1)).length = base at hlow hpow ⊢
        have hhigh : (b &&& 0x3F).toNat * base ≤ 63 * base :=
          Nat.mul_le_mul_right base (by omega)
        omega

/-- The law of the encoder and the decoder: the decoder reads back what the encoder wrote,
whatever follows, and accepts only what fits the format. -/
def Lawful (cap value : ℕ) : Prop :=
  (∀ bytes, varintEncode cap value = some bytes → bytes.length ≤ cap ∧
    ∀ rest, varintDecode (bytes ++ rest) = some (bytes.length, value)) ∧
  ∀ bytes n v, varintDecode bytes = some (n, v) →
    (n = 1 ∨ n = 2 ∨ n = 4 ∨ n = 8) ∧ n ≤ bytes.length ∧ v < 2 ^ 62

/-- The law holds of the values that fit the format, and of every value where there is no room
for its eight bytes. -/
theorem lawful_iff (cap : ℕ) (value : UInt64) :
    Lawful cap value.toNat ↔ value.toNat < 2 ^ 62 ∨ cap < 8 := by
  constructor
  · rintro ⟨hencode, -⟩
    by_contra hnot
    simp only [not_or, Nat.not_lt] at hnot
    obtain ⟨hlarge, hcap⟩ := hnot
    have hlen : varintLen value.toNat ≤ cap := by
      rcases varintLen_cases value.toNat with h | h | h | h <;> omega
    obtain ⟨bytes, hbytes, -⟩ := varintEncode_isSome hlen
    obtain ⟨-, hread⟩ := hencode bytes hbytes
    have hbound := (varintDecode_bounds (hread [])).2.2
    omega
  · intro h
    refine ⟨fun bytes hbytes => ?_, fun bytes n v hdecode => varintDecode_bounds hdecode⟩
    have hcap : varintLen value.toNat ≤ cap := by
      by_contra hless
      rw [varintEncode, if_pos (Nat.lt_of_not_le hless)] at hbytes
      cases hbytes
    have hvalue : value.toNat < 2 ^ 62 := by
      rcases h with h | h
      · exact h
      · by_contra hlarge
        have hlen : varintLen value.toNat = 8 := by
          unfold varintLen
          rw [if_neg (by omega), if_neg (by omega), if_neg (by omega)]
        omega
    obtain ⟨written, hwritten, hlength, -⟩ := varintDecode_varintEncode hvalue hcap []
    have hsame : bytes = written := Option.some.inj (hbytes.symm.trans hwritten)
    refine ⟨by rw [hsame, hlength]; exact hcap, fun rest => ?_⟩
    obtain ⟨again, hagain, -, hread⟩ := varintDecode_varintEncode hvalue hcap rest
    rw [Option.some.inj (hbytes.symm.trans hagain)]
    exact hread

/-- The least value that does not fit is written with the bytes of zero. -/
theorem varintEncode_two_pow_62 :
    ¬ Lawful 8 (0x4000000000000000 : UInt64).toNat ∧
      varintEncode 8 (0x4000000000000000 : UInt64).toNat = some [0xC0, 0, 0, 0, 0, 0, 0, 0] ∧
      varintDecode [0xC0, 0, 0, 0, 0, 0, 0, 0] = some (8, 0) := by
  refine ⟨?_, by decide, by decide⟩
  rintro ⟨hencode, -⟩
  have hread := (hencode [0xC0, 0, 0, 0, 0, 0, 0, 0] (by decide)).2 []
  revert hread
  decide

end Varint

section Datagram

variable {quarterStreamId : ℕ} {payload : List UInt8}

/-- `EncodeDatagram` succeeds, and the overhead is what is added to the payload. -/
theorem encodeDatagram_isSome (quarterStreamId : ℕ) (payload : List UInt8) :
    ∃ wire, encodeDatagram quarterStreamId payload = some wire ∧
      wire.length = datagramOverhead quarterStreamId + payload.length := by
  have hcap : varintLen quarterStreamId ≤ datagramOverhead quarterStreamId :=
    Nat.le_add_right _ _
  obtain ⟨id, hid, hidLength⟩ := varintEncode_isSome hcap
  have hleft : varintLen kUdpContextId ≤ datagramOverhead quarterStreamId - id.length := by
    rw [datagramOverhead, hidLength, Nat.add_sub_cancel_left]
  obtain ⟨context, hcontext, hcontextLength⟩ := varintEncode_isSome hleft
  refine ⟨id ++ context ++ payload, ?_, ?_⟩
  · rw [encodeDatagram, hid]
    simp only [hcontext]
  · rw [List.length_append, List.length_append, hidLength, hcontextLength, datagramOverhead]

/-- `DecodeDatagram` takes the encoding of a datagram apart again. -/
theorem decodeDatagram_encodeDatagram (hid : quarterStreamId < 2 ^ 62) (payload : List UInt8) :
    ∃ wire, encodeDatagram quarterStreamId payload = some wire ∧
      wire.length = datagramOverhead quarterStreamId + payload.length ∧
        decodeDatagram wire = some (quarterStreamId, kUdpContextId, payload) := by
  obtain ⟨wire, hwire, hlength⟩ := encodeDatagram_isSome quarterStreamId payload
  refine ⟨wire, hwire, hlength, ?_⟩
  have hcap : varintLen quarterStreamId ≤ datagramOverhead quarterStreamId :=
    Nat.le_add_right _ _
  have hleft : varintLen kUdpContextId ≤
      datagramOverhead quarterStreamId - varintLen quarterStreamId := by
    rw [datagramOverhead, Nat.add_sub_cancel_left]
  obtain ⟨context, hcontext, hcontextLength, hread⟩ :=
    varintDecode_varintEncode (by decide) hleft payload
  obtain ⟨id, hencode, hidLength, hreadId⟩ :=
    varintDecode_varintEncode hid hcap (context ++ payload)
  rw [encodeDatagram, hencode] at hwire
  simp only [hidLength, hcontext, Option.some.injEq] at hwire
  rw [← hwire, List.append_assoc, decodeDatagram, hreadId]
  simp only [List.drop_left, hread]
  rw [← List.append_assoc, List.drop_left' List.length_append]

end Datagram

end Masque
