import TTSignal.Percent
import TTSignal.Text

/-!
# The path of a CONNECT-UDP request

A tunnel is asked for by a request whose path names its target. The host stands in it without
the brackets of an IPv6 literal, and every byte but letters, digits and four marks is escaped,
so the path is cut at its slashes in one way only.
-/

namespace Masque

open Text

/-- `IsUnreserved`. -/
def IsUnreserved (c : UInt8) : Prop :=
  'A'.toUInt8 ≤ c ∧ c ≤ 'Z'.toUInt8 ∨ 'a'.toUInt8 ≤ c ∧ c ≤ 'z'.toUInt8 ∨
    '0'.toUInt8 ≤ c ∧ c ≤ '9'.toUInt8 ∨ c = '-'.toUInt8 ∨ c = '.'.toUInt8 ∨ c = '_'.toUInt8 ∨
      c = '~'.toUInt8

instance (c : UInt8) : Decidable (IsUnreserved c) := inferInstanceAs (Decidable (_ ∨ _))

/-- `kHex`. -/
def kHex : List UInt8 := ofString "0123456789ABCDEF"

/-- `PercentEncodeSegment`. -/
def percentEncodeSegment (s : List UInt8) : List UInt8 :=
  s.flatMap fun c =>
    if IsUnreserved c then [c]
    else
      ['%'.toUInt8, kHex.getD ((c >>> 4).toNat &&& 0xF) 0, kHex.getD (c.toNat &&& 0xF) 0]

/-- The host without the brackets around it. -/
def stripBrackets (host : List UInt8) : List UInt8 :=
  if 2 ≤ host.length ∧ host.head? = some '['.toUInt8 ∧ host.getLast? = some ']'.toUInt8 then
    (host.drop 1).take (host.length - 2)
  else host

/-- The buffer of eight characters into which `snprintf` prints the port. -/
def portBuf (port : UInt16) : List UInt8 := (decimal port.toNat).take 7

/-- `BuildConnectUdpPath`. -/
def buildConnectUdpPath (host : List UInt8) (port : UInt16) : List UInt8 :=
  ofString "/.well-known/masque/udp/" ++ percentEncodeSegment (stripBrackets host) ++
    ofString "/" ++ percentEncodeSegment (portBuf port) ++ ofString "/"

/-- The digits of the table. -/
theorem kHex_getD {n : ℕ} (hn : n < 16) : kHex.getD n 0 = Percent.hexDigit n := by
  have hall : ∀ n ∈ List.range 16, kHex.getD n 0 = Percent.hexDigit n := by decide
  exact hall n (List.mem_range.mpr hn)

/-- A segment is percent-encoded with the unreserved bytes for safe ones. -/
theorem percentEncodeSegment_eq (s : List UInt8) :
    percentEncodeSegment s = Percent.encode IsUnreserved s := by
  unfold percentEncodeSegment Percent.encode
  congr 1
  funext c
  have hc := c.toNat_lt
  have hhigh : (c >>> 4).toNat &&& 0xF = c.toNat / 16 := by
    rw [UInt8.toNat_shiftRight]
    change (c.toNat >>> 4) &&& (2 ^ 4 - 1) = _
    rw [Nat.shiftRight_eq_div_pow, Nat.and_two_pow_sub_one_eq_mod]
    omega
  have hlow : c.toNat &&& 0xF = c.toNat % 16 := Nat.and_two_pow_sub_one_eq_mod c.toNat 4
  rw [hhigh, hlow, kHex_getD (by omega), kHex_getD (by omega)]
  rfl

/-- The percent sign is reserved. -/
theorem not_isUnreserved_percent : ¬ IsUnreserved Percent.percent := by decide

/-- A digit is unreserved. -/
theorem isUnreserved_of_isDigit {c : UInt8} (h : IsDigit c) : IsUnreserved c :=
  .inr (.inr (.inl h))

/-- An encoded segment has no slash. -/
theorem slash_notMem_percentEncodeSegment (s : List UInt8) :
    '/'.toUInt8 ∉ percentEncodeSegment s := by
  intro hmem
  rw [percentEncodeSegment_eq] at hmem
  rcases Percent.mem_encode hmem with h | h | h
  · exact absurd h (by decide)
  · exact absurd h (by decide)
  · rcases h with h | h
    · exact absurd h.1 (by decide)
    · exact absurd h.1 (by decide)

/-- The buffer holds every port. -/
theorem portBuf_eq (port : UInt16) : portBuf port = decimal port.toNat := by
  have hport := port.toNat_lt
  exact List.take_of_length_le (length_decimal_le (by omega) (by omega))

/-- A port is written as it is. -/
theorem percentEncodeSegment_portBuf (port : UInt16) :
    percentEncodeSegment (portBuf port) = decimal port.toNat := by
  rw [percentEncodeSegment_eq, portBuf_eq]
  exact Percent.encode_of_safe fun c hc => isUnreserved_of_isDigit (isDigit_of_mem_decimal hc)

/-- An encoded segment is read back. -/
theorem decode_percentEncodeSegment (s : List UInt8) :
    Percent.decode (percentEncodeSegment s) = s := by
  rw [percentEncodeSegment_eq]
  exact Percent.decode_encode not_isUnreserved_percent s

/-- The segments of the path. -/
def segments (host : List UInt8) (port : UInt16) : List (List UInt8) :=
  [[], ofString ".well-known", ofString "masque", ofString "udp",
    percentEncodeSegment (stripBrackets host), decimal port.toNat, []]

/-- The path is made of its segments. -/
theorem buildConnectUdpPath_eq (host : List UInt8) (port : UInt16) :
    buildConnectUdpPath host port = ['/'.toUInt8].intercalate (segments host port) := by
  unfold buildConnectUdpPath segments
  rw [percentEncodeSegment_portBuf]
  have hpath : ofString "/.well-known/masque/udp/" = '/'.toUInt8 :: (ofString ".well-known" ++
      '/'.toUInt8 :: (ofString "masque" ++ '/'.toUInt8 :: (ofString "udp" ++ ['/'.toUInt8]))) := by
    decide
  have hslash : ofString "/" = ['/'.toUInt8] := by decide
  rw [hpath, hslash]
  simp [List.intercalate, List.intersperse]

/-- The path is cut at its slashes into its segments. -/
theorem splitOn_buildConnectUdpPath (host : List UInt8) (port : UInt16) :
    (buildConnectUdpPath host port).splitOn '/'.toUInt8 = segments host port := by
  rw [buildConnectUdpPath_eq]
  refine List.splitOn_intercalate _ ?_ (List.cons_ne_nil _ _)
  have hport : '/'.toUInt8 ∉ decimal port.toNat := by
    rw [← percentEncodeSegment_portBuf]
    exact slash_notMem_percentEncodeSegment _
  have hhost := slash_notMem_percentEncodeSegment (stripBrackets host)
  intro l hl
  simp only [segments, List.mem_cons, List.not_mem_nil, or_false] at hl
  rcases hl with rfl | rfl | rfl | rfl | rfl | rfl | rfl
  · exact List.not_mem_nil
  · decide
  · decide
  · decide
  · exact hhost
  · exact hport
  · exact List.not_mem_nil

/-- The path of a target is cut at its slashes into the five segments between the outer ones;
the last two are decoded to the host without its brackets and to the port, so a path has one
target. -/
theorem buildConnectUdpPath_unambiguous (host : List UInt8) (port : UInt16) :
    (buildConnectUdpPath host port).splitOn '/'.toUInt8 =
        [[], ofString ".well-known", ofString "masque", ofString "udp",
          percentEncodeSegment (stripBrackets host), decimal port.toNat, []] ∧
      Percent.decode (percentEncodeSegment (stripBrackets host)) = stripBrackets host ∧
      decimalValue (Percent.decode (decimal port.toNat)) = port.toNat ∧
      ∀ host' port', buildConnectUdpPath host' port' = buildConnectUdpPath host port →
        stripBrackets host' = stripBrackets host ∧ port' = port := by
  have hsegment (port : UInt16) : Percent.decode (decimal port.toNat) = decimal port.toNat := by
    have h := decode_percentEncodeSegment (portBuf port)
    rwa [percentEncodeSegment_portBuf, portBuf_eq] at h
  refine ⟨splitOn_buildConnectUdpPath host port, decode_percentEncodeSegment _, ?_, ?_⟩
  · rw [hsegment, decimalValue_decimal]
  · intro host' port' heq
    have hsegments : segments host' port' = segments host port := by
      rw [← splitOn_buildConnectUdpPath, heq, splitOn_buildConnectUdpPath]
    simp only [segments, List.cons.injEq, true_and, and_true] at hsegments
    obtain ⟨hhost, hport⟩ := hsegments
    constructor
    · rw [← decode_percentEncodeSegment (stripBrackets host'), hhost, decode_percentEncodeSegment]
    · exact UInt16.toNat.inj (decimal_injective hport)

end Masque
