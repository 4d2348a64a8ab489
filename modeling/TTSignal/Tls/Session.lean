import TTSignal.Bytes
import TTSignal.Framing
import TTSignal.Tls.SSLayer

/-!
# A TLS session as a record decoder

After the handshake a session turns records into plaintext. A record is a five-byte
header, whose last two bytes give the length of what follows, and that many bytes. The
session reads exactly the bytes it needs through `buffer_read`, keeps an unfinished
record between calls, skips records without plaintext, and keeps the plaintext of the
last record until `SSL_read` has returned all of it. How a record is opened is a
parameter; it may depend on the number of the record.
-/

namespace Tls

open Bytes Framing

/-- The record protection in the receiving direction. -/
structure Cipher where
  /-- The plaintext of the record with the given number. -/
  openRecord : ℕ → List UInt8 → List UInt8
  /-- A record carries at most 16384 bytes of plaintext. -/
  length_openRecord_le : ∀ seq record, (openRecord seq record).length ≤ 16384

/-- The session between two calls. -/
structure Session where
  /-- The number of records opened so far. -/
  seq : ℕ
  /-- The bytes read of the record that is not complete yet. -/
  fragment : List UInt8
  /-- The plaintext of the last record not returned yet. -/
  pending : List UInt8

/-- The number of bytes a record needs, as far as its first bytes tell. -/
def neededLength (fragment : List UInt8) : ℕ :=
  if fragment.length < 5 then 5 else 5 + beValue ((fragment.drop 3).take 2)

/-- Read records until one carries plaintext or the buffer has no more bytes. -/
def fetchRecord (c : Cipher) :
    ℕ → Session → Option (List UInt8) → Session × Option (List UInt8)
  | 0, s, buffer => (s, buffer)
  | fuel + 1, s, buffer =>
    if s.fragment.length < neededLength s.fragment then
      let r := bufferRead buffer (neededLength s.fragment - s.fragment.length)
      if r.1 = [] then (s, r.2)
      else fetchRecord c fuel { s with fragment := s.fragment ++ r.1 } r.2
    else
      let plain := c.openRecord s.seq s.fragment
      let s := ⟨s.seq + 1, [], plain⟩
      if plain = [] then fetchRecord c fuel s buffer else (s, buffer)

/-- `SSL_read`: pending plaintext is returned at once, otherwise the next record is read
first. Nothing to return means that the session waits for more ciphertext. -/
def sslRead (c : Cipher) (s : Session) (buffer : Option (List UInt8)) (n : ℕ) :
    ReadResult × Session × Option (List UInt8) :=
  let r :=
    if s.pending = [] then fetchRecord c (2 * (buffer.getD []).length + 2) s buffer
    else (s, buffer)
  if r.1.pending = [] then (.failed false, r.1, r.2)
  else
    (.received (r.1.pending.take n), { r.1 with pending := r.1.pending.drop n }, r.2)

/-- The calls of an established session; the handshake is over. -/
def sessionOps (c : Cipher) : SslOps Session where
  handshake s buffer := (.done, s, buffer)
  read := sslRead c

/-- The first record of a stream. -/
def nextRecord (s : List UInt8) : Option (List UInt8 × List UInt8) :=
  if s.length < neededLength s then none
  else some (s.take (neededLength s), s.drop (neededLength s))

/-- A record needs its header at least. -/
theorem five_le_neededLength (s : List UInt8) : 5 ≤ neededLength s := by
  unfold neededLength
  split
  · exact Nat.le_refl 5
  · exact Nat.le_add_right 5 _

/-- Once the header is there the needed length is known. -/
theorem neededLength_append {s : List UInt8} (hlen : 5 ≤ s.length) (t : List UInt8) :
    neededLength (s ++ t) = neededLength s := by
  have hfield : ((s ++ t).drop 3).take 2 = (s.drop 3).take 2 := by
    rw [List.drop_append_of_le_length (by omega),
      List.take_append_of_le_length (by rw [List.length_drop]; omega)]
  have hs : ¬ s.length < 5 := by omega
  have hst : ¬ (s ++ t).length < 5 := by
    rw [List.length_append]
    omega
  rw [neededLength, if_neg hst, hfield, neededLength, if_neg hs]

/-- A string that is long enough for its first record gives that record. -/
theorem nextRecord_of_le {s : List UInt8} (h : neededLength s ≤ s.length) :
    nextRecord s = some (s.take (neededLength s), s.drop (neededLength s)) := by
  rw [nextRecord, if_neg (by omega)]

/-- What a successful look for a record found. -/
theorem nextRecord_eq_some {s record rest : List UInt8}
    (h : nextRecord s = some (record, rest)) :
    neededLength s ≤ s.length ∧ record = s.take (neededLength s) ∧
      rest = s.drop (neededLength s) := by
  unfold nextRecord at h
  split at h
  · exact absurd h (by simp)
  · simp only [Option.some.injEq, Prod.mk.injEq] at h
    exact ⟨by omega, h.1.symm, h.2.symm⟩

/-- The decoder of TLS records. -/
def recordDecoder : Decoder UInt8 (List UInt8) where
  next := nextRecord
  shorter := by
    intro s record rest h
    obtain ⟨hle, -, rfl⟩ := nextRecord_eq_some h
    have hpos := five_le_neededLength s
    rw [List.length_drop]
    omega
  extend := by
    intro s record rest t h
    obtain ⟨hle, rfl, rfl⟩ := nextRecord_eq_some h
    have hneeded := neededLength_append (Nat.le_trans (five_le_neededLength s) hle) t
    rw [nextRecord_of_le (by rw [hneeded, List.length_append]; omega), hneeded,
      List.take_append_of_le_length hle, List.drop_append_of_le_length hle]

/-- The plaintexts of records with consecutive numbers. -/
def openAll (c : Cipher) (seq : ℕ) : List (List UInt8) → List (List UInt8)
  | [] => []
  | record :: records => c.openRecord seq record :: openAll c (seq + 1) records

/-- Opening a concatenation opens its second part from where the first ended. -/
theorem openAll_append (c : Cipher) (seq : ℕ) (first second : List (List UInt8)) :
    openAll c seq (first ++ second) =
      openAll c seq first ++ openAll c (seq + first.length) second := by
  induction first generalizing seq with
  | nil => rfl
  | cons record first ih =>
    simp only [List.cons_append, openAll, ih, List.length_cons]
    rw [Nat.add_assoc, Nat.add_comm 1]

/-- Every record gives one plaintext. -/
@[simp] theorem length_openAll (c : Cipher) (seq : ℕ) (records : List (List UInt8)) :
    (openAll c seq records).length = records.length := by
  induction records generalizing seq with
  | nil => rfl
  | cons record records ih => simp [openAll, ih]

/-- `buffer_read` returns the next bytes. -/
theorem bufferRead_fst (buffer : Option (List UInt8)) (size : ℕ) :
    (bufferRead buffer size).1 = (buffer.getD []).take size := by
  cases buffer with
  | none => simp [bufferRead]
  | some bytes =>
    rw [bufferRead]
    split
    · rename_i hnil
      simp [hnil]
    · rfl

/-- `buffer_read` leaves the bytes behind them. -/
theorem bufferRead_snd (buffer : Option (List UInt8)) (size : ℕ) :
    (bufferRead buffer size).2.getD [] = (buffer.getD []).drop size := by
  cases buffer with
  | none => simp [bufferRead]
  | some bytes =>
    rw [bufferRead]
    split
    · rename_i hnil
      simp [hnil]
    · simp only
      split
      · rename_i hdrained
        simp [hdrained]
      · rfl

/-- How reading records ended: with the records of the stream opened up to the first one
that carries plaintext, or with all of them opened and nothing to return. -/
inductive Fetched (c : Cipher) (seq : ℕ) (stream : List UInt8) :
    Session → Option (List UInt8) → Prop where
  /-- No record of the stream carries plaintext. -/
  | blocked (buffer : Option (List UInt8)) (hrest : buffer.getD [] = [])
      (hplain : (openAll c seq (recordDecoder.drain stream).1).flatten = []) :
      Fetched c seq stream
        ⟨seq + (recordDecoder.drain stream).1.length, (recordDecoder.drain stream).2, []⟩ buffer
  /-- A record carries plaintext. -/
  | found (before : List (List UInt8)) (plain : List UInt8) (buffer : Option (List UInt8))
      (hplain : plain ≠ []) (hbefore : before.flatten = [])
      (hopen : openAll c seq (recordDecoder.drain stream).1 = before ++
        plain :: openAll c (seq + before.length + 1) (recordDecoder.drain (buffer.getD [])).1)
      (hremainder : (recordDecoder.drain stream).2 = (recordDecoder.drain (buffer.getD [])).2) :
      Fetched c seq stream ⟨seq + before.length + 1, [], plain⟩ buffer

/-- A record without plaintext in front changes nothing but the numbers. -/
theorem Fetched.cons {c : Cipher} {seq : ℕ} {record rest stream : List UInt8} {s : Session}
    {buffer : Option (List UInt8)} (h : Fetched c (seq + 1) rest s buffer)
    (hnext : recordDecoder.next stream = some (record, rest))
    (hempty : c.openRecord seq record = []) : Fetched c seq stream s buffer := by
  have hdrain := Decoder.drain_of_some hnext
  cases h with
  | blocked _ hrest hplain =>
    have hb : Fetched c seq stream ⟨seq + (recordDecoder.drain stream).1.length,
        (recordDecoder.drain stream).2, []⟩ buffer := by
      refine .blocked buffer hrest ?_
      rw [hdrain, openAll, hempty, List.flatten_cons, List.nil_append, hplain]
    rw [hdrain, List.length_cons, Nat.add_comm _ 1, ← Nat.add_assoc] at hb
    exact hb
  | found before plain _ hplain hbefore hopen hremainder =>
    have hf : Fetched c seq stream ⟨seq + ([] :: before).length + 1, [], plain⟩ buffer := by
      refine .found ([] :: before) plain buffer hplain (by simpa using hbefore) ?_ ?_
      · rw [hdrain, openAll, hempty, hopen, List.length_cons, Nat.add_comm before.length 1,
          ← Nat.add_assoc]
        rfl
      · rw [hdrain, hremainder]
    rw [List.length_cons, Nat.add_comm before.length 1, ← Nat.add_assoc] at hf
    exact hf

/-- A complete fragment is the first record of the stream. -/
theorem next_of_complete {fragment : List UInt8} (hfull : fragment.length = neededLength fragment)
    (t : List UInt8) : recordDecoder.next (fragment ++ t) = some (fragment, t) := by
  have hneeded := neededLength_append (hfull ▸ five_le_neededLength fragment) t
  change nextRecord (fragment ++ t) = some (fragment, t)
  rw [nextRecord_of_le (by rw [hneeded, List.length_append]; omega), hneeded, ← hfull,
    List.take_left, List.drop_left]

/-- An incomplete fragment holds no record. -/
theorem next_of_incomplete {fragment : List UInt8}
    (hlt : fragment.length < neededLength fragment) : recordDecoder.next fragment = none := by
  change nextRecord fragment = none
  rw [nextRecord, if_pos hlt]

/-- Nothing is an incomplete record. -/
theorem nil_incomplete : ([] : List UInt8).length < neededLength [] :=
  Nat.lt_of_lt_of_le (by decide) (five_le_neededLength [])

/-- No record is complete in an empty stream. -/
theorem recordDecoder_drain_nil : recordDecoder.drain ([] : List UInt8) = ([], []) :=
  Decoder.drain_of_none (next_of_incomplete nil_incomplete)

/-- Reading what a fragment needs does not go beyond its record. -/
theorem length_le_needed_append {fragment got : List UInt8}
    (hlt : fragment.length < neededLength fragment)
    (hgot : got.length ≤ neededLength fragment - fragment.length) :
    (fragment ++ got).length ≤ neededLength (fragment ++ got) := by
  have hfive := five_le_neededLength (fragment ++ got)
  rw [List.length_append]
  by_cases hheader : 5 ≤ fragment.length
  · rw [neededLength_append hheader]
    omega
  · have hneeded : neededLength fragment = 5 := if_pos (by omega)
    omega

/-- With enough fuel, reading records ends in one of the two ways. -/
theorem fetchRecord_spec {c : Cipher} {fuel : ℕ} {s : Session} {buffer : Option (List UInt8)}
    (hpending : s.pending = []) (hle : s.fragment.length ≤ neededLength s.fragment)
    (hfuel : 2 * (buffer.getD []).length + 1 < fuel ∨
      2 * (buffer.getD []).length < fuel ∧ s.fragment.length < neededLength s.fragment) :
    Fetched c s.seq (s.fragment ++ buffer.getD []) (fetchRecord c fuel s buffer).1
      (fetchRecord c fuel s buffer).2 := by
  induction fuel generalizing s buffer with
  | zero => omega
  | succ fuel ih =>
    rw [fetchRecord]
    by_cases hlt : s.fragment.length < neededLength s.fragment
    · rw [if_pos hlt]
      simp only
      set need := neededLength s.fragment - s.fragment.length with hneed
      have hgot := bufferRead_fst buffer need
      have hleft := bufferRead_snd buffer need
      by_cases hblocked : (bufferRead buffer need).1 = []
      · rw [if_pos hblocked]
        have hempty : buffer.getD [] = [] := by
          rw [hgot, List.take_eq_nil_iff] at hblocked
          exact hblocked.resolve_left (by omega)
        have hdrain := Decoder.drain_of_none (next_of_incomplete hlt)
        rw [hempty, List.append_nil]
        have hb : Fetched c s.seq s.fragment ⟨s.seq + (recordDecoder.drain s.fragment).1.length,
            (recordDecoder.drain s.fragment).2, []⟩ (bufferRead buffer need).2 := by
          refine .blocked _ ?_ ?_
          · rw [hleft, hempty, List.drop_nil]
          · rw [hdrain]
            rfl
        rw [hdrain] at hb
        rw [← hpending] at hb
        exact hb
      · rw [if_neg hblocked]
        have hpos := List.length_pos_iff.mpr hblocked
        have hlen : (bufferRead buffer need).1.length +
            ((bufferRead buffer need).2.getD []).length = (buffer.getD []).length := by
          rw [hgot, hleft, ← List.length_append, List.take_append_drop]
        have hstream : s.fragment ++ buffer.getD [] =
            s.fragment ++ (bufferRead buffer need).1 ++ (bufferRead buffer need).2.getD [] := by
          rw [hgot, hleft, List.append_assoc, List.take_append_drop]
        have hfit : (bufferRead buffer need).1.length ≤ need := by
          rw [hgot]
          exact List.length_take_le _ _
        rw [hstream]
        exact ih (s := { s with fragment := s.fragment ++ (bufferRead buffer need).1 }) hpending
          (length_le_needed_append hlt hfit) (by omega)
    · rw [if_neg hlt]
      have hfull : s.fragment.length = neededLength s.fragment := by omega
      have hnext := next_of_complete hfull (buffer.getD [])
      simp only
      by_cases hempty : c.openRecord s.seq s.fragment = []
      · rw [if_pos hempty]
        have hrest := @ih ⟨s.seq + 1, [], c.openRecord s.seq s.fragment⟩ buffer hempty
          (Nat.le_of_lt nil_incomplete) (Or.inr ⟨by omega, nil_incomplete⟩)
        exact hrest.cons hnext hempty
      · rw [if_neg hempty]
        have hdrain := Decoder.drain_of_some hnext
        refine .found [] _ buffer hempty rfl ?_ ?_
        · rw [hdrain]
          rfl
        · rw [hdrain]

/-- Reading records never puts bytes back. -/
theorem length_fetchRecord_le (c : Cipher) (fuel : ℕ) (s : Session)
    (buffer : Option (List UInt8)) :
    ((fetchRecord c fuel s buffer).2.getD []).length ≤ (buffer.getD []).length := by
  induction fuel generalizing s buffer with
  | zero => exact Nat.le_refl _
  | succ fuel ih =>
    have hleft (need : ℕ) : ((bufferRead buffer need).2.getD []).length ≤
        (buffer.getD []).length := by
      rw [bufferRead_snd, List.length_drop]
      exact Nat.sub_le _ _
    rw [fetchRecord]
    split
    · simp only
      split
      · exact hleft _
      · exact Nat.le_trans (ih _ _) (hleft _)
    · simp only
      split
      · exact ih _ _
      · exact Nat.le_refl _

/-- An unfinished record takes at least one byte of a buffer that has any. -/
theorem length_fetchRecord_lt {c : Cipher} {fuel : ℕ} {s : Session}
    {buffer : Option (List UInt8)} (hlt : s.fragment.length < neededLength s.fragment)
    (hbuffer : buffer.getD [] ≠ []) :
    ((fetchRecord c (fuel + 1) s buffer).2.getD []).length < (buffer.getD []).length := by
  have hpos := List.length_pos_iff.mpr hbuffer
  have hleft : ((bufferRead buffer (neededLength s.fragment - s.fragment.length)).2.getD
      []).length < (buffer.getD []).length := by
    rw [bufferRead_snd, List.length_drop]
    omega
  rw [fetchRecord, if_pos hlt]
  simp only
  split
  · exact hleft
  · exact Nat.lt_of_le_of_lt (length_fetchRecord_le c fuel _ _) hleft

end Tls
