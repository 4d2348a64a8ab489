import TTSignal.Runs
import TTSignal.Tls.ReadLoop

/-!
# When decrypted data is delivered

The read loop of `ReadFromSSL` runs while ciphertext is left, not while plaintext is
left. A call delivers everything it can decrypt, except when its bytes end exactly at the
end of a record: then the plaintext of that record goes into the room left in the current
block of the output buffer, and what does not fit stays inside the session until more
ciphertext arrives.
-/

namespace Tls

open Bytes Framing Runs

variable {c : Cipher} {s : SSLayer Session}

/-- An established session before the first record. -/
def established : SSLayer Session := ⟨⟨0, [], []⟩, true, none, [], []⟩

/-- One `ReadFromSSL` call, with fuel for all turns its loop can make. -/
def feed (c : Cipher) (s : SSLayer Session) (chunk : List UInt8) : SSLayer Session :=
  s.readFromSSL (sessionOps c) (16385 * chunk.length + s.ssl.pending.length + 1) chunk

/-- The layer after the bytes `fed`: the records complete in them have been opened, and
their plaintext was delivered or is pending. -/
structure Tracks (c : Cipher) (fed : List UInt8) (s : SSLayer Session) : Prop where
  /-- The handshake is over. -/
  ready : s.isReady = true
  /-- No ciphertext is left. -/
  drained : s.buffer.getD [] = []
  /-- No plaintext is left in the layer. -/
  collected : s.data = []
  /-- The session holds the unfinished record. -/
  fragment_eq : s.ssl.fragment = (recordDecoder.drain fed).2
  /-- The session has opened the complete ones. -/
  seq_eq : s.ssl.seq = (recordDecoder.drain fed).1.length
  /-- Their plaintext was delivered or is pending. -/
  plain_eq : s.delivered ++ s.ssl.pending = (openAll c 0 (recordDecoder.drain fed).1).flatten

/-- The plaintexts of the records that the chunk completes. -/
def newPlains (c : Cipher) (fed chunk : List UInt8) : List (List UInt8) :=
  openAll c (recordDecoder.drain fed).1.length
    (recordDecoder.drain ((recordDecoder.drain fed).2 ++ chunk)).1

/-- The new plaintexts follow those of the records complete before. -/
theorem openAll_drain_append (c : Cipher) (fed chunk : List UInt8) :
    openAll c 0 (recordDecoder.drain (fed ++ chunk)).1 =
      openAll c 0 (recordDecoder.drain fed).1 ++ newPlains c fed chunk := by
  rw [Decoder.drain_append, openAll_append, Nat.zero_add]
  rfl

/-- Nothing has been fed to an established session. -/
theorem tracks_established (c : Cipher) : Tracks c [] established := by
  refine ⟨rfl, rfl, rfl, ?_, ?_, ?_⟩
  all_goals
    rw [recordDecoder_drain_nil]
    rfl

/-- A call on an established session runs the loop and delivers. -/
theorem feed_eq {r : SSLayer Session} {chunk : List UInt8} (hready : s.isReady = true)
    (hloop : (s.receive chunk).readLoop (sessionOps c)
      (16385 * chunk.length + s.ssl.pending.length + 1) = (false, r)) :
    feed c s chunk = r.deliver := by
  have hstill : (s.receive chunk).isReady = true := hready
  have hsame : (s.receive chunk).connectSSL (sessionOps c) = s.receive chunk := by
    rw [SSLayer.connectSSL, if_pos (Or.inl hstill)]
  rw [feed, SSLayer.readFromSSL]
  simp only [hsame, hstill, if_true, hloop]
  simp

/-- A call reads its bytes, and from a session without pending plaintext it leaves none
exactly if it does not end at a record whose plaintext exceeds the room. -/
theorem Tracks.feed {fed : List UInt8} (h : Tracks c fed s) (chunk : List UInt8) :
    Tracks c (fed ++ chunk) (feed c s chunk) ∧
      (s.ssl.pending = [] → ((Tls.feed c s chunk).ssl.pending = [] ↔
        ((recordDecoder.drain (fed ++ chunk)).2 = [] → LastFits 0 (newPlains c fed chunk)))) := by
  obtain ⟨hready, hdrained, hcollected, hfragment, hseq, hplain⟩ := h
  have hbuffer : (s.receive chunk).buffer.getD [] = chunk := by
    simp [SSLayer.receive, hdrained]
  have hnext : recordDecoder.next s.ssl.fragment = none := by
    rw [hfragment]
    exact Decoder.next_drain fed
  have hlt : s.ssl.fragment.length < neededLength s.ssl.fragment := by
    by_contra hge
    change nextRecord s.ssl.fragment = none at hnext
    rw [nextRecord_of_le (not_lt.mp hge)] at hnext
    exact absurd hnext (by simp)
  have hfuel : 16385 * ((s.receive chunk).buffer.getD []).length +
      (s.receive chunk).ssl.pending.length <
        16385 * chunk.length + s.ssl.pending.length + 1 := by
    rw [hbuffer]
    exact Nat.lt_succ_self _
  obtain ⟨r, hloop, hr⟩ := readLoop_spec (c := c) (s := s.receive chunk) hlt hfuel
  have hfeed := feed_eq hready hloop
  obtain ⟨hrdrained, ⟨houtputs, hrready⟩, hrfragment, hrseq, hrplain, hriff⟩ := hr
  have hstream : (s.receive chunk).ssl.fragment ++ (s.receive chunk).buffer.getD [] =
      (recordDecoder.drain fed).2 ++ chunk := by
    rw [hbuffer]
    exact congrArg (· ++ chunk) hfragment
  have hdrain := recordDecoder.drain_append fed chunk
  rw [hstream] at hrfragment hrseq hrplain hriff
  have hdelivered : r.delivered = s.delivered := by
    rw [SSLayer.delivered, houtputs]
    rfl
  have hnew : openAll c (s.receive chunk).ssl.seq
      (recordDecoder.drain ((recordDecoder.drain fed).2 ++ chunk)).1 = newPlains c fed chunk := by
    rw [newPlains, ← hseq]
    rfl
  rw [hnew] at hrplain hriff
  rw [hfeed]
  refine ⟨⟨?_, hrdrained, rfl, ?_, ?_, ?_⟩, ?_⟩
  · exact hrready.trans hready
  · rw [hdrain]
    exact hrfragment
  · rw [hdrain, List.length_append, ← hseq]
    exact hrseq
  · have hdata : (s.receive chunk).data = [] := hcollected
    have hpend : (s.receive chunk).ssl.pending = s.ssl.pending := rfl
    have hdel : r.deliver.ssl = r.ssl := rfl
    rw [SSLayer.delivered_deliver, hdel, hdelivered, List.append_assoc, hrplain, hdata, hpend,
      List.nil_append, ← List.append_assoc, hplain, openAll_drain_append, List.flatten_append]
  · intro hpending
    have hdel : r.deliver.ssl = r.ssl := rfl
    have hdata : (s.receive chunk).data = [] := hcollected
    have hpend : (s.receive chunk).ssl.pending = [] := hpending
    rw [hdel, hriff, hbuffer, hdata, hpend, hdrain]
    by_cases hchunk : chunk = []
    · have hnone : newPlains c fed [] = [] := by
        rw [newPlains, List.append_nil, Decoder.drain_of_none (Decoder.next_drain fed)]
        rfl
      rw [if_pos hchunk, hchunk, hnone]
      simp [LastFits]
    · rw [if_neg hchunk]
      rfl

/-- The plaintext of all records whose last byte is among the first `n` bytes. -/
def completePlain (c : Cipher) (records : List (List UInt8)) (n : ℕ) : List UInt8 :=
  (openAll c 0 (completeIn id records n)).flatten

/-- The call that feeds the bytes from `n` to `m` leaves nothing behind: it does not end at
a record boundary, or the plaintext of the last record it completes fits into the room
that the ones before it leave in the current output block. -/
def CallFits (c : Cipher) (records : List (List UInt8)) (n m : ℕ) : Prop :=
  let plains := (openAll c 0 (completeIn id records m)).drop (completeIn id records n).length
  remainderIn id records m = [] →
    ∀ last ∈ plains.getLast?, last.length ≤ 8192 - plains.dropLast.flatten.length % 8192

/-- A complete record is recognised, and only when it is complete. -/
theorem encodes_record {record : List UInt8} (h : record.length = neededLength record) :
    recordDecoder.Encodes id record := by
  refine ⟨next_of_complete h, fun n hn => next_of_incomplete ?_⟩
  have hlen : (record.take n).length = n := by
    rw [List.length_take]
    exact Nat.min_eq_left (Nat.le_of_lt hn)
  have hfive := five_le_neededLength (record.take n)
  rw [id_eq] at hn ⊢
  by_cases hheader : 5 ≤ n
  · have hsplit := neededLength_append (hlen.symm ▸ hheader) (record.drop n)
    rw [List.take_append_drop] at hsplit
    omega
  · omega

/-- After any chunks of a stream of records the layer tracks the bytes fed. -/
theorem tracks_run (c : Cipher) (chunks : List (List UInt8)) :
    Tracks c chunks.flatten (run (feed c) established chunks) := by
  induction chunks using List.reverseRecOn with
  | nil => exact tracks_established c
  | append_singleton chunks chunk ih =>
    rw [run_concat, List.flatten_concat]
    exact (ih.feed chunk).1

/-- If each of finitely many steps keeps a property exactly under its condition, the
property holds throughout exactly if all conditions do. -/
theorem forall_le_iff_forall_lt {P Q : ℕ → Prop} (n : ℕ) (hzero : P 0)
    (hstep : ∀ k < n, P k → (P (k + 1) ↔ Q k)) : (∀ k ≤ n, P k) ↔ ∀ k < n, Q k := by
  constructor
  · intro h k hk
    exact (hstep k hk (h k (Nat.le_of_lt hk))).mp (h (k + 1) hk)
  · intro h k hk
    induction k with
    | zero => exact hzero
    | succ k ih => exact (hstep k hk (ih (Nat.le_of_lt hk))).mpr (h k hk)

/-- For records and any chunks of their wire bytes: after each `ReadFromSSL` call exactly
the plaintext of the records complete so far has been delivered, if and only if each call
either does not end at a record boundary or completes there a record whose plaintext fits
into the room left in the current output block. -/
theorem delivered_iff_callFits (c : Cipher) (records chunks : List (List UInt8))
    (hrecords : ∀ record ∈ records, record.length = neededLength record)
    (hchunks : chunks.flatten <+: records.flatten) :
    (∀ k ≤ chunks.length, (run (feed c) established (chunks.take k)).delivered =
      completePlain c records (chunks.take k).flatten.length) ↔
      ∀ k < chunks.length,
        CallFits c records (chunks.take k).flatten.length (chunks.take (k + 1)).flatten.length := by
  have hdrain (k : ℕ) : recordDecoder.drain (chunks.take k).flatten =
      (completeIn id records (chunks.take k).flatten.length,
        remainderIn id records (chunks.take k).flatten.length) := by
    have hsplit : chunks.flatten = (chunks.take k).flatten ++ (chunks.drop k).flatten := by
      rw [← List.flatten_append, List.take_append_drop]
    have hfed : (chunks.take k).flatten <+: records.flatten :=
      (hsplit ▸ List.prefix_append _ _ : (chunks.take k).flatten <+: chunks.flatten).trans hchunks
    have htake := Decoder.drain_take_encoded
      (fun record hmem => encodes_record (hrecords record hmem))
      (next_of_incomplete nil_incomplete) (chunks.take k).flatten.length
    rw [List.flatMap_id, ← List.prefix_iff_eq_take.mp hfed] at htake
    exact htake
  have hpending (k : ℕ) : (run (feed c) established (chunks.take k)).delivered =
      completePlain c records (chunks.take k).flatten.length ↔
        (run (feed c) established (chunks.take k)).ssl.pending = [] := by
    have hplain := (tracks_run c (chunks.take k)).plain_eq
    rw [hdrain k] at hplain
    rw [completePlain, ← hplain]
    exact List.self_eq_append_right
  simp only [hpending]
  refine forall_le_iff_forall_lt chunks.length rfl ?_
  intro k hk hempty
  obtain ⟨htracks, hiff⟩ := (tracks_run c (chunks.take k)).feed chunks[k]
  have htake : chunks.take (k + 1) = chunks.take k ++ [chunks[k]] :=
    List.take_succ_eq_append_getElem hk
  have hflat : (chunks.take (k + 1)).flatten = (chunks.take k).flatten ++ chunks[k] := by
    rw [htake, List.flatten_concat]
  have hnew := openAll_drain_append c (chunks.take k).flatten chunks[k]
  rw [← hflat, hdrain, hdrain] at hnew
  have hlen : (openAll c 0 (completeIn id records (chunks.take k).flatten.length)).length =
      (completeIn id records (chunks.take k).flatten.length).length :=
    length_openAll _ _ _
  have hdrop : (openAll c 0 (completeIn id records (chunks.take (k + 1)).flatten.length)).drop
      (completeIn id records (chunks.take k).flatten.length).length =
        newPlains c (chunks.take k).flatten chunks[k] := by
    rw [hnew, ← hlen, List.drop_left]
  rw [htake, run_concat, hiff hempty, ← hflat, hdrain, ← htake]
  simp only [CallFits, LastFits, writableSize, hdrop, Nat.zero_add]

/-- Record protection that leaves the plaintext readable. -/
def plainCipher : Cipher where
  openRecord _ record := (record.drop 5).take 16384
  length_openRecord_le _ _ := List.length_take_le _ _

/-- A record with one byte of application data. -/
def shortRecord : List UInt8 := [23, 3, 3, 0, 1, 65]

/-- A short record is delivered by the call that completes it, not before. -/
theorem delivered_shortRecord :
    (run (feed plainCipher) established [[23, 3, 3, 0]]).delivered =
        completePlain plainCipher [shortRecord] 4 ∧
      (run (feed plainCipher) established [[23, 3, 3, 0], [1, 65]]).delivered =
        completePlain plainCipher [shortRecord] 6 := by
  have hdelivered := (delivered_iff_callFits plainCipher [shortRecord] [[23, 3, 3, 0], [1, 65]]
    (by decide) (by decide)).mpr ?_
  · exact ⟨hdelivered 1 (by decide), hdelivered 2 (by decide)⟩
  intro k hk
  have hcases : k = 0 ∨ k = 1 := by
    simp only [List.length_cons, List.length_nil] at hk
    omega
  rcases hcases with rfl | rfl
  · unfold CallFits
    decide
  · unfold CallFits
    decide

/-- A record with 8193 bytes of application data. -/
def longRecord : List UInt8 := [23, 3, 3, 32, 1] ++ List.replicate 8193 0

/-- A long record that arrives in one call is not delivered completely by that call. -/
theorem not_delivered_longRecord :
    (∀ record ∈ [longRecord], record.length = neededLength record) ∧
      [longRecord].flatten <+: [longRecord].flatten ∧
      ¬ ∀ k ≤ 1, (run (feed plainCipher) established ([longRecord].take k)).delivered =
        completePlain plainCipher [longRecord] ([longRecord].take k).flatten.length := by
  have hneeded : neededLength longRecord = 8198 := by
    rw [longRecord, neededLength_append (by decide)]
    decide
  have hlen : longRecord.length = 8198 := by
    rw [longRecord, List.length_append, List.length_replicate]
    rfl
  have hdrain : recordDecoder.drain longRecord = ([longRecord], []) := by
    have hnext := next_of_complete (hlen.trans hneeded.symm) []
    rw [List.append_nil] at hnext
    rw [Decoder.drain_of_some hnext, recordDecoder_drain_nil]
  have hplains : newPlains plainCipher [] longRecord =
      [plainCipher.openRecord 0 longRecord] := by
    rw [newPlains, recordDecoder_drain_nil, List.nil_append, hdrain]
    rfl
  have hsize : (plainCipher.openRecord 0 longRecord).length = 8193 := by
    have hlen' : (longRecord.drop 5).length = 8193 := by rw [List.length_drop, hlen]
    change ((longRecord.drop 5).take 16384).length = 8193
    rw [List.length_take, hlen']
    rfl
  refine ⟨by simp [hlen, hneeded], List.prefix_rfl, fun h => ?_⟩
  obtain ⟨htracks, hiff⟩ := (tracks_established plainCipher).feed longRecord
  have hone := h 1 le_rfl
  have hcomplete : completeIn id [longRecord] longRecord.length = [longRecord] := by
    simp [completeIn]
  have hplain := htracks.plain_eq
  simp only [List.nil_append, hdrain] at hplain hiff
  simp only [List.take_succ_cons, List.take_zero, run_cons, run_nil, List.flatten_cons,
    List.flatten_nil, List.append_nil, completePlain, hcomplete] at hone
  rw [← hplain] at hone
  have hfits := (hiff rfl).mp (List.self_eq_append_right.mp hone) trivial
  rw [hplains] at hfits
  have hle := (lastFits_concat List.flatten_nil).mp hfits
  rw [hsize] at hle
  exact absurd hle (by decide)

end Tls
