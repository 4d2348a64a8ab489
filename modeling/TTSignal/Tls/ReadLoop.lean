import TTSignal.Tls.Session

/-!
# The read loop of `ReadFromSSL`

One turn of the loop either returns pending plaintext, or opens the next record that
carries plaintext, or finds the ciphertext used up. From what one turn does follows what
the whole loop does: it reads all ciphertext and opens all complete records, and it leaves
plaintext pending only if the ciphertext ended exactly at a record whose plaintext was
larger than the room in the current output block.
-/

namespace Tls

open Bytes Framing

variable {c : Cipher} {s : SSLayer Session}

/-- The last of the plaintexts fits into the room the ones before it leave in the current
output block. -/
def LastFits (used : ℕ) (plains : List (List UInt8)) : Prop :=
  ∀ last ∈ plains.getLast?, last.length ≤ writableSize (used + plains.dropLast.flatten.length)

/-- A record carries at most 16384 bytes of plaintext. -/
theorem length_le_of_mem_openAll {seq : ℕ} {records : List (List UInt8)} {plain : List UInt8}
    (h : plain ∈ openAll c seq records) : plain.length ≤ 16384 := by
  induction records generalizing seq with
  | nil => simp [openAll] at h
  | cons record records ih =>
    rcases List.mem_cons.mp h with rfl | h
    · exact c.length_openRecord_le seq record
    · exact ih h

/-- Plaintexts that are all empty fit. -/
theorem lastFits_of_flatten_eq_nil {used : ℕ} {plains : List (List UInt8)}
    (h : plains.flatten = []) : LastFits used plains := by
  intro last hlast
  have hmem := List.mem_of_getLast? hlast
  rw [List.flatten_eq_nil_iff.mp h last hmem]
  exact Nat.zero_le _

/-- With more records behind it, a record only adds to the used bytes. -/
theorem lastFits_append_cons {used : ℕ} {before more : List (List UInt8)} {plain : List UInt8}
    (hbefore : before.flatten = []) (hmore : more ≠ []) :
    LastFits used (before ++ plain :: more) ↔ LastFits (used + plain.length) more := by
  have hlast : (before ++ plain :: more).getLast? = more.getLast? := by
    rw [List.getLast?_append_of_ne_nil _ (by simp), List.getLast?_cons_of_ne_nil hmore]
  have hdrop : (before ++ plain :: more).dropLast.flatten.length =
      plain.length + more.dropLast.flatten.length := by
    rw [List.dropLast_append_of_ne_nil (by simp), List.dropLast_cons_of_ne_nil hmore,
      List.flatten_append, hbefore, List.nil_append, List.flatten_cons, List.length_append]
  simp only [LastFits, hlast, hdrop, Nat.add_assoc]

/-- A record without any behind it has the room that is left. -/
theorem lastFits_concat {used : ℕ} {before : List (List UInt8)} {plain : List UInt8}
    (hbefore : before.flatten = []) :
    LastFits used (before ++ [plain]) ↔ plain.length ≤ writableSize used := by
  simp [LastFits, hbefore]

/-- There is always room for at least one byte. -/
theorem writableSize_pos (used : ℕ) : 0 < writableSize used := by
  have h := Nat.mod_lt used (show 0 < 8192 by decide)
  rw [writableSize]
  omega

/-- What the read loop has done when it ends. -/
structure ReadAll (c : Cipher) (s r : SSLayer Session) : Prop where
  /-- The ciphertext has been read. -/
  drained : r.buffer.getD [] = []
  /-- Nothing was reported and the state is the same. -/
  same : r.outputs = s.outputs ∧ r.isReady = s.isReady
  /-- The session is left with the unfinished record. -/
  fragment_eq : r.ssl.fragment = (recordDecoder.drain (s.ssl.fragment ++ s.buffer.getD [])).2
  /-- All complete records have been opened. -/
  seq_eq : r.ssl.seq =
    s.ssl.seq + (recordDecoder.drain (s.ssl.fragment ++ s.buffer.getD [])).1.length
  /-- Their plaintext was collected or is pending. -/
  plain_eq : r.data ++ r.ssl.pending = s.data ++ s.ssl.pending ++
    (openAll c s.ssl.seq (recordDecoder.drain (s.ssl.fragment ++ s.buffer.getD [])).1).flatten
  /-- When nothing is left pending. -/
  pending_iff : r.ssl.pending = [] ↔
    if s.buffer.getD [] = [] then s.ssl.pending = []
    else (recordDecoder.drain (s.ssl.fragment ++ s.buffer.getD [])).2 = [] →
      LastFits (s.data.length + s.ssl.pending.length)
        (openAll c s.ssl.seq (recordDecoder.drain (s.ssl.fragment ++ s.buffer.getD [])).1)

/-- Without ciphertext the loop does nothing. -/
theorem readLoop_of_drained (ops : SslOps Session) (fuel : ℕ) (h : s.buffer.getD [] = []) :
    s.readLoop ops fuel = (false, s) := by
  cases fuel with
  | zero => rfl
  | succ fuel => rw [SSLayer.readLoop, if_pos h]

/-- Nothing to read is read completely. -/
theorem readAll_of_drained (hlt : s.ssl.fragment.length < neededLength s.ssl.fragment)
    (h : s.buffer.getD [] = []) : ReadAll c s s := by
  have hdrain := Decoder.drain_of_none (next_of_incomplete hlt)
  refine ⟨h, ⟨rfl, rfl⟩, ?_, ?_, ?_, ?_⟩
  · rw [h, List.append_nil, hdrain]
  · rw [h, List.append_nil, hdrain]
    rfl
  · rw [h, List.append_nil, hdrain]
    simp [openAll]
  · rw [if_pos h]

/-- A turn of the loop that returns pending plaintext. -/
theorem readLoop_pending {fuel : ℕ} (hbuffer : s.buffer.getD [] ≠ [])
    (hpending : s.ssl.pending ≠ []) :
    s.readLoop (sessionOps c) (fuel + 1) =
      SSLayer.readLoop (sessionOps c) fuel
        { s with
          ssl := { s.ssl with pending := s.ssl.pending.drop (writableSize s.data.length) }
          data := s.data ++ s.ssl.pending.take (writableSize s.data.length) } := by
  rw [SSLayer.readLoop, if_neg hbuffer]
  simp only [sessionOps, sslRead, if_neg hpending]

/-- A turn of the loop that reads the next record with plaintext. -/
theorem readLoop_found {fuel : ℕ} {next : Session} {buffer : Option (List UInt8)}
    (hbuffer : s.buffer.getD [] ≠ []) (hpending : s.ssl.pending = [])
    (hfetch : fetchRecord c (2 * (s.buffer.getD []).length + 2) s.ssl s.buffer = (next, buffer))
    (hplain : next.pending ≠ []) :
    s.readLoop (sessionOps c) (fuel + 1) =
      SSLayer.readLoop (sessionOps c) fuel
        { s with
          ssl := { next with pending := next.pending.drop (writableSize s.data.length) }
          buffer := buffer
          data := s.data ++ next.pending.take (writableSize s.data.length) } := by
  rw [SSLayer.readLoop, if_neg hbuffer]
  simp only [sessionOps, sslRead, if_pos hpending, hfetch, if_neg hplain]

/-- A turn of the loop that finds no more plaintext. -/
theorem readLoop_blocked {fuel : ℕ} {next : Session} {buffer : Option (List UInt8)}
    (hbuffer : s.buffer.getD [] ≠ []) (hpending : s.ssl.pending = [])
    (hfetch : fetchRecord c (2 * (s.buffer.getD []).length + 2) s.ssl s.buffer = (next, buffer))
    (hplain : next.pending = []) :
    s.readLoop (sessionOps c) (fuel + 1) =
      SSLayer.readLoop (sessionOps c) fuel { s with ssl := next, buffer := buffer } := by
  rw [SSLayer.readLoop, if_neg hbuffer]
  simp only [sessionOps, sslRead, if_pos hpending, hfetch, if_pos hplain]
  rfl

/-- Returning pending plaintext is part of reading everything. -/
theorem ReadAll.of_pending {n : ℕ} {r : SSLayer Session} (hbuffer : s.buffer.getD [] ≠ [])
    (h : ReadAll c
      { s with
        ssl := { s.ssl with pending := s.ssl.pending.drop n }
        data := s.data ++ s.ssl.pending.take n } r) : ReadAll c s r := by
  obtain ⟨hdrained, hsame, hfragment, hseq, hplain, hiff⟩ := h
  refine ⟨hdrained, hsame, hfragment, hseq, ?_, ?_⟩
  · rw [hplain]
    simp only [List.append_assoc]
    rw [← List.append_assoc (s.ssl.pending.take n), List.take_append_drop]
  · have hused : (s.data ++ s.ssl.pending.take n).length + (s.ssl.pending.drop n).length =
        s.data.length + s.ssl.pending.length := by
      rw [List.length_append, Nat.add_assoc, ← List.length_append, List.take_append_drop]
    rw [hiff, if_neg hbuffer, if_neg hbuffer]
    simp only [hused]

/-- Finding no more plaintext ends the reading. -/
theorem readAll_of_blocked {buffer : Option (List UInt8)} (hbuffer : s.buffer.getD [] ≠ [])
    (hpending : s.ssl.pending = []) (hrest : buffer.getD [] = [])
    (hplain : (openAll c s.ssl.seq
      (recordDecoder.drain (s.ssl.fragment ++ s.buffer.getD [])).1).flatten = []) :
    ReadAll c s
      { s with
        ssl := ⟨s.ssl.seq + (recordDecoder.drain (s.ssl.fragment ++ s.buffer.getD [])).1.length,
          (recordDecoder.drain (s.ssl.fragment ++ s.buffer.getD [])).2, []⟩
        buffer := buffer } := by
  refine ⟨hrest, ⟨rfl, rfl⟩, rfl, rfl, ?_, ?_⟩
  · rw [hplain, hpending]
    simp
  · rw [if_neg hbuffer]
    simp only [true_iff]
    exact fun _ => lastFits_of_flatten_eq_nil hplain

/-- Returning the first part of the next plaintext is part of reading everything. -/
theorem ReadAll.of_found {r : SSLayer Session} {before : List (List UInt8)}
    {plain : List UInt8} {buffer : Option (List UInt8)} (hbuffer : s.buffer.getD [] ≠ [])
    (hpending : s.ssl.pending = []) (hbefore : before.flatten = [])
    (hopen : openAll c s.ssl.seq (recordDecoder.drain (s.ssl.fragment ++ s.buffer.getD [])).1 =
      before ++ plain ::
        openAll c (s.ssl.seq + before.length + 1) (recordDecoder.drain (buffer.getD [])).1)
    (hremainder : (recordDecoder.drain (s.ssl.fragment ++ s.buffer.getD [])).2 =
      (recordDecoder.drain (buffer.getD [])).2)
    (h : ReadAll c
      { s with
        ssl := ⟨s.ssl.seq + before.length + 1, [], plain.drop (writableSize s.data.length)⟩
        buffer := buffer
        data := s.data ++ plain.take (writableSize s.data.length) } r) : ReadAll c s r := by
  obtain ⟨hdrained, hsame, hfragment, hseq, hplain, hiff⟩ := h
  simp only [List.nil_append] at hfragment hseq hplain hiff
  set more := (recordDecoder.drain (buffer.getD [])).1 with hmore
  have hcount := congrArg List.length hopen
  simp only [length_openAll, List.length_append, List.length_cons] at hcount
  refine ⟨hdrained, hsame, ?_, ?_, ?_, ?_⟩
  · rw [hfragment, hremainder]
  · rw [hseq, hcount]
    omega
  · rw [hplain, hopen, hpending, List.flatten_append, hbefore, List.flatten_cons]
    simp only [List.append_assoc, List.nil_append]
    rw [← List.append_assoc (plain.take _), List.take_append_drop]
  · have hused : (s.data ++ plain.take (writableSize s.data.length)).length +
        (plain.drop (writableSize s.data.length)).length = s.data.length + plain.length := by
      rw [List.length_append, Nat.add_assoc, ← List.length_append, List.take_append_drop]
    rw [hiff, if_neg hbuffer, hremainder, hopen, hpending, hused]
    by_cases hrest : buffer.getD [] = []
    · rw [if_pos hrest, hmore, hrest, recordDecoder_drain_nil]
      simp only [openAll, List.length_nil, Nat.add_zero, true_implies, lastFits_concat hbefore,
        List.drop_eq_nil_iff]
    · rw [if_neg hrest]
      by_cases hnone : more = []
      · have hleft := Decoder.drain_snd_of_fst_eq_nil (hmore ▸ hnone)
        rw [hleft]
        simp [hrest]
      · have hne : openAll c (s.ssl.seq + before.length + 1) more ≠ [] := by
          intro hnil
          have hlen := congrArg List.length hnil
          rw [length_openAll] at hlen
          exact hnone (List.length_eq_zero_iff.mp hlen)
        rw [lastFits_append_cons hbefore hne]
        simp

/-- With enough fuel the loop reads everything. -/
theorem readLoop_spec {fuel : ℕ} (hlt : s.ssl.fragment.length < neededLength s.ssl.fragment)
    (hfuel : 16385 * (s.buffer.getD []).length + s.ssl.pending.length < fuel) :
    ∃ r, s.readLoop (sessionOps c) fuel = (false, r) ∧ ReadAll c s r := by
  induction fuel generalizing s with
  | zero => omega
  | succ fuel ih =>
    by_cases hbuffer : s.buffer.getD [] = []
    · exact ⟨s, readLoop_of_drained _ _ hbuffer, readAll_of_drained hlt hbuffer⟩
    · have hpos := List.length_pos_iff.mpr hbuffer
      have hroom := writableSize_pos s.data.length
      by_cases hpending : s.ssl.pending = []
      · have hfetched := fetchRecord_spec (c := c) hpending (Nat.le_of_lt hlt)
          (Or.inr ⟨by omega, hlt⟩ : 2 * (s.buffer.getD []).length + 1 <
            2 * (s.buffer.getD []).length + 2 ∨ _)
        have hshorter : ((fetchRecord c (2 * (s.buffer.getD []).length + 2) s.ssl
            s.buffer).2.getD []).length < (s.buffer.getD []).length :=
          length_fetchRecord_lt hlt hbuffer
        generalize hfetch : fetchRecord c (2 * (s.buffer.getD []).length + 2) s.ssl s.buffer = f
          at hfetched hshorter
        obtain ⟨next, buffer⟩ := f
        simp only at hfetched hshorter
        cases hfetched with
        | blocked _ hrest hplain =>
          rw [readLoop_blocked hbuffer hpending hfetch rfl, readLoop_of_drained _ _ hrest]
          exact ⟨_, rfl, readAll_of_blocked hbuffer hpending hrest hplain⟩
        | found before plain _ hplain hbefore hopen hremainder =>
          have hmem : plain ∈ openAll c s.ssl.seq
              (recordDecoder.drain (s.ssl.fragment ++ s.buffer.getD [])).1 := by
            rw [hopen]
            simp
          have hlen := length_le_of_mem_openAll hmem
          rw [readLoop_found hbuffer hpending hfetch hplain]
          obtain ⟨r, hr, hall⟩ := ih
            (s := { s with
              ssl := ⟨s.ssl.seq + before.length + 1, [],
                plain.drop (writableSize s.data.length)⟩
              buffer := buffer
              data := s.data ++ plain.take (writableSize s.data.length) })
            nil_incomplete (by simp only [List.length_drop]; omega)
          exact ⟨r, hr, hall.of_found hbuffer hpending hbefore hopen hremainder⟩
      · have hp := List.length_pos_iff.mpr hpending
        rw [readLoop_pending hbuffer hpending]
        obtain ⟨r, hr, hall⟩ := ih
          (s := { s with
            ssl := { s.ssl with pending := s.ssl.pending.drop (writableSize s.data.length) }
            data := s.data ++ s.ssl.pending.take (writableSize s.data.length) }) hlt
          (by simp only [List.length_drop]; omega)
        exact ⟨r, hr, hall.of_pending hbuffer⟩

end Tls
