import TTSignal.Loops
import TTSignal.Tls.SSLayer
import Mathlib.Data.Prod.Lex
import Mathlib.Order.WellFounded

/-!
# Whether `ReadFromSSL` returns

The read loop of `ReadFromSSL` is left when the ciphertext is used up or the session
reports its end. A call of `SSL_read` that fails is repeated, also when it has read nothing.
What a session may do is stated as a contract: it holds finitely many bytes of plaintext,
returns only such, and does not put ciphertext back. Under this contract the loop ends
exactly when the session does not come to fail for ever with ciphertext left.
-/

namespace Tls

open Loops

variable {σ : Type*}

/-- One turn of the read loop of `ReadFromSSL`. -/
def SSLayer.readTurn (ops : SslOps σ) (s : SSLayer σ) : SSLayer σ ⊕ Bool × SSLayer σ :=
  if s.buffer.getD [] = [] then .inr (false, s)
  else
    let r := ops.read s.ssl s.buffer (writableSize s.data.length)
    match r.1 with
    | .received bytes =>
      .inl { s with ssl := r.2.1, buffer := r.2.2, data := s.data ++ bytes }
    | .failed reported =>
      .inl
        { s with
          ssl := r.2.1, buffer := r.2.2
          outputs := if reported then s.outputs ++ [.error] else s.outputs }
    | .closed => .inr (true, { s with ssl := r.2.1, buffer := r.2.2 })

/-- The documented behaviour of `SSL_read`. -/
structure ReadContract (ops : SslOps σ) where
  /-- The number of plaintext bytes that a session holds. -/
  held : σ → ℕ
  /-- Ciphertext is read or left, and none is added. -/
  reads : ∀ ssl buffer n, ((ops.read ssl buffer n).2.2.getD []).length ≤ (buffer.getD []).length
  /-- A positive count returns plaintext that was held, or comes from ciphertext read. -/
  returns : ∀ ssl buffer n bytes, (ops.read ssl buffer n).1 = .received bytes → bytes ≠ [] ∧
    (((ops.read ssl buffer n).2.2.getD []).length = (buffer.getD []).length →
      held (ops.read ssl buffer n).2.1 + bytes.length ≤ held ssl)
  /-- A failed call that reads nothing holds no more plaintext than before. -/
  fails : ∀ ssl buffer n reported, (ops.read ssl buffer n).1 = .failed reported →
    ((ops.read ssl buffer n).2.2.getD []).length = (buffer.getD []).length →
      held (ops.read ssl buffer n).2.1 ≤ held ssl

namespace SSLayer

variable {ops : SslOps σ} {s t : SSLayer σ}

/-- The next call of `SSL_read` fails and reads nothing of the ciphertext that is left. -/
def FailsUnread (ops : SslOps σ) (s : SSLayer σ) : Prop :=
  s.buffer.getD [] ≠ [] ∧
    (∃ reported, (ops.read s.ssl s.buffer (writableSize s.data.length)).1 = .failed reported) ∧
      ((ops.read s.ssl s.buffer (writableSize s.data.length)).2.2.getD []).length =
        (s.buffer.getD []).length

/-- From here on every call of `SSL_read` fails and reads nothing. -/
def Stuck (ops : SslOps σ) (s : SSLayer σ) : Prop :=
  ∀ k t, after (readTurn ops) k s = some t → FailsUnread ops t

/-- The layer at the beginning of the read loop. -/
def atLoop (ops : SslOps σ) (s : SSLayer σ) (chunk : List UInt8) : SSLayer σ :=
  (s.receive chunk).connectSSL ops

/-- `ReadFromSSL` returns: the read loop, if it is begun, ends. -/
def ReadFromSSLReturns (ops : SslOps σ) (s : SSLayer σ) (chunk : List UInt8) : Prop :=
  (s.atLoop ops chunk).isReady = true → Terminates (readTurn ops) (s.atLoop ops chunk)

/-- The read loop comes to a state from which on every call of `SSL_read` fails and reads
nothing. -/
def GetsStuck (ops : SslOps σ) (s : SSLayer σ) : Prop :=
  ∃ n t, after (readTurn ops) n s = some t ∧ Stuck ops t

/-- The loop with fuel takes the turns of the loop one after the other. -/
theorem readLoop_succ (fuel : ℕ) (s : SSLayer σ) :
    s.readLoop ops (fuel + 1) =
      match s.readTurn ops with
      | .inl t => t.readLoop ops fuel
      | .inr r => r := by
  simp only [readLoop, readTurn]
  split
  · rfl
  · cases (ops.read s.ssl s.buffer (writableSize s.data.length)).1 <;> rfl

/-- A loop that ends is finished with enough fuel. -/
theorem readLoop_of_ends {r : Bool × SSLayer σ} (h : Ends (readTurn ops) s r) :
    ∃ fuel, ∀ more, s.readLoop ops (fuel + more) = r := by
  induction h with
  | leave hleave =>
    refine ⟨1, fun more => ?_⟩
    rw [Nat.add_comm, readLoop_succ, hleave]
  | again hagain _ ih =>
    obtain ⟨fuel, hfuel⟩ := ih
    refine ⟨fuel + 1, fun more => ?_⟩
    rw [Nat.add_right_comm, readLoop_succ, hagain]
    exact hfuel more

/-- What a turn that goes on has done. -/
theorem readTurn_inl (h : s.readTurn ops = .inl t) :
    s.buffer.getD [] ≠ [] ∧
      t.ssl = (ops.read s.ssl s.buffer (writableSize s.data.length)).2.1 ∧
        t.buffer = (ops.read s.ssl s.buffer (writableSize s.data.length)).2.2 := by
  simp only [readTurn] at h
  split at h
  · exact absurd h (by simp)
  · rename_i hbuffer
    split at h
    · obtain rfl := Sum.inl.inj h
      exact ⟨hbuffer, rfl, rfl⟩
    · obtain rfl := Sum.inl.inj h
      exact ⟨hbuffer, rfl, rfl⟩
    · exact absurd h (by simp)

/-- A call that fails leads to the next turn. -/
theorem FailsUnread.readTurn (h : FailsUnread ops s) :
    ∃ t, s.readTurn ops = .inl t := by
  obtain ⟨hbuffer, ⟨reported, hfailed⟩, -⟩ := h
  exact
    ⟨{ s with
        ssl := (ops.read s.ssl s.buffer (writableSize s.data.length)).2.1
        buffer := (ops.read s.ssl s.buffer (writableSize s.data.length)).2.2
        outputs := if reported then s.outputs ++ [.error] else s.outputs },
      by simp only [SSLayer.readTurn, if_neg hbuffer, hfailed]⟩

/-- A stuck loop stays stuck. -/
theorem Stuck.next (h : Stuck ops s) (hturn : s.readTurn ops = .inl t) : Stuck ops t := by
  intro k u hu
  refine h (k + 1) u ?_
  rw [after_succ_of_inl hturn, hu]

/-- A stuck loop does not end. -/
theorem Stuck.not_terminates (h : Stuck ops s) : ¬ Terminates (readTurn ops) s := by
  refine not_terminates_of_invariant (I := Stuck ops) (fun s hs => ?_) h
  obtain ⟨t, hturn⟩ := (hs 0 s rfl).readTurn
  exact ⟨t, hturn, hs.next hturn⟩

/-- The ciphertext left, and with equal ciphertext the plaintext held. -/
def measure (contract : ReadContract ops) (s : SSLayer σ) : ℕ ×ₗ ℕ :=
  toLex ((s.buffer.getD []).length, contract.held s.ssl)

/-- A turn reads ciphertext, returns plaintext, or leaves both as they are. -/
theorem measure_readTurn (contract : ReadContract ops) (h : s.readTurn ops = .inl t) :
    t.measure contract < s.measure contract ∨
      FailsUnread ops s ∧ t.measure contract ≤ s.measure contract := by
  obtain ⟨hbuffer, hssl, hrest⟩ := readTurn_inl h
  have hreads := contract.reads s.ssl s.buffer (writableSize s.data.length)
  simp only [measure, Prod.Lex.toLex_lt_toLex, Prod.Lex.toLex_le_toLex, hssl, hrest]
  rcases Nat.lt_or_ge ((ops.read s.ssl s.buffer (writableSize s.data.length)).2.2.getD []).length
    (s.buffer.getD []).length with hlt | hge
  · exact Or.inl (Or.inl hlt)
  · have heq := Nat.le_antisymm hreads hge
    cases hresult : (ops.read s.ssl s.buffer (writableSize s.data.length)).1 with
    | received bytes =>
      obtain ⟨hne, hheld⟩ := contract.returns _ _ _ _ hresult
      have hpos := List.length_pos_iff.mpr hne
      have hheld := hheld heq
      exact Or.inl (Or.inr ⟨heq, by omega⟩)
    | failed reported =>
      have hheld := contract.fails _ _ _ _ hresult heq
      exact Or.inr ⟨⟨hbuffer, ⟨reported, hresult⟩, heq⟩, Or.inr ⟨heq, hheld⟩⟩
    | closed =>
      simp only [readTurn, if_neg hbuffer, hresult] at h
      exact absurd h (by simp)

/-- The read loop ends exactly when it does not get stuck. -/
theorem terminates_iff (contract : ReadContract ops) (s : SSLayer σ) :
    Terminates (readTurn ops) s ↔ ¬ GetsStuck ops s := by
  constructor
  · rintro hends ⟨n, t, hn, hstuck⟩
    exact hstuck.not_terminates ((terminates_iff_of_after hn).mp hends)
  · intro hstuck
    by_contra hends
    have hle : ∀ s t : SSLayer σ,
        s.readTurn ops = .inl t → t.measure contract ≤ s.measure contract :=
      fun s t h => (measure_readTurn contract h).elim le_of_lt fun h => h.2
    have hlt : ∀ s t : SSLayer σ, s.readTurn ops = .inl t → ¬ FailsUnread ops s →
        t.measure contract < s.measure contract :=
      fun s t h hidle => (measure_readTurn contract h).resolve_right fun h => hidle h.1
    exact hstuck (exists_idle_of_not_terminates hle hlt hends)

end SSLayer

/-- For every session that keeps the contract, every layer and every received ciphertext,
`ReadFromSSL` returns exactly when its read loop is not begun or does not come to a state
from which on `SSL_read` fails for ever and reads nothing of the ciphertext that is left. -/
theorem readFromSSL_returns_iff {ops : SslOps σ} (hcontract : Nonempty (ReadContract ops))
    (s : SSLayer σ) (chunk : List UInt8) :
    s.ReadFromSSLReturns ops chunk ↔
      ((s.atLoop ops chunk).isReady = true → ¬ (s.atLoop ops chunk).GetsStuck ops) := by
  obtain ⟨contract⟩ := hcontract
  exact forall_congr' fun _ => SSLayer.terminates_iff contract _

/-- A session that takes all ciphertext and waits for the rest of its record. -/
def waitingOps : SslOps Unit where
  handshake _ buffer := (.done, (), buffer)
  read _ _ _ := (.failed false, (), none)

/-- A layer with an established session and no ciphertext. -/
def readyLayer : SSLayer Unit := ⟨(), true, none, [], []⟩

/-- A waiting session keeps the contract, and `ReadFromSSL` returns. -/
theorem readFromSSL_returns_waiting :
    Nonempty (ReadContract waitingOps) ∧
      (readyLayer.ReadFromSSLReturns waitingOps [23] ↔
        ((readyLayer.atLoop waitingOps [23]).isReady = true →
          ¬ (readyLayer.atLoop waitingOps [23]).GetsStuck waitingOps)) ∧
      readyLayer.ReadFromSSLReturns waitingOps [23] := by
  have hcontract : Nonempty (ReadContract waitingOps) :=
    ⟨⟨fun _ => 0, by simp [waitingOps], by simp [waitingOps], by simp⟩⟩
  refine ⟨hcontract, readFromSSL_returns_iff hcontract readyLayer [23], fun _ => ?_⟩
  exact terminates_of_after_eq_none (n := 2) rfl

/-- A session after a fatal alert: every call fails and reads nothing. -/
def alertedOps : SslOps Unit where
  handshake _ buffer := (.done, (), buffer)
  read _ buffer _ := (.failed true, (), buffer)

/-- The session keeps the contract, and `ReadFromSSL` does not return. -/
theorem readFromSSL_alerted_not_returns :
    Nonempty (ReadContract alertedOps) ∧ ¬ readyLayer.ReadFromSSLReturns alertedOps [21] := by
  constructor
  · exact ⟨⟨fun _ => 0, by simp [alertedOps], by simp [alertedOps], by simp⟩⟩
  · intro h
    have hnext : ∀ s : SSLayer Unit, s.buffer = some [21] →
        ∃ t, s.readTurn alertedOps = .inl t ∧ t.buffer = some [21] := by
      intro s hs
      refine ⟨{ s with outputs := s.outputs ++ [.error] }, ?_, hs⟩
      simp [SSLayer.readTurn, alertedOps, hs]
    exact not_terminates_of_invariant hnext rfl (h rfl)

end Tls
