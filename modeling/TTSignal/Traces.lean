import Mathlib.Data.List.Basic

/-!
# Order in a record of actions

A component that keeps a record of what it has done appends to it. What an action needs is
stated about the actions before it; in particular that it is preceded by one of another
kind. That it is followed by none of another kind is stated as well. All of these are
decided when an action is appended.
-/

namespace Traces

variable {α : Type*}

/-- Every action has what it needs in the actions before it. -/
def Justified (needs : List α → α → Prop) (trace : List α) : Prop :=
  ∀ before a after, trace = before ++ a :: after → needs before a

/-- Every action of the kind `p` comes after one of the kind `q`. -/
def Preceded (p q : α → Prop) (trace : List α) : Prop :=
  Justified (fun before a => p a → ∃ b ∈ before, q b) trace

/-- No action of the kind `q` comes after one of the kind `p`. -/
def NoneAfter (p q : α → Prop) (trace : List α) : Prop := trace.Pairwise fun a b => p a → ¬ q b

variable {needs : List α → α → Prop} {p q : α → Prop} {trace new : List α} {a : α}

/-- Nothing has been done yet. -/
theorem justified_nil : Justified needs [] := by
  intro before a after h
  simp at h

/-- An appended action must have what it needs. -/
theorem Justified.concat (h : Justified needs trace) (ha : needs trace a) :
    Justified needs (trace ++ [a]) := by
  intro before c after hsplit
  rcases List.eq_nil_or_concat after with rfl | ⟨after, last, rfl⟩
  · obtain ⟨rfl, hac⟩ := List.append_inj' hsplit rfl
    cases hac
    exact ha
  · have hlast : trace ++ [a] = (before ++ c :: after) ++ [last] := by
      rw [hsplit, List.concat_eq_append, List.append_assoc, List.cons_append]
    obtain ⟨rfl, -⟩ := List.append_inj' hlast rfl
    exact h before c after rfl

/-- Actions that need nothing may be appended. -/
theorem Justified.append (h : Justified needs trace) (hnew : ∀ a ∈ new, ∀ before, needs before a) :
    Justified needs (trace ++ new) := by
  induction new generalizing trace with
  | nil => rwa [List.append_nil]
  | cons a new ih =>
    have hfirst : Justified needs (trace ++ [a]) := h.concat (hnew a List.mem_cons_self trace)
    have hrest := ih hfirst fun b hb => hnew b (List.mem_cons_of_mem _ hb)
    rwa [List.append_assoc, List.singleton_append] at hrest

/-- What has been done at most once is one action. -/
theorem eq_of_countP_le_one {r : α → Bool} {b : α} (h : trace.countP r ≤ 1) (ha : a ∈ trace)
    (hb : b ∈ trace) (hra : r a = true) (hrb : r b = true) : a = b := by
  rw [List.countP_eq_length_filter] at h
  have hmema : a ∈ trace.filter r := List.mem_filter.mpr ⟨ha, hra⟩
  have hmemb : b ∈ trace.filter r := List.mem_filter.mpr ⟨hb, hrb⟩
  match hfilter : trace.filter r with
  | [] => simp [hfilter] at hmema
  | [c] =>
    rw [hfilter, List.mem_singleton] at hmema hmemb
    rw [hmema, hmemb]
  | _ :: _ :: _ =>
    rw [hfilter] at h
    simp at h

/-- Nothing that has not been done needs anything before it. -/
theorem preceded_nil : Preceded p q [] := justified_nil

/-- An appended action of the kind `p` needs an earlier one of the kind `q`. -/
theorem Preceded.concat (h : Preceded p q trace) (ha : p a → ∃ b ∈ trace, q b) :
    Preceded p q (trace ++ [a]) :=
  Justified.concat h ha

/-- Actions of other kinds may be appended. -/
theorem Preceded.append (h : Preceded p q trace) (hnew : ∀ a ∈ new, ¬ p a) :
    Preceded p q (trace ++ new) :=
  Justified.append h fun a ha _ hpa => absurd hpa (hnew a ha)

/-- Nothing is forbidden before something has been done. -/
theorem noneAfter_nil : NoneAfter p q [] := List.Pairwise.nil

/-- An appended action of the kind `q` needs that there is none of the kind `p`. -/
theorem NoneAfter.concat (h : NoneAfter p q trace) (ha : q a → ∀ b ∈ trace, ¬ p b) :
    NoneAfter p q (trace ++ [a]) := by
  apply List.pairwise_append.mpr
  refine ⟨h, List.pairwise_singleton _ _, ?_⟩
  intro b hb c hc hpb hqc
  rw [List.mem_singleton] at hc
  subst hc
  exact ha hqc b hb hpb

/-- Where nothing of the kind `p` has been done or is appended, anything may be. -/
theorem NoneAfter.append_of_none (h : NoneAfter p q trace) (hnone : ∀ a ∈ trace, ¬ p a)
    (hnew : ∀ a ∈ new, ¬ p a) : NoneAfter p q (trace ++ new) := by
  apply List.pairwise_append.mpr
  refine ⟨h, List.pairwise_of_forall_mem_list fun a ha b _ hpa => absurd hpa (hnew a ha), ?_⟩
  intro a ha b _ hpa
  exact absurd hpa (hnone a ha)

/-- Actions of other kinds than `p` may be appended, and if one of the kind `p` has been done,
of other kinds than `q`. -/
theorem NoneAfter.append (h : NoneAfter p q trace) (hp : ∀ a ∈ new, ¬ p a)
    (hq : ∀ a ∈ trace, p a → ∀ b ∈ new, ¬ q b) : NoneAfter p q (trace ++ new) := by
  apply List.pairwise_append.mpr
  refine ⟨h, List.pairwise_of_forall_mem_list fun a ha b _ hpa => absurd hpa (hp a ha), ?_⟩
  exact fun a ha b hb hpa => hq a ha hpa b hb

/-- An action of another kind than `q` may be appended. -/
theorem NoneAfter.concat_other (h : NoneAfter p q trace) (ha : ¬ q a) :
    NoneAfter p q (trace ++ [a]) :=
  h.concat fun hqa => absurd hqa ha

end Traces
