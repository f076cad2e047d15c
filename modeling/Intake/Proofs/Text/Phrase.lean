import Intake.Text.Blank
import Mathlib.Data.List.Infix

namespace Intake.Text

/-- The search finds what is there. -/
theorem occurs_iff {needle cs : List Char} : occurs needle cs = true ↔ needle <:+: cs := by
  induction cs with
  | nil => rw [occurs, List.isEmpty_iff, List.infix_nil]
  | cons c cs ih =>
    rw [occurs, Bool.or_eq_true, List.isPrefixOf_iff_prefix, ih, List.infix_cons_iff]

theorem prefix_of_foreign {needle ys : List Char} {d : Char} (hd : d ∉ needle)
    (h : needle <+: d :: ys) : needle = [] := by
  cases needle with
  | nil => rfl
  | cons c rest =>
    obtain ⟨rfl, -⟩ := List.cons_prefix_cons.mp h
    exact (hd List.mem_cons_self).elim

/-- A phrase stands on one side of a character that it has not. -/
theorem infix_around {needle xs ys : List Char} {d : Char} (hd : d ∉ needle) :
    needle <:+: xs ++ d :: ys ↔ needle <:+: xs ∨ needle <:+: ys := by
  constructor
  · intro h
    rcases List.infix_append_iff.mp h with h | h | ⟨front, back, rfl, hfront, hback⟩
    · exact .inl h
    · rcases List.infix_cons_iff.mp h with h | h
      · rw [prefix_of_foreign hd h]
        exact .inl List.nil_infix
      · exact .inr h
    · have hnone := prefix_of_foreign (fun hm => hd (List.mem_append_right front hm)) hback
      rw [hnone, List.append_nil]
      exact .inl hfront.isInfix
  · rintro (h | h)
    · exact h.trans (List.prefix_append _ _).isInfix
    · exact h.trans ((List.suffix_cons d ys).trans (List.suffix_append xs _)).isInfix

/-- A gap of characters that the phrase does not have is not bridged by it. -/
theorem infix_gap {needle xs gap ys : List Char} (hne : gap ≠ [])
    (hgap : ∀ d ∈ gap, d ∉ needle) :
    needle <:+: xs ++ (gap ++ ys) ↔ needle <:+: xs ∨ needle <:+: ys := by
  induction gap generalizing xs with
  | nil => exact (hne rfl).elim
  | cons d gap ih =>
    obtain ⟨hd, hrest⟩ := List.forall_mem_cons.mp hgap
    rw [List.cons_append, infix_around hd]
    cases gap with
    | nil => rfl
    | cons e gap =>
      have hinner : needle <:+: [] ++ (e :: gap ++ ys) ↔ needle <:+: [] ∨ needle <:+: ys :=
        ih (List.cons_ne_nil e gap) hrest
      rw [List.nil_append] at hinner
      rw [hinner, List.infix_nil, ← or_assoc]
      refine or_congr_left (or_iff_left_of_imp ?_)
      rintro rfl
      exact List.nil_infix

/-- A phrase with a character that the text has not is not in the text. -/
theorem not_infix_of_foreign {needle cs : List Char} {c : Char} (hc : c ∈ needle)
    (hout : c ∉ cs) : ¬ needle <:+: cs := fun h => hout (h.subset hc)

end Intake.Text
