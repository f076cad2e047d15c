import Intake.Text.Blank

namespace Intake.Text

def Loose (s : String) : Prop :=
  s = "" ∨ (∃ c, s.toList.head? = some c ∧ isBlank c = true) ∨
    (∃ c, s.toList.getLast? = some c ∧ isBlank c = true)

theorem trimLeft_eq_self (cs : List Char) :
    trimLeft cs = cs ↔ ∀ c, cs.head? = some c → isBlank c = false := by
  cases cs with
  | nil => simp [trimLeft]
  | cons c cs =>
    unfold trimLeft
    cases hc : isBlank c with
    | false => simp [hc]
    | true =>
      have hshort := (List.dropWhile_suffix isBlank (l := cs)).length_le
      constructor
      · intro h
        rw [List.dropWhile_cons_of_pos hc] at h
        rw [h, List.length_cons] at hshort
        omega
      · intro h
        rw [h c rfl] at hc
        cases hc

theorem trimRight_eq_self (cs : List Char) :
    trimRight cs = cs ↔ ∀ c, cs.getLast? = some c → isBlank c = false := by
  have hreverse : trimRight cs = cs ↔ trimLeft cs.reverse = cs.reverse := by
    unfold trimRight trimLeft
    exact List.reverse_eq_iff
  rw [hreverse, trimLeft_eq_self, List.head?_reverse]

theorem length_trimRight_le (cs : List Char) : (trimRight cs).length ≤ cs.length := by
  have h := (List.dropWhile_suffix isBlank (l := cs.reverse)).length_le
  simpa [trimRight] using h

/-- What is cut off at one end cannot be made up for at the other. -/
theorem trimmed_eq_self (cs : List Char) :
    trimRight (trimLeft cs) = cs ↔ trimLeft cs = cs ∧ trimRight cs = cs := by
  constructor
  · intro h
    have hright := length_trimRight_le (trimLeft cs)
    have hsuffix : trimLeft cs <:+ cs := List.dropWhile_suffix isBlank
    rw [h] at hright
    have hleft : trimLeft cs = cs :=
      hsuffix.eq_of_length (Nat.le_antisymm hsuffix.length_le hright)
    rw [hleft] at h
    exact ⟨hleft, h⟩
  · intro h
    rw [h.1, h.2]

/-- The check refuses exactly the loose texts. -/
theorem isTight_iff (s : String) : isTight s = true ↔ ¬ Loose s := by
  have htrim : trim s = s ↔ trimRight (trimLeft s.toList) = s.toList := by
    unfold trim
    rw [← String.toList_inj, String.toList_ofList]
  simp only [isTight, Bool.and_eq_true, Bool.not_eq_true', beq_iff_eq, String.isEmpty_eq_false_iff,
    htrim, trimmed_eq_self, trimLeft_eq_self, trimRight_eq_self, Loose, not_or, not_exists, not_and,
    Bool.not_eq_true, ne_eq]

end Intake.Text
