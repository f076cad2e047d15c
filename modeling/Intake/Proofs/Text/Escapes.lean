import Intake.Proofs.Json.Printer
import Intake.Text.Lines
import Intake.Text.Quoted

namespace Intake.Text

/-- The text has the character that starts an escape of a terminal. -/
def Escapes (s : String) : Prop := '\x1b' ∈ s.toList

instance (s : String) : Decidable (Escapes s) := inferInstanceAs (Decidable ('\x1b' ∈ s.toList))

@[simp] theorem escapes_append (s t : String) : Escapes (s ++ t) ↔ Escapes s ∨ Escapes t := by
  unfold Escapes
  rw [String.toList_append, List.mem_append]

theorem not_escapes_of_uncontrolled {s : String} (h : Uncontrolled s.toList) : ¬ Escapes s := by
  intro hmem
  exact absurd (h _ hmem) (by decide)

/-- The characters of a literal text can be looked at without encoding it first. -/
theorem not_escapes_ofList {cs : List Char} (h : '\x1b' ∉ cs) : ¬ Escapes (String.ofList cs) := by
  unfold Escapes
  rwa [String.toList_ofList]

/-- Nothing comes into a text by putting its lines together. -/
theorem escapes_lines (lines : List String) :
    Escapes (String.intercalate "\n" lines) ↔ ∃ l ∈ lines, Escapes l := by
  have hfeed : ¬ Escapes "\n" := by decide
  induction lines with
  | nil => simp [Escapes]
  | cons l rest ih =>
    cases rest with
    | nil => simp
    | cons m rest =>
      have hcons : (∃ k ∈ l :: m :: rest, Escapes k) ↔
          Escapes l ∨ ∃ k ∈ m :: rest, Escapes k := by simp
      rw [String.intercalate_cons_cons, escapes_append, escapes_append, or_iff_left hfeed, hcons]
      exact or_congr_right ih

/-- Lines have no characters but those of their text. -/
theorem subset_of_mem_lines {cs l : List Char} (hl : l ∈ lines cs) : l ⊆ cs := by
  induction cs generalizing l with
  | nil => cases hl
  | cons c cs ih =>
    unfold lines at hl
    split at hl
    · rcases List.mem_cons.mp hl with rfl | hl
      · exact List.nil_subset _
      · exact List.subset_cons_of_subset c (ih hl)
    · -- The first line begins with the character, unless that is taken off before a line feed.
      split at hl
      · rename_i first rest heq
        have hfirst := ih (heq ▸ List.mem_cons_self)
        rcases List.mem_cons.mp hl with rfl | hl
        · split
          · exact List.subset_cons_of_subset c hfirst
          · exact List.cons_subset_cons c hfirst
        · exact List.subset_cons_of_subset c (ih (heq ▸ List.mem_cons_of_mem _ hl))
      · rename_i first rest _ heq
        rcases List.mem_cons.mp hl with rfl | hl
        · exact List.cons_subset_cons c (ih (heq ▸ List.mem_cons_self))
        · exact List.subset_cons_of_subset c (ih (heq ▸ List.mem_cons_of_mem _ hl))
      · rw [List.mem_singleton.mp hl]
        exact List.cons_subset_cons c (List.nil_subset _)

section Quoted

theorem uncontrolled_hexText (n : Nat) : Uncontrolled (hexText n) := by
  induction n using hexText.induct with
  | case1 n hn =>
    rw [hexText, if_pos hn]
    simpa using Json.hexDigit_ge hn
  | case2 n hn ih =>
    rw [hexText, if_neg hn, Uncontrolled.append_iff]
    exact ⟨ih, by simpa using Json.hexDigit_ge (Nat.mod_lt n (by decide))⟩

theorem uncontrolled_quoteChar (c : Char) : Uncontrolled (quoteChar c) := by
  by_cases hc : c.toNat < 0x20
  · have hshapeless : isShapeless c = true := by
      unfold isShapeless
      rw [if_pos (by omega)]
      simp [hc]
    unfold quoteChar
    rw [if_pos hshapeless]
    repeat' split
    all_goals simp [uncontrolled_hexText]
  · have hplain : Uncontrolled [c] := by simpa using Nat.le_of_not_lt hc
    unfold quoteChar
    repeat' split
    all_goals simp [hplain, uncontrolled_hexText]

/-- A text in quotes is free of controls, whatever text it is. -/
theorem uncontrolled_quote (s : String) : Uncontrolled (quote s).toList := by
  have hbody : Uncontrolled (s.toList.flatMap quoteChar) := by
    intro c hc
    obtain ⟨d, -, hd⟩ := List.mem_flatMap.mp hc
    exact uncontrolled_quoteChar d c hd
  unfold quote
  rw [String.toList_ofList]
  simp [hbody]

end Quoted

end Intake.Text
