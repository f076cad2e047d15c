import Intake.Json.Printer
import Intake.Proofs.Decimal

namespace Intake

/-- No control character below U+0020 is in the text. -/
def Uncontrolled (cs : List Char) : Prop := ∀ c ∈ cs, 0x20 ≤ c.toNat

namespace Uncontrolled

@[simp] theorem nil : Uncontrolled [] := by
  intro c hc
  cases hc

@[simp] theorem cons_iff (c : Char) (cs : List Char) :
    Uncontrolled (c :: cs) ↔ 0x20 ≤ c.toNat ∧ Uncontrolled cs := List.forall_mem_cons

@[simp] theorem append_iff (cs ds : List Char) :
    Uncontrolled (cs ++ ds) ↔ Uncontrolled cs ∧ Uncontrolled ds := List.forall_mem_append

theorem subset {cs ds : List Char} (h : Uncontrolled ds) (hs : cs ⊆ ds) : Uncontrolled cs :=
  fun c hc => h c (hs hc)

theorem replicate (n : Nat) {c : Char} (h : 0x20 ≤ c.toNat) :
    Uncontrolled (List.replicate n c) := by
  intro d hd
  rw [List.eq_of_mem_replicate hd]
  exact h

end Uncontrolled

namespace Decimal

theorem digits_lt (n : Nat) : ∀ d ∈ digits n, d < 10 := by
  induction n using digits.induct with
  | case1 n hn =>
    rw [digits, if_pos hn]
    simpa using hn
  | case2 n hn ih =>
    rw [digits, if_neg hn, List.forall_mem_append]
    refine ⟨ih, ?_⟩
    simpa using Nat.mod_lt n (by decide)

theorem uncontrolled_digits {ds : List Nat} (h : ∀ d ∈ ds, d < 10) :
    Uncontrolled (ds.map digitChar) := by
  intro c hc
  obtain ⟨d, hd, rfl⟩ := List.mem_map.mp hc
  rw [toNat_digitChar (h d hd)]
  omega

theorem uncontrolled_text (n : Nat) : Uncontrolled (text n) := uncontrolled_digits (digits_lt n)

theorem isDigit_of_mem_text {n : Nat} {c : Char} (h : c ∈ text n) : isDigit c = true := by
  obtain ⟨d, hd, rfl⟩ := List.mem_map.mp h
  exact isDigit_digitChar (digits_lt n d hd)

theorem text_ne_nil (n : Nat) : text n ≠ [] := by
  unfold text digits
  split <;> simp

theorem uncontrolled_intText (n : Int) : Uncontrolled (intText n) := by
  unfold intText
  split
  · exact (Uncontrolled.cons_iff _ _).mpr ⟨by decide, uncontrolled_text _⟩
  · exact uncontrolled_text _

theorem search_digits_lt (b : Binary) (x : Int) (count n : Nat) :
    ∀ d ∈ (search b x count n).digits, d < 10 := by
  induction count generalizing n with
  | zero => exact digits_lt _
  | succ count ih =>
    unfold search
    dsimp only
    split
    · rename_i point _
      intro d hd
      have hsub := (List.dropWhile_sublist (· == 0)).subset (List.mem_reverse.mp hd)
      exact digits_lt point d (List.mem_reverse.mp hsub)
    · exact ih (n + 1)

theorem shortest_digits_lt (f : Float) : ∀ d ∈ (shortest f).digits, d < 10 := by
  unfold shortest
  dsimp only
  split
  · decide
  · exact search_digits_lt _ _ _ _

theorem Layout.uncontrolled_write (l : Layout) {s : Scientific} (h : ∀ d ∈ s.digits, d < 10) :
    Uncontrolled (l.write s) := by
  have hds := uncontrolled_digits h
  unfold Layout.write
  dsimp only
  generalize s.digits.map digitChar = ds at hds
  split
  · rw [Uncontrolled.append_iff, Uncontrolled.cons_iff, Uncontrolled.cons_iff]
    refine ⟨?_, by decide, ?_, uncontrolled_text _⟩
    · split
      · rename_i d e rest
        obtain ⟨hd, htail⟩ := (Uncontrolled.cons_iff _ _).mp hds
        simp [hd, (Uncontrolled.cons_iff _ _).mp htail]
      · exact hds
    · split <;> decide
  · split
    · simp [hds, Uncontrolled.replicate]
    · have htake := hds.subset (List.take_subset (s.exponent.toNat + 1) ds)
      have hdrop := hds.subset (List.drop_subset (s.exponent.toNat + 1) ds)
      rw [Uncontrolled.append_iff, Uncontrolled.append_iff, Uncontrolled.cons_iff]
      refine ⟨⟨htake, .replicate _ (by decide)⟩, by decide, ?_⟩
      split
      · simp
      · exact hdrop

/-- A double is written without control characters, whatever the layout. -/
theorem Layout.uncontrolled_floatText (l : Layout) (f : Float) : Uncontrolled (l.floatText f) := by
  have hbody := l.uncontrolled_write (shortest_digits_lt f)
  unfold Layout.floatText
  dsimp only
  split
  · exact (Uncontrolled.cons_iff _ _).mpr ⟨by decide, hbody⟩
  · exact hbody

end Decimal

namespace Json

theorem hexDigit_ge {d : Nat} (h : d < 16) : 0x20 ≤ (Text.hexDigit d).toNat := by
  have hall : ∀ k < 16, 0x20 ≤ (Text.hexDigit k).toNat := by decide
  exact hall d h

/-- Escaping leaves no control character. -/
theorem uncontrolled_escape (c : Char) : Uncontrolled (escape c) := by
  by_cases hc : c.toNat < 0x20
  · have hhigh := hexDigit_ge (d := c.toNat / 16) (by omega)
    have hlow := hexDigit_ge (Nat.mod_lt c.toNat (by decide : 0 < 16))
    unfold escape
    repeat' split
    all_goals simp [hhigh, hlow]
  · have hplain : Uncontrolled [c] := by simpa using Nat.le_of_not_lt hc
    unfold escape
    rw [if_neg hc]
    repeat' split
    all_goals simp [hplain]

theorem uncontrolled_quoted (s : String) : Uncontrolled (quoted s) := by
  have hbody : Uncontrolled (s.toList.flatMap escape) := by
    intro c hc
    obtain ⟨d, -, hd⟩ := List.mem_flatMap.mp hc
    exact uncontrolled_escape d c hd
  simp [quoted, hbody]

theorem uncontrolled_numberText (n : Number) : Uncontrolled (numberText n) := by
  cases n with
  | int n lower upper => exact Decimal.uncontrolled_intText n
  | float f finite => exact floatLayout.uncontrolled_floatText f

structure Spacing.Adds (sp : Spacing) (p : Char → Prop) : Prop where
  line : ∀ level, ∀ c ∈ sp.line level, p c
  colon : ∀ c ∈ sp.afterColon, p c

theorem Spacing.none_adds (p : Char → Prop) : Spacing.none.Adds p :=
  ⟨by simp [Spacing.none], by simp [Spacing.none]⟩

section Layout

variable {p : Char → Prop} {sp : Spacing} (above : ∀ c : Char, 0x20 ≤ c.toNat → p c)
  (layout : sp.Adds p)
include above layout

mutual

/-- Whatever holds of the layout's own characters and of all that are no controls holds of every
character of a written value. -/
theorem forall_mem_write (level : Nat) (v : Json) : ∀ c ∈ write sp level v, p c := by
  have hplain : ∀ cs, Uncontrolled cs → ∀ c ∈ cs, p c := fun cs h c hc => above c (h c hc)
  match v with
  | .null => exact hplain _ (by simp [write])
  | .bool true => exact hplain _ (by simp [write])
  | .bool false => exact hplain _ (by simp [write])
  | .num n => exact hplain _ (uncontrolled_numberText n)
  | .str s => exact hplain _ (uncontrolled_quoted s)
  | .arr [] => exact hplain _ (by simp [write])
  | .arr (v :: rest) =>
    have hv := forall_mem_write (level + 1) v
    have hrest := forall_mem_writeItems (level + 1) rest
    simp only [write, List.forall_mem_cons, List.forall_mem_append]
    exact ⟨above _ (by decide), ⟨⟨⟨layout.line _, hv⟩, hrest⟩, layout.line _⟩,
      above _ (by decide), by simp⟩
  | .obj [] => exact hplain _ (by simp [write])
  | .obj ((k, v) :: rest) =>
    have hk := hplain _ (uncontrolled_quoted k)
    have hv := forall_mem_write (level + 1) v
    have hrest := forall_mem_writeMembers (level + 1) rest
    simp only [write, List.forall_mem_cons, List.forall_mem_append]
    exact ⟨above _ (by decide), ⟨⟨⟨⟨⟨layout.line _, hk⟩, above _ (by decide), layout.colon⟩, hv⟩,
      hrest⟩, layout.line _⟩, above _ (by decide), by simp⟩

theorem forall_mem_writeItems (level : Nat) (items : List Json) :
    ∀ c ∈ writeItems sp level items, p c := by
  match items with
  | [] => simp [writeItems]
  | v :: rest =>
    have hv := forall_mem_write level v
    have hrest := forall_mem_writeItems level rest
    simp only [writeItems, List.forall_mem_cons, List.forall_mem_append]
    exact ⟨above _ (by decide), ⟨layout.line _, hv⟩, hrest⟩

theorem forall_mem_writeMembers (level : Nat) (ms : List (String × Json)) :
    ∀ c ∈ writeMembers sp level ms, p c := by
  match ms with
  | [] => simp [writeMembers]
  | (k, v) :: rest =>
    have hk : ∀ c ∈ quoted k, p c := fun c hc => above c (uncontrolled_quoted k c hc)
    have hv := forall_mem_write level v
    have hrest := forall_mem_writeMembers level rest
    simp only [writeMembers, List.forall_mem_cons, List.forall_mem_append]
    exact ⟨above _ (by decide), ⟨⟨⟨layout.line _, hk⟩, above _ (by decide), layout.colon⟩, hv⟩,
      hrest⟩

end

end Layout

/-- A compact text has no line break, nor any other control character. -/
theorem uncontrolled_compact (v : Json) : Uncontrolled v.compact.toList := by
  unfold compact
  rw [String.toList_ofList]
  exact forall_mem_write (fun _ h => h) (Spacing.none_adds _) 0 v

end Json

end Intake
