import Intake.Decimal.Natural

namespace Intake.Decimal

theorem isDigit_iff (c : Char) : isDigit c = true ↔ 48 ≤ c.toNat ∧ c.toNat ≤ 57 := by
  simp only [isDigit, Bool.and_eq_true, decide_eq_true_eq, Char.le_def, UInt32.le_iff_toNat_le]
  rfl

theorem toNat_digitChar {d : Nat} (h : d < 10) : (digitChar d).toNat = 48 + d := by
  have hall : ∀ k < 10, (digitChar k).toNat = 48 + k := by decide
  exact hall d h

theorem isDigit_digitChar {d : Nat} (h : d < 10) : isDigit (digitChar d) = true := by
  rw [isDigit_iff, toNat_digitChar h]
  omega

theorem digitValue_digitChar {d : Nat} (h : d < 10) : digitValue (digitChar d) = d := by
  rw [digitValue, toNat_digitChar h]
  omega

theorem digitValue_lt {c : Char} (h : isDigit c = true) : digitValue c < 10 := by
  have := (isDigit_iff c).mp h
  unfold digitValue
  omega

@[simp] theorem tenTo_zero : tenTo 0 = 1 := rfl

theorem tenTo_succ (k : Nat) : tenTo (k + 1) = 10 * tenTo k := Nat.pow_succ'

theorem tenTo_add (j k : Nat) : tenTo (j + k) = tenTo j * tenTo k := Nat.pow_add 10 j k

theorem tenTo_pos (k : Nat) : 0 < tenTo k := Nat.pow_pos (by decide)

def valueFrom (acc : Nat) (ds : List Char) : Nat :=
  ds.foldl (fun n d => 10 * n + digitValue d) acc

/-- Digits are taken one run after the other. -/
theorem valueFrom_append (acc : Nat) (ds es : List Char) :
    valueFrom acc (ds ++ es) = valueFrom (valueFrom acc ds) es := by
  simp [valueFrom]

/-- So many digits add less than one unit of the place before them. -/
theorem valueFrom_lt {ds : List Char} (h : ∀ d ∈ ds, isDigit d = true) (acc : Nat) :
    valueFrom acc ds < (acc + 1) * tenTo ds.length := by
  induction ds generalizing acc with
  | nil => simp [valueFrom]
  | cons d ds ih =>
    have hd := digitValue_lt (h d (by simp))
    have ht := ih (fun e he => h e (by simp [he])) (10 * acc + digitValue d)
    have hle : (10 * acc + digitValue d + 1) * tenTo ds.length ≤
        (10 * (acc + 1)) * tenTo ds.length := Nat.mul_le_mul_right _ (by omega)
    calc
      valueFrom acc (d :: ds) < (10 * acc + digitValue d + 1) * tenTo ds.length := ht
      _ ≤ (10 * (acc + 1)) * tenTo ds.length := hle
      _ = (acc + 1) * tenTo (d :: ds).length := by
        rw [List.length_cons, tenTo_succ, Nat.mul_comm 10, Nat.mul_assoc]

theorem length_padded (w n : Nat) : (padded w n).length = w := by
  induction w generalizing n with
  | zero => rfl
  | succ w ih => simp [padded, ih]

theorem isDigit_of_mem_padded {w n : Nat} {c : Char} (h : c ∈ padded w n) : isDigit c = true := by
  induction w generalizing n with
  | zero => cases h
  | succ w ih =>
    rcases List.mem_append.mp h with h | h
    · exact ih h
    · rw [List.mem_singleton.mp h]
      exact isDigit_digitChar (Nat.mod_lt _ (by decide))

/-- A number written to a width has its value back, as far as the width holds it. -/
theorem valueFrom_padded (acc w n : Nat) :
    valueFrom acc (padded w n) = acc * tenTo w + n % tenTo w := by
  induction w generalizing n with
  | zero => simp [padded, valueFrom, Nat.mod_one]
  | succ w ih =>
    have hd : valueFrom (valueFrom acc (padded w (n / 10))) [digitChar (n % 10)] =
        10 * valueFrom acc (padded w (n / 10)) + n % 10 := by
      simp [valueFrom, digitValue_digitChar (Nat.mod_lt n (by decide : 0 < 10))]
    have hm : n % tenTo (w + 1) = n % 10 + 10 * (n / 10 % tenTo w) := by
      rw [tenTo_succ, Nat.mod_mul]
    rw [padded, valueFrom_append, hd, ih, hm, tenTo_succ]
    have : acc * (10 * tenTo w) = 10 * (acc * tenTo w) := by
      rw [Nat.mul_left_comm]
    omega

theorem valueFrom_zeros (acc k : Nat) :
    valueFrom acc (List.replicate k '0') = acc * tenTo k := by
  induction k generalizing acc with
  | zero => simp [valueFrom]
  | succ k ih =>
    have hstep : valueFrom acc (List.replicate (k + 1) '0') =
        valueFrom (10 * acc) (List.replicate k '0') := rfl
    rw [hstep, ih, tenTo_succ, Nat.mul_comm 10 acc, Nat.mul_assoc]

/-- Digits are what is left of them without the zeros at their end, and those zeros. -/
theorem exists_zeros (ds : List Char) :
    ∃ k, ds = (ds.reverse.dropWhile (· == '0')).reverse ++ List.replicate k '0' := by
  refine ⟨(ds.reverse.takeWhile (· == '0')).length, ?_⟩
  have hz : (ds.reverse.takeWhile (· == '0')).reverse =
      List.replicate (ds.reverse.takeWhile (· == '0')).length '0' := by
    rw [List.eq_replicate_iff]
    refine ⟨List.length_reverse, ?_⟩
    intro c hc
    simpa using List.all_eq_true.mp List.all_takeWhile c (List.mem_reverse.mp hc)
  rw [← hz, ← List.reverse_append, List.takeWhile_append_dropWhile, List.reverse_reverse]

end Intake.Decimal
