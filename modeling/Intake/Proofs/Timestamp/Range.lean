import Intake.Proofs.Decimal
import Intake.Proofs.Demands
import Intake.Timestamp.Printer
import Intake.Timestamp.Reader

namespace Intake.Timestamp

open Decimal

structure Regular (t : Timestamp) : Prop where
  year : 0 ≤ t.date.year ∧ t.date.year ≤ 9999
  month : 1 ≤ t.date.month ∧ t.date.month ≤ 12
  day : 1 ≤ t.date.day ∧ t.date.day ≤ daysInMonth t.date.year t.date.month
  hour : t.hour ≤ 23
  minute : t.minute ≤ 59
  second : t.second ≤ 59
  nanosecond : t.nanosecond < 1000000000
  offset : ∃ m : Int, t.offset = m * 60 ∧ m.natAbs ≤ 23 * 60 + 59

theorem takeDigits_append {ds : List Char} (h : ∀ d ∈ ds, isDigit d = true) (acc : Nat)
    (rest : List Char) :
    takeDigits acc ds.length (ds ++ rest) = some (valueFrom acc ds, rest) := by
  induction ds generalizing acc with
  | nil => rfl
  | cons d ds ih =>
    have hd := h d (by simp)
    simp only [List.length_cons, List.cons_append, takeDigits, hd, ↓reduceIte]
    exact ih (fun e he => h e (by simp [he])) _

/-- Whatever was taken are the first characters of the text, all of them digits. -/
theorem takeDigits_eq_some {acc n v : Nat} {cs rest : List Char}
    (h : takeDigits acc n cs = some (v, rest)) : ∃ ds, ds.length = n ∧
      (∀ d ∈ ds, isDigit d = true) ∧ cs = ds ++ rest ∧ v = valueFrom acc ds := by
  induction n generalizing acc cs with
  | zero =>
    cases h
    exact ⟨[], rfl, by simp, rfl, rfl⟩
  | succ n ih =>
    cases cs with
    | nil => cases h
    | cons c cs =>
      unfold takeDigits at h
      split at h
      · rename_i hc
        obtain ⟨ds, hl, hall, rfl, rfl⟩ := ih h
        exact ⟨c :: ds, by simp [hl], by simpa [hc] using hall, rfl, rfl⟩
      · cases h

theorem component_eq_ok (c : TimeComponent) (n v : Nat) (cs rest : List Char) :
    component c n cs = .ok (v, rest) ↔ ∃ ds, ds.length = n ∧
      (∀ d ∈ ds, isDigit d = true) ∧ cs = ds ++ rest ∧ v = valueFrom 0 ds := by
  unfold component
  constructor
  · intro h
    split at h
    · rename_i hf
      cases h
      exact takeDigits_eq_some hf
    · cases h
  · intro h
    obtain ⟨ds, rfl, hall, rfl, rfl⟩ := h
    rw [takeDigits_append hall]

theorem component_lt {c : TimeComponent} {n : Nat} {cs : List Char} {p : Nat × List Char}
    (h : component c n cs = .ok p) : p.1 < tenTo n := by
  obtain ⟨ds, hl, hall, -, hv⟩ := (component_eq_ok c n p.1 cs p.2).mp h
  have := valueFrom_lt hall 0
  rwa [hl, ← hv, Nat.zero_add, Nat.one_mul] at this

/-- No more than nine digits count, so a fraction stays below one second. -/
theorem nanoseconds_lt {ds : List Char} (h : ∀ d ∈ ds, isDigit d = true) :
    nanoseconds ds < 1000000000 := by
  have hall : ∀ d ∈ ds.take 9, isDigit d = true := fun d hd => h d (List.mem_of_mem_take hd)
  have hlt := valueFrom_lt hall 0
  rw [Nat.zero_add, Nat.one_mul, List.length_take] at hlt
  calc
    nanoseconds ds = valueFrom 0 (ds.take 9) * tenTo (9 - ds.length) := rfl
    _ < tenTo (min 9 ds.length) * tenTo (9 - ds.length) :=
      Nat.mul_lt_mul_of_pos_right hlt (tenTo_pos _)
    _ = 1000000000 := by
      rw [← tenTo_add, show min 9 ds.length + (9 - ds.length) = 9 by omega]
      rfl

theorem fraction_lt {cs : List Char} {p : Nat × List Char} (h : fraction cs = .ok p) :
    p.1 < 1000000000 := by
  unfold fraction at h
  split at h
  · split at h
    · cases h
    · rename_i rest _ _ _
      cases h
      exact nanoseconds_lt (fun d hd => List.all_eq_true.mp List.all_takeWhile d hd)
  · cases h
    exact Nat.succ_pos _

theorem offsetParts_bound {east : Bool} {cs : List Char} {p : Int × List Char}
    (h : offsetParts east cs = .ok p) : p.1.natAbs ≤ 23 * 60 + 59 := by
  unfold offsetParts at h
  simp only [except_bind_eq_ok, except_guard_eq_ok, except_pure_eq_ok] at h
  obtain ⟨hours, -, hh, -, -, minutes, -, hm, rfl⟩ := h
  cases east <;> simp only [Bool.false_eq_true, ↓reduceIte] <;> omega

/-- No offset of a day or more is read. -/
theorem offsetMinutes_bound {cs : List Char} {p : Int × List Char}
    (h : offsetMinutes cs = .ok p) : p.1.natAbs ≤ 23 * 60 + 59 := by
  unfold offsetMinutes at h
  split at h
  · cases h
    exact Nat.zero_le _
  · cases h
    exact Nat.zero_le _
  · exact offsetParts_bound h
  · exact offsetParts_bound h
  · cases h

/-- What the form alone guarantees, before any range is looked at. -/
theorem readWritten_bounds {cs : List Char} {w : Written} (h : readWritten cs = .ok w) :
    w.year ≤ 9999 ∧ 1 ≤ w.month ∧ w.nanosecond < 1000000000 ∧
      w.offset.natAbs ≤ 23 * 60 + 59 := by
  unfold readWritten at h
  simp only [except_bind_eq_ok, except_guard_eq_ok, except_pure_eq_ok] at h
  obtain ⟨year, hy, -, -, month, -, hm, -, -, day, -, -, -, hour, -, -, -, minute, -, -, -,
    second, -, frac, hf, offset, ho, -, rfl⟩ := h
  have hlt := component_lt hy
  exact ⟨by simpa using Nat.le_of_lt_succ hlt, Nat.pos_of_ne_zero hm, fraction_lt hf,
    offsetMinutes_bound ho⟩

/-- What passes the check has every component in its range. -/
theorem regular_of_check {w : Written} {t : Timestamp} (h : check w = .ok t)
    (hy : w.year ≤ 9999) (hm : 1 ≤ w.month) (hn : w.nanosecond < 1000000000)
    (ho : w.offset.natAbs ≤ 23 * 60 + 59) : t.Regular := by
  unfold check at h
  simp only [except_guard_eq_ok, except_pure_eq_ok] at h
  obtain ⟨hmonth, hday, hhour, hminute, hsecond, -, rfl⟩ := h
  simp only [Bool.or_eq_true, decide_eq_true_eq, not_or] at hday
  exact {
    year := ⟨Int.natCast_nonneg _, Int.ofNat_le.mpr hy⟩
    month := ⟨hm, by simpa using hmonth⟩
    day := ⟨Nat.pos_of_ne_zero hday.1, by simpa using hday.2⟩
    hour := by simpa using hhour
    minute := by simpa using hminute
    second := by
      dsimp only
      split <;> omega
    nanosecond := by
      dsimp only
      split
      · decide
      · exact hn
    offset := ⟨w.offset, rfl, ho⟩ }

/-- Whatever is read is regular: a year of four digits, and an offset below a day. -/
theorem read_regular {text : String} {t : Timestamp} (h : read text = .ok t) : t.Regular := by
  unfold read at h
  simp only [except_bind_eq_ok] at h
  obtain ⟨w, hw, ht⟩ := h
  obtain ⟨hy, hm, hn, ho⟩ := readWritten_bounds hw
  exact regular_of_check ht hy hm hn ho

/-- The format has room for every regular timestamp. -/
theorem Regular.write_eq {t : Timestamp} (h : t.Regular) :
    t.write = .ok (String.ofList t.written) := by
  obtain ⟨m, hm, hb⟩ := h.offset
  have hy : ¬ (t.date.year < 0 ∨ 9999 < t.date.year) := by
    have := h.year
    omega
  have habs : t.offset.natAbs = m.natAbs * 60 := by rw [hm, Int.natAbs_mul]; rfl
  have hday : ¬ 24 * 3600 ≤ t.offset.natAbs := by omega
  have hsec : ¬ t.offset.natAbs % 60 ≠ 0 := by omega
  simp only [write, Bool.or_eq_true, decide_eq_true_eq, hy, ↓reduceIte, hday, hsec]

end Intake.Timestamp
