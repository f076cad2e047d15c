import Intake.Proofs.Timestamp.Range

namespace Intake.Timestamp

open Decimal

/-- A component is read back from its digits. -/
theorem component_padded (c : TimeComponent) {w n : Nat} (h : n < tenTo w) (rest : List Char) :
    component c w (padded w n ++ rest) = .ok (n, rest) := by
  rw [component_eq_ok]
  refine ⟨padded w n, length_padded w n, fun d hd => isDigit_of_mem_padded hd, rfl, ?_⟩
  rw [valueFrom_padded, Nat.zero_mul, Nat.zero_add, Nat.mod_eq_of_lt h]

/-- Two digits are enough for everything but the year. -/
theorem component_two (c : TimeComponent) {n : Nat} (h : n ≤ 59) (rest : List Char) :
    component c 2 (padded 2 n ++ rest) = .ok (n, rest) :=
  component_padded c (Nat.lt_of_le_of_lt h (by decide)) rest

/-- Nothing that follows a fraction could be taken for a part of it. -/
theorem offsetText_head (offset : Int) :
    ∃ c tail, offsetText offset = c :: tail ∧ isDigit c = false ∧ c ≠ '.' := by
  unfold offsetText
  split
  · exact ⟨'Z', [], rfl, by decide, by decide⟩
  · split
    · exact ⟨'-', _, rfl, by decide, by decide⟩
    · exact ⟨'+', _, rfl, by decide, by decide⟩

/-- The zeros that are not written count for nothing when a fraction is read. -/
theorem nanoseconds_fractionDigits {n : Nat} (h : n < 1000000000) :
    nanoseconds ((padded 9 n).reverse.dropWhile (· == '0')).reverse = n := by
  -- The factor that reading applies to a short fraction makes up for the `k` zeros cut off.
  obtain ⟨k, hk⟩ := exists_zeros (padded 9 n)
  generalize ((padded 9 n).reverse.dropWhile (· == '0')).reverse = ds at hk
  have hlen : ds.length + k = 9 := by
    have := congrArg List.length hk
    simpa [length_padded] using this.symm
  have hval : valueFrom 0 ds * tenTo k = n := by
    have hp := valueFrom_padded 0 9 n
    have hn : n % tenTo 9 = n := Nat.mod_eq_of_lt h
    rw [hk, valueFrom_append, valueFrom_zeros, hn] at hp
    simpa using hp
  have htake : ds.take 9 = ds := List.take_of_length_le (by omega)
  calc
    nanoseconds ds = valueFrom 0 (ds.take 9) * tenTo (9 - ds.length) := rfl
    _ = valueFrom 0 ds * tenTo k := by
      rw [htake]
      congr 2
      omega
    _ = n := hval

/-- A fraction ends where its digits end. -/
theorem fraction_digits {ds : List Char} (hds : ∀ d ∈ ds, isDigit d = true) (hne : ds ≠ [])
    {c : Char} (hc : isDigit c = false) (rest : List Char) :
    fraction ('.' :: (ds ++ c :: rest)) = .ok (nanoseconds ds, c :: rest) := by
  have htake : (ds ++ c :: rest).takeWhile isDigit = ds := by
    rw [List.takeWhile_append_of_pos hds]
    simp [hc]
  have hdrop : (ds ++ c :: rest).dropWhile isDigit = c :: rest := by
    rw [List.dropWhile_append_of_pos hds]
    simp [hc]
  simp only [fraction, htake, hdrop]

/-- The zeros that a fraction is written without are filled in again. -/
theorem fraction_fractionText {n : Nat} (h : n < 1000000000) {c : Char} {rest : List Char}
    (hdigit : isDigit c = false) (hpoint : c ≠ '.') :
    fraction (fractionText n ++ c :: rest) = .ok (n, c :: rest) := by
  unfold fractionText
  split
  · rename_i hz
    subst n
    unfold fraction
    split
    · rename_i hc
      exact (hpoint (List.cons.inj hc).1).elim
    · rfl
  · rename_i hz
    have hn := nanoseconds_fractionDigits h
    have hdigits : ∀ d ∈ ((padded 9 n).reverse.dropWhile (· == '0')).reverse,
        isDigit d = true := by
      intro d hd
      have hm := (List.dropWhile_sublist _).subset (List.mem_reverse.mp hd)
      exact isDigit_of_mem_padded (List.mem_reverse.mp hm)
    generalize ((padded 9 n).reverse.dropWhile (· == '0')).reverse = ds at hn hdigits
    have hne : ds ≠ [] := by
      intro he
      subst ds
      exact hz hn.symm
    rw [List.cons_append, fraction_digits hdigits hne hdigit, hn]

theorem mark_cons (m : Char) (rest : List Char) : mark m (m :: rest) = .ok rest := by
  simp [mark]

/-- Whole minutes below a day are read back with their sign. -/
theorem offsetParts_written (east : Bool) {q : Nat} (h : q ≤ 23 * 60 + 59) :
    offsetParts east (padded 2 (q / 60) ++ ':' :: padded 2 (q % 60)) =
      .ok (if east then (q : Int) else -(q : Int), []) := by
  have hhour : q / 60 ≤ 23 := by omega
  have hminute : q % 60 ≤ 59 := by omega
  have hc : component .offsetMinute 2 (padded 2 (q % 60)) = .ok (q % 60, []) := by
    simpa using component_two .offsetMinute hminute []
  unfold offsetParts
  simp only [except_bind_eq_ok, except_guard_eq_ok, except_pure_eq_ok]
  refine ⟨_, component_two .offsetHour (by omega) _, Nat.not_lt.mpr hhour, _,
    mark_cons ':' _, _, hc, Nat.not_lt.mpr hminute, ?_⟩
  have hq : q / 60 * 60 + q % 60 = q := by omega
  simp only [hq]

/-- A zero offset loses its sign, as `Z`; it is the same offset. -/
theorem offsetMinutes_offsetText {m : Int} (h : m.natAbs ≤ 23 * 60 + 59) :
    offsetMinutes (offsetText (m * 60)) = .ok (m, []) := by
  have hq : (m * 60).natAbs / 60 = m.natAbs := by omega
  unfold offsetText
  split
  · have hm : m = 0 := by omega
    subst m
    rfl
  · simp only [hq]
    split
    · apply (offsetParts_written false h).trans
      have hm : -(m.natAbs : Int) = m := by omega
      simp only [Bool.false_eq_true, ↓reduceIte, hm]
    · apply (offsetParts_written true h).trans
      have hm : (m.natAbs : Int) = m := by omega
      simp only [↓reduceIte, hm]

theorem daysInMonth_le (y : Int) (m : Nat) : daysInMonth y m ≤ 31 := by
  unfold daysInMonth
  repeat' split
  all_goals decide

theorem readWritten_written {t : Timestamp} (h : t.Regular) {m : Int} (hm : t.offset = m * 60)
    (hb : m.natAbs ≤ 23 * 60 + 59) :
    readWritten t.written = .ok ⟨t.date.year.toNat, t.date.month, t.date.day, t.hour, t.minute,
      t.second, t.nanosecond, m⟩ := by
  obtain ⟨c, tail, htail, hdigit, hpoint⟩ := offsetText_head t.offset
  have hfrac : fraction (fractionText t.nanosecond ++ offsetText t.offset) =
      .ok (t.nanosecond, offsetText t.offset) := by
    rw [htail]
    exact fraction_fractionText h.nanosecond hdigit hpoint
  have hyear : t.date.year.toNat < tenTo 4 := by
    have := h.year
    change _ < 10000
    omega
  have hmonth := h.month
  have hday := Nat.le_trans h.day.2 (daysInMonth_le t.date.year t.date.month)
  have hhour := h.hour
  have hminute := h.minute
  have hsecond := h.second
  unfold readWritten written
  simp only [List.append_assoc, List.cons_append, except_bind_eq_ok, except_guard_eq_ok,
    except_pure_eq_ok]
  refine ⟨_, component_padded .year hyear _, _, mark_cons '-' _,
    _, component_two .month (by omega) _, by omega, _, mark_cons '-' _,
    _, component_two .day (by omega) _, _, rfl,
    _, component_two .hour (by omega) _, _, mark_cons ':' _,
    _, component_two .minute (by omega) _, _, mark_cons ':' _,
    _, component_two .second (by omega) _, _, hfrac, (m, []), ?_, by simp, rfl⟩
  rw [hm]
  exact offsetMinutes_offsetText hb

/-- The check lets every timestamp through that is in its ranges. -/
theorem check_regular {t : Timestamp} (h : t.Regular) {m : Int} (hm : t.offset = m * 60) :
    check ⟨t.date.year.toNat, t.date.month, t.date.day, t.hour, t.minute, t.second,
      t.nanosecond, m⟩ = .ok t := by
  have hyear : (t.date.year.toNat : Int) = t.date.year := Int.toNat_of_nonneg h.year.1
  have hleap : t.second ≠ 60 := by
    have := h.second
    omega
  unfold check
  simp only [except_guard_eq_ok, except_pure_eq_ok]
  refine ⟨Nat.not_lt.mpr h.month.2, ?_, Nat.not_lt.mpr h.hour, Nat.not_lt.mpr h.minute,
    Nat.not_lt.mpr (Nat.le_trans h.second (by decide)), ?_, ?_⟩
  · rw [hyear]
    have hpos := h.day.1
    have hle := h.day.2
    simp only [Bool.or_eq_true, decide_eq_true_eq]
    omega
  · simp [hleap]
  · simp [hleap, hyear, ← hm]

/-- Every regular timestamp is what its written form reads as. -/
theorem read_written {t : Timestamp} (h : t.Regular) : read (String.ofList t.written) = .ok t := by
  obtain ⟨m, hm, hb⟩ := h.offset
  simp only [read, String.toList_ofList, readWritten_written h hm hb]
  exact check_regular h hm

end Intake.Timestamp
