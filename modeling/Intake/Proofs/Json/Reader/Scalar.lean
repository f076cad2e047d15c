import Intake.Json.Reader.Value
import Intake.Proofs.Json.Printer

namespace Intake

namespace Json

theorem hexValue_hexDigit {d : Nat} (h : d < 16) : hexValue? (Text.hexDigit d) = some d := by
  have hall : ∀ k < 16, hexValue? (Text.hexDigit k) = some k := by decide
  exact hall d h

theorem readHex_cons {a b c d : Char} {i j k l : Nat} (ha : hexValue? a = some i)
    (hb : hexValue? b = some j) (hc : hexValue? c = some k) (hd : hexValue? d = some l)
    (rest : List Char) :
    readHex (a :: b :: c :: d :: rest) = .ok (((i * 16 + j) * 16 + k) * 16 + l, rest) := by
  have hlong : shorterThan 4 (a :: b :: c :: d :: rest) = false := by
    rw [Bool.eq_false_iff, ne_eq, shorterThan_iff]
    have h1 := a.utf8Size_pos
    have h2 := b.utf8Size_pos
    have h3 := c.utf8Size_pos
    have h4 := d.utf8Size_pos
    simp only [byteLength_cons]
    omega
  simp only [readHex, hlong, Bool.false_eq_true, ↓reduceIte, ha, hb, hc, hd]

/-- A control character is read from its four digits. -/
theorem readUnicode_control {c : Char} (h : c.toNat < 0x20) (rest : List Char) :
    readUnicode ('0' :: '0' :: Text.hexDigit (c.toNat / 16) :: Text.hexDigit (c.toNat % 16) ::
      rest) = .ok (c, rest) := by
  have hhigh := hexValue_hexDigit (d := c.toNat / 16) (by omega)
  have hlow := hexValue_hexDigit (Nat.mod_lt c.toNat (by decide : 0 < 16))
  have hvalue : ((0 * 16 + 0) * 16 + c.toNat / 16) * 16 + c.toNat % 16 = c.toNat := by omega
  have hlead : ¬ 0xD800 ≤ c.toNat := by omega
  have htrail : ¬ 0xDC00 ≤ c.toNat := by omega
  have hzero : hexValue? '0' = some 0 := rfl
  unfold readUnicode
  rw [readHex_cons hzero hzero hhigh hlow, hvalue]
  simp only [bind, Except.bind, hlead, htrail, decide_false, Bool.false_and, Bool.false_eq_true,
    ↓reduceIte, pure, Except.pure, Char.ofNat_toNat]

theorem readString_backslash {acc cs rest : List Char} {c : Char}
    (h : readEscape cs = .ok (c, rest)) :
    readString acc ('\\' :: cs) = readString (c :: acc) rest := by
  rw [readString, if_neg (by decide), if_pos rfl]
  split
  · rename_i e rest' he
    cases h.symm.trans he
    rfl
  · rename_i s he
    cases h.symm.trans he

/-- A character is read from what is written for it. -/
theorem readString_escape (acc : List Char) (c : Char) (rest : List Char) :
    readString acc (escape c ++ rest) = readString (c :: acc) rest := by
  unfold escape
  split
  · subst c
    exact readString_backslash rfl
  split
  · subst c
    exact readString_backslash rfl
  rename_i hquote hslash
  split
  · rename_i hcontrol
    split
    · subst c
      exact readString_backslash rfl
    split
    · subst c
      exact readString_backslash rfl
    split
    · subst c
      exact readString_backslash rfl
    split
    · subst c
      exact readString_backslash rfl
    split
    · subst c
      exact readString_backslash rfl
    · exact readString_backslash (readUnicode_control hcontrol rest)
  · rename_i hplain
    rw [List.singleton_append, readString, if_neg hquote, if_neg hslash, if_neg hplain]

/-- Escaped characters are read back as themselves, up to the closing quote. -/
theorem readString_escapes (acc cs rest : List Char) :
    readString acc (cs.flatMap escape ++ '"' :: rest) =
      .ok (String.ofList (acc.reverse ++ cs), rest) := by
  induction cs generalizing acc with
  | nil =>
    rw [List.flatMap_nil, List.nil_append, readString, if_pos rfl, List.append_nil]
  | cons c cs ih =>
    rw [List.flatMap_cons, List.append_assoc, readString_escape, ih, List.reverse_cons,
      List.append_assoc, List.singleton_append]

theorem readString_quoted (s : String) (rest : List Char) :
    readString [] (s.toList.flatMap escape ++ '"' :: rest) = .ok (s, rest) := by
  rw [readString_escapes, List.reverse_nil, List.nil_append, String.ofList_toList]

end Json

namespace Decimal

theorem digits_zero : digits 0 = [0] := by
  rw [digits, if_pos (by decide)]

/-- Only zero starts with the digit 0. -/
theorem digits_eq_cons {n : Nat} (h : 0 < n) :
    ∃ d ds, digits n = d :: ds ∧ d < 10 ∧ 0 < d := by
  induction n using digits.induct with
  | case1 n hn =>
    rw [digits, if_pos hn]
    exact ⟨n, [], rfl, hn, h⟩
  | case2 n hn ih =>
    obtain ⟨d, ds, hd, hlt, hpos⟩ := ih (by omega)
    rw [digits, if_neg hn, hd]
    exact ⟨d, ds ++ [n % 10], rfl, hlt, hpos⟩

end Decimal

namespace Json.Numeral

open Decimal

/-- What cannot be taken for a further part of a numeral without a fraction. -/
def Ends (rest : List Char) : Prop :=
  ∀ c ∈ rest.head?, isDigit c = false ∧ c ≠ '.' ∧ c ≠ 'e' ∧ c ≠ 'E'

variable {rest : List Char}

theorem Ends.nil : Ends [] := by
  intro c hc
  cases hc

theorem gather_append {s m : Nat} {ds : List Nat} (h : gather s ds = (m, [])) (es : List Nat) :
    gather s (ds ++ es) = gather m es := by
  induction ds generalizing s with
  | nil =>
    cases h
    rfl
  | cons d ds ih =>
    simp only [List.cons_append, gather] at h ⊢
    split at h
    · rename_i hd
      rw [if_pos hd, ih h]
    · cases h

/-- No digit of a 64-bit integer is dropped. -/
theorem gather_digits {n : Nat} (h : n < 0x1_0000_0000_0000_0000) :
    gather 0 (digits n) = (n, []) := by
  induction n using digits.induct with
  | case1 n hn =>
    rw [digits, if_pos hn]
    have hd : 10 * 0 + n = n := by omega
    simp only [gather, hd, if_pos h]
  | case2 n hn ih =>
    have hd : 10 * (n / 10) + n % 10 = n := by omega
    rw [digits, if_neg hn, gather_append (ih (by omega))]
    simp only [gather, hd, if_pos h]

theorem digitValue_digitChars {ds : List Nat} (h : ∀ d ∈ ds, d < 10) :
    (ds.map digitChar).map digitValue = ds := by
  have hsame : ds.map (digitValue ∘ digitChar) = ds.map id :=
    List.map_congr_left fun d hd => digitValue_digitChar (h d hd)
  rw [List.map_map, hsame, List.map_id]

theorem span_text (n : Nat) (h : Ends rest) : span (text n ++ rest) = (digits n, rest) := by
  have hdigits : ∀ c ∈ text n, isDigit c = true := fun c => isDigit_of_mem_text
  have hrest : rest.takeWhile isDigit = [] ∧ rest.dropWhile isDigit = rest := by
    cases rest with
    | nil => exact ⟨rfl, rfl⟩
    | cons c rest =>
      have hc := (h c rfl).1
      simp [hc]
  unfold span
  rw [List.takeWhile_append_of_pos hdigits, List.dropWhile_append_of_pos hdigits, hrest.1, hrest.2,
    List.append_nil, text, digitValue_digitChars (digits_lt n)]

theorem readWhole_zero (h : Ends rest) : readWhole ('0' :: rest) = .ok ([0], rest) := by
  cases rest with
  | nil => rfl
  | cons c rest =>
    have hc := (h c rfl).1
    simp only [readWhole, hc, Bool.false_eq_true, ↓reduceIte]

theorem readWhole_positive {n : Nat} (hn : 0 < n) (h : Ends rest) :
    readWhole (text n ++ rest) = .ok (digits n, rest) := by
  obtain ⟨d, ds, hds, hlt, hpos⟩ := digits_eq_cons hn
  have hnz : digitChar d ≠ '0' := by
    intro hd
    have hval := digitValue_digitChar hlt
    rw [hd] at hval
    have hzero : 0 = d := hval
    omega
  have htext : text n ++ rest = digitChar d :: (ds.map digitChar ++ rest) := by
    rw [text, hds, List.map_cons, List.cons_append]
  rw [← span_text n h, htext]
  unfold readWhole
  split
  · rename_i hc
    cases hc
  · rename_i hc
    exact (hnz (List.cons.inj hc).1).elim
  · rename_i hc
    obtain ⟨rfl, rfl⟩ := List.cons.inj hc
    exact if_pos (isDigit_digitChar hlt)

theorem readWhole_text (n : Nat) (h : Ends rest) :
    readWhole (text n ++ rest) = .ok (digits n, rest) := by
  by_cases hn : n = 0
  · subst n
    have hzero : text 0 ++ rest = '0' :: rest := by
      rw [text, digits_zero]
      rfl
    rw [hzero, digits_zero]
    exact readWhole_zero h
  · exact readWhole_positive (Nat.pos_of_ne_zero hn) h

theorem readFraction_of_ends (h : Ends rest) : readFraction rest = .ok ([], rest) := by
  unfold readFraction
  split
  · exact ((h _ rfl).2.1 rfl).elim
  · rfl

theorem readExponent_of_ends (h : Ends rest) : readExponent rest = .ok (none, rest) := by
  cases rest with
  | nil => rfl
  | cons c rest =>
    obtain ⟨-, -, he, hE⟩ := h c rfl
    simp [readExponent, he, hE]

theorem readUnsigned_text (negative : Bool) (n : Nat) (h : Ends rest) :
    readUnsigned negative (text n ++ rest) = .ok (⟨negative, digits n, [], none⟩, rest) := by
  simp only [readUnsigned, readWhole_text n h, readFraction_of_ends h, readExponent_of_ends h,
    bind, Except.bind, pure, Except.pure]

/-- Digits that 64 bits hold give their integer. -/
theorem value_digits {negative : Bool} {n : Nat} {v : Number}
    (hn : n < 0x1_0000_0000_0000_0000) (h : integer? negative n = some v) :
    value ⟨negative, digits n, [], none⟩ = .ok v := by
  simp only [value, gather_digits hn, List.isEmpty_nil, Bool.and_self, ↓reduceIte, h]

/-- An integer is read from its digits when 64 bits hold it. -/
theorem readNumber_text {negative : Bool} {n : Nat} {v : Number}
    (hn : n < 0x1_0000_0000_0000_0000) (h : integer? negative n = some v) (hrest : Ends rest) :
    readNumber negative (text n ++ rest) = .ok (v, rest) := by
  simp only [readNumber, readUnsigned_text negative n hrest, value_digits hn h, bind, Except.bind,
    pure, Except.pure]

end Json.Numeral

end Intake
