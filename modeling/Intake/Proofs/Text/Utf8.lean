import Intake.Text.Utf8
import Mathlib.Tactic.IntervalCases

namespace Intake.Text

def utf8 (s : String) : List UInt8 := s.toList.flatMap String.utf8EncodeChar

section Encoded

variable {v : Nat}

theorem toNat_ofNat (valid : v.isValidChar) : (Char.ofNat v).toNat = v := by
  rw [Char.ofNat, dif_pos valid]
  rfl

theorem encoded_one (high : v < 128) : String.utf8EncodeChar (Char.ofNat v) = [UInt8.ofNat v] := by
  have hv : (Char.ofNat v).toNat = v := toNat_ofNat (.inl (by omega))
  simp only [String.utf8EncodeChar]
  rw [show (Char.ofNat v).val.toNat = v from hv, if_pos (by omega)]

theorem encoded_two (low : 128 ≤ v) (high : v < 2048) : String.utf8EncodeChar (Char.ofNat v) =
    [UInt8.ofNat (v / 64 + 192), UInt8.ofNat (v % 64 + 128)] := by
  have hv : (Char.ofNat v).toNat = v := toNat_ofNat (.inl (by omega))
  simp only [String.utf8EncodeChar]
  rw [show (Char.ofNat v).val.toNat = v from hv, if_neg (by omega), if_pos (by omega),
    Nat.mod_eq_of_lt (by omega : v / 64 < 32)]

theorem encoded_three (low : 2048 ≤ v) (high : v < 65536) (valid : v.isValidChar) :
    String.utf8EncodeChar (Char.ofNat v) =
      [UInt8.ofNat (v / 4096 + 224), UInt8.ofNat (v / 64 % 64 + 128),
        UInt8.ofNat (v % 64 + 128)] := by
  have hv : (Char.ofNat v).toNat = v := toNat_ofNat valid
  simp only [String.utf8EncodeChar]
  rw [show (Char.ofNat v).val.toNat = v from hv, if_neg (by omega), if_neg (by omega),
    if_pos (by omega), Nat.mod_eq_of_lt (by omega : v / 4096 < 16)]

theorem encoded_four (low : 65536 ≤ v) (high : v < 1114112) :
    String.utf8EncodeChar (Char.ofNat v) =
      [UInt8.ofNat (v / 262144 + 240), UInt8.ofNat (v / 4096 % 64 + 128),
        UInt8.ofNat (v / 64 % 64 + 128), UInt8.ofNat (v % 64 + 128)] := by
  have hv : (Char.ofNat v).toNat = v := toNat_ofNat (.inr ⟨by omega, high⟩)
  simp only [String.utf8EncodeChar]
  rw [show (Char.ofNat v).val.toNat = v from hv, if_neg (by omega), if_neg (by omega),
    if_neg (by omega), Nat.mod_eq_of_lt (by omega : v / 262144 < 8)]

/-- The characters fall into four ranges, by the number of bytes that write them. -/
theorem encoded_cases (valid : v.isValidChar) :
    (v < 128 ∧ String.utf8EncodeChar (Char.ofNat v) = [UInt8.ofNat v]) ∨
    (128 ≤ v ∧ v < 2048 ∧ String.utf8EncodeChar (Char.ofNat v) =
      [UInt8.ofNat (v / 64 + 192), UInt8.ofNat (v % 64 + 128)]) ∨
    (2048 ≤ v ∧ v < 65536 ∧ String.utf8EncodeChar (Char.ofNat v) =
      [UInt8.ofNat (v / 4096 + 224), UInt8.ofNat (v / 64 % 64 + 128),
        UInt8.ofNat (v % 64 + 128)]) ∨
    (65536 ≤ v ∧ v < 1114112 ∧ String.utf8EncodeChar (Char.ofNat v) =
      [UInt8.ofNat (v / 262144 + 240), UInt8.ofNat (v / 4096 % 64 + 128),
        UInt8.ofNat (v / 64 % 64 + 128), UInt8.ofNat (v % 64 + 128)]) := by
  have hbound : v < 1114112 := by
    unfold Nat.isValidChar at valid
    omega
  rcases Nat.lt_or_ge v 128 with h1 | h1
  · exact .inl ⟨h1, encoded_one h1⟩
  rcases Nat.lt_or_ge v 2048 with h2 | h2
  · exact .inr (.inl ⟨h1, h2, encoded_two h1 h2⟩)
  rcases Nat.lt_or_ge v 65536 with h3 | h3
  · exact .inr (.inr (.inl ⟨h2, h3, encoded_three h2 h3 valid⟩))
  · exact .inr (.inr (.inr ⟨h3, hbound, encoded_four h3 hbound⟩))

end Encoded

section Leads

variable {n : Nat}

theorem lead?_two (low : 2 ≤ n) (high : n < 32) :
    lead? (UInt8.ofNat (n + 192)) = some ⟨n, 0x80, 0xBF, 0⟩ := by
  interval_cases n <;> rfl

theorem lead?_three (high : n < 16) : lead? (UInt8.ofNat (n + 224)) =
    some ⟨n, if n = 0 then 0xA0 else 0x80, if n = 13 then 0x9F else 0xBF, 1⟩ := by
  interval_cases n <;> rfl

theorem lead?_four (high : n ≤ 4) : lead? (UInt8.ofNat (n + 240)) =
    some ⟨n, if n = 0 then 0x90 else 0x80, if n = 4 then 0x8F else 0xBF, 2⟩ := by
  interval_cases n <;> rfl

end Leads

section Steps

variable {i : Nat} {acc : List Char} {b : UInt8} {rest : List UInt8}

theorem decodeFrom_ascii (h : b < 0x80) :
    decodeFrom i acc none (b :: rest) = decodeFrom (i + 1) (Char.ofNat b.toNat :: acc) none rest := by
  simp only [decodeFrom, h, ↓reduceIte]

theorem decodeFrom_lead {l : Lead} (h : ¬ b < 0x80) (hl : lead? b = some l) :
    decodeFrom i acc none (b :: rest) =
      decodeFrom (i + 1) acc (some ⟨i, 1, l.bits, l.low, l.high, l.more⟩) rest := by
  simp only [decodeFrom, h, hl, ↓reduceIte]

theorem decodeFrom_last {p : Pending} (fits : p.low ≤ b ∧ b ≤ p.high) (last : p.more = 0) :
    decodeFrom i acc (some p) (b :: rest) =
      decodeFrom (i + 1) (Char.ofNat (p.bits * 64 + (b.toNat - 0x80)) :: acc) none rest := by
  simp [decodeFrom, fits, last]

theorem decodeFrom_more {p : Pending} {more : Nat} (fits : p.low ≤ b ∧ b ≤ p.high)
    (h : p.more = more + 1) :
    decodeFrom i acc (some p) (b :: rest) =
      decodeFrom (i + 1) acc
        (some ⟨p.start, p.taken + 1, p.bits * 64 + (b.toNat - 0x80), 0x80, 0xBF, more⟩) rest := by
  simp [decodeFrom, fits, h]

end Steps

/-- A byte behind the first of its character gives six bits. -/
theorem toNat_tail (x : Nat) : (UInt8.ofNat (x % 64 + 128)).toNat = x % 64 + 128 := by
  rw [UInt8.toNat_ofNat']
  omega

theorem tail_fits (x : Nat) :
    0x80 ≤ UInt8.ofNat (x % 64 + 128) ∧ UInt8.ofNat (x % 64 + 128) ≤ 0xBF := by
  rw [UInt8.le_iff_toNat_le, UInt8.le_iff_toNat_le, toNat_tail]
  have h := Nat.mod_lt x (show 0 < 64 by decide)
  exact ⟨Nat.le_add_left _ _, by simpa using Nat.le_of_lt_succ (Nat.add_lt_add_right h 128)⟩

theorem lead_not_ascii {x n : Nat} (low : 192 ≤ n) (high : x + n < 256) :
    ¬ UInt8.ofNat (x + n) < 0x80 := by
  rw [UInt8.lt_iff_toNat_lt, UInt8.toNat_ofNat', Nat.mod_eq_of_lt high]
  simp only [UInt8.reduceToNat]
  omega

/-- The bytes of one character are decoded as that character. -/
theorem decodeFrom_encoded (c : Char) (i : Nat) (acc : List Char) (rest : List UInt8) :
    decodeFrom i acc none (String.utf8EncodeChar c ++ rest) =
      decodeFrom (i + (String.utf8EncodeChar c).length) (c :: acc) none rest := by
  obtain ⟨v, hv⟩ : ∃ v, c.toNat = v := ⟨_, rfl⟩
  have hvalid : v.isValidChar := hv ▸ c.valid
  obtain rfl : Char.ofNat v = c := hv ▸ Char.ofNat_toNat c
  rcases encoded_cases hvalid with ⟨hi, hc⟩ | ⟨lo, hi, hc⟩ | ⟨lo, hi, hc⟩ | ⟨lo, hi, hc⟩
  · have hb : (UInt8.ofNat v).toNat = v := by
      rw [UInt8.toNat_ofNat']
      omega
    rw [hc, List.singleton_append, decodeFrom_ascii (by rwa [UInt8.lt_iff_toNat_lt, hb]), hb]
    rfl
  · have hbits : v / 64 * 64 + (v % 64 + 128 - 128) = v := by omega
    rw [hc, List.cons_append,
      decodeFrom_lead (lead_not_ascii (by decide) (by omega)) (lead?_two (by omega) (by omega)),
      List.singleton_append, decodeFrom_last (tail_fits v) rfl, toNat_tail]
    simp only [hbits, List.length_cons, List.length_nil, Nat.add_assoc]
  · have hbits : (v / 4096 * 64 + (v / 64 % 64 + 128 - 128)) * 64 + (v % 64 + 128 - 128) = v := by
      omega
    rw [hc, List.cons_append,
      decodeFrom_lead (lead_not_ascii (by decide) (by omega)) (lead?_three (by omega)),
      List.cons_append, decodeFrom_more _ rfl, List.singleton_append,
      decodeFrom_last (tail_fits v) rfl, toNat_tail, toNat_tail]
    · simp only [hbits, List.length_cons, List.length_nil, Nat.add_assoc]
    · unfold Nat.isValidChar at hvalid
      dsimp only
      rw [UInt8.le_iff_toNat_le, UInt8.le_iff_toNat_le, toNat_tail]
      constructor <;> split <;> simp only [UInt8.reduceToNat] <;> omega
  · have hbits : ((v / 262144 * 64 + (v / 4096 % 64 + 128 - 128)) * 64 +
        (v / 64 % 64 + 128 - 128)) * 64 + (v % 64 + 128 - 128) = v := by
      omega
    rw [hc, List.cons_append,
      decodeFrom_lead (lead_not_ascii (by decide) (by omega)) (lead?_four (by omega)),
      List.cons_append, decodeFrom_more _ rfl, List.cons_append,
      decodeFrom_more (tail_fits _) rfl, List.singleton_append, decodeFrom_last (tail_fits v) rfl,
      toNat_tail, toNat_tail, toNat_tail]
    · simp only [hbits, List.length_cons, List.length_nil, Nat.add_assoc]
    · dsimp only
      rw [UInt8.le_iff_toNat_le, UInt8.le_iff_toNat_le, toNat_tail]
      constructor <;> split <;> simp only [UInt8.reduceToNat] <;> omega

theorem decodeFrom_text (cs : List Char) (i : Nat) (acc : List Char) :
    decodeFrom i acc none (cs.flatMap String.utf8EncodeChar) = .ok (acc.reverse ++ cs) := by
  induction cs generalizing i acc with
  | nil => simp [decodeFrom]
  | cons c cs ih => rw [List.flatMap_cons, decodeFrom_encoded, ih, List.reverse_cons,
      List.append_assoc, List.singleton_append]

/-- The bytes of a text are decoded as that text. -/
theorem decodeUtf8_utf8 (s : String) : decodeUtf8 (utf8 s) = .ok s := by
  unfold decodeUtf8 utf8
  rw [decodeFrom_text]
  simp [Except.map]

/-- The bytes of a character that is under way, and what is known of it. -/
inductive Under : List UInt8 → Pending → Prop where
  | lead {b : UInt8} {l : Lead} (i : Nat) (first : lead? b = some l) :
      Under [b] ⟨i, 1, l.bits, l.low, l.high, l.more⟩
  | more {front : List UInt8} {p : Pending} {b : UInt8} {more : Nat} (under : Under front p)
      (low : p.low ≤ b) (high : b ≤ p.high) (left : p.more = more + 1) :
      Under (front ++ [b])
        ⟨p.start, p.taken + 1, p.bits * 64 + (b.toNat - 0x80), 0x80, 0xBF, more⟩

/-- In what ways a character of several bytes starts. -/
theorem lead?_cases {b : UInt8} {l : Lead} (h : lead? b = some l) :
    (l.more = 0 ∧ b.toNat = l.bits + 192 ∧ 2 ≤ l.bits ∧ l.bits < 32 ∧
      l.low.toNat = 128 ∧ l.high.toNat = 191) ∨
    (l.more = 1 ∧ b.toNat = l.bits + 224 ∧ l.bits < 16 ∧
      l.low.toNat = (if l.bits = 0 then 160 else 128) ∧
      l.high.toNat = if l.bits = 13 then 159 else 191) ∨
    (l.more = 2 ∧ b.toNat = l.bits + 240 ∧ l.bits ≤ 4 ∧
      l.low.toNat = (if l.bits = 0 then 144 else 128) ∧
      l.high.toNat = if l.bits = 4 then 143 else 191) := by
  unfold lead? at h
  simp only [Bool.and_eq_true, decide_eq_true_eq, beq_iff_eq, UInt8.le_iff_toNat_le,
    ← UInt8.toNat_inj, UInt8.reduceToNat] at h
  split_ifs at h with two first last three first' four last' <;> obtain rfl := Option.some.inj h
  · exact .inl ⟨rfl, by dsimp only; omega, by dsimp only; omega, by dsimp only; omega, rfl, rfl⟩
  · exact .inr (.inl ⟨rfl, first, by decide, rfl, rfl⟩)
  · exact .inr (.inl ⟨rfl, last, by decide, rfl, rfl⟩)
  · refine .inr (.inl ⟨rfl, by dsimp only; omega, by dsimp only; omega, ?_, ?_⟩)
    · rw [if_neg (by dsimp only; omega)]
      rfl
    · rw [if_neg (by dsimp only; omega)]
      rfl
  · exact .inr (.inr ⟨rfl, first', by decide, rfl, rfl⟩)
  · refine .inr (.inr ⟨rfl, by dsimp only; omega, by dsimp only; omega, ?_, ?_⟩)
    · rw [if_neg (by dsimp only; omega)]
      rfl
    · rw [if_neg (by dsimp only; omega)]
      rfl
  · exact .inr (.inr ⟨rfl, last', by decide, rfl, rfl⟩)

section Complete

variable {b₀ b₁ b₂ b₃ : UInt8} {l : Lead}

/-- A byte is told by its number. -/
theorem ofNat_eq {b : UInt8} {n : Nat} (h : b.toNat = n) : UInt8.ofNat n = b := by
  rw [← h, UInt8.ofNat_toNat]

theorem encoded_of_two (first : lead? b₀ = some l) (low : l.low ≤ b₁) (high : b₁ ≤ l.high)
    (last : l.more = 0) :
    String.utf8EncodeChar (Char.ofNat (l.bits * 64 + (b₁.toNat - 0x80))) = [b₀, b₁] := by
  rw [UInt8.le_iff_toNat_le] at low high
  rcases lead?_cases first with ⟨-, hb, hlow, hhigh, hl, hh⟩ | ⟨h, -⟩ | ⟨h, -⟩
  · rw [hl] at low
    rw [hh] at high
    rw [encoded_two (by omega) (by omega)]
    simp only [List.cons.injEq, and_true]
    exact ⟨ofNat_eq (by omega), ofNat_eq (by omega)⟩
  · omega
  · omega

/-- The second byte of three leaves out the short forms and the surrogates. -/
theorem encoded_of_three (first : lead? b₀ = some l) (low : l.low ≤ b₁) (high : b₁ ≤ l.high)
    (more : l.more = 1) (low₂ : 0x80 ≤ b₂) (high₂ : b₂ ≤ 0xBF) :
    String.utf8EncodeChar
      (Char.ofNat ((l.bits * 64 + (b₁.toNat - 0x80)) * 64 + (b₂.toNat - 0x80))) =
      [b₀, b₁, b₂] := by
  rw [UInt8.le_iff_toNat_le] at low high low₂ high₂
  simp only [UInt8.reduceToNat] at low₂ high₂
  rcases lead?_cases first with ⟨h, -⟩ | ⟨-, hb, hbits, hl, hh⟩ | ⟨h, -⟩
  · omega
  · rw [hl] at low
    rw [hh] at high
    have htail : 128 ≤ b₁.toNat ∧ b₁.toNat ≤ 191 := by split at low <;> split at high <;> omega
    have hshort : l.bits = 0 → 160 ≤ b₁.toNat := fun h0 => by rwa [if_pos h0] at low
    have hsurrogate : l.bits = 13 → b₁.toNat ≤ 159 := fun h13 => by rwa [if_pos h13] at high
    rw [encoded_three (by omega) (by omega) (by unfold Nat.isValidChar; omega)]
    simp only [List.cons.injEq, and_true]
    exact ⟨ofNat_eq (by omega), ofNat_eq (by omega), ofNat_eq (by omega)⟩
  · omega

/-- The second byte of four leaves out the short forms and what lies beyond the last character. -/
theorem encoded_of_four (first : lead? b₀ = some l) (low : l.low ≤ b₁) (high : b₁ ≤ l.high)
    (more : l.more = 2) (low₂ : 0x80 ≤ b₂) (high₂ : b₂ ≤ 0xBF) (low₃ : 0x80 ≤ b₃)
    (high₃ : b₃ ≤ 0xBF) :
    String.utf8EncodeChar (Char.ofNat (((l.bits * 64 + (b₁.toNat - 0x80)) * 64 +
      (b₂.toNat - 0x80)) * 64 + (b₃.toNat - 0x80))) = [b₀, b₁, b₂, b₃] := by
  rw [UInt8.le_iff_toNat_le] at low high low₂ high₂ low₃ high₃
  simp only [UInt8.reduceToNat] at low₂ high₂ low₃ high₃
  rcases lead?_cases first with ⟨h, -⟩ | ⟨h, -⟩ | ⟨-, hb, hbits, hl, hh⟩
  · omega
  · omega
  · rw [hl] at low
    rw [hh] at high
    have htail : 128 ≤ b₁.toNat ∧ b₁.toNat ≤ 191 := by split at low <;> split at high <;> omega
    have hshort : l.bits = 0 → 144 ≤ b₁.toNat := fun h0 => by rwa [if_pos h0] at low
    have hbeyond : l.bits = 4 → b₁.toNat ≤ 143 := fun h4 => by rwa [if_pos h4] at high
    rw [encoded_four (by omega) (by omega)]
    simp only [List.cons.injEq, and_true]
    exact ⟨ofNat_eq (by omega), ofNat_eq (by omega), ofNat_eq (by omega), ofNat_eq (by omega)⟩

/-- No first byte asks for more than three behind it. -/
theorem Under.room {front : List UInt8} {p : Pending} (under : Under front p) :
    0 < front.length ∧ front.length + p.more ≤ 3 := by
  induction under with
  | lead i first =>
    have := lead?_cases first
    simp only [List.length_singleton]
    omega
  | more under low high left ih =>
    simp only [List.length_append, List.length_singleton]
    omega

/-- A character whose last byte has come is written by its bytes. -/
theorem Under.complete {front : List UInt8} {p : Pending} {b : UInt8} (under : Under front p)
    (low : p.low ≤ b) (high : b ≤ p.high) (last : p.more = 0) :
    String.utf8EncodeChar (Char.ofNat (p.bits * 64 + (b.toNat - 0x80))) = front ++ [b] := by
  cases under with
  | lead i first => exact encoded_of_two first low high last
  | more under low₁ high₁ left =>
    obtain rfl : _ = 0 := last
    cases under with
    | lead i first => exact encoded_of_three first low₁ high₁ left low high
    | more under low₂ high₂ left₂ =>
      obtain rfl : _ = 0 + 1 := left
      cases under with
      | lead i first => exact encoded_of_four first low₂ high₂ left₂ low₁ high₁ low high
      | more under _ _ left₃ =>
        obtain rfl : _ = 0 + 1 + 1 := left₂
        have := under.room
        omega

end Complete

inductive Front : List UInt8 → Option Pending → Prop where
  | between : Front [] none
  | inside {front : List UInt8} {p : Pending} (under : Under front p) : Front front (some p)

/-- What is decoded is written by the bytes, those of the character under way before the rest. -/
theorem decodeFrom_eq_ok {i : Nat} {acc cs : List Char} {pending : Option Pending}
    {front bytes : List UInt8} (hfront : Front front pending)
    (h : decodeFrom i acc pending bytes = .ok cs) :
    ∃ ds, cs = acc.reverse ++ ds ∧ ds.flatMap String.utf8EncodeChar = front ++ bytes := by
  induction bytes generalizing i acc pending front with
  | nil =>
    cases hfront with
    | between =>
      refine ⟨[], ?_, rfl⟩
      rw [List.append_nil]
      exact (Except.ok.inj h).symm
    | inside under => exact nomatch h
  | cons b rest ih =>
    -- A character read to its end is the first of those that follow.
    have grow {c : Char} {j : Nat} (hread : decodeFrom j (c :: acc) none rest = .ok cs)
        (hc : String.utf8EncodeChar c = front ++ [b]) :
        ∃ ds, cs = acc.reverse ++ ds ∧
          ds.flatMap String.utf8EncodeChar = front ++ b :: rest := by
      obtain ⟨ds, rfl, hds⟩ := ih .between hread
      refine ⟨c :: ds, by simp, ?_⟩
      rw [List.flatMap_cons, hc, hds, List.nil_append, ← List.append_cons]
    cases hfront with
    | between =>
      by_cases hb : b < 0x80
      · rw [decodeFrom_ascii hb] at h
        refine grow h ?_
        rw [UInt8.lt_iff_toNat_lt] at hb
        rw [encoded_one hb, UInt8.ofNat_toNat]
        rfl
      · cases hl : lead? b with
        | none =>
          simp only [decodeFrom, hb, hl, ↓reduceIte] at h
          exact nomatch h
        | some l =>
          rw [decodeFrom_lead hb hl] at h
          exact ih (.inside (.lead i hl)) h
    | @inside _ p under =>
      by_cases fits : p.low ≤ b ∧ b ≤ p.high
      · cases hmore : p.more with
        | zero =>
          rw [decodeFrom_last fits hmore] at h
          exact grow h (under.complete fits.1 fits.2 hmore)
        | succ more =>
          rw [decodeFrom_more fits hmore] at h
          obtain ⟨ds, hcs, hds⟩ := ih (.inside (under.more fits.1 fits.2 hmore)) h
          exact ⟨ds, hcs, by rw [hds, ← List.append_cons]⟩
      · have hfault : decodeFrom i acc (some p) (b :: rest) = .error (.invalid p.taken p.start) := by
          simp only [decodeFrom, Bool.and_eq_true, decide_eq_true_eq, fits, ↓reduceIte]
        rw [hfault] at h
        exact nomatch h

/-- Bytes are decoded to a text just where they are the bytes of that text. -/
theorem decodeUtf8_eq_ok {bytes : List UInt8} {text : String} :
    decodeUtf8 bytes = .ok text ↔ utf8 text = bytes := by
  constructor
  · intro h
    unfold decodeUtf8 at h
    cases hc : decodeFrom 0 [] none bytes with
    | error f =>
      rw [hc] at h
      exact nomatch h
    | ok cs =>
      rw [hc] at h
      obtain rfl : String.ofList cs = text := Except.ok.inj h
      obtain ⟨ds, rfl, hds⟩ := decodeFrom_eq_ok .between hc
      unfold utf8
      rw [String.toList_ofList]
      exact hds
  · rintro rfl
    exact decodeUtf8_utf8 text

/-- The bytes of a text are counted without writing them. -/
theorem length_utf8 (s : String) : (utf8 s).length = s.utf8ByteSize := by
  rw [String.utf8ByteSize, ← String.utf8Encode_toList, List.utf8Encode, List.size_toByteArray]
  rfl

section Order

/-- The bytes of characters are in the order of the characters, whatever follows. -/
theorem encoded_lt {c d : Char} (h : c < d) (rest rest' : List UInt8) :
    String.utf8EncodeChar c ++ rest < String.utf8EncodeChar d ++ rest' := by
  obtain ⟨v, hv⟩ : ∃ v, c.toNat = v := ⟨_, rfl⟩
  obtain ⟨w, hw⟩ : ∃ w, d.toNat = w := ⟨_, rfl⟩
  have hlt : v < w := by
    rw [← hv, ← hw]
    exact h
  have hvalid : v.isValidChar := hv ▸ c.valid
  have hvalid' : w.isValidChar := hw ▸ d.valid
  obtain rfl : Char.ofNat v = c := hv ▸ Char.ofNat_toNat c
  obtain rfl : Char.ofNat w = d := hw ▸ Char.ofNat_toNat d
  clear hv hw
  have hmid : v / 4096 / 64 = v / 262144 := Nat.div_div_eq_div_mul ..
  have hmid' : w / 4096 / 64 = w / 262144 := Nat.div_div_eq_div_mul ..
  have hlow : v / 64 / 64 = v / 4096 := Nat.div_div_eq_div_mul ..
  have hlow' : w / 64 / 64 = w / 4096 := Nat.div_div_eq_div_mul ..
  -- Of two lengths the longer one starts with a greater byte; of one length the digits decide.
  rcases encoded_cases hvalid with ⟨hi, hc⟩ | ⟨lo, hi, hc⟩ | ⟨lo, hi, hc⟩ | ⟨lo, hi, hc⟩ <;>
  rcases encoded_cases hvalid' with ⟨hi', hd⟩ | ⟨lo', hi', hd⟩ | ⟨lo', hi', hd⟩ | ⟨lo', hi', hd⟩ <;>
  rw [hc, hd] <;>
  simp (disch := omega) only [List.cons_append, List.nil_append, List.cons_lt_cons_iff,
    UInt8.lt_iff_toNat_lt, toNat_tail, UInt8.toNat_ofNat', ← UInt8.toNat_inj, Nat.mod_eq_of_lt] <;>
  omega

/-- Bytes come in the order of the texts that they write. -/
theorem utf8_lt_of_lt {s t : String} (h : s < t) : utf8 s < utf8 t := by
  unfold utf8
  rw [String.lt_iff] at h
  generalize s.toList = cs at *
  generalize t.toList = ds at *
  induction cs generalizing ds with
  | nil =>
    cases ds with
    | nil => exact absurd h (List.lt_irrefl _)
    | cons d ds =>
      rw [List.flatMap_cons]
      obtain ⟨b, bs, hb⟩ := List.exists_cons_of_ne_nil (String.utf8EncodeChar_ne_nil (c := d))
      rw [hb]
      exact List.nil_lt_cons _ _
  | cons c cs ih =>
    cases ds with
    | nil => exact absurd h (List.not_lt_nil _)
    | cons d ds =>
      rw [List.flatMap_cons, List.flatMap_cons]
      rcases List.cons_lt_cons_iff.mp h with hlt | ⟨rfl, hrest⟩
      · exact encoded_lt hlt _ _
      · exact List.append_left_lt (ih ds hrest)

/-- Texts and their bytes are in the same order. -/
theorem utf8_lt_utf8 {s t : String} : utf8 s < utf8 t ↔ s < t := by
  refine ⟨fun h => ?_, utf8_lt_of_lt⟩
  rcases Std.lt_trichotomy s t with hlt | rfl | hgt
  · exact hlt
  · exact absurd h (List.lt_irrefl _)
  · exact absurd h (List.lt_asymm (utf8_lt_of_lt hgt))

end Order

end Intake.Text
