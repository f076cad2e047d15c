import Intake.Json.Basic
import Intake.Json.Fault

namespace Intake.Json

structure Numeral where
  negative : Bool
  whole : List Nat
  fraction : List Nat
  exponent : Option (Bool × List Nat)

namespace Numeral

def span (cs : List Char) : List Nat × List Char :=
  ((cs.takeWhile Decimal.isDigit).map Decimal.digitValue, cs.dropWhile Decimal.isDigit)

/-- The digits before the point; only zero itself starts with a zero. -/
def readWhole (cs : List Char) : Except Stop (List Nat × List Char) :=
  match cs with
  | [] => .error (.atEnd .endInValue)
  | '0' :: rest =>
    match rest with
    | [] => .ok ([0], [])
    | d :: _ => if Decimal.isDigit d then .error (.onByte .invalidNumber rest) else .ok ([0], rest)
  | d :: _ =>
    if Decimal.isDigit d then .ok (span cs) else .error (.onByte .invalidNumber cs)

def readFraction (cs : List Char) : Except Stop (List Nat × List Char) :=
  match cs with
  | '.' :: rest =>
    match span rest with
    | ([], []) => .error (.atEnd .endInValue)
    | ([], after) => .error (.onByte .invalidNumber after)
    | found => .ok found
  | _ => .ok ([], cs)

def readSign : List Char → Bool × List Char
  | '+' :: rest => (false, rest)
  | '-' :: rest => (true, rest)
  | rest => (false, rest)

def readExponent (cs : List Char) : Except Stop (Option (Bool × List Nat) × List Char) :=
  match cs with
  | e :: rest =>
    if e = 'e' || e = 'E' then
      match span (readSign rest).2 with
      | ([], []) => .error (.atEnd .endInValue)
      | ([], after) => .error (.onByte .invalidNumber after)
      | (ds, after) => .ok (some ((readSign rest).1, ds), after)
    else .ok (none, cs)
  | [] => .ok (none, [])

def readUnsigned (negative : Bool) (cs : List Char) : Except Stop (Numeral × List Char) := do
  let (whole, cs) ← readWhole cs
  let (fraction, cs) ← readFraction cs
  let (exponent, cs) ← readExponent cs
  return (⟨negative, whole, fraction, exponent⟩, cs)

theorem length_span_le (cs : List Char) : (span cs).2.length ≤ cs.length :=
  (List.dropWhile_suffix Decimal.isDigit).length_le

theorem length_readSign_le (cs : List Char) : (readSign cs).2.length ≤ cs.length := by
  unfold readSign
  split <;> simp

theorem length_readWhole_lt {cs rest : List Char} {ds : List Nat}
    (h : readWhole cs = .ok (ds, rest)) : rest.length < cs.length := by
  unfold readWhole at h
  split at h
  · simp at h
  · split at h
    · simp_all
    · split at h <;> simp_all
  · split at h
    · rename_i d r _ hd
      simp only [Except.ok.injEq, span, Prod.mk.injEq, List.dropWhile_cons, hd, ↓reduceIte] at h
      have := length_span_le r
      simp only [span] at this
      simp only [← h.2, List.length_cons]
      omega
    · simp at h

theorem length_readFraction_le {cs rest : List Char} {ds : List Nat}
    (h : readFraction cs = .ok (ds, rest)) : rest.length ≤ cs.length := by
  unfold readFraction at h
  split at h
  · rename_i r
    have := length_span_le r
    split at h
    · simp at h
    · simp at h
    · simp only [Except.ok.injEq] at h
      simp_all
      omega
  · simp_all

theorem length_readExponent_le {cs rest : List Char} {x : Option (Bool × List Nat)}
    (h : readExponent cs = .ok (x, rest)) : rest.length ≤ cs.length := by
  unfold readExponent at h
  split at h
  · rename_i r
    split at h
    · have h1 := length_readSign_le r
      have h2 := length_span_le (readSign r).2
      split at h
      · simp at h
      · simp at h
      · rename_i hs
        simp only [Except.ok.injEq, Prod.mk.injEq] at h
        simp only [hs] at h2
        simp only [← h.2, List.length_cons]
        omega
    · simp_all
  · simp_all

theorem length_readUnsigned_lt {negative : Bool} {cs rest : List Char} {n : Numeral}
    (h : readUnsigned negative cs = .ok (n, rest)) : rest.length < cs.length := by
  unfold readUnsigned at h
  cases hw : readWhole cs with
  | error s => simp [hw, bind, Except.bind] at h
  | ok w =>
    have h1 := length_readWhole_lt hw
    simp only [hw, bind, Except.bind] at h
    cases hf : readFraction w.2 with
    | error s => simp [hf] at h
    | ok f =>
      have h2 := length_readFraction_le hf
      simp only [hf] at h
      cases he : readExponent f.2 with
      | error s => simp [he] at h
      | ok e =>
        have h3 := length_readExponent_le he
        simp only [he, pure, Except.pure, Except.ok.injEq, Prod.mk.injEq] at h
        rw [← h.2]
        omega

/-- Appends digits to a significand until one no longer fits 64 bits; gives the digits left. -/
def gather (s : Nat) : List Nat → Nat × List Nat
  | [] => (s, [])
  | d :: ds => if 10 * s + d < 0x1_0000_0000_0000_0000 then gather (10 * s + d) ds else (s, d :: ds)

/-- The value of an exponent within 31 bits, or the digits left behind the one that overflowed. -/
def exponentValue (n : Nat) : List Nat → Except (List Nat) Nat
  | [] => .ok n
  | d :: ds => if 10 * n + d < 0x8000_0000 then exponentValue (10 * n + d) ds else .error ds

def powerOfTen (n : Nat) : Float := Float.ofScientific 1 false n

/-- A significand times a power of ten; nothing when the result is too large. Far below the
smallest double the value is brought closer in steps of 308 decimal places. -/
def scale (f : Float) (e : Int) : Option Float :=
  if e.natAbs ≤ 308 then
    some (if 0 ≤ e then f * powerOfTen e.natAbs else f / powerOfTen e.natAbs)
  else if f == 0.0 then some f
  else if 0 < e then none
  else scale (f / powerOfTen 308) (e + 308)
termination_by e.natAbs
decreasing_by omega

def signedFloat? (negative : Bool) (f : Float) : Option Number :=
  Number.ofFloat? (if negative then -f else f)

/-- The integer, when 64 bits hold it; minus zero is a double. -/
def integer? (negative : Bool) (s : Nat) : Option Number :=
  if negative then
    if h : 0 < s ∧ s ≤ 0x8000_0000_0000_0000 then some (.int (-(s : Int)) (by omega) (by omega))
    else signedFloat? true (Float.ofNat s)
  else Number.ofNat? s

/-- The value of a numeral, or the number of its last digits that were not looked at when it proved
too large. Of a double only the leading digits that 64 bits hold count, scaled once, so that it may
differ from the nearest one in its last place. -/
def value (n : Numeral) : Except Nat Number :=
  let (s, dropped) := gather 0 n.whole
  let (s', left) := gather s n.fraction
  let shift : Int := dropped.length - (n.fraction.length - left.length)
  let scaled (e : Int) : Except Nat Number :=
    match (scale (Float.ofNat s') e).bind (signedFloat? n.negative) with
    | some v => .ok v
    | none => .error 0
  match n.exponent with
  | some (down, ds) =>
    match exponentValue 0 ds with
    | .ok e => scaled (if down then shift - e else shift + e)
    | .error behind =>
      if s' = 0 || down then
        match signedFloat? n.negative 0.0 with
        | some v => .ok v
        | none => .error 0
      else .error behind.length
  | none =>
    if dropped.isEmpty && n.fraction.isEmpty then
      match integer? n.negative s with
      | some v => .ok v
      | none => .error 0
    else scaled shift

def readNumber (negative : Bool) (cs : List Char) : Except Stop (Number × List Char) := do
  let (n, rest) ← readUnsigned negative cs
  match n.value with
  | .ok v => return (v, rest)
  | .error behind => .error ⟨.numberOutOfRange, byteLength rest + behind⟩

theorem length_readNumber_lt {negative : Bool} {cs rest : List Char} {n : Number}
    (h : readNumber negative cs = .ok (n, rest)) : rest.length < cs.length := by
  unfold readNumber at h
  cases hu : readUnsigned negative cs with
  | error s => simp [hu, bind, Except.bind] at h
  | ok p =>
    have := length_readUnsigned_lt hu
    simp only [hu, bind, Except.bind] at h
    split at h
    · simp only [pure, Except.pure, Except.ok.injEq, Prod.mk.injEq] at h
      rw [← h.2]
      omega
    · simp at h

end Numeral

end Intake.Json
