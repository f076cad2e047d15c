import Intake.Decimal.Natural

namespace Intake.Decimal

structure Binary where
  significand : Nat
  exponent : Int

namespace Binary

def ofFloat (f : Float) : Binary :=
  let bits : Nat := f.toBits.toNat
  let fraction : Nat := bits % 0x10_0000_0000_0000
  let biased : Nat := bits / 0x10_0000_0000_0000 % 0x800
  if biased = 0 then ⟨fraction, -1074⟩
  else ⟨fraction + 0x10_0000_0000_0000, (biased : Int) - 1075⟩

/-- The gap to the next smaller double is half as wide at a power of two, except among the
smallest normal doubles. -/
def narrowBelow (b : Binary) : Bool := b.significand == 0x10_0000_0000_0000 && b.exponent != -1074

end Binary

/-- Digits `d₁ d₂ … dₙ` and the exponent `x` of the first: the number `d₁.d₂…dₙ * 10 ^ x`. -/
structure Scientific where
  digits : List Nat
  exponent : Int

/-- A value between two points of a decimal grid, all multiplied by one common factor: `unit` is
the grid's width, `above` and `below` how far the interval of the double reaches. -/
structure Grid where
  value : Nat
  unit : Nat
  below : Nat
  above : Nat
  closed : Bool

namespace Grid

def of (b : Binary) (e : Int) : Grid :=
  let two := Nat.pow 2 b.exponent.toNat * tenTo (-e).toNat
  let unit := 4 * tenTo e.toNat * Nat.pow 2 (-b.exponent).toNat
  { value := 4 * b.significand * two
    unit
    below := if b.narrowBelow then two else 2 * two
    above := 2 * two
    closed := b.significand % 2 == 0 }

def within (g : Grid) (distance reach : Nat) : Bool :=
  distance < reach || (g.closed && distance == reach)

/-- The multiple of the unit that lies in the interval of the double, the nearer of two; of two
equally near ones the even one. -/
def pick? (g : Grid) : Option Nat :=
  let lo := g.value / g.unit
  let down := g.value - lo * g.unit
  let up := (lo + 1) * g.unit - g.value
  match g.within down g.below, g.within up g.above with
  | true, true => some (if down < up || (down == up && lo % 2 == 0) then lo else lo + 1)
  | true, false => some lo
  | false, true => some (lo + 1)
  | false, false => none

end Grid

def leadingExponent (b : Binary) : Int :=
  let num := b.significand * Nat.pow 2 b.exponent.toNat
  let den := Nat.pow 2 (-b.exponent).toNat
  if den ≤ num then (digits (num / den)).length - 1
  else -((digits ((den - 1) / num)).length : Int)

def dropZeros (ds : List Nat) : List Nat := (ds.reverse.dropWhile (· == 0)).reverse

def search (b : Binary) (x : Int) : (count n : Nat) → Scientific
  | 0, n => ⟨digits b.significand, n⟩
  | count + 1, n =>
    let e := x - n + 1
    match (Grid.of b e).pick? with
    | some point =>
      let ds := digits point
      ⟨dropZeros ds, e + ds.length - 1⟩
    | none => search b x count (n + 1)

/-- The shortest digits that read back as a finite double, its sign aside: the first grid with a
point in the interval of the reals that round to it. Seventeen digits always suffice. -/
def shortest (f : Float) : Scientific :=
  let b := Binary.ofFloat f
  if b.significand = 0 then ⟨[0], 0⟩ else search b (leadingExponent b) 17 1

structure Layout where
  plainFrom : Int
  plainUpTo : Int

namespace Layout

/-- Plain notation keeps at least one digit after the point; otherwise the exponent is written
with its sign, and a point only stands before further digits. -/
def write (l : Layout) (s : Scientific) : List Char :=
  let ds := s.digits.map digitChar
  let x := s.exponent
  if x < l.plainFrom || l.plainUpTo < x then
    let mantissa := match ds with
      | d :: rest@(_ :: _) => d :: '.' :: rest
      | short => short
    mantissa ++ 'e' :: (if x < 0 then '-' else '+') :: text x.natAbs
  else if x < 0 then
    '0' :: '.' :: List.replicate (x.natAbs - 1) '0' ++ ds
  else
    let whole := x.toNat + 1
    let fraction := ds.drop whole
    ds.take whole ++ List.replicate (whole - ds.length) '0' ++
      '.' :: (if fraction.isEmpty then ['0'] else fraction)

def floatText (l : Layout) (f : Float) : List Char :=
  let body := l.write (shortest f)
  if 0x8000_0000_0000_0000 ≤ f.toBits.toNat then '-' :: body else body

end Layout

end Intake.Decimal
