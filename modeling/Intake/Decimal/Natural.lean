namespace Intake.Decimal

def digitChar (d : Nat) : Char := Char.ofNat (48 + d)

def isDigit (c : Char) : Bool := '0' ≤ c && c ≤ '9'

def digitValue (c : Char) : Nat := c.toNat - 48

def digits (n : Nat) : List Nat :=
  if n < 10 then [n] else digits (n / 10) ++ [n % 10]
termination_by n
decreasing_by omega

def text (n : Nat) : List Char := (digits n).map digitChar

def string (n : Nat) : String := String.ofList (text n)

def tenTo (k : Nat) : Nat := Nat.pow 10 k

/-- The last `width` digits, with zeros in front where the number has fewer. -/
def padded : (width : Nat) → Nat → List Char
  | 0, _ => []
  | w + 1, n => padded w (n / 10) ++ [digitChar (n % 10)]

def intText (n : Int) : List Char :=
  if n < 0 then '-' :: text n.natAbs else text n.natAbs

end Intake.Decimal
