namespace Intake

/-- A JSON number: an integer that fits 64 bits, signed or unsigned, or a finite double. -/
inductive Number where
  | int (n : Int) (lower : -0x8000_0000_0000_0000 ≤ n) (upper : n < 0x1_0000_0000_0000_0000)
  | float (f : Float) (finite : f.isFinite = true)

namespace Number

def ofInt64 (n : Int64) : Number :=
  .int n.toInt n.le_toInt (Int.lt_trans n.toInt_lt (by decide))

def ofNat? (n : Nat) : Option Number :=
  if h : n < 0x1_0000_0000_0000_0000 then some (.int n (by omega) (by omega)) else none

def ofFloat? (f : Float) : Option Number :=
  if h : f.isFinite = true then some (.float f h) else none

/-- A double is no signed 64-bit integer, even when it is whole. -/
def toInt64? : Number → Option Int64
  | .int n _ _ => if n < 0x8000_0000_0000_0000 then some (Int64.ofInt n) else none
  | .float _ _ => none

def toFloat : Number → Float
  | .int n _ _ => if n < 0 then -(Float.ofNat n.natAbs) else Float.ofNat n.natAbs
  | .float f _ => f

/-- An integer never equals a double; doubles are compared as numbers, so both zeros agree. -/
def same : Number → Number → Bool
  | .int m _ _, .int n _ _ => m == n
  | .float f _, .float g _ => f == g
  | _, _ => false

end Number

inductive Json where
  | null
  | bool (b : Bool)
  | num (n : Number)
  | str (s : String)
  | arr (items : List Json)
  | obj (members : List (String × Json))

/-- The members of an object, in ascending order of their keys, each key once. -/
abbrev Members := List (String × Json)

namespace Members

def get? (ms : Members) (key : String) : Option Json := ms.lookup key

def contains (ms : Members) (key : String) : Bool := (ms.get? key).isSome

/-- Writes one member, in the place of an earlier one with the same key. -/
def insert (key : String) (value : Json) : Members → Members
  | [] => [(key, value)]
  | (k, v) :: rest =>
    if key < k then (key, value) :: (k, v) :: rest
    else if key = k then (key, value) :: rest
    else (k, v) :: insert key value rest

def ofList (pairs : List (String × Json)) : Members :=
  pairs.foldl (fun ms p => insert p.1 p.2 ms) []

end Members

namespace Json

def object (pairs : List (String × Json)) : Json := .obj (Members.ofList pairs)

def ofNat (n : Nat) : Json := ((Number.ofNat? n).map Json.num).getD .null

def ofInt64 (n : Int64) : Json := .num (.ofInt64 n)

def ofFloat (f : Float) : Json := ((Number.ofFloat? f).map Json.num).getD .null

def asString? : Json → Option String
  | .str s => some s
  | _ => none

def asArray? : Json → Option (List Json)
  | .arr items => some items
  | _ => none

def get? : Json → String → Option Json
  | .obj ms, key => Members.get? ms key
  | _, _ => none

mutual

def same : Json → Json → Bool
  | .null, .null => true
  | .bool a, .bool b => a == b
  | .num m, .num n => m.same n
  | .str s, .str t => s == t
  | .arr xs, .arr ys => sameItems xs ys
  | .obj ms, .obj ns => sameMembers ms ns
  | _, _ => false

def sameItems : List Json → List Json → Bool
  | [], [] => true
  | x :: xs, y :: ys => x.same y && sameItems xs ys
  | _, _ => false

def sameMembers : List (String × Json) → List (String × Json) → Bool
  | [], [] => true
  | (k, x) :: xs, (l, y) :: ys => k == l && x.same y && sameMembers xs ys
  | _, _ => false

end

instance : BEq Json := ⟨same⟩

mutual

/-- How deep arrays and objects nest: a scalar has depth 0, an empty array depth 1. -/
def depth : Json → Nat
  | .arr items => depthItems items + 1
  | .obj ms => depthMembers ms + 1
  | _ => 0

def depthItems : List Json → Nat
  | [] => 0
  | v :: rest => max v.depth (depthItems rest)

def depthMembers : List (String × Json) → Nat
  | [] => 0
  | (_, v) :: rest => max v.depth (depthMembers rest)

end

end Json

end Intake
