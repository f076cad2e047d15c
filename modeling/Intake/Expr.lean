import Intake.Diagnostic

namespace Intake

inductive Expr where
  | null
  | bool (b : Bool)
  | int (n : Int64)
  | float (f : Float)
  | str (s : String)
  | var (name : String)
  | param (name : String)
  | list (items : List Expr)
  | call (function : String) (args : List Expr)

namespace Expr

def literalKey : String := "@value"

def paramMark : Char := '$'

def malformed (node : Json) (message : String) : Diagnostic :=
  (Diagnostic.new .malformedExpr)
    |>.withMessage message
    |>.withJson node

/-- Integers beyond 63 bits become the nearest double. -/
def ofNumber (n : Number) : Expr :=
  match n.toInt64? with
  | some i => .int i
  | none => .float n.toFloat

def symbol? (s : String) : Option Expr :=
  match s.toList with
  | [] => none
  | c :: rest =>
    if c = paramMark then (if rest.isEmpty then none else some (.param (String.ofList rest)))
    else some (.var s)

/-- The literal that a scalar wraps; arrays and objects are no scalars. -/
def literal? : Json → Option Expr
  | .null => some .null
  | .bool b => some (.bool b)
  | .num n => some (ofNumber n)
  | .str s => some (.str s)
  | _ => none

mutual

/-- A bare string is a variable, or with a `$` in front a query parameter; a string literal is
wrapped as `{"@value": …}`; any other object has the name of a function as its only key, and a list
of arguments under it. -/
def ofJson : Json → Except Diagnostic Expr
  | .null => .ok .null
  | .bool b => .ok (.bool b)
  | .num n => .ok (ofNumber n)
  | .str s =>
    match symbol? s with
    | some e => .ok e
    | none => .error (malformed (.str s) "empty variable name")
  | .arr items => (ofItems items).map .list
  | .obj [(key, value)] =>
    if key = literalKey then
      match literal? value with
      | some e => .ok e
      | none => .error (malformed (.obj [(key, value)]) "@value must wrap a scalar")
    else
      match value with
      | .arr args => (ofItems args).map (.call key)
      | other =>
        .error (malformed (.obj [(key, other)]) ("arguments to `" ++ key ++ "` must be a list"))
  | .obj ms => .error (malformed (.obj ms) "expression objects must have exactly one key")

def ofItems : List Json → Except Diagnostic (List Expr)
  | [] => .ok []
  | v :: rest =>
    match ofJson v with
    | .error d => .error d
    | .ok e =>
      match ofItems rest with
      | .error d => .error d
      | .ok es => .ok (e :: es)

end

mutual

def toJson : Expr → Json
  | .null => .null
  | .bool b => .bool b
  | .int n => .ofInt64 n
  | .float f => .ofFloat f
  | .str s => .obj [(literalKey, .str s)]
  | .var name => .str name
  | .param name => .str (String.ofList (paramMark :: name.toList))
  | .list items => .arr (toItems items)
  | .call f args => .obj [(f, .arr (toItems args))]

def toItems : List Expr → List Json
  | [] => []
  | e :: rest => toJson e :: toItems rest

end

mutual

/-- Equality of expressions, with floats compared as numbers; an integer is never a float. -/
def same : Expr → Expr → Bool
  | .null, .null => true
  | .bool a, .bool b => a == b
  | .int m, .int n => m == n
  | .float f, .float g => f == g
  | .str s, .str t => s == t
  | .var a, .var b => a == b
  | .param a, .param b => a == b
  | .list xs, .list ys => sameItems xs ys
  | .call f xs, .call g ys => f == g && sameItems xs ys
  | _, _ => false

def sameItems : List Expr → List Expr → Bool
  | [], [] => true
  | x :: xs, y :: ys => x.same y && sameItems xs ys
  | _, _ => false

end

end Expr

end Intake
