import Intake.Json.Basic
import Intake.Decimal.Shortest
import Intake.Text.Hex

namespace Intake.Json

/-- Doubles between 1e-5 and 1e16 are written without an exponent. -/
def floatLayout : Decimal.Layout := ⟨-5, 15⟩

/-- A character inside a string. Only the quote, the backslash and the characters below U+0020
are escaped. -/
def escape (c : Char) : List Char :=
  if c = '"' then ['\\', '"']
  else if c = '\\' then ['\\', '\\']
  else if c.toNat < 0x20 then
    if c = '\x08' then ['\\', 'b']
    else if c = '\t' then ['\\', 't']
    else if c = '\n' then ['\\', 'n']
    else if c = '\x0c' then ['\\', 'f']
    else if c = '\r' then ['\\', 'r']
    else ['\\', 'u', '0', '0', Text.hexDigit (c.toNat / 16), Text.hexDigit (c.toNat % 16)]
  else [c]

def quoted (s : String) : List Char := '"' :: (s.toList.flatMap escape ++ ['"'])

def numberText : Number → List Char
  | .int n _ _ => Decimal.intText n
  | .float f _ => floatLayout.floatText f

/-- What stands before an item of a container, by level of nesting, and after a colon. -/
structure Spacing where
  line : Nat → List Char
  afterColon : List Char

namespace Spacing

def none : Spacing := ⟨fun _ => [], []⟩

def lines : Spacing := ⟨fun level => '\n' :: List.replicate (2 * level) ' ', [' ']⟩

end Spacing

mutual

def write (sp : Spacing) (level : Nat) : Json → List Char
  | .null => ['n', 'u', 'l', 'l']
  | .bool true => ['t', 'r', 'u', 'e']
  | .bool false => ['f', 'a', 'l', 's', 'e']
  | .num n => numberText n
  | .str s => quoted s
  | .arr [] => ['[', ']']
  | .arr (v :: rest) =>
    '[' :: (sp.line (level + 1) ++ write sp (level + 1) v ++ writeItems sp (level + 1) rest ++
      sp.line level ++ [']'])
  | .obj [] => ['\x7b', '\x7d']
  | .obj ((k, v) :: rest) =>
    '\x7b' :: (sp.line (level + 1) ++ quoted k ++ ':' :: sp.afterColon ++
      write sp (level + 1) v ++ writeMembers sp (level + 1) rest ++ sp.line level ++ ['\x7d'])

def writeItems (sp : Spacing) (level : Nat) : List Json → List Char
  | [] => []
  | v :: rest => ',' :: (sp.line level ++ write sp level v ++ writeItems sp level rest)

def writeMembers (sp : Spacing) (level : Nat) : List (String × Json) → List Char
  | [] => []
  | (k, v) :: rest =>
    ',' :: (sp.line level ++ quoted k ++ ':' :: sp.afterColon ++ write sp level v ++
      writeMembers sp level rest)

end

def compact (v : Json) : String := String.ofList (v.write .none 0)

def pretty (v : Json) : String := String.ofList (v.write .lines 0)

end Intake.Json
