import Intake.Decimal.Natural

namespace Intake.Json

inductive Fault where
  | endInValue
  | endInList
  | endInObject
  | endInString
  | expectedValue
  | expectedIdent
  | expectedListEnd
  | expectedObjectEnd
  | expectedColon
  | expectedKey
  | trailingComma
  | trailingCharacters
  | controlCharacter
  | invalidEscape
  | loneSurrogate
  | unfinishedSurrogate
  | invalidNumber
  | numberOutOfRange
  | depthLimit
deriving DecidableEq, Repr

namespace Fault

def text : Fault → String
  | endInValue => "EOF while parsing a value"
  | endInList => "EOF while parsing a list"
  | endInObject => "EOF while parsing an object"
  | endInString => "EOF while parsing a string"
  | expectedValue => "expected value"
  | expectedIdent => "expected ident"
  | expectedListEnd => "expected `,` or `]`"
  | expectedObjectEnd => "expected `,` or `\x7d`"
  | expectedColon => "expected `:`"
  | expectedKey => "key must be a string"
  | trailingComma => "trailing comma"
  | trailingCharacters => "trailing characters"
  | controlCharacter => "control character (\\u0000-\\u001F) found while parsing a string"
  | invalidEscape => "invalid escape"
  | loneSurrogate => "lone leading surrogate in hex escape"
  | unfinishedSurrogate => "unexpected end of hex escape"
  | invalidNumber => "invalid number"
  | numberOutOfRange => "number out of range"
  | depthLimit => "recursion limit exceeded"

def isEnd : Fault → Bool
  | endInValue | endInList | endInObject | endInString => true
  | _ => false

end Fault

def byteLength (cs : List Char) : Nat := cs.foldl (fun n c => n + c.utf8Size) 0

theorem foldl_utf8Size (cs : List Char) (n : Nat) :
    cs.foldl (fun n c => n + c.utf8Size) n = n + byteLength cs := by
  induction cs generalizing n with
  | nil => rfl
  | cons c cs ih =>
    simp only [byteLength, List.foldl_cons]
    rw [ih, ih (0 + c.utf8Size)]
    omega

theorem byteLength_nil : byteLength [] = 0 := rfl

theorem byteLength_cons (c : Char) (cs : List Char) :
    byteLength (c :: cs) = c.utf8Size + byteLength cs := by
  rw [byteLength, List.foldl_cons, foldl_utf8Size]
  omega

theorem byteLength_append (xs ys : List Char) :
    byteLength (xs ++ ys) = byteLength xs + byteLength ys := by
  simp only [byteLength, List.foldl_append]
  exact foldl_utf8Size ys _

/-- Whether a text has fewer than `n` bytes; no more of it is looked at than that needs. -/
def shorterThan : (n : Nat) → List Char → Bool
  | n, [] => 0 < n
  | n, c :: cs => 0 < n && shorterThan (n - c.utf8Size) cs

theorem shorterThan_iff {n : Nat} {cs : List Char} :
    shorterThan n cs = true ↔ byteLength cs < n := by
  induction cs generalizing n with
  | nil => simp only [shorterThan, byteLength_nil, decide_eq_true_eq]
  | cons c cs ih =>
    simp only [shorterThan, Bool.and_eq_true, decide_eq_true_eq, ih, byteLength_cons]
    omega

/-- Where reading stopped: the fault, and the bytes behind the last one looked at. -/
structure Stop where
  fault : Fault
  unread : Nat

namespace Stop

def before (fault : Fault) (rest : List Char) : Stop := ⟨fault, byteLength rest⟩

/-- The first `n` bytes of `rest` were looked at too, or all of it if it is shorter. -/
def inside (fault : Fault) (n : Nat) (rest : List Char) : Stop := ⟨fault, byteLength rest - n⟩

def onByte (fault : Fault) (rest : List Char) : Stop := inside fault 1 rest

def atEnd (fault : Fault) : Stop := ⟨fault, 0⟩

end Stop

/-- Lines count from 1, columns are bytes since the last line feed. -/
structure Position where
  line : Nat
  column : Nat
deriving DecidableEq, Repr

namespace Position

def start : Position := ⟨1, 0⟩

/-- The position after the first `n` bytes of a text; `n` may end inside a character. -/
def advance (p : Position) : (n : Nat) → List Char → Position
  | _, [] => p
  | n, c :: cs =>
    if n = 0 then p
    else if c = '\n' then advance ⟨p.line + 1, 0⟩ (n - 1) cs
    else advance ⟨p.line, p.column + min n c.utf8Size⟩ (n - c.utf8Size) cs

end Position

structure ReadError where
  fault : Fault
  position : Position
deriving DecidableEq, Repr

namespace ReadError

def text (e : ReadError) : String :=
  e.fault.text ++ " at line " ++ Decimal.string e.position.line ++ " column " ++
    Decimal.string e.position.column

def ofStop (cs : List Char) (s : Stop) : ReadError :=
  ⟨s.fault, Position.start.advance (byteLength cs - s.unread) cs⟩

end ReadError

end Intake.Json
