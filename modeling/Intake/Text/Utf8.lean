import Intake.Decimal.Natural

namespace Intake.Text

/-- Why bytes are no UTF-8 text. `index` counts the bytes before the offending character. -/
inductive Utf8Fault where
  | invalid (bytes index : Nat)
  | incomplete (index : Nat)
deriving DecidableEq, Repr

namespace Utf8Fault

def text : Utf8Fault → String
  | invalid bytes index =>
    "invalid utf-8 sequence of " ++ Decimal.string bytes ++ " bytes from index " ++
      Decimal.string index
  | incomplete index => "incomplete utf-8 byte sequence from index " ++ Decimal.string index

end Utf8Fault

structure Lead where
  bits : Nat
  low : UInt8
  high : UInt8
  more : Nat

/-- The narrow ranges leave out overlong forms, surrogates and what lies beyond U+10FFFF. -/
def lead? (b : UInt8) : Option Lead :=
  if 0xC2 ≤ b && b ≤ 0xDF then some ⟨b.toNat - 0xC0, 0x80, 0xBF, 0⟩
  else if b == 0xE0 then some ⟨0, 0xA0, 0xBF, 1⟩
  else if b == 0xED then some ⟨13, 0x80, 0x9F, 1⟩
  else if 0xE1 ≤ b && b ≤ 0xEF then some ⟨b.toNat - 0xE0, 0x80, 0xBF, 1⟩
  else if b == 0xF0 then some ⟨0, 0x90, 0xBF, 2⟩
  else if 0xF1 ≤ b && b ≤ 0xF3 then some ⟨b.toNat - 0xF0, 0x80, 0xBF, 2⟩
  else if b == 0xF4 then some ⟨4, 0x80, 0x8F, 2⟩
  else none

/-- A character under way. `start` is the index of its first byte, `taken` the number of its bytes
that are known to fit, `bits` their value. -/
structure Pending where
  start : Nat
  taken : Nat
  bits : Nat
  low : UInt8
  high : UInt8
  more : Nat

/-- Decodes the rest of a text. `index` counts the bytes before it, `acc` holds the characters so
far, last one first. -/
def decodeFrom (index : Nat) (acc : List Char) (pending : Option Pending) :
    List UInt8 → Except Utf8Fault (List Char)
  | [] =>
    match pending with
    | none => .ok acc.reverse
    | some p => .error (.incomplete p.start)
  | b :: rest =>
    match pending with
    | none =>
      if b < 0x80 then decodeFrom (index + 1) (Char.ofNat b.toNat :: acc) none rest
      else
        match lead? b with
        | none => .error (.invalid 1 index)
        | some l => decodeFrom (index + 1) acc (some ⟨index, 1, l.bits, l.low, l.high, l.more⟩) rest
    | some p =>
      if p.low ≤ b && b ≤ p.high then
        let bits := p.bits * 64 + (b.toNat - 0x80)
        match p.more with
        | 0 => decodeFrom (index + 1) (Char.ofNat bits :: acc) none rest
        | more + 1 => decodeFrom (index + 1) acc (some ⟨p.start, p.taken + 1, bits, 0x80, 0xBF, more⟩) rest
      else .error (.invalid p.taken p.start)

def decodeUtf8 (bytes : List UInt8) : Except Utf8Fault String :=
  (decodeFrom 0 [] none bytes).map String.ofList

end Intake.Text
