import Intake.Json.Numeral
import Intake.Json.Reader.Container

namespace Intake.Json

/-- A value whose arrays and objects hold what `deeper` reads; without it, none may open. -/
def readValue (deeper : Option (Reader Json)) (cs : List Char) : Except Stop (Json × List Char) :=
  match skipSpace cs with
  | [] => .error (.atEnd .endInValue)
  | c :: rest =>
    if c = 'n' then (readWord ['u', 'l', 'l'] rest).map (.null, ·)
    else if c = 't' then (readWord ['r', 'u', 'e'] rest).map (.bool true, ·)
    else if c = 'f' then (readWord ['a', 'l', 's', 'e'] rest).map (.bool false, ·)
    else if c = '"' then (readString [] rest).map fun (s, rest) => (.str s, rest)
    else if c = '-' then (Numeral.readNumber true rest).map fun (n, rest) => (.num n, rest)
    else if Decimal.isDigit c then
      (Numeral.readNumber false (c :: rest)).map fun (n, rest) => (.num n, rest)
    else if c = '[' then
      match deeper with
      | some item => readArray item rest
      | none => .error (.onByte .depthLimit (c :: rest))
    else if c = '\x7b' then
      match deeper with
      | some item => readObject item rest
      | none => .error (.onByte .depthLimit (c :: rest))
    else .error (.onByte .expectedValue (c :: rest))

theorem length_readValue_lt {deeper : Option (Reader Json)} {cs rest : List Char} {v : Json}
    (h : readValue deeper cs = .ok (v, rest)) : rest.length < cs.length := by
  have hs := length_skipSpace_le cs
  unfold readValue at h
  split at h
  · simp at h
  · rename_i c r hc
    simp only [hc, List.length_cons] at hs
    have word : ∀ {w : List Char} {x : Json},
        (readWord w r).map (x, ·) = .ok (v, rest) → rest.length < cs.length := by
      intro w x hw
      cases hr : readWord w r with
      | error s => simp [hr, Except.map] at hw
      | ok r' =>
        have := length_readWord_le hr
        simp only [hr, Except.map, Except.ok.injEq, Prod.mk.injEq] at hw
        rw [← hw.2]
        omega
    split at h
    · exact word h
    split at h
    · exact word h
    split at h
    · exact word h
    split at h
    · cases hr : readString [] r with
      | error s => simp [hr, Except.map] at h
      | ok p =>
        have := length_readString_lt hr
        simp only [hr, Except.map, Except.ok.injEq, Prod.mk.injEq] at h
        rw [← h.2]
        omega
    split at h
    · cases hr : Numeral.readNumber true r with
      | error s => simp [hr, Except.map] at h
      | ok p =>
        have := Numeral.length_readNumber_lt hr
        simp only [hr, Except.map, Except.ok.injEq, Prod.mk.injEq] at h
        rw [← h.2]
        omega
    split at h
    · cases hr : Numeral.readNumber false (c :: r) with
      | error s => simp [hr, Except.map] at h
      | ok p =>
        have := Numeral.length_readNumber_lt hr
        simp only [hr, Except.map, Except.ok.injEq, Prod.mk.injEq] at h
        simp only [List.length_cons] at this
        rw [← h.2]
        omega
    split at h
    · split at h
      · have := length_readArray_lt h
        omega
      · simp at h
    split at h
    · split at h
      · have := length_readObject_lt h
        omega
      · simp at h
    · simp at h

def reader : (depth : Nat) → Reader Json
  | 0 => ⟨fun cs => readValue none cs, length_readValue_lt⟩
  | depth + 1 => ⟨fun cs => readValue (some (reader depth)) cs, length_readValue_lt⟩

def maxDepth : Nat := 127

def readAll (cs : List Char) : Except Stop Json :=
  match (reader maxDepth).run cs with
  | .error s => .error s
  | .ok (v, rest) =>
    match skipSpace rest with
    | [] => .ok v
    | more => .error (.onByte .trailingCharacters more)

def read (text : String) : Except ReadError Json :=
  (readAll text.toList).mapError (ReadError.ofStop text.toList)

end Intake.Json
