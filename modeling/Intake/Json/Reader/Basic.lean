import Intake.Json.Fault

namespace Intake.Json

/-- Takes something off the front of a text, and never nothing. -/
structure Reader (α : Type) where
  run : List Char → Except Stop (α × List Char)
  takes : ∀ {cs a rest}, run cs = .ok (a, rest) → rest.length < cs.length

def isSpace (c : Char) : Bool := c == ' ' || c == '\t' || c == '\n' || c == '\r'

def skipSpace (cs : List Char) : List Char := cs.dropWhile isSpace

theorem length_skipSpace_le (cs : List Char) : (skipSpace cs).length ≤ cs.length :=
  (List.dropWhile_suffix isSpace).length_le

def readWord : (word : List Char) → List Char → Except Stop (List Char)
  | [], cs => .ok cs
  | _ :: _, [] => .error (.atEnd .endInValue)
  | w :: ws, c :: cs => if c = w then readWord ws cs else .error (.onByte .expectedIdent (c :: cs))

theorem length_readWord_le {word cs rest : List Char} (h : readWord word cs = .ok rest) :
    rest.length ≤ cs.length := by
  induction word generalizing cs with
  | nil => simp_all [readWord]
  | cons w ws ih =>
    cases cs with
    | nil => simp [readWord] at h
    | cons c cs =>
      simp only [readWord] at h
      split at h
      · have := ih h
        simp only [List.length_cons]
        omega
      · simp at h

end Intake.Json
