import Intake.CommandLine.Run

namespace Intake.CommandLine

/-- The bytes that a 64-bit size can count; no real input has more. -/
def counted (content : List UInt8) : List UInt8 := content.take 0xFFFF_FFFF_FFFF_FFFF

/-- Nobody is asked to type a document in: at a terminal, standard input is not waited for unless it
was named. -/
def Awaited (s : Surroundings) : Origin → Prop
  | .stdin named => named = true ∨ s.terminals.stdin = false
  | _ => True

theorem not_awaited_iff {s : Surroundings} {origin : Origin} :
    ¬ Awaited s origin ↔ origin = .stdin false ∧ s.terminals.stdin = true := by
  cases origin with
  | inline | file => simp [Awaited]
  | stdin named => simp [Awaited]

/-- What an origin holds: so many bytes, and the text that they write. -/
inductive Holds (s : Surroundings) : Origin → Nat → Except Text.Utf8Fault String → Prop where
  | inline (text : String) : Holds s (.inline text) text.utf8ByteSize (.ok text)
  | stdin {named : Bool} {content : List UInt8} (awaited : Awaited s (.stdin named))
      (read : s.stdin = .bytes content) :
      Holds s (.stdin named) (counted content).length (Text.decodeUtf8 (counted content))
  | file {path : String} {content : List UInt8} (read : s.file path = .bytes content) :
      Holds s (.file path) (counted content).length (Text.decodeUtf8 (counted content))

theorem Holds.awaited {s : Surroundings} {origin : Origin} {size : Nat}
    {written : Except Text.Utf8Fault String} (h : Holds s origin size written) :
    Awaited s origin := by
  cases h with
  | inline | file => exact trivial
  | stdin awaited => exact awaited

def oversize (limit : Nat) : Diagnostic :=
  ⟨.usage, some ("input exceeds " ++ Decimal.string limit ++ " bytes"),
    some "Split the submission or raise --max-bytes.", [], []⟩

theorem checkSize_eq (size limit : Nat) :
    checkSize size limit = if limit < size then .error (oversize limit) else .ok () := rfl

/-- One byte more than the limit is enough to see that there are too many, and no byte of an input
that fits is lost. -/
theorem take_readAhead (limit : Nat) (content : List UInt8) :
    (limit < (content.take (readAhead limit)).length ↔ limit < (counted content).length) ∧
      ((counted content).length ≤ limit → content.take (readAhead limit) = counted content) := by
  unfold counted readAhead
  simp only [List.length_take]
  constructor
  · omega
  · intro h
    rw [List.take_eq_take_iff]
    omega

/-- Taking no more bytes than the limit needs decides as all of them would. -/
theorem textOfBytes_eq (label : String) (limit : Nat) (content : List UInt8) :
    textOfBytes label limit content =
      if limit < (counted content).length then .error (oversize limit)
      else (Text.decodeUtf8 (counted content)).mapError (notUtf8 label) := by
  obtain ⟨hsize, hwhole⟩ := take_readAhead limit content
  unfold textOfBytes
  dsimp only
  rw [checkSize_eq]
  by_cases h : limit < (counted content).length
  · rw [if_pos h, if_pos (hsize.mpr h)]
    rfl
  · rw [if_neg h, if_neg (fun hl => h (hsize.mp hl)), hwhole (Nat.le_of_not_lt h)]
    rfl

/-- The size of what an origin holds is looked at first, and its text after that. -/
theorem Holds.textOf_eq {s : Surroundings} {origin : Origin} {size : Nat}
    {written : Except Text.Utf8Fault String} (h : Holds s origin size written) (limit : Nat) :
    textOf origin limit (s.fetch origin) =
      if limit < size then .error (oversize limit)
      else written.mapError (notUtf8 origin.label) := by
  cases h with
  | inline text =>
    unfold textOf
    dsimp only
    rw [checkSize_eq]
    split <;> rfl
  | stdin _ read | file read =>
    simp only [Surroundings.fetch, read]
    exact textOfBytes_eq _ limit _

end Intake.CommandLine
