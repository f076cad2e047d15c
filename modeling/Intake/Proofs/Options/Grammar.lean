import Intake.Options
import Intake.Proofs.Operation.Grammar
import Intake.Proofs.Text.Utf8

namespace Intake.Options

def textKeys : List String := ["system_time", "default_tz"]

def flagKey : String := "default_all_valid_time"

inductive ZoneField : Option Json → Option String → Prop where
  | absent : ZoneField .none .none
  | null : ZoneField (some .null) .none
  | given {s : String} (said : ∃ c ∈ s.toList, Text.isBlank c = false) :
      ZoneField (some (.str s)) (some s)

/-- A flag; null does not stand for one that is not set. -/
inductive FlagField : Option Json → Bool → Prop where
  | absent : FlagField .none false
  | given (b : Bool) : FlagField (some (.bool b)) b

inductive Grammar : Json → Options → Prop where
  | object {ms : Members} {o : Options}
      (recognized : ∀ key v, ms.get? key = some v → key ∈ textKeys ∨ key = flagKey)
      (time : Operation.TimeField (ms.get? "system_time") o.systemTime)
      (zone : ZoneField (ms.get? "default_tz") o.defaultTz)
      (flag : FlagField (ms.get? "default_all_valid_time") o.defaultAllValidTime) :
      Grammar (.obj ms) o

inductive Takes : String → Json → Prop where
  | null {key : String} (recognized : key ∈ textKeys) : Takes key .null
  | text {key : String} (recognized : key ∈ textKeys) (s : String) : Takes key (.str s)
  | flag (b : Bool) : Takes flagKey (.bool b)

def Fits (ms : Members) : Prop := ∀ key v, ms.get? key = some v → Takes key v

inductive Misfit : String → Json → MemberFault → Prop where
  | unknown {key : String} (text : key ∉ textKeys) (flag : key ≠ flagKey) (v : Json) :
      Misfit key v (.unknownKey key)
  | notText {key : String} {v : Json} (recognized : key ∈ textKeys) (null : v ≠ .null)
      (text : ∀ s, v ≠ .str s) : Misfit key v (.wrongType v "a string")
  | notFlag {v : Json} (flag : ∀ b, v ≠ .bool b) : Misfit flagKey v (.wrongType v "a boolean")

/-- Of the members that no option takes, the one whose key comes first when keys are ordered by
their bytes. -/
structure FirstMisfit (ms : Members) (key : String) (v : Json) (f : MemberFault) : Prop where
  found : ms.get? key = some v
  misfit : Misfit key v f
  first : ∀ k w g, ms.get? k = some w → Misfit k w g → Text.utf8 key ≤ Text.utf8 k

/-- The diagnostic of a refused value. Each has the whole value as its only context. A misfit goes
before an unreadable time, and that before a blank zone. -/
inductive Refusal : Json → Diagnostic → Prop where
  | notObject {node : Json} (shape : ∀ ms, node ≠ .obj ms) :
      Refusal node ⟨.malformedTxOptions, some "tx_options must be a JSON object", .none,
        [("json", .str node.pretty)], []⟩
  | misfit {ms : Members} {key : String} {v : Json} {f : MemberFault}
      (first : FirstMisfit ms key v f) :
      Refusal (.obj ms) ⟨.malformedTxOptions, some "tx_options has unknown or ill-typed keys",
        some "Recognized keys: system_time, default_tz, default_all_valid_time.",
        [("json", .str (Json.obj ms).pretty)], [f.text]⟩
  | time {ms : Members} {text : String} {f : TimestampFault} (fits : Fits ms)
      (given : ms.get? "system_time" = some (.str text))
      (unreadable : Timestamp.read text = .error f) :
      Refusal (.obj ms) ⟨.malformedTxOptions, some "system_time must be an RFC 3339 timestamp",
        .none, [("json", .str (Json.obj ms).pretty)], f.causes⟩
  | zone {ms : Members} {t : Option Timestamp} {text : String} (fits : Fits ms)
      (time : Operation.TimeField (ms.get? "system_time") t)
      (given : ms.get? "default_tz" = some (.str text))
      (blank : ∀ c ∈ text.toList, Text.isBlank c = true) :
      Refusal (.obj ms) ⟨.malformedTxOptions, some "default_tz must not be blank", .none,
        [("json", .str (Json.obj ms).pretty)], []⟩

end Intake.Options
