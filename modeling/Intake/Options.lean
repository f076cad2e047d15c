import Intake.Diagnostic
import Intake.Operation.Printer
import Intake.Text.Blank
import Intake.Text.Quoted
import Intake.Timestamp.Reader

namespace Intake

structure Options where
  systemTime : Option Timestamp
  defaultTz : Option String
  defaultAllValidTime : Bool

namespace Options

def none : Options := ⟨.none, .none, false⟩

/-- The recognised keys with their values, the time still as text. -/
structure Raw where
  systemTime : Option String
  defaultTz : Option String
  defaultAllValidTime : Bool

inductive MemberFault where
  | unknownKey (key : String)
  | wrongType (found : Json) (expected : String)

/-- The type of a value, with the value itself when it is a scalar. -/
def describe : Json → String
  | .null => "null"
  | .bool b => if b then "boolean `true`" else "boolean `false`"
  | .num n =>
    match n with
    | .int .. => "integer `" ++ String.ofList (Json.numberText n) ++ "`"
    | .float .. => "floating point `" ++ String.ofList (Json.numberText n) ++ "`"
  | .str s => "string " ++ Text.quote s
  | .arr _ => "sequence"
  | .obj _ => "map"

def MemberFault.text : MemberFault → String
  | unknownKey key =>
    "unknown field `" ++ key ++
      "`, expected one of `system_time`, `default_tz`, `default_all_valid_time`"
  | wrongType found expected => "invalid type: " ++ describe found ++ ", expected " ++ expected

def optionalText : Json → Except MemberFault (Option String)
  | .null => .ok .none
  | .str s => .ok (some s)
  | other => .error (.wrongType other "a string")

def flag : Json → Except MemberFault Bool
  | .bool b => .ok b
  | other => .error (.wrongType other "a boolean")

def readMember (raw : Raw) (key : String) (value : Json) : Except MemberFault Raw :=
  if key = "system_time" then (optionalText value).map fun s => { raw with systemTime := s }
  else if key = "default_tz" then (optionalText value).map fun s => { raw with defaultTz := s }
  else if key = "default_all_valid_time" then
    (flag value).map fun b => { raw with defaultAllValidTime := b }
  else .error (.unknownKey key)

def readMembers (raw : Raw) : Members → Except MemberFault Raw
  | [] => .ok raw
  | (key, value) :: rest =>
    match readMember raw key value with
    | .ok raw => readMembers raw rest
    | .error f => .error f

def malformed (node : Json) (message : String) : Diagnostic :=
  (Diagnostic.new .malformedTxOptions)
    |>.withJson node
    |>.withMessage message

def systemTimeOf (node : Json) : Option String → Except Diagnostic (Option Timestamp)
  | .none => .ok .none
  | some text =>
    match Timestamp.read text with
    | .ok t => .ok (some t)
    | .error f =>
      .error ((malformed node "system_time must be an RFC 3339 timestamp").withCauses f.causes)

/-- The members are checked for key and type first, in the order of their keys; only then is the
time read and the zone looked at. -/
def ofJson (node : Json) : Except Diagnostic Options :=
  match node with
  | .obj ms =>
    match readMembers ⟨.none, .none, false⟩ ms with
    | .error f =>
      .error ((malformed node "tx_options has unknown or ill-typed keys")
        |>.withHint "Recognized keys: system_time, default_tz, default_all_valid_time."
        |>.withCauses [f.text])
    | .ok raw =>
      match systemTimeOf node raw.systemTime with
      | .error d => .error d
      | .ok systemTime =>
        if raw.defaultTz.any Text.isAllBlank then
          .error (malformed node "default_tz must not be blank")
        else .ok ⟨systemTime, raw.defaultTz, raw.defaultAllValidTime⟩
  | _ => .error (malformed node "tx_options must be a JSON object")

/-- Options written out; what is not set is left out, but the flag always stands there. -/
def toJson (o : Options) : Except Diagnostic Json :=
  (timeMember "system_time" o.systemTime).map fun time =>
    .object (time ++ (o.defaultTz.map fun tz => ("default_tz", Json.str tz)).toList ++
      [("default_all_valid_time", .bool o.defaultAllValidTime)])

def same (a b : Options) : Bool :=
  ValidTime.sameEnd a.systemTime b.systemTime && a.defaultTz == b.defaultTz &&
    a.defaultAllValidTime == b.defaultAllValidTime

end Options

end Intake
