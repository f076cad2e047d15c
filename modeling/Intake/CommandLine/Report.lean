import Intake.CommandLine.Command
import Intake.Diagnostic
import Intake.Text.Lines

namespace Intake

namespace DiagnosticKind

def defaultMessage : DiagnosticKind → String
  | internal => "internal error"
  | usage => "usage error"
  | io => "i/o error"
  | invalidJson => "invalid JSON"
  | _ => "document rejected"

def advice? : DiagnosticKind → Option String
  | usage => none
  | invalidJson => none
  | io => some "I/O error. Check the path and permissions, or pipe the document on stdin."
  | internal =>
    some "Unexpected internal failure. Retry with RUST_LOG=debug and share the input if it persists."
  | _ => some "The document was rejected as-is. Fix the part shown under `json` and resubmit."

end DiagnosticKind

namespace Diagnostic

def advised (d : Diagnostic) : Diagnostic :=
  match d.hint, d.kind.advice? with
  | none, some text => d.withHint text
  | _, _ => d

def shownMessage (d : Diagnostic) : String := d.message.getD d.kind.defaultMessage

/-- All of a diagnostic as one JSON object; what it lacks is left out. -/
def report (d : Diagnostic) : Json :=
  let hint := d.hint.map fun h => ("hint", Json.str h)
  let context := if d.context.isEmpty then none else some ("context", Json.object d.context)
  let causes :=
    if d.causes.isEmpty then none else some ("causes", Json.arr (d.causes.map Json.str))
  let inner := [("kind", Json.str d.kind.code), ("message", Json.str d.shownMessage)] ++
    hint.toList ++ context.toList ++ causes.toList
  .object [("error", .object inner)]

end Diagnostic

namespace CommandLine

inductive LabelColor where
  | red
  | yellow

def LabelColor.code : LabelColor → String
  | red => "31"
  | yellow => "33"

def label (color : Bool) (c : LabelColor) (text : String) : String :=
  if color then "\x1b[1;" ++ c.code ++ "m" ++ text ++ "\x1b[0m" else text

def shownValue : Json → String
  | .str s => s
  | v => v.compact

/-- The lines that tell a diagnostic to a reader. Of the causes only the outermost is told. -/
def reportLines (d : Diagnostic) (color : Bool) : List String :=
  let head := label color .red "error:" ++ " " ++ d.kind.code ++ ": " ++ d.shownMessage
  let hint := d.hint.map fun h => label color .yellow "hint:" ++ " " ++ h
  let entries := (d.context.filter (·.1 != Diagnostic.jsonKey)).map fun e =>
    label color .yellow (e.1 ++ ":") ++ " " ++ shownValue e.2
  let part := match d.json? with
    | some text =>
      label color .yellow "json:" ::
        (Text.lines text.toList).map fun l => String.ofList (' ' :: ' ' :: l)
    | none => []
  let cause := d.causes.head?.map fun c => label color .yellow "caused by:" ++ " " ++ c
  head :: (hint.toList ++ entries ++ part ++ cause.toList)

def reportText (d : Diagnostic) (color : Bool) : String :=
  String.intercalate "\n" (reportLines d color)

def told (d : Diagnostic) (mode : ColorMode) (terminal : Bool) : String :=
  if terminal then reportText d (mode.applies terminal) else d.report.compact

end CommandLine

end Intake
