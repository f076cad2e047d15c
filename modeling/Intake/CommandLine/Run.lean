import Intake.CommandLine.Arguments
import Intake.CommandLine.Help
import Intake.CommandLine.Input
import Intake.CommandLine.Report
import Intake.Submission

namespace Intake.CommandLine

structure Terminals where
  stdin : Bool
  stdout : Bool
  stderr : Bool
deriving DecidableEq, Repr

structure Outcome where
  exitCode : Nat
  stdout : String
  stderr : String
deriving DecidableEq, Repr

namespace Outcome

def printed (text : String) : Outcome := ⟨0, text, ""⟩

def failed (d : Diagnostic) (mode : ColorMode) (t : Terminals) : Outcome :=
  ⟨d.kind.exitCode, "", told d mode t.stderr ++ "\n"⟩

end Outcome

def shown (v : Json) (t : Terminals) : String :=
  (if t.stdout then v.pretty else v.compact) ++ "\n"

def evaluate (kind : DocumentKind) (node : Json) : Except Diagnostic Json :=
  match kind with
  | .submission => do (← Submission.ofJson node).toJson
  | .operation => do (← Operation.ofJson node).toJson
  | .clause kind => do return (← Clause.ofJson kind node).toJson

structure Reading where
  kind : DocumentKind
  origin : Origin
  limit : Nat
  color : ColorMode
  terminals : Terminals

namespace Reading

def result (r : Reading) (fetched : Fetched) : Except Diagnostic Json := do
  let node ← readDocument r.origin r.limit fetched
  evaluate r.kind node

def outcome (r : Reading) (fetched : Fetched) : Outcome :=
  match r.result fetched with
  | .ok v => .printed (shown v r.terminals)
  | .error d => .failed d.advised r.color r.terminals

end Reading

def versionText : String := "txjson " ++ version ++ "\n"

def versionJson : Json := .object [("name", .str "txjson"), ("version", .str version)]

inductive Plan where
  | done (o : Outcome)
  | script (shell : Shell)
  | reading (r : Reading)

def Detour.outcome (d : Detour) (t : Terminals) : Outcome :=
  match d with
  | .nothing => ⟨2, "", HelpPage.program.text t.stderr⟩
  | .help page => .printed (page.text t.stdout)
  | .version => .printed versionText
  | .fault e => .failed e.diagnostic .auto t

/-- Nobody is asked to type a document in: standard input is only read from a terminal when it was
named. -/
def plan (args : List String) (t : Terminals) : Plan :=
  match readArguments (args.map normalize) with
  | .error d => .done (d.outcome t)
  | .ok request =>
    match request.job with
    | .version => .done (.printed (if t.stdout then versionText else shown versionJson t))
    | .completion shell => .script shell
    | .document kind origin =>
      if origin = .stdin false ∧ t.stdin then .done (.failed missingInput request.color t)
      else .reading ⟨kind, origin, request.limit, request.color, t⟩

/-- What surrounds a run. The completion scripts are another program's: where it is not at hand,
there are none. -/
structure Surroundings where
  stdin : Fetched
  file : String → Fetched
  terminals : Terminals
  scripts : Shell → String := fun _ => ""

def Surroundings.fetch (s : Surroundings) : Origin → Fetched
  | .inline _ => .bytes []
  | .stdin _ => s.stdin
  | .file path => s.file path

def run (args : List String) (s : Surroundings) : Outcome :=
  match plan args s.terminals with
  | .done o => o
  | .script shell => .printed (s.scripts shell)
  | .reading r => r.outcome (s.fetch r.origin)

end Intake.CommandLine
