import Intake.Json.Printer
import Intake.Operation.Tag

namespace Intake

inductive DiagnosticKind where
  | internal
  | usage
  | io
  | invalidJson
  | malformedTx
  | missingTxOps
  | malformedTxOps
  | malformedTxOptions
  | malformedOp
  | malformedOpPayload (tag : OpTag)
  | malformedWith
  | malformedReturn
  | malformedSpec
  | malformedExpr
deriving DecidableEq, Repr

namespace DiagnosticKind

def code : DiagnosticKind → String
  | internal => "txjson/internal"
  | usage => "txjson/usage"
  | io => "txjson/io"
  | invalidJson => "txjson/invalid-json"
  | malformedTx => "tx/malformed-tx"
  | missingTxOps => "tx/missing-tx-ops"
  | malformedTxOps => "tx/malformed-tx-ops"
  | malformedTxOptions => "tx/malformed-tx-options"
  | malformedOp => "tx/malformed-op"
  | malformedOpPayload tag => "tx/malformed-op-" ++ tag.key
  | malformedWith => "query/malformed-with"
  | malformedReturn => "query/malformed-return"
  | malformedSpec => "query/malformed-spec"
  | malformedExpr => "query/malformed-expr"

/-- The kinds that judge a document, in contrast to a run that failed. -/
def isRejection : DiagnosticKind → Bool
  | internal | usage | io | invalidJson => false
  | _ => true

def exitCode : DiagnosticKind → Nat
  | internal => 1
  | usage => 2
  | io => 3
  | invalidJson => 4
  | _ => 5

end DiagnosticKind

structure Diagnostic where
  kind : DiagnosticKind
  message : Option String
  hint : Option String
  context : List (String × Json)
  causes : List String

namespace Diagnostic

/-- The context key under which the offending part of a document stands, as pretty text. -/
def jsonKey : String := "json"

def new (kind : DiagnosticKind) : Diagnostic := ⟨kind, none, none, [], []⟩

def withMessage (d : Diagnostic) (text : String) : Diagnostic := { d with message := some text }

def withHint (d : Diagnostic) (text : String) : Diagnostic := { d with hint := some text }

/-- Writes an entry: in its place if the key is there, else behind all others. -/
def setEntry (key : String) (value : Json) : List (String × Json) → List (String × Json)
  | [] => [(key, value)]
  | (k, v) :: rest => if k = key then (k, value) :: rest else (k, v) :: setEntry key value rest

def withContext (d : Diagnostic) (key : String) (value : Json) : Diagnostic :=
  { d with context := setEntry key value d.context }

def withJson (d : Diagnostic) (node : Json) : Diagnostic :=
  d.withContext jsonKey (.str node.pretty)

def withCauses (d : Diagnostic) (texts : List String) : Diagnostic := { d with causes := texts }

def context? (d : Diagnostic) (key : String) : Option Json := d.context.lookup key

def json? (d : Diagnostic) : Option String := (d.context? jsonKey).bind Json.asString?

def entryText : String × Json → String
  | (key, value) => " (" ++ key ++ ": " ++ value.compact ++ ")"

/-- One line: the code, the message, and the context without the offending part. -/
def text (d : Diagnostic) : String :=
  let message := match d.message with
    | some m => ": " ++ m
    | none => ""
  let entries := d.context.filter (·.1 != jsonKey)
  d.kind.code ++ message ++ String.join (entries.map entryText)

def withCause (d cause : Diagnostic) : Diagnostic := d.withCauses (cause.text :: cause.causes)

end Diagnostic

end Intake
