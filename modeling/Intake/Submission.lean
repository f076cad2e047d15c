import Intake.Operation.Printer
import Intake.Operation.Reader
import Intake.Options

namespace Intake

structure Submission where
  operations : List Operation
  options : Options

namespace Submission

def operationsKey : String := "tx_ops"

def optionsKey : String := "tx_options"

def malformed (kind : DiagnosticKind) (node : Json) (message : String) : Diagnostic :=
  (Diagnostic.new kind)
    |>.withMessage message
    |>.withJson node

/-- The operations of a list whose first element has the given index. A fault is told with the
index of its operation. -/
def readOperations (index : Nat) : List Json → Except Diagnostic (List Operation)
  | [] => .ok []
  | item :: rest =>
    match Operation.ofJson item with
    | .error d => .error (d.withContext "op_index" (.ofNat index))
    | .ok op =>
      match readOperations (index + 1) rest with
      | .error d => .error d
      | .ok ops => .ok (op :: ops)

def readOptions (ms : Members) : Except Diagnostic Options :=
  match ms.get? optionsKey with
  | none => .ok .none
  | some .null => .ok .none
  | some value => Options.ofJson value

/-- The envelope is checked first, then the operations in their order, then the options; the first
fault is the one reported. -/
def ofJson (node : Json) : Except Diagnostic Submission :=
  match node with
  | .obj ms =>
    match Members.get? ms operationsKey with
    | none => .error (malformed .missingTxOps node "missing `tx_ops`")
    | some (.arr items) => do
      let operations ← readOperations 0 items
      let options ← readOptions ms
      return ⟨operations, options⟩
    | some _ => .error (malformed .malformedTxOps node "`tx_ops` must be a list of operations")
  | _ => .error (malformed .malformedTx node "transaction must be a JSON object")

def read (text : String) : Except Diagnostic Submission := do
  ofJson (← Document.decode text "tx request")

def operationsJson : List Operation → Except Diagnostic (List Json)
  | [] => .ok []
  | op :: rest =>
    match op.toJson with
    | .error d => .error d
    | .ok v =>
      match operationsJson rest with
      | .error d => .error d
      | .ok vs => .ok (v :: vs)

def toJson (s : Submission) : Except Diagnostic Json := do
  let ops ← operationsJson s.operations
  let options ← s.options.toJson
  return .object [("ops", .arr ops), ("options", options)]

def sameOperations : List Operation → List Operation → Bool
  | [], [] => true
  | a :: as, b :: bs => a.same b && sameOperations as bs
  | _, _ => false

def same (a b : Submission) : Bool :=
  sameOperations a.operations b.operations && a.options.same b.options

end Submission

end Intake
