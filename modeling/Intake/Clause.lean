import Intake.BindingList
import Intake.Document
import Intake.Text.Blank
import Intake.Text.Quoted

namespace Intake

/-- A name that is empty or has blanks at its ends. -/
structure BindingNameFault where
  name : String
deriving DecidableEq, Repr

def BindingNameFault.text (f : BindingNameFault) : String :=
  "invalid binding name " ++ Text.quote f.name

structure Binding where
  name : String
  expr : Expr

namespace Binding

/-- A binding; without an expression the name refers to the variable itself. -/
def new (name : String) (expr : Option Expr) : Except BindingNameFault Binding :=
  if Text.isTight name then .ok ⟨name, expr.getD (.var name)⟩ else .error ⟨name⟩

def same (a b : Binding) : Bool := a.name == b.name && a.expr.same b.expr

end Binding

inductive ClauseKind where
  | withBindings
  | returnColumns
deriving DecidableEq, Repr

namespace ClauseKind

def field : ClauseKind → String
  | withBindings => "with"
  | returnColumns => "return"

def nameKey : ClauseKind → String
  | withBindings => "name"
  | returnColumns => "column"

def diagnosticKind : ClauseKind → DiagnosticKind
  | withBindings => .malformedWith
  | returnColumns => .malformedReturn

def notAList : ClauseKind → String
  | withBindings => "With should be a list of bindings"
  | returnColumns => "Return should be a list of columns"

end ClauseKind

structure Clause where
  kind : ClauseKind
  bindings : List Binding

namespace Clause

def readBindings (items : List Json) :
    Except (BindingList.Fault BindingNameFault) (List Binding) :=
  (BindingList.make (fun (s : Unit) name expr => (Binding.new name expr, s)) () items).1

/-- The clause that a document holds. A refused name is told once, as the only cause. -/
def ofJson (kind : ClauseKind) (node : Json) : Except Diagnostic Clause :=
  let malformed (message : String) : Diagnostic :=
    (Diagnostic.new kind.diagnosticKind)
      |>.withMessage message
      |>.withJson node
  match (node.get? kind.field).bind Json.asArray? with
  | none => .error (malformed kind.notAList)
  | some items =>
    match readBindings items with
    | .ok bindings => .ok ⟨kind, bindings⟩
    | .error (.malformed d) => .error d
    | .error (.refused f) => .error ((malformed f.text).withCauses [f.text])

def read (kind : ClauseKind) (text : String) : Except Diagnostic Clause := do
  ofJson kind (← Document.decode text (kind.field ++ " clause"))

def bindingJson (kind : ClauseKind) (b : Binding) : Json :=
  .object [(kind.nameKey, .str b.name), ("expr", b.expr.toJson)]

def toJson (c : Clause) : Json :=
  .object [(c.kind.field, .arr (c.bindings.map (bindingJson c.kind)))]

def sameBindings : List Binding → List Binding → Bool
  | [], [] => true
  | a :: as, b :: bs => a.same b && sameBindings as bs
  | _, _ => false

def same (a b : Clause) : Bool := a.kind == b.kind && sameBindings a.bindings b.bindings

end Clause

end Intake
