import Intake.Expr

namespace Intake.BindingList

inductive Fault (ε : Type) where
  | malformed (d : Diagnostic)
  | refused (e : ε)

def malformedSpec (item : Json) : Diagnostic :=
  (Diagnostic.new .malformedSpec)
    |>.withMessage "binding must be a name or an object with exactly one key"
    |>.withJson item

def element (item : Json) : Except Diagnostic (String × Option Expr) :=
  match item with
  | .str name => .ok (name, none)
  | .obj [(name, value)] => (Expr.ofJson value).map fun e => (name, some e)
  | _ => .error (malformedSpec item)

variable {σ ε α : Type}

/-- Makes one thing of each element, from left to right, up to the first fault. The state is
threaded through all calls, a refusing one included. -/
def make (construct : σ → String → Option Expr → Except ε α × σ) :
    (state : σ) → List Json → Except (Fault ε) (List α) × σ
  | s, [] => (.ok [], s)
  | s, item :: rest =>
    match element item with
    | .error d => (.error (.malformed d), s)
    | .ok (name, expr) =>
      match construct s name expr with
      | (.error e, s) => (.error (.refused e), s)
      | (.ok a, s) =>
        match make construct s rest with
        | (.error f, s) => (.error f, s)
        | (.ok as, s) => (.ok (a :: as), s)

end Intake.BindingList
