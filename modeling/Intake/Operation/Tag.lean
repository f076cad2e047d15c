namespace Intake

inductive OpTag where
  | put
  | delete
  | erase
  | call
  | sql
deriving DecidableEq, Repr

namespace OpTag

def key : OpTag → String
  | put => "put"
  | delete => "delete"
  | erase => "erase"
  | call => "call"
  | sql => "sql"

/-- All kinds, in the order in which their keys are looked for. -/
def all : List OpTag := [put, delete, erase, call, sql]

theorem mem_all (t : OpTag) : t ∈ all := by cases t <;> decide

end OpTag

end Intake
