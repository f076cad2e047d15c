import Intake.Diagnostic
import Intake.Timestamp.Basic

namespace Intake

structure TableName where
  text : String
  nonempty : text ≠ ""
deriving DecidableEq

namespace TableName

def ofString? (s : String) : Option TableName :=
  if h : s = "" then none else some ⟨s, h⟩

end TableName

inductive DocId where
  | text (s : String)
  | int (n : Int64)
deriving DecidableEq

namespace DocId

def ofJson? : Json → Option DocId
  | .str s => if s = "" then none else some (.text s)
  | .num n => n.toInt64?.map .int
  | _ => none

def toJson : DocId → Json
  | .text s => .str s
  | .int n => .ofInt64 n

end DocId

/-- From when and up to when a write holds; an end that is missing is left to the store. -/
structure ValidTime where
  start : Option Timestamp
  stop : Option Timestamp

namespace ValidTime

def sameEnd : Option Timestamp → Option Timestamp → Bool
  | none, none => true
  | some a, some b => a.sameInstant b
  | _, _ => false

def same (a b : ValidTime) : Bool := sameEnd a.start b.start && sameEnd a.stop b.stop

end ValidTime

inductive Operation where
  | put (table : TableName) (doc : Members) (valid : ValidTime)
  | delete (table : TableName) (id : DocId) (valid : ValidTime)
  | erase (table : TableName) (id : DocId)
  | call (function : DocId) (args : List Json)
  | sql (statement : String) (argRows : List (List Json))

namespace Operation

def tag : Operation → OpTag
  | put .. => .put
  | delete .. => .delete
  | erase .. => .erase
  | call .. => .call
  | sql .. => .sql

def sameRows : List (List Json) → List (List Json) → Bool
  | [], [] => true
  | a :: as, b :: bs => Json.sameItems a b && sameRows as bs
  | _, _ => false

/-- Times are compared by instant. -/
def same : Operation → Operation → Bool
  | put t d v, put t' d' v' => t == t' && Json.sameMembers d d' && v.same v'
  | delete t i v, delete t' i' v' => t == t' && i == i' && v.same v'
  | erase t i, erase t' i' => t == t' && i == i'
  | call f as, call f' as' => f == f' && Json.sameItems as as'
  | sql s rows, sql s' rows' => s == s' && sameRows rows rows'
  | _, _ => false

end Operation

end Intake
