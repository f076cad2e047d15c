import Intake.Operation.Basic
import Intake.Timestamp.Printer

namespace Intake

/-- A time under its key, or nothing when it is not set. A time that cannot be written is a
failure of the program, not of the document. -/
def timeMember (key : String) : Option Timestamp → Except Diagnostic (List (String × Json))
  | none => .ok []
  | some t =>
    match t.write with
    | .ok text => .ok [(key, .str text)]
    | .error e =>
      .error ((Diagnostic.new .internal)
        |>.withMessage ("failed to format " ++ key)
        |>.withCauses [e.text])

namespace ValidTime

def toMembers (v : ValidTime) : Except Diagnostic (List (String × Json)) := do
  let start ← timeMember "valid_from" v.start
  let stop ← timeMember "valid_to" v.stop
  return start ++ stop

end ValidTime

namespace Operation

def payload : Operation → Except Diagnostic (List (String × Json))
  | put table doc valid => do
    let times ← valid.toMembers
    return [("table", .str table.text), ("doc", .obj doc)] ++ times
  | delete table id valid => do
    let times ← valid.toMembers
    return [("table", .str table.text), ("id", id.toJson)] ++ times
  | erase table id => .ok [("table", .str table.text), ("id", id.toJson)]
  | call function args => .ok [("fn_id", function.toJson), ("args", .arr args)]
  | sql statement argRows =>
    .ok [("sql", .str statement), ("arg_rows", .arr (argRows.map Json.arr))]

def toJson (op : Operation) : Except Diagnostic Json :=
  op.payload.map fun ms => .object (("op", .str op.tag.key) :: ms)

end Operation

end Intake
