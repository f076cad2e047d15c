import Intake.Document
import Intake.Operation.Basic
import Intake.Text.Blank
import Intake.Timestamp.Reader

namespace Intake.Operation

def faulty (tag : OpTag) (node : Json) (message : String) : Diagnostic :=
  (Diagnostic.new (.malformedOpPayload tag))
    |>.withMessage message
    |>.withJson node

structure Source where
  tag : OpTag
  members : Members

namespace Source

def node (s : Source) : Json := .obj s.members

def fault (s : Source) (message : String) : Diagnostic := faulty s.tag s.node message

/-- The table stands under the key of the kind itself. -/
def table (s : Source) : Except Diagnostic TableName :=
  match ((s.members.get? s.tag.key).bind Json.asString?).bind TableName.ofString? with
  | some t => .ok t
  | none => .error (s.fault ("`" ++ s.tag.key ++ "` must name a table"))

def docId (s : Source) (key : String) : Except Diagnostic DocId :=
  match s.members.get? key with
  | none => .error (s.fault ("missing `" ++ key ++ "`"))
  | some v =>
    match DocId.ofJson? v with
    | some id => .ok id
    | none => .error (s.fault ("`" ++ key ++ "` must be a non-empty string or an integer"))

def optionalTime (s : Source) (key : String) : Except Diagnostic (Option Timestamp) :=
  match s.members.get? key with
  | none => .ok none
  | some .null => .ok none
  | some (.str text) =>
    match Timestamp.read text with
    | .ok t => .ok (some t)
    | .error f =>
      .error ((s.fault ("`" ++ key ++ "` must be an RFC 3339 timestamp")).withCauses f.causes)
  | some _ => .error (s.fault ("`" ++ key ++ "` must be an RFC 3339 timestamp string"))

def validTime (s : Source) : Except Diagnostic ValidTime := do
  let start ← s.optionalTime "valid_from"
  let stop ← s.optionalTime "valid_to"
  match start, stop with
  | some a, some b =>
    if b.instant < a.instant then .error (s.fault "`valid_to` precedes `valid_from`")
    else return ⟨start, stop⟩
  | _, _ => return ⟨start, stop⟩

def optionalList (s : Source) (key : String) : Except Diagnostic (List Json) :=
  match s.members.get? key with
  | none => .ok []
  | some .null => .ok []
  | some (.arr items) => .ok items
  | some _ => .error (s.fault ("`" ++ key ++ "` must be a list"))

def doc (s : Source) : Except Diagnostic Members :=
  match s.members.get? "doc" with
  | some (.obj ms) => .ok ms
  | some _ => .error (s.fault "`doc` must be a JSON object")
  | none => .error (s.fault "missing `doc`")

def statement (s : Source) : Except Diagnostic String :=
  match (s.members.get? OpTag.sql.key).bind Json.asString? with
  | some text =>
    if Text.isAllBlank text then .error (s.fault "`sql` must be a non-empty string") else .ok text
  | none => .error (s.fault "`sql` must be a non-empty string")

def rows (s : Source) : List Json → Except Diagnostic (List (List Json))
  | [] => .ok []
  | .arr args :: rest => (s.rows rest).map (args :: ·)
  | _ :: _ => .error (s.fault "each entry of `arg_rows` must be a list")

def put (s : Source) : Except Diagnostic Operation := do
  let table ← s.table
  let doc ← s.doc
  let valid ← s.validTime
  return .put table doc valid

def delete (s : Source) : Except Diagnostic Operation := do
  let table ← s.table
  let id ← s.docId "id"
  let valid ← s.validTime
  return .delete table id valid

def erase (s : Source) : Except Diagnostic Operation := do
  let table ← s.table
  let id ← s.docId "id"
  return .erase table id

def call (s : Source) : Except Diagnostic Operation := do
  let function ← s.docId OpTag.call.key
  let args ← s.optionalList "args"
  return .call function args

def sql (s : Source) : Except Diagnostic Operation := do
  let statement ← s.statement
  let items ← s.optionalList "arg_rows"
  let argRows ← s.rows items
  return .sql statement argRows

def read (s : Source) : Except Diagnostic Operation :=
  match s.tag with
  | .put => s.put
  | .delete => s.delete
  | .erase => s.erase
  | .call => s.call
  | .sql => s.sql

end Source

def tagsIn (ms : Members) : List OpTag := OpTag.all.filter fun t => ms.contains t.key

def malformed (node : Json) (message : String) : Diagnostic :=
  (Diagnostic.new .malformedOp)
    |>.withMessage message
    |>.withJson node

def knownKeys : String := String.intercalate ", " (OpTag.all.map OpTag.key)

/-- An object is an operation when exactly one of the five keys is present, whatever stands under
it; only the members of that kind are looked at then, in a fixed order. -/
def ofJson (node : Json) : Except Diagnostic Operation :=
  match node with
  | .obj ms =>
    match tagsIn ms with
    | [] =>
      .error ((Diagnostic.new .malformedOp)
        |>.withMessage "unrecognized operation"
        |>.withHint ("Operations carry exactly one of: " ++ knownKeys ++ ".")
        |>.withJson node)
    | [tag] => Source.read ⟨tag, ms⟩
    | first :: second :: _ =>
      .error (malformed node
        ("ambiguous operation: both `" ++ first.key ++ "` and `" ++ second.key ++ "` present"))
  | _ => .error (malformed node "operation must be a JSON object")

def read (text : String) : Except Diagnostic Operation := do
  ofJson (← Document.decode text "tx op")

end Intake.Operation
