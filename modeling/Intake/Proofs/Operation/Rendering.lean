import Intake.Operation.Printer
import Intake.Proofs.Members
import Intake.Proofs.Operation.Acceptance
import Intake.Proofs.Timestamp.RoundTrip

namespace Intake

def timeEntry (t : Option Timestamp) : Option Json := t.map fun u => .str (String.ofList u.written)

def timeMembers (key : String) (t : Option Timestamp) : Members :=
  (timeEntry t).toList.map fun v => (key, v)

@[simp] theorem get?_timeMembers (key k : String) (t : Option Timestamp) :
    Members.get? (timeMembers key t) k = if k = key then timeEntry t else none := by
  unfold timeMembers
  cases timeEntry t with
  | none => simp [Members.get?_nil]
  | some v => exact Members.get?_cons key k v []

@[simp] theorem reverse_timeMembers (key : String) (t : Option Timestamp) :
    (timeMembers key t).reverse = timeMembers key t := by
  unfold timeMembers
  cases timeEntry t <;> rfl

/-- A time in its ranges is written out. -/
theorem timeMember_eq {t : Option Timestamp} (h : ∀ u, t = some u → u.Regular) (key : String) :
    timeMember key t = .ok (timeMembers key t) := by
  cases t with
  | none => rfl
  | some u =>
    unfold timeMember
    simp only [(h u rfl).write_eq]
    rfl

namespace Operation

theorem TimeField.regular {v : Option Json} {t : Option Timestamp} (h : TimeField v t) :
    ∀ u, t = some u → u.Regular := by
  intro u hu
  subst t
  cases h with
  | given reads => exact Timestamp.read_regular reads

theorem timeField_timeEntry {t : Option Timestamp} (h : ∀ u, t = some u → u.Regular) :
    TimeField (timeEntry t) t := by
  cases t with
  | none => exact .absent
  | some u => exact .given (Timestamp.read_written (h u rfl))

theorem IdField.toJson {v : Option Json} {id : DocId} (h : IdField v id) :
    IdField (some id.toJson) id := by
  cases h with
  | text nonempty => exact .text nonempty
  | int _ => exact .int rfl

def rendered : Operation → Members
  | put table doc valid =>
    [("table", .str table.text), ("doc", .obj doc)] ++
      (timeMembers "valid_from" valid.start ++ timeMembers "valid_to" valid.stop)
  | delete table id valid =>
    [("table", .str table.text), ("id", id.toJson)] ++
      (timeMembers "valid_from" valid.start ++ timeMembers "valid_to" valid.stop)
  | erase table id => [("table", .str table.text), ("id", id.toJson)]
  | call function args => [("fn_id", function.toJson), ("args", .arr args)]
  | sql statement argRows =>
    [("sql", .str statement), ("arg_rows", .arr (argRows.map Json.arr))]

theorem toMembers_eq {ms : Members} {valid : ValidTime} (h : TimeFields ms valid) :
    valid.toMembers =
      .ok (timeMembers "valid_from" valid.start ++ timeMembers "valid_to" valid.stop) := by
  unfold ValidTime.toMembers
  rw [timeMember_eq h.start.regular, timeMember_eq h.stop.regular]
  rfl

theorem payload_eq {ms : Members} {op : Operation} (h : Writes ms op) :
    op.payload = .ok op.rendered := by
  cases h with
  | put _ _ times =>
    simp only [payload, toMembers_eq times]
    rfl
  | delete _ _ times =>
    simp only [payload, toMembers_eq times]
    rfl
  | erase => rfl
  | call => rfl
  | sql => rfl

/-- No operation that was read has a time which cannot be written. -/
theorem toJson_eq {node : Json} {op : Operation} (h : ofJson node = .ok op) :
    op.toJson = .ok (.object (("op", .str op.tag.key) :: op.rendered)) := by
  cases (ofJson_eq_ok node op).mp h with
  | object _ written =>
    unfold toJson
    rw [payload_eq written]
    rfl

/-- The members of a rendered operation as they are submitted: the kind is no longer named, and its
key takes the place of `table` or `fn_id`. -/
def sourceMembers (tag : String) (ms : Members) : Members :=
  ((ms.erase "op").rename "table" tag).rename "fn_id" tag

def sourceOf : Json → Json
  | .obj ms =>
    match (Members.get? ms "op").bind Json.asString? with
    | some tag => .obj (sourceMembers tag ms)
    | none => .obj ms
  | v => v

def source (op : Operation) : Members :=
  sourceMembers op.tag.key (Members.ofList (("op", .str op.tag.key) :: op.rendered))

def selected : Operation → Json
  | put table .. => .str table.text
  | delete table .. => .str table.text
  | erase table _ => .str table.text
  | call function _ => function.toJson
  | sql statement _ => .str statement

/-- Only the member that names what the operation is about has been moved. -/
theorem get?_source (op : Operation) (k : String) : Members.get? op.source k =
    if k = op.tag.key then some op.selected
    else if k = "table" ∨ k = "fn_id" ∨ k = "op" then none
    else Members.get? op.rendered.reverse k := by
  cases op <;>
    simp [source, sourceMembers, Members.get?_rename, rendered, OpTag.key, tag, selected] <;>
    grind

/-- No other kind has its key among the members of the source form. -/
theorem sole_source (op : Operation) : SoleTag op.source op.tag := by
  intro t
  cases op <;> cases t <;> simp [get?_source, rendered, OpTag.key, tag]

theorem TimeFields.source {ms ns : Members} {valid : ValidTime} (h : TimeFields ms valid)
    (hstart : ns.get? "valid_from" = timeEntry valid.start)
    (hstop : ns.get? "valid_to" = timeEntry valid.stop) : TimeFields ns valid := by
  refine ⟨?_, ?_, h.ordered⟩
  · rw [hstart]
    exact timeField_timeEntry h.start.regular
  · rw [hstop]
    exact timeField_timeEntry h.stop.regular

/-- A rendered operation, put back into its source form, writes the same operation again. -/
theorem writes_source {ms : Members} {op : Operation} (h : Writes ms op) :
    Writes op.source op := by
  have hnamed : op.source.get? op.tag.key = some op.selected := by simp [get?_source]
  cases h with
  | put _ _ times =>
    refine .put hnamed ?_ (times.source ?_ ?_)
    all_goals simp [get?_source, rendered, OpTag.key, tag]
  | @delete table id valid _ identified times =>
    have hid : (source (delete table id valid)).get? "id" = some id.toJson := by
      simp [get?_source, rendered, OpTag.key, tag]
    refine .delete hnamed (hid ▸ identified.toJson) (times.source ?_ ?_)
    all_goals simp [get?_source, rendered, OpTag.key, tag]
  | @erase table id _ identified =>
    have hid : (source (erase table id)).get? "id" = some id.toJson := by
      simp [get?_source, rendered, OpTag.key, tag]
    exact .erase hnamed (hid ▸ identified.toJson)
  | @call function args named _ =>
    have hargs : (source (call function args)).get? "args" = some (.arr args) := by
      simp [get?_source, rendered, OpTag.key, tag]
    exact .call (hnamed ▸ named.toJson) (hargs ▸ .given args)
  | @sql statement argRows _ said _ =>
    have hrows : (source (sql statement argRows)).get? "arg_rows" =
        some (.arr (argRows.map Json.arr)) := by simp [get?_source, rendered, OpTag.key, tag]
    exact .sql hnamed said (hrows ▸ .given _)

/-- The form in which an operation is submitted comes back from its rendering. -/
theorem sourceOf_rendered (op : Operation) :
    sourceOf (.object (("op", .str op.tag.key) :: op.rendered)) = .obj op.source := by
  have hop : Members.get? (Members.ofList (("op", .str op.tag.key) :: op.rendered)) "op" =
      some (.str op.tag.key) := by
    cases op <;> simp [rendered]
  simp only [sourceOf, Json.object, hop, Option.bind_some, Json.asString?]
  rfl

/-- What is written out for an operation is the same operation again, once it is put back into its
source form. -/
theorem ofJson_sourceOf {node j : Json} {op : Operation} (h : ofJson node = .ok op)
    (hj : op.toJson = .ok j) : ofJson (sourceOf j) = .ok op := by
  rw [toJson_eq h] at hj
  cases hj
  rw [sourceOf_rendered, ofJson_eq_ok]
  cases (ofJson_eq_ok node op).mp h with
  | object _ written =>
    exact .object (sole_source op) (writes_source written)

end Operation

end Intake
