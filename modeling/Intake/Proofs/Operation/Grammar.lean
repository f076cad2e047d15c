import Intake.Operation.Reader
import Intake.Proofs.Demands

namespace Intake

/-- All layers that tell a fault say the same of it. -/
theorem TimestampFault.mem_causes {f : TimestampFault} {cause : String} (h : cause ∈ f.causes) :
    cause = f.text := by
  cases f <;> simpa [causes] using h

namespace Operation

/-- An end of the valid time; null stands for an end that is not given. -/
inductive TimeField : Option Json → Option Timestamp → Prop where
  | absent : TimeField none none
  | null : TimeField (some .null) none
  | given {text : String} {t : Timestamp} (reads : Timestamp.read text = .ok t) :
      TimeField (some (.str text)) (some t)

/-- An identifier: some text, or an integer that is written as one and fits 64 signed bits. -/
inductive IdField : Option Json → DocId → Prop where
  | text {s : String} (nonempty : s ≠ "") : IdField (some (.str s)) (.text s)
  | int {n : Int} {lower : -0x8000_0000_0000_0000 ≤ n} {upper : n < 0x1_0000_0000_0000_0000}
      {i : Int64} (value : i.toInt = n) : IdField (some (.num (.int n lower upper))) (.int i)

inductive ListField : Option Json → List Json → Prop where
  | absent : ListField none []
  | null : ListField (some .null) []
  | given (items : List Json) : ListField (some (.arr items)) items

/-- Two ends that are not the wrong way round as instants, whatever their offsets. -/
def Ordered (v : ValidTime) : Prop :=
  ∀ a b, v.start = some a → v.stop = some b → a.instant ≤ b.instant

structure TimeFields (ms : Members) (v : ValidTime) : Prop where
  start : TimeField (ms.get? "valid_from") v.start
  stop : TimeField (ms.get? "valid_to") v.stop
  ordered : Ordered v

/-- The members that write an operation. Members of other kinds, or of none, are not looked at. -/
inductive Writes (ms : Members) : Operation → Prop where
  | put {table : TableName} {doc : Members} {valid : ValidTime}
      (named : ms.get? "put" = some (.str table.text)) (document : ms.get? "doc" = some (.obj doc))
      (times : TimeFields ms valid) : Writes ms (.put table doc valid)
  | delete {table : TableName} {id : DocId} {valid : ValidTime}
      (named : ms.get? "delete" = some (.str table.text))
      (identified : IdField (ms.get? "id") id) (times : TimeFields ms valid) :
      Writes ms (.delete table id valid)
  | erase {table : TableName} {id : DocId}
      (named : ms.get? "erase" = some (.str table.text))
      (identified : IdField (ms.get? "id") id) : Writes ms (.erase table id)
  | call {function : DocId} {args : List Json}
      (named : IdField (ms.get? "call") function) (listed : ListField (ms.get? "args") args) :
      Writes ms (.call function args)
  | sql {statement : String} {argRows : List (List Json)}
      (given : ms.get? "sql" = some (.str statement))
      (said : ∃ c ∈ statement.toList, Text.isBlank c = false)
      (listed : ListField (ms.get? "arg_rows") (argRows.map Json.arr)) :
      Writes ms (.sql statement argRows)

def SoleTag (ms : Members) (tag : OpTag) : Prop :=
  ∀ t : OpTag, (∃ v, ms.get? t.key = some v) ↔ t = tag

inductive Grammar : Json → Operation → Prop where
  | object {ms : Members} {op : Operation} (sole : SoleTag ms op.tag) (written : Writes ms op) :
      Grammar (.obj ms) op

section Demands

variable (ms : Members)

def tableDemands (key : String) : List Demand :=
  [⟨∃ t : TableName, ms.get? key = some (.str t.text), "`" ++ key ++ "` must name a table", []⟩]

def docDemands : List Demand :=
  [⟨∃ v, ms.get? "doc" = some v, "missing `doc`", []⟩,
    ⟨∃ doc, ms.get? "doc" = some (.obj doc), "`doc` must be a JSON object", []⟩]

def idDemands (key : String) : List Demand :=
  [⟨∃ v, ms.get? key = some v, "missing `" ++ key ++ "`", []⟩,
    ⟨∃ id, IdField (ms.get? key) id,
      "`" ++ key ++ "` must be a non-empty string or an integer", []⟩]

def timeCauses (key : String) : List String :=
  match ms.get? key with
  | some (.str text) =>
    match Timestamp.read text with
    | .ok _ => []
    | .error f => f.causes
  | _ => []

/-- A value of another type and a text that is no timestamp are told apart. -/
def timeDemands (key : String) : List Demand :=
  [⟨∀ v, ms.get? key = some v → v = .null ∨ ∃ text, v = .str text,
      "`" ++ key ++ "` must be an RFC 3339 timestamp string", []⟩,
    ⟨∃ t, TimeField (ms.get? key) t, "`" ++ key ++ "` must be an RFC 3339 timestamp",
      timeCauses ms key⟩]

def validTimeDemands : List Demand :=
  timeDemands ms "valid_from" ++ timeDemands ms "valid_to" ++
    [⟨∀ v : ValidTime, TimeField (ms.get? "valid_from") v.start →
        TimeField (ms.get? "valid_to") v.stop → Ordered v,
      "`valid_to` precedes `valid_from`", []⟩]

def listDemands (key : String) : List Demand :=
  [⟨∃ items, ListField (ms.get? key) items, "`" ++ key ++ "` must be a list", []⟩]

def statementDemands : List Demand :=
  [⟨∃ s, ms.get? "sql" = some (.str s) ∧ ∃ c ∈ s.toList, Text.isBlank c = false,
      "`sql` must be a non-empty string", []⟩]

def rowDemands : List Demand :=
  [⟨∃ rows : List (List Json), ListField (ms.get? "arg_rows") (rows.map Json.arr),
      "each entry of `arg_rows` must be a list", []⟩]

def demands : OpTag → List Demand
  | .put => tableDemands ms "put" ++ (docDemands ms ++ validTimeDemands ms)
  | .delete => tableDemands ms "delete" ++ (idDemands ms "id" ++ validTimeDemands ms)
  | .erase => tableDemands ms "erase" ++ idDemands ms "id"
  | .call => idDemands ms "call" ++ listDemands ms "args"
  | .sql => statementDemands ms ++ (listDemands ms "arg_rows" ++ rowDemands ms)

end Demands

theorem timeCauses_cases (ms : Members) (key : String) :
    timeCauses ms key = [] ∨ ∃ f : TimestampFault, timeCauses ms key = f.causes := by
  unfold timeCauses
  split
  · split
    · exact .inl rfl
    · exact .inr ⟨_, rfl⟩
  · exact .inl rfl

structure Timed (tag : OpTag) (x : Demand) : Prop where
  kind : tag = .put ∨ tag = .delete
  message : ∃ key ∈ ["valid_from", "valid_to"],
    x.message = "`" ++ key ++ "` must be an RFC 3339 timestamp"
  causes : ∃ f : TimestampFault, x.causes = f.causes

/-- No demand but that for a timestamp has a failure below. -/
theorem timed_of_causes (ms : Members) (tag : OpTag) :
    ∀ x ∈ demands ms tag, x.causes = [] ∨ Timed tag x := by
  have htime (kind : tag = .put ∨ tag = .delete) (key : String)
      (hkey : key ∈ ["valid_from", "valid_to"]) :
      ∀ x ∈ timeDemands ms key, x.causes = [] ∨ Timed tag x := by
    intro x hx
    rcases List.mem_cons.mp hx with rfl | hx
    · exact .inl rfl
    · rw [List.mem_singleton.mp hx]
      exact (timeCauses_cases ms key).imp_right (⟨kind, ⟨key, hkey, rfl⟩, ·⟩)
  have hvalid (kind : tag = .put ∨ tag = .delete) :
      ∀ x ∈ validTimeDemands ms, x.causes = [] ∨ Timed tag x :=
    List.forall_mem_append.mpr ⟨List.forall_mem_append.mpr
      ⟨htime kind "valid_from" (by simp), htime kind "valid_to" (by simp)⟩, by simp⟩
  cases tag with
  | put =>
    refine List.forall_mem_append.mpr ⟨by simp [tableDemands], ?_⟩
    exact List.forall_mem_append.mpr ⟨by simp [docDemands], hvalid (.inl rfl)⟩
  | delete =>
    refine List.forall_mem_append.mpr ⟨by simp [tableDemands], ?_⟩
    exact List.forall_mem_append.mpr ⟨by simp [idDemands], hvalid (.inr rfl)⟩
  | erase => simp [demands, tableDemands, idDemands]
  | call => simp [demands, idDemands, listDemands]
  | sql => simp [demands, statementDemands, listDemands, rowDemands]

/-- The diagnostic of a refused value. Each has the whole value as its only context. -/
inductive Refusal : Json → Diagnostic → Prop where
  | notObject {node : Json} (shape : ∀ ms, node ≠ .obj ms) :
      Refusal node ⟨.malformedOp, some "operation must be a JSON object", none,
        [("json", .str node.pretty)], []⟩
  | unrecognized {ms : Members} (untagged : ∀ t : OpTag, ms.get? t.key = none) :
      Refusal (.obj ms) ⟨.malformedOp, some "unrecognized operation",
        some "Operations carry exactly one of: put, delete, erase, call, sql.",
        [("json", .str (Json.obj ms).pretty)], []⟩
  | ambiguous {ms : Members} {first second : OpTag} {rest : List OpTag}
      (present : OpTag.all.filter (fun t => (ms.get? t.key).isSome) = first :: second :: rest) :
      Refusal (.obj ms) ⟨.malformedOp,
        some ("ambiguous operation: both `" ++ first.key ++ "` and `" ++ second.key ++
          "` present"), none, [("json", .str (Json.obj ms).pretty)], []⟩
  | unmet {ms : Members} {tag : OpTag} {x : Demand} (sole : SoleTag ms tag)
      (first : FirstUnmet (demands ms tag) x) :
      Refusal (.obj ms) ⟨.malformedOpPayload tag, some x.message, none,
        [("json", .str (Json.obj ms).pretty)], x.causes⟩

end Operation

end Intake
