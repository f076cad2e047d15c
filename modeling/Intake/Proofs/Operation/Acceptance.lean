import Intake.Proofs.Json.Number
import Intake.Proofs.Operation.Grammar

namespace Intake

theorem TableName.ofString?_eq_some (s : String) (t : TableName) :
    ofString? s = some t ↔ s = t.text := by
  obtain ⟨text, hne⟩ := t
  unfold ofString?
  split
  · rename_i hs
    simp [hs, Ne.symm hne]
  · simp

namespace Operation

theorem ofJson?_eq_some_iff (v : Json) (id : DocId) :
    DocId.ofJson? v = some id ↔ IdField (some v) id := by
  constructor
  · intro h
    cases v with
    | str s =>
      simp only [DocId.ofJson?] at h
      split at h
      · cases h
      · cases h
        exact .text ‹_›
    | num n =>
      simp only [DocId.ofJson?, Option.map_eq_some_iff] at h
      obtain ⟨i, hi, rfl⟩ := h
      cases n with
      | float f hf => cases hi
      | int n lower upper => exact .int ((Number.toInt64?_int lower upper i).mp hi)
    | _ => cases h
  · intro h
    cases h with
    | text hs => simp [DocId.ofJson?, hs]
    | int hi => simp [DocId.ofJson?, (Number.toInt64?_int _ _ _).mpr hi]

/-- No blank text says anything, and any other text does. -/
theorem isAllBlank_eq_false (s : String) :
    Text.isAllBlank s = false ↔ ∃ c ∈ s.toList, Text.isBlank c = false := by
  simp [Text.isAllBlank]

namespace Source

variable (s : Source)

theorem table_eq_ok (t : TableName) :
    s.table = .ok t ↔ s.members.get? s.tag.key = some (.str t.text) := by
  unfold table
  cases hv : s.members.get? s.tag.key with
  | none => simp
  | some v =>
    cases v with
    | str text =>
      simp only [Option.bind_some, Json.asString?, Option.some.injEq, Json.str.injEq]
      rw [← TableName.ofString?_eq_some]
      cases TableName.ofString? text <;> simp
    | _ => simp [Json.asString?]

theorem docId_eq_ok (key : String) (id : DocId) :
    s.docId key = .ok id ↔ IdField (s.members.get? key) id := by
  unfold docId
  cases hv : s.members.get? key with
  | none =>
    simp only [reduceCtorEq, false_iff]
    intro h
    cases h
  | some v =>
    rw [← ofJson?_eq_some_iff]
    dsimp only
    cases DocId.ofJson? v <;> simp

theorem optionalTime_eq_ok (key : String) (t : Option Timestamp) :
    s.optionalTime key = .ok t ↔ TimeField (s.members.get? key) t := by
  unfold optionalTime
  constructor
  · intro h
    split at h
    · rename_i hv
      cases h
      exact hv ▸ .absent
    · rename_i hv
      cases h
      exact hv ▸ .null
    · rename_i text hv
      split at h
      · rename_i u hr
        cases h
        exact hv ▸ .given hr
      · cases h
    · cases h
  · intro h
    generalize s.members.get? key = v at h
    cases h with
    | absent => rfl
    | null => rfl
    | given hr => simp [hr]

theorem optionalList_eq_ok (key : String) (items : List Json) :
    s.optionalList key = .ok items ↔ ListField (s.members.get? key) items := by
  unfold optionalList
  constructor
  · intro h
    split at h
    · rename_i hv
      cases h
      exact hv ▸ .absent
    · rename_i hv
      cases h
      exact hv ▸ .null
    · rename_i hv
      cases h
      exact hv ▸ .given _
    · cases h
  · intro h
    generalize s.members.get? key = v at h
    cases h <;> rfl

theorem doc_eq_ok (doc : Members) :
    s.doc = .ok doc ↔ s.members.get? "doc" = some (.obj doc) := by
  unfold Source.doc
  cases hv : s.members.get? "doc" with
  | none => simp
  | some v => cases v <;> simp

theorem statement_eq_ok (text : String) :
    s.statement = .ok text ↔ s.members.get? "sql" = some (.str text) ∧
      ∃ c ∈ text.toList, Text.isBlank c = false := by
  rw [← isAllBlank_eq_false]
  unfold statement
  rw [show OpTag.sql.key = "sql" from rfl]
  cases hv : s.members.get? "sql" with
  | none => simp
  | some v =>
    cases v with
    | str t =>
      simp only [Option.bind_some, Json.asString?, Option.some.injEq, Json.str.injEq]
      cases hb : Text.isAllBlank t with
      | true =>
        simp only [↓reduceIte, reduceCtorEq, false_iff]
        intro h
        obtain ⟨rfl, hf⟩ := h
        rw [hb] at hf
        cases hf
      | false =>
        simp only [Bool.false_eq_true, ↓reduceIte, Except.ok.injEq]
        constructor
        · intro h
          subst h
          exact ⟨rfl, hb⟩
        · exact fun h => h.1
    | _ => simp [Json.asString?]

/-- Rows are read off exactly the lists of lists. -/
theorem rows_eq_ok (items : List Json) (argRows : List (List Json)) :
    s.rows items = .ok argRows ↔ items = argRows.map Json.arr := by
  induction items generalizing argRows with
  | nil => cases argRows <;> simp [rows]
  | cons item rest ih =>
    cases item with
    | arr args =>
      rw [rows, except_map_eq_ok]
      constructor
      · intro h
        obtain ⟨tail, ht, rfl⟩ := h
        simp [(ih tail).mp ht]
      · intro h
        cases argRows with
        | nil => cases h
        | cons row tail =>
          simp only [List.map_cons, List.cons.injEq, Json.arr.injEq] at h
          exact ⟨tail, (ih tail).mpr h.2, by rw [h.1]⟩
    | _ => cases argRows <;> simp [rows]

def inOrder (start stop : Option Timestamp) : Except Diagnostic ValidTime :=
  match start, stop with
  | some a, some b =>
    if b.instant < a.instant then .error (s.fault "`valid_to` precedes `valid_from`")
    else .ok ⟨start, stop⟩
  | _, _ => .ok ⟨start, stop⟩

theorem validTime_eq : s.validTime = (do
    let start ← s.optionalTime "valid_from"
    let stop ← s.optionalTime "valid_to"
    s.inOrder start stop) := rfl

theorem inOrder_eq_ok (start stop : Option Timestamp) (v : ValidTime) :
    s.inOrder start stop = .ok v ↔ v = ⟨start, stop⟩ ∧ Ordered ⟨start, stop⟩ := by
  unfold inOrder Ordered
  split
  · rename_i a b
    split
    · rename_i hlt
      simp only [reduceCtorEq, false_iff]
      intro h
      obtain ⟨-, ho⟩ := h
      exact absurd (ho a b rfl rfl) (Int.not_le.mpr hlt)
    · rename_i hge
      simp only [Except.ok.injEq]
      refine ⟨fun h => ⟨h.symm, ?_⟩, fun h => h.1.symm⟩
      intro a' b' ha hb
      cases ha
      cases hb
      exact Int.not_lt.mp hge
  · rename_i hn
    simp only [Except.ok.injEq]
    exact ⟨fun h => ⟨h.symm, fun a b ha hb => (hn a b ha hb).elim⟩, fun h => h.1.symm⟩

/-- The valid time is read as its two ends, where these are in order. -/
theorem validTime_eq_ok (v : ValidTime) :
    s.validTime = .ok v ↔ TimeFields s.members v := by
  simp only [validTime_eq, except_bind_eq_ok, optionalTime_eq_ok, inOrder_eq_ok]
  constructor
  · intro h
    obtain ⟨start, hs, stop, he, rfl, ho⟩ := h
    exact ⟨hs, he, ho⟩
  · intro h
    exact ⟨v.start, h.start, v.stop, h.stop, rfl, h.ordered⟩

section Kinds

variable (ms : Members) (op : Operation)

theorem put_eq_ok :
    Source.put ⟨.put, ms⟩ = .ok op ↔ op.tag = .put ∧ Writes ms op := by
  simp only [put, except_bind_eq_ok, except_pure_eq_ok, table_eq_ok, doc_eq_ok, validTime_eq_ok]
  constructor
  · intro h
    obtain ⟨table, ht, doc, hd, valid, hv, rfl⟩ := h
    exact ⟨rfl, .put ht hd hv⟩
  · intro h
    obtain ⟨htag, hw⟩ := h
    cases hw with
    | put ht hd hv => exact ⟨_, ht, _, hd, _, hv, rfl⟩
    | _ => cases htag

theorem delete_eq_ok :
    Source.delete ⟨.delete, ms⟩ = .ok op ↔ op.tag = .delete ∧ Writes ms op := by
  simp only [delete, except_bind_eq_ok, except_pure_eq_ok, table_eq_ok, docId_eq_ok,
    validTime_eq_ok]
  constructor
  · intro h
    obtain ⟨table, ht, id, hi, valid, hv, rfl⟩ := h
    exact ⟨rfl, .delete ht hi hv⟩
  · intro h
    obtain ⟨htag, hw⟩ := h
    cases hw with
    | delete ht hi hv => exact ⟨_, ht, _, hi, _, hv, rfl⟩
    | _ => cases htag

theorem erase_eq_ok :
    Source.erase ⟨.erase, ms⟩ = .ok op ↔ op.tag = .erase ∧ Writes ms op := by
  simp only [erase, except_bind_eq_ok, except_pure_eq_ok, table_eq_ok, docId_eq_ok]
  constructor
  · intro h
    obtain ⟨table, ht, id, hi, rfl⟩ := h
    exact ⟨rfl, .erase ht hi⟩
  · intro h
    obtain ⟨htag, hw⟩ := h
    cases hw with
    | erase ht hi => exact ⟨_, ht, _, hi, rfl⟩
    | _ => cases htag

theorem call_eq_ok :
    Source.call ⟨.call, ms⟩ = .ok op ↔ op.tag = .call ∧ Writes ms op := by
  simp only [call, except_bind_eq_ok, except_pure_eq_ok, docId_eq_ok, optionalList_eq_ok]
  constructor
  · intro h
    obtain ⟨function, hf, args, ha, rfl⟩ := h
    exact ⟨rfl, .call hf ha⟩
  · intro h
    obtain ⟨htag, hw⟩ := h
    cases hw with
    | call hf ha => exact ⟨_, hf, _, ha, rfl⟩
    | _ => cases htag

theorem sql_eq_ok :
    Source.sql ⟨.sql, ms⟩ = .ok op ↔ op.tag = .sql ∧ Writes ms op := by
  simp only [sql, except_bind_eq_ok, except_pure_eq_ok, statement_eq_ok, optionalList_eq_ok,
    rows_eq_ok]
  constructor
  · intro h
    obtain ⟨text, ⟨hg, hs⟩, items, hl, argRows, rfl, rfl⟩ := h
    exact ⟨rfl, .sql hg hs hl⟩
  · intro h
    obtain ⟨htag, hw⟩ := h
    cases hw with
    | sql hg hs hl => exact ⟨_, ⟨hg, hs⟩, _, hl, _, rfl, rfl⟩
    | _ => cases htag

end Kinds

/-- An operation is read off the members exactly when they write it. -/
theorem read_eq_ok (op : Operation) :
    s.read = .ok op ↔ op.tag = s.tag ∧ Writes s.members op := by
  obtain ⟨tag, ms⟩ := s
  cases tag with
  | put => exact put_eq_ok ms op
  | delete => exact delete_eq_ok ms op
  | erase => exact erase_eq_ok ms op
  | call => exact call_eq_ok ms op
  | sql => exact sql_eq_ok ms op

def complaint (x : Demand) : Diagnostic := (s.fault x.message).withCauses x.causes

theorem table_judged : Judged s.complaint (tableDemands s.members s.tag.key) s.table := by
  refine .single (by simp only [table_eq_ok]) ?_
  intro d h
  unfold table at h
  split at h
  · cases h
  · cases h
    rfl

theorem doc_judged : Judged s.complaint (docDemands s.members) s.doc := by
  unfold Source.doc docDemands
  cases hv : s.members.get? "doc" with
  | none => exact ⟨_, .here (by simp), rfl⟩
  | some v =>
    refine .cons ⟨v, rfl⟩ (.single ?_ ?_)
    · cases v <;> simp
    · intro d h
      cases v <;> cases h <;> rfl

theorem docId_judged (key : String) :
    Judged s.complaint (idDemands s.members key) (s.docId key) := by
  cases hv : s.members.get? key with
  | none =>
    have h : s.docId key = .error (s.fault ("missing `" ++ key ++ "`")) := by
      simp [docId, hv]
    rw [h]
    exact ⟨_, .here (by simp [hv]), rfl⟩
  | some v =>
    refine .cons ⟨v, hv⟩ (.single (by simp only [docId_eq_ok]) ?_)
    intro d h
    simp only [docId, hv] at h
    split at h
    · cases h
    · cases h
      rfl

theorem optionalTime_of_wrongType {key : String} {v : Json} (hv : s.members.get? key = some v)
    (hnull : v ≠ .null) (htext : ∀ text, v ≠ .str text) : s.optionalTime key =
      .error (s.fault ("`" ++ key ++ "` must be an RFC 3339 timestamp string")) := by
  unfold optionalTime
  rw [hv]
  cases v with
  | null => exact (hnull rfl).elim
  | str text => exact (htext text rfl).elim
  | _ => rfl

/-- A value of the right type is refused for being no timestamp, with the reasons why. -/
theorem optionalTime_eq_error {key : String} {d : Diagnostic}
    (htype : ∀ v, s.members.get? key = some v → v = .null ∨ ∃ text, v = .str text)
    (h : s.optionalTime key = .error d) : d =
      (s.fault ("`" ++ key ++ "` must be an RFC 3339 timestamp")).withCauses
        (timeCauses s.members key) := by
  unfold optionalTime at h
  split at h
  · cases h
  · cases h
  · rename_i text hv
    split at h
    · cases h
    · rename_i f hf
      cases h
      simp [timeCauses, hv, hf]
  · rename_i v hnull hstr hv
    rcases htype v hv with rfl | ⟨text, rfl⟩
    · exact (hnull rfl).elim
    · exact (hstr text rfl).elim

/-- An end of the valid time is asked for its type, and then for being a timestamp. -/
theorem optionalTime_judged (key : String) :
    Judged s.complaint (timeDemands s.members key) (s.optionalTime key) := by
  by_cases htype : ∀ v, s.members.get? key = some v → v = .null ∨ ∃ text, v = .str text
  · refine .cons htype (.single (by simp only [optionalTime_eq_ok]) ?_)
    intro d h
    exact s.optionalTime_eq_error htype h
  · have hwrong : ∃ v, s.members.get? key = some v ∧ v ≠ .null ∧ ∀ text, v ≠ .str text := by
      simpa using htype
    obtain ⟨v, hv, hnull, hstr⟩ := hwrong
    rw [s.optionalTime_of_wrongType hv hnull hstr]
    exact ⟨_, .here htype, rfl⟩

theorem inOrder_judged {start stop : Option Timestamp}
    (hs : s.optionalTime "valid_from" = .ok start) (he : s.optionalTime "valid_to" = .ok stop) :
    Judged s.complaint
      [⟨∀ v : ValidTime, TimeField (s.members.get? "valid_from") v.start →
          TimeField (s.members.get? "valid_to") v.stop → Ordered v,
        "`valid_to` precedes `valid_from`", []⟩] (s.inOrder start stop) := by
  refine .single ?_ ?_
  · simp only [← optionalTime_eq_ok, hs, he, inOrder_eq_ok, Except.ok.injEq]
    constructor
    · intro h
      exact ⟨_, rfl, h ⟨start, stop⟩ rfl rfl⟩
    · intro h v hstart hstop
      obtain ⟨-, -, ho⟩ := h
      subst hstart hstop
      exact ho
  · intro d h
    unfold inOrder at h
    split at h
    · split at h
      · cases h
        rfl
      · cases h
    · cases h

theorem validTime_judged : Judged s.complaint (validTimeDemands s.members) s.validTime := by
  rw [validTime_eq, validTimeDemands, List.append_assoc]
  apply (s.optionalTime_judged "valid_from").bind
  intro start hs
  apply (s.optionalTime_judged "valid_to").bind
  intro stop he
  exact s.inOrder_judged hs he

theorem optionalList_judged (key : String) :
    Judged s.complaint (listDemands s.members key) (s.optionalList key) := by
  refine .single (by simp only [optionalList_eq_ok]) ?_
  intro d h
  unfold optionalList at h
  split at h <;> cases h
  rfl

theorem statement_judged :
    Judged s.complaint (statementDemands s.members) s.statement := by
  refine .single (by simp only [statement_eq_ok]) ?_
  intro d h
  unfold statement at h
  split at h
  · split at h <;> cases h
    rfl
  · cases h
    rfl

/-- All rows are told alike, so it does not show which of them is no list. -/
theorem rows_eq_error {items : List Json} {d : Diagnostic} (h : s.rows items = .error d) :
    d = s.fault "each entry of `arg_rows` must be a list" := by
  induction items with
  | nil => cases h
  | cons item rest ih =>
    cases item with
    | arr args =>
      cases hr : s.rows rest with
      | ok tail =>
        rw [rows, hr] at h
        cases h
      | error e =>
        rw [rows, hr] at h
        cases h
        exact ih hr
    | _ =>
      cases h
      rfl

theorem rows_judged {items : List Json} (hl : s.optionalList "arg_rows" = .ok items) :
    Judged s.complaint (rowDemands s.members) (s.rows items) := by
  refine .single ?_ (fun d h => s.rows_eq_error h)
  simp only [← optionalList_eq_ok, hl, rows_eq_ok, Except.ok.injEq]

/-- The checks of a kind look at the demands of that kind, one after the other. -/
theorem read_judged : Judged s.complaint (demands s.members s.tag) s.read := by
  obtain ⟨tag, ms⟩ := s
  cases tag with
  | put =>
    refine (table_judged ⟨.put, ms⟩).bind (fun table _ => ?_)
    refine (doc_judged ⟨.put, ms⟩).bind (fun doc _ => ?_)
    exact (validTime_judged ⟨.put, ms⟩).bind_pure
  | delete =>
    refine (table_judged ⟨.delete, ms⟩).bind (fun table _ => ?_)
    refine (docId_judged ⟨.delete, ms⟩ "id").bind (fun id _ => ?_)
    exact (validTime_judged ⟨.delete, ms⟩).bind_pure
  | erase =>
    refine (table_judged ⟨.erase, ms⟩).bind (fun table _ => ?_)
    exact (docId_judged ⟨.erase, ms⟩ "id").bind_pure
  | call =>
    refine (docId_judged ⟨.call, ms⟩ "call").bind (fun function _ => ?_)
    exact (optionalList_judged ⟨.call, ms⟩ "args").bind_pure
  | sql =>
    refine (statement_judged ⟨.sql, ms⟩).bind (fun text _ => ?_)
    refine (optionalList_judged ⟨.sql, ms⟩ "arg_rows").bind (fun items hl => ?_)
    exact (rows_judged ⟨.sql, ms⟩ hl).bind_pure

end Source

theorem mem_tagsIn (ms : Members) (t : OpTag) :
    t ∈ tagsIn ms ↔ ∃ v, ms.get? t.key = some v := by
  simp [tagsIn, OpTag.mem_all, Members.contains, Option.isSome_iff_exists]

/-- A kind is selected exactly when its key is the only one of the five. -/
theorem tagsIn_eq_singleton (ms : Members) (tag : OpTag) :
    tagsIn ms = [tag] ↔ SoleTag ms tag := by
  have hnodup : (tagsIn ms).Nodup := List.Nodup.sublist List.filter_sublist (by decide)
  have hall : SoleTag ms tag ↔ ∀ t, t ∈ tagsIn ms ↔ t ∈ [tag] := by
    simp only [SoleTag, mem_tagsIn, List.mem_singleton]
  rw [hall, ← List.perm_ext_iff_of_nodup hnodup (by simp), List.perm_singleton]

theorem tagsIn_eq_nil (ms : Members) :
    tagsIn ms = [] ↔ ∀ t : OpTag, ms.get? t.key = none := by
  rw [List.eq_nil_iff_forall_not_mem]
  simp [mem_tagsIn, Option.eq_none_iff_forall_ne_some]

theorem ofJson_of_tagsIn {ms : Members} {tag : OpTag} (h : tagsIn ms = [tag]) :
    ofJson (.obj ms) = Source.read ⟨tag, ms⟩ := by
  simp [ofJson, h]

/-- Exactly the values of the grammar are accepted, each as the operation that it writes. -/
theorem ofJson_eq_ok (node : Json) (op : Operation) :
    ofJson node = .ok op ↔ Grammar node op := by
  constructor
  · intro h
    cases node with
    | obj ms =>
      simp only [ofJson] at h
      split at h
      · cases h
      · rename_i tag ht
        obtain ⟨rfl, hw⟩ := (Source.read_eq_ok _ op).mp h
        exact .object ((tagsIn_eq_singleton ms _).mp ht) hw
      · cases h
    | _ => cases h
  · intro h
    obtain ⟨sole, written⟩ := h
    rw [ofJson_of_tagsIn ((tagsIn_eq_singleton _ _).mpr sole)]
    exact (Source.read_eq_ok _ op).mpr ⟨rfl, written⟩

/-- Every failure to read an operation is one of the refusals. -/
theorem refusal_of_ofJson {node : Json} {d : Diagnostic} (h : ofJson node = .error d) :
    Refusal node d := by
  cases node with
  | obj ms =>
    simp only [ofJson] at h
    split at h
    · rename_i ht
      cases h
      exact .unrecognized ((tagsIn_eq_nil ms).mp ht)
    · rename_i tag ht
      obtain ⟨x, hx, rfl⟩ := ((Source.read_judged ⟨tag, ms⟩).error_iff d).mp h
      exact .unmet ((tagsIn_eq_singleton ms tag).mp ht) hx
    · rename_i first second rest ht
      cases h
      exact .ambiguous ht
  | _ =>
    cases h
    exact .notObject (by simp)

/-- Every refusal is how reading fails. -/
theorem Refusal.ofJson_eq {node : Json} {d : Diagnostic} (h : Refusal node d) :
    ofJson node = .error d := by
  cases h with
  | notObject shape =>
    cases node with
    | obj ms => exact (shape ms rfl).elim
    | _ => rfl
  | unrecognized untagged =>
    simp only [ofJson, (tagsIn_eq_nil _).mpr untagged]
    rfl
  | ambiguous present =>
    have ht : tagsIn _ = _ := present
    simp only [ofJson, ht]
    rfl
  | unmet sole first =>
    rw [ofJson_of_tagsIn ((tagsIn_eq_singleton _ _).mpr sole)]
    exact ((Source.read_judged ⟨_, _⟩).error_iff _).mpr ⟨_, first, rfl⟩

/-- Exactly the values outside the grammar are refused, each with the diagnostic of its first
fault. -/
theorem ofJson_eq_error (node : Json) (d : Diagnostic) :
    ofJson node = .error d ↔ Refusal node d := by
  constructor
  · intro h
    exact refusal_of_ofJson h
  · intro h
    exact h.ofJson_eq

/-- The reader and the grammar agree on every value: on what is accepted and as which operation,
and on what is refused and with which words. -/
theorem ofJson_agrees_with_grammar (node : Json) :
    (∀ op, ofJson node = .ok op ↔ Grammar node op) ∧
      (∀ d, ofJson node = .error d ↔ Refusal node d) :=
  ⟨ofJson_eq_ok node, ofJson_eq_error node⟩

/-- A refused value stands in its diagnostic as the only entry of the context. -/
theorem ofJson_error_context {node : Json} {d : Diagnostic} (h : ofJson node = .error d) :
    d.context = [("json", .str node.pretty)] := by
  cases (ofJson_eq_error node d).mp h <;> rfl

end Operation

end Intake
