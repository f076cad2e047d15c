import Intake.Proofs.CommandLine.Outcome
import Intake.Proofs.Document
import Intake.Proofs.Options.Acceptance
import Intake.Proofs.Text.Escapes

namespace Intake

open Text (Escapes not_escapes_ofList)

/-- Only controls are less than a blank, and the pretty text of a value has line feeds at most. -/
theorem Json.pretty_not_escapes (v : Json) : ¬ Escapes v.pretty := by
  have hall : ∀ c ∈ v.pretty.toList, c ≠ '\x1b' := by
    unfold pretty
    rw [String.toList_ofList]
    refine forall_mem_write ?_ ?_ 0 v
    · rintro c hc rfl
      exact absurd hc (by decide)
    · constructor
      · intro level c hc
        rcases List.mem_cons.mp hc with rfl | hc
        · decide
        · rw [(List.mem_replicate.mp hc).2]
          decide
      · intro c hc
        rw [List.mem_singleton.mp hc]
        decide
  exact fun h => hall _ h rfl

theorem Json.compact_not_escapes (v : Json) : ¬ Escapes v.compact :=
  Text.not_escapes_of_uncontrolled v.uncontrolled_compact

theorem Decimal.string_not_escapes (n : Nat) : ¬ Escapes (string n) := by
  refine Text.not_escapes_of_uncontrolled ?_
  rw [string, String.toList_ofList]
  exact uncontrolled_text n

theorem OpTag.key_not_escapes (tag : OpTag) : ¬ Escapes tag.key := by
  cases tag <;> exact not_escapes_ofList (by decide)

theorem DiagnosticKind.code_not_escapes (k : DiagnosticKind) : ¬ Escapes k.code := by
  cases k with
  | malformedOpPayload tag =>
    have hwords : ¬ Escapes "tx/malformed-op-" := not_escapes_ofList (by decide)
    exact fun h => ((Text.escapes_append _ _).mp h).elim hwords tag.key_not_escapes
  | _ => exact not_escapes_ofList (by decide)

namespace Diagnostic

/-- The words of a diagnostic have an escape: its message, its hint or its outermost cause. -/
def Tainted (d : Diagnostic) : Prop :=
  (∃ m, d.message = some m ∧ Escapes m) ∨ (∃ h, d.hint = some h ∧ Escapes h) ∨
    ∃ c, d.causes.head? = some c ∧ Escapes c

def Contained (d : Diagnostic) : Prop :=
  ∀ e ∈ d.context, ¬ Escapes e.1 ∧ ¬ Escapes (CommandLine.shownValue e.2)

theorem escapes_shownMessage (d : Diagnostic) :
    Escapes d.shownMessage ↔ ∃ m, d.message = some m ∧ Escapes m := by
  unfold shownMessage
  cases d.message with
  | none =>
    have hdefault : ¬ Escapes d.kind.defaultMessage := by
      cases d.kind <;> exact not_escapes_ofList (by decide)
    simp [hdefault]
  | some m => simp

/-- The advice that is added has no escape. -/
theorem escapes_advised (d : Diagnostic) :
    (∃ h, d.advised.hint = some h ∧ Escapes h) ↔ ∃ h, d.hint = some h ∧ Escapes h := by
  have hadvice : ∀ k : DiagnosticKind, ∀ h, k.advice? = some h → ¬ Escapes h := by
    intro k h hk
    cases k <;> cases hk <;> exact not_escapes_ofList (by decide)
  unfold advised
  split
  · rename_i text hnone hk
    simp [withHint, hnone, hadvice _ _ hk]
  · rfl

theorem advised_eq (d : Diagnostic) : d.advised.message = d.message ∧
    d.advised.context = d.context ∧ d.advised.causes = d.causes := by
  unfold advised
  split <;> exact ⟨rfl, rfl, rfl⟩

end Diagnostic

namespace CommandLine

open Diagnostic

theorem contained_part {d : Diagnostic} (h : d.Contained) {text : String}
    (hjson : d.json? = some text) : ¬ Escapes text := by
  obtain ⟨v, hv, hs⟩ := Option.bind_eq_some_iff.mp hjson
  obtain ⟨front, back, hcontext, -⟩ := List.lookup_eq_some_iff.mp hv
  cases v with
  | str s =>
    cases hs
    exact (h _ (hcontext ▸ List.mem_append_right _ List.mem_cons_self)).2
  | _ => cases hs

def wordLine (mark word : String) : String := mark ++ " " ++ word

def entryLines (d : Diagnostic) : List String :=
  (d.context.filter (·.1 != jsonKey)).map fun e => wordLine (e.1 ++ ":") (shownValue e.2)

def partLines (d : Diagnostic) : List String :=
  match d.json? with
  | some text => "json:" :: (Text.lines text.toList).map fun l => String.ofList (' ' :: ' ' :: l)
  | none => []

/-- Without colours a label is its text. -/
theorem reportLines_plain (d : Diagnostic) : reportLines d false =
    ("error:" ++ " " ++ d.kind.code ++ ": " ++ d.shownMessage) ::
      ((d.hint.map (wordLine "hint:")).toList ++ entryLines d ++ partLines d ++
        (d.causes.head?.map (wordLine "caused by:")).toList) := rfl

theorem escapes_wordLine {mark : String} (h : ¬ Escapes mark) (word : String) :
    Escapes (wordLine mark word) ↔ Escapes word := by
  have hblank : ¬ Escapes " " := by decide
  simp only [wordLine, Text.escapes_append, h, hblank, or_self, false_or]

theorem escapes_wordLines {mark : String} (h : ¬ Escapes mark) (words : Option String) :
    (∃ l ∈ (words.map (wordLine mark)).toList, Escapes l) ↔ ∃ w, words = some w ∧ Escapes w := by
  cases words <;> simp [escapes_wordLine h]

section Lines

variable {d : Diagnostic} (contained : d.Contained)
include contained

/-- The lines of the context have no escape where the context has none. -/
theorem entryLines_not_escape : ¬ ∃ l ∈ entryLines d, Escapes l := by
  rintro ⟨l, hl, hescape⟩
  obtain ⟨e, he, rfl⟩ := List.mem_map.mp hl
  obtain ⟨hkey, hvalue⟩ := contained e (List.mem_filter.mp he).1
  have hmark : ¬ Escapes (e.1 ++ ":") := by
    rw [Text.escapes_append]
    exact not_or.mpr ⟨hkey, by decide⟩
  exact hvalue ((escapes_wordLine hmark _).mp hescape)

theorem partLines_not_escape : ¬ ∃ l ∈ partLines d, Escapes l := by
  unfold partLines
  cases hjson : d.json? with
  | none => simp
  | some text =>
    rintro ⟨l, hl, hescape⟩
    rcases List.mem_cons.mp hl with rfl | hl
    · revert hescape
      decide
    · obtain ⟨cs, hcs, rfl⟩ := List.mem_map.mp hl
      have hmem : '\x1b' ∈ cs := by simpa [Escapes] using hescape
      exact contained_part contained hjson (Text.subset_of_mem_lines hcs hmem)

/-- In a plain report only the message, the hint and the first cause can have an escape. -/
theorem escapes_reportText : Escapes (reportText d false) ↔ Escapes d.shownMessage ∨
    (∃ h, d.hint = some h ∧ Escapes h) ∨ ∃ c, d.causes.head? = some c ∧ Escapes c := by
  have hhead : Escapes ("error:" ++ " " ++ d.kind.code ++ ": " ++ d.shownMessage) ↔
      Escapes d.shownMessage := by
    have hmarks : ¬ Escapes "error:" ∧ ¬ Escapes " " ∧ ¬ Escapes ": " := by decide
    simp only [Text.escapes_append, d.kind.code_not_escapes, hmarks, or_self, false_or]
  rw [reportText, Text.escapes_lines, reportLines_plain]
  simp only [List.mem_cons, List.mem_append, or_and_right, exists_or, exists_eq_left, hhead,
    escapes_wordLines (by decide : ¬ Escapes "hint:"),
    escapes_wordLines (by decide : ¬ Escapes "caused by:"), entryLines_not_escape contained,
    partLines_not_escape contained, or_false]

end Lines

/-- A report has an escape just where the words of its diagnostic have one: the advice that is added
brings none. -/
theorem escapes_report_iff {d : Diagnostic} (contained : d.Contained) :
    Escapes (reportText d.advised false) ↔ d.Tainted := by
  obtain ⟨hmessage, hcontext, hcauses⟩ := d.advised_eq
  have hsame : d.advised.Contained := by
    unfold Contained
    rwa [hcontext]
  rw [escapes_reportText hsame, escapes_shownMessage, escapes_advised, hmessage, hcauses]
  rfl

end CommandLine

namespace Diagnostic

theorem contained_of_json {d : Diagnostic} {node : Json}
    (h : d.context = [("json", .str node.pretty)]) : d.Contained := by
  intro e he
  rw [h] at he
  rw [List.mem_singleton.mp he]
  exact ⟨(by decide : ¬ Escapes "json"), node.pretty_not_escapes⟩

/-- A diagnostic of fixed words. -/
theorem not_tainted {kind : DiagnosticKind} {message : String} {hint : Option String}
    {context : List (String × Json)} {causes : List String} (hm : ¬ Escapes message)
    (hh : ∀ h, hint = some h → ¬ Escapes h) (hc : ∀ c ∈ causes, ¬ Escapes c) :
    ¬ (Diagnostic.mk kind (some message) hint context causes).Tainted := by
  rintro (⟨m, hmessage, h⟩ | ⟨w, hhint, h⟩ | ⟨c, hcause, h⟩)
  · cases hmessage
    exact hm h
  · exact hh w hhint h
  · exact hc c (List.mem_of_mem_head? hcause) h

end Diagnostic

theorem TimestampFault.text_not_escapes (f : TimestampFault) : ¬ Escapes f.text := by
  have hname : ∀ c : TimeComponent, ¬ Escapes c.name := by
    intro c
    cases c <;> exact not_escapes_ofList (by decide)
  have hwords : ¬ Escapes "the '" ∧ ¬ Escapes "' component could not be parsed" ∧
      ¬ Escapes " was not in range" :=
    ⟨by decide, not_escapes_ofList (by decide), not_escapes_ofList (by decide)⟩
  cases f with
  | wrongMark => exact not_escapes_ofList (by decide)
  | trailing => exact not_escapes_ofList (by decide)
  | unreadable c => simp only [text, Text.escapes_append, hname, hwords, or_self, not_false_iff]
  | outOfRange c => simp only [text, Text.escapes_append, hname, hwords, or_self, not_false_iff]

namespace Operation

def Plain (x : Demand) : Prop := ¬ Escapes x.message ∧ ∀ c ∈ x.causes, ¬ Escapes c

theorem plain_of_message {x : Demand} (hm : ¬ Escapes x.message) (hc : x.causes = []) :
    Plain x := by
  refine ⟨hm, ?_⟩
  rw [hc]
  exact List.forall_mem_nil _

section Demands

variable (ms : Members)

theorem plain_docDemands : ∀ x ∈ docDemands ms, Plain x := by
  have hmissing : ¬ Escapes "missing `doc`" := not_escapes_ofList (by decide)
  have hshape : ¬ Escapes "`doc` must be a JSON object" := not_escapes_ofList (by decide)
  exact List.forall_mem_cons.mpr ⟨plain_of_message hmissing rfl,
    List.forall_mem_singleton.mpr (plain_of_message hshape rfl)⟩

theorem plain_statementDemands : ∀ x ∈ statementDemands ms, Plain x := by
  have hwords : ¬ Escapes "`sql` must be a non-empty string" := not_escapes_ofList (by decide)
  exact List.forall_mem_singleton.mpr (plain_of_message hwords rfl)

theorem plain_rowDemands : ∀ x ∈ rowDemands ms, Plain x := by
  have hwords : ¬ Escapes "each entry of `arg_rows` must be a list" :=
    not_escapes_ofList (by decide)
  exact List.forall_mem_singleton.mpr (plain_of_message hwords rfl)

section Key

variable {key : String} (hkey : ¬ Escapes key)
include hkey

theorem named_not_escapes {mark words : String} (hmark : ¬ Escapes mark)
    (hwords : ¬ Escapes words) : ¬ Escapes (mark ++ key ++ words) := by
  simp only [Text.escapes_append, hmark, hkey, hwords, or_self, not_false_iff]

theorem plain_tableDemands : ∀ x ∈ tableDemands ms key, Plain x := by
  have hwords : ¬ Escapes "` must name a table" := not_escapes_ofList (by decide)
  have hmessage := named_not_escapes hkey (by decide : ¬ Escapes "`") hwords
  exact List.forall_mem_singleton.mpr (plain_of_message hmessage rfl)

theorem plain_idDemands : ∀ x ∈ idDemands ms key, Plain x := by
  have hmark : ¬ Escapes "missing `" := not_escapes_ofList (by decide)
  have hwords : ¬ Escapes "` must be a non-empty string or an integer" :=
    not_escapes_ofList (by decide)
  have hmissing := named_not_escapes hkey hmark (by decide : ¬ Escapes "`")
  have hshape := named_not_escapes hkey (by decide : ¬ Escapes "`") hwords
  exact List.forall_mem_cons.mpr ⟨plain_of_message hmissing rfl,
    List.forall_mem_singleton.mpr (plain_of_message hshape rfl)⟩

theorem plain_listDemands : ∀ x ∈ listDemands ms key, Plain x := by
  have hwords : ¬ Escapes "` must be a list" := not_escapes_ofList (by decide)
  have hmessage := named_not_escapes hkey (by decide : ¬ Escapes "`") hwords
  exact List.forall_mem_singleton.mpr (plain_of_message hmessage rfl)

/-- The only demands with causes, which are faults of timestamps. -/
theorem plain_timeDemands : ∀ x ∈ timeDemands ms key, Plain x := by
  have hstring : ¬ Escapes "` must be an RFC 3339 timestamp string" :=
    not_escapes_ofList (by decide)
  have htime : ¬ Escapes "` must be an RFC 3339 timestamp" := not_escapes_ofList (by decide)
  have hshape := named_not_escapes hkey (by decide : ¬ Escapes "`") hstring
  have hread := named_not_escapes hkey (by decide : ¬ Escapes "`") htime
  have hcauses : ∀ c ∈ timeCauses ms key, ¬ Escapes c := by
    intro c hc
    rcases timeCauses_cases ms key with hnone | ⟨f, hf⟩
    · rw [hnone] at hc
      cases hc
    · rw [hf] at hc
      rw [TimestampFault.mem_causes hc]
      exact f.text_not_escapes
  exact List.forall_mem_cons.mpr ⟨plain_of_message hshape rfl,
    List.forall_mem_singleton.mpr ⟨hread, hcauses⟩⟩

end Key

theorem plain_validTimeDemands : ∀ x ∈ validTimeDemands ms, Plain x := by
  have hfrom : ¬ Escapes "valid_from" := not_escapes_ofList (by decide)
  have hto : ¬ Escapes "valid_to" := not_escapes_ofList (by decide)
  have hwords : ¬ Escapes "`valid_to` precedes `valid_from`" := not_escapes_ofList (by decide)
  refine List.forall_mem_append.mpr ⟨?_, ?_⟩
  · exact List.forall_mem_append.mpr ⟨plain_timeDemands ms hfrom, plain_timeDemands ms hto⟩
  · exact List.forall_mem_singleton.mpr (plain_of_message hwords rfl)

/-- Whatever is told of an operation is said in words of the program. -/
theorem plain_demands (tag : OpTag) : ∀ x ∈ demands ms tag, Plain x := by
  have htag := tag.key_not_escapes
  cases tag with
  | put =>
    exact List.forall_mem_append.mpr ⟨plain_tableDemands ms htag,
      List.forall_mem_append.mpr ⟨plain_docDemands ms, plain_validTimeDemands ms⟩⟩
  | delete =>
    have hid : ¬ Escapes "id" := not_escapes_ofList (by decide)
    exact List.forall_mem_append.mpr ⟨plain_tableDemands ms htag,
      List.forall_mem_append.mpr ⟨plain_idDemands ms hid, plain_validTimeDemands ms⟩⟩
  | erase =>
    have hid : ¬ Escapes "id" := not_escapes_ofList (by decide)
    exact List.forall_mem_append.mpr ⟨plain_tableDemands ms htag, plain_idDemands ms hid⟩
  | call =>
    have hargs : ¬ Escapes "args" := not_escapes_ofList (by decide)
    exact List.forall_mem_append.mpr ⟨plain_idDemands ms htag, plain_listDemands ms hargs⟩
  | sql =>
    have hrows : ¬ Escapes "arg_rows" := not_escapes_ofList (by decide)
    exact List.forall_mem_append.mpr ⟨plain_statementDemands ms,
      List.forall_mem_append.mpr ⟨plain_listDemands ms hrows, plain_rowDemands ms⟩⟩

end Demands

/-- Nothing of an operation is told but in words of the program. -/
theorem refusal_not_tainted {node : Json} {d : Diagnostic} (h : Refusal node d) :
    ¬ d.Tainted := by
  cases h with
  | notObject =>
    exact Diagnostic.not_tainted (not_escapes_ofList (by decide)) (by simp) (by simp)
  | unrecognized =>
    refine Diagnostic.not_tainted (not_escapes_ofList (by decide)) ?_ (by simp)
    intro w hw
    cases hw
    exact not_escapes_ofList (by decide)
  | @ambiguous ms first second rest =>
    have hwords : ¬ Escapes "ambiguous operation: both `" ∧ ¬ Escapes "` and `" ∧
        ¬ Escapes "` present" :=
      ⟨not_escapes_ofList (by decide), by decide, not_escapes_ofList (by decide)⟩
    refine Diagnostic.not_tainted ?_ (by simp) (by simp)
    simp only [Text.escapes_append, OpTag.key_not_escapes, hwords, or_self, not_false_iff]
  | @unmet ms tag x _ first =>
    obtain ⟨hmessage, hcauses⟩ := plain_demands ms tag x first.mem
    exact Diagnostic.not_tainted hmessage (by simp) hcauses

end Operation

namespace Options

theorem describe_not_escapes (v : Json) : ¬ Escapes (describe v) := by
  have hnumber (n : Number) : ¬ Escapes (String.ofList (Json.numberText n)) := by
    refine Text.not_escapes_of_uncontrolled ?_
    rw [String.toList_ofList]
    exact Json.uncontrolled_numberText n
  have hquote (s : String) : ¬ Escapes (Text.quote s) :=
    Text.not_escapes_of_uncontrolled (Text.uncontrolled_quote s)
  have hwords : ¬ Escapes "integer `" ∧ ¬ Escapes "floating point `" ∧ ¬ Escapes "`" ∧
    ¬ Escapes "string " := by decide
  unfold describe
  cases v with
  | null => decide
  | arr items => exact (by decide : ¬ Escapes "sequence")
  | obj ms => exact (by decide : ¬ Escapes "map")
  | bool b => cases b <;> decide
  | str s => simp only [Text.escapes_append, hquote, hwords, or_self, not_false_iff]
  | num n =>
    cases n <;> simp only [Text.escapes_append, hnumber, hwords, or_self, not_false_iff]

/-- Of what is told of a member only a key that is unknown can have an escape. -/
theorem escapes_misfit {key : String} {v : Json} {f : MemberFault} (h : Misfit key v f) :
    Escapes f.text ↔ f = .unknownKey key ∧ Escapes key := by
  have hkeys :
      ¬ Escapes "`, expected one of `system_time`, `default_tz`, `default_all_valid_time`" ∧
        ¬ Escapes "unknown field `" :=
    ⟨not_escapes_ofList (by decide), not_escapes_ofList (by decide)⟩
  have hwords : ¬ Escapes "invalid type: " ∧ ¬ Escapes ", expected " ∧ ¬ Escapes "a string" ∧
      ¬ Escapes "a boolean" :=
    ⟨not_escapes_ofList (by decide), not_escapes_ofList (by decide), not_escapes_ofList (by decide),
      not_escapes_ofList (by decide)⟩
  unfold MemberFault.text
  cases h with
  | unknown =>
    dsimp only
    simp only [Text.escapes_append, hkeys, or_false, false_or, true_and]
  | notText | notFlag =>
    dsimp only
    simp only [Text.escapes_append, describe_not_escapes, hwords, or_self, reduceCtorEq, false_and]

theorem FirstMisfit.tainted_iff {ms : Members} {key : String} {v : Json} {f : MemberFault}
    (h : FirstMisfit ms key v f) {context : List (String × Json)} : (Diagnostic.mk
      .malformedTxOptions (some "tx_options has unknown or ill-typed keys")
      (some "Recognized keys: system_time, default_tz, default_all_valid_time.") context
      [f.text]).Tainted ↔ f = .unknownKey key ∧ Escapes key := by
  have hmessage : ¬ Escapes "tx_options has unknown or ill-typed keys" :=
    not_escapes_ofList (by decide)
  have hhint : ¬ Escapes "Recognized keys: system_time, default_tz, default_all_valid_time." :=
    not_escapes_ofList (by decide)
  simp only [Diagnostic.Tainted, Option.some.injEq, List.head?_cons, exists_eq_left', hmessage,
    hhint, false_or, escapes_misfit h.misfit]

/-- Options bring an escape in with the first member that is no option, by its key. -/
theorem tainted_iff {node : Json} {d : Diagnostic} (order : node.KeysAscend)
    (h : ofJson node = .error d) : d.Tainted ↔ ∃ ms key v, node = .obj ms ∧
      FirstMisfit ms key v (.unknownKey key) ∧ Escapes key := by
  constructor
  · intro htainted
    obtain ⟨o, hgrammar⟩ | ⟨e, hrefusal⟩ := grammar_or_refusal order
    · cases h.symm.trans (hgrammar.ofJson_eq order)
    · cases h.symm.trans (hrefusal.ofJson_eq order)
      cases hrefusal with
      | notObject =>
        have hwords : ¬ Escapes "tx_options must be a JSON object" :=
          not_escapes_ofList (by decide)
        exact absurd htainted (Diagnostic.not_tainted hwords (by simp) (by simp))
      | misfit first =>
        obtain ⟨rfl, hkey⟩ := first.tainted_iff.mp htainted
        exact ⟨_, _, _, rfl, first, hkey⟩
      | @time _ _ f =>
        have hwords : ¬ Escapes "system_time must be an RFC 3339 timestamp" :=
          not_escapes_ofList (by decide)
        have hcauses : ∀ c ∈ f.causes, ¬ Escapes c := by
          intro c hc
          rw [TimestampFault.mem_causes hc]
          exact f.text_not_escapes
        exact absurd htainted (Diagnostic.not_tainted hwords (by simp) hcauses)
      | zone =>
        have hwords : ¬ Escapes "default_tz must not be blank" := not_escapes_ofList (by decide)
        exact absurd htainted (Diagnostic.not_tainted hwords (by simp) (by simp))
  · rintro ⟨ms, key, v, rfl, first, hkey⟩
    cases h.symm.trans ((Refusal.misfit first).ofJson_eq order)
    exact first.tainted_iff.mpr ⟨rfl, hkey⟩

end Options

namespace Expr

/-- What is wrong with a value by itself is said in words of the program, and of a call with the
name of the function as it is. -/
theorem Malformed.escapes_iff {s : Json} {message : String} (h : Malformed s message) :
    Escapes message ↔ ∃ key arg, s = .obj [(key, arg)] ∧ Escapes key := by
  have hvalue : ¬ Escapes "@value" := by decide
  cases h with
  | noName | loneMark =>
    have hwords : ¬ Escapes "empty variable name" := not_escapes_ofList (by decide)
    simp [hwords]
  | keys notOne =>
    have hwords : ¬ Escapes "expression objects must have exactly one key" :=
      not_escapes_ofList (by decide)
    refine iff_of_false hwords ?_
    rintro ⟨key, arg, heq, -⟩
    cases heq
    exact notOne rfl
  | wrappedList | wrappedObject =>
    have hwords : ¬ Escapes "@value must wrap a scalar" := not_escapes_ofList (by decide)
    simp [hwords, hvalue]
  | noArguments =>
    have hwords : ¬ Escapes "arguments to `" ∧ ¬ Escapes "` must be a list" :=
      ⟨not_escapes_ofList (by decide), not_escapes_ofList (by decide)⟩
    simp [hwords]

/-- Of expressions, only the name of a function is told as it is. -/
theorem FirstMalformed.tainted_iff {nodes : List Json} {s : Json} {d : Diagnostic}
    (h : FirstMalformed nodes s d) :
    d.Tainted ↔ ∃ key arg, s = .obj [(key, arg)] ∧ Escapes key := by
  obtain ⟨message, malformed, rfl⟩ := h.told
  rw [← malformed.escapes_iff]
  simp [Diagnostic.Tainted]

end Expr

namespace CommandLine

/-- A document that brings an escape into its report: with the name of a function whose arguments
are no list, or with the key of an option that is unknown, where that is what the document is
refused for. -/
inductive Carries : DocumentKind → Json → Prop where
  | function {kind : ClauseKind} {ms : Members} {items : List Json} {i : Nat} {name key : String}
      {value arg : Json} {d : Diagnostic} (listed : ms.get? kind.field = some (.arr items))
      (first : Clause.Stops items i (.obj [(name, value)]) (.malformed d))
      (blamed : Expr.FirstMalformed (Expr.visits value) (.obj [(key, arg)]) d)
      (escapes : Escapes key) : Carries (.clause kind) (.obj ms)
  | option {ms options : Members} {items : List Json} {ops : List Operation} {key : String}
      {v : Json} (listed : ms.get? "tx_ops" = some (.arr items))
      (accepted : items.map Operation.ofJson = ops.map .ok)
      (given : ms.get? "tx_options" = some (.obj options))
      (first : Options.FirstMisfit options key v (.unknownKey key)) (escapes : Escapes key) :
      Carries .submission (.obj ms)

end CommandLine

open CommandLine (Carries)

/-- A refused name is told in quotes. -/
theorem Clause.nameFault_not_escapes (name : String) : ¬ Escapes (nameFault name) := by
  have hwords : ¬ Escapes "invalid binding name " := not_escapes_ofList (by decide)
  have hquote : ¬ Escapes (Text.quote name) :=
    Text.not_escapes_of_uncontrolled (Text.uncontrolled_quote name)
  unfold nameFault
  rw [Text.escapes_append]
  exact not_or.mpr ⟨hwords, hquote⟩

/-- A clause brings an escape into its report with the name of a function alone. -/
theorem Clause.tainted_iff {kind : ClauseKind} {node : Json} {d : Diagnostic}
    (h : Clause.ofJson kind node = .error d) : d.Tainted ↔ Carries (.clause kind) node := by
  constructor
  · intro htainted
    have ha : Answer kind node (ofJson kind node) := answer_ofJson node
    rw [h] at ha
    cases ha with
    | noList =>
      refine absurd htainted (Diagnostic.not_tainted ?_ (by simp) (by simp))
      cases kind <;> exact not_escapes_ofList (by decide)
    | malformedElement listed first =>
      cases first.refused with
      | shape =>
        have hwords : ¬ Escapes "binding must be a name or an object with exactly one key" :=
          not_escapes_ofList (by decide)
        exact absurd htainted (Diagnostic.not_tainted hwords (by simp) (by simp))
      | expression refused =>
        obtain ⟨s, blamed⟩ := ((Expr.ofJson_blames _).error_iff d).mp refused
        obtain ⟨key, arg, rfl, hkey⟩ := blamed.tainted_iff.mp htainted
        exact .function listed first blamed hkey
    | @refusedName ms items i item name =>
      have hname := nameFault_not_escapes name
      exact absurd htainted (Diagnostic.not_tainted hname (by simp) (by simpa using hname))
  · intro hcarries
    cases hcarries with
    | function listed first blamed hkey =>
      cases h.symm.trans (Answer.malformedElement listed first).eq_ofJson
      exact blamed.tainted_iff.mpr ⟨_, _, rfl, hkey⟩

namespace Submission

/-- The index that is recorded of an operation changes no words. -/
theorem tainted_iff {node : Json} {d : Diagnostic} (order : node.Ordered)
    (h : ofJson node = .error d) : d.Tainted ↔ Carries .submission node := by
  constructor
  · intro htainted
    have ha := answer_ofJson node
    rw [h] at ha
    cases ha with
    | notObject =>
      have hwords : ¬ Escapes "transaction must be a JSON object" := not_escapes_ofList (by decide)
      exact absurd htainted (Diagnostic.not_tainted hwords (by simp) (by simp))
    | noOperations =>
      have hwords : ¬ Escapes "missing `tx_ops`" := not_escapes_ofList (by decide)
      exact absurd htainted (Diagnostic.not_tainted hwords (by simp) (by simp))
    | noList =>
      have hwords : ¬ Escapes "`tx_ops` must be a list of operations" :=
        not_escapes_ofList (by decide)
      exact absurd htainted (Diagnostic.not_tainted hwords (by simp) (by simp))
    | refusedOperation listed first =>
      have hrefusal := (Operation.ofJson_eq_error _ _).mp first.refused
      exact (Operation.refusal_not_tainted hrefusal htainted).elim
    | refusedOptions listed accepted given notNull refused =>
      have hkeys := order _ (.of_get given)
      obtain ⟨options, key, v, rfl, first, hkey⟩ :=
        (Options.tainted_iff hkeys refused).mp htainted
      exact .option listed accepted given first hkey
  · intro hcarries
    cases hcarries with
    | option listed accepted given first hkey =>
      have hkeys := order _ (.of_get given)
      have hrefused := (Options.Refusal.misfit first).ofJson_eq hkeys
      cases h.symm.trans (Answer.refusedOptions listed accepted given (by simp) hrefused).eq_ofJson
      exact first.tainted_iff.mpr ⟨rfl, hkey⟩

end Submission

namespace CommandLine

open Diagnostic

theorem index_not_escapes (i : Nat) : ¬ Escapes (shownValue (.ofNat i)) := by
  have hcompact : shownValue (.ofNat i) = (Json.ofNat i).compact := by
    unfold Json.ofNat
    cases Number.ofNat? i <;> rfl
  rw [hcompact]
  exact Json.compact_not_escapes _

/-- What is recorded of a document that is rejected is its offending part, and of an operation its
index. -/
theorem Rejected.contained {kind : DocumentKind} {node : Json} {d : Diagnostic}
    (h : Rejected kind node d) : d.Contained := by
  cases h with
  | submission refused =>
    have ha := Submission.answer_ofJson node
    rw [refused] at ha
    cases ha with
    | notObject | noOperations | noList => exact contained_of_json rfl
    | refusedOperation listed first =>
      have hpart := contained_of_json (Operation.ofJson_error_context first.refused)
      refine List.forall_mem_append.mpr ⟨hpart, List.forall_mem_singleton.mpr ⟨?_, ?_⟩⟩
      · exact (by decide : ¬ Escapes "op_index")
      · exact index_not_escapes _
    | refusedOptions listed accepted given notNull refused =>
      exact contained_of_json (Options.ofJson_error_context refused)
  | operation refused => exact contained_of_json (Operation.ofJson_error_context refused)
  | @clause kind node d refused =>
    have ha : Clause.Answer kind node (Clause.ofJson kind node) := Clause.answer_ofJson node
    rw [refused] at ha
    cases ha with
    | noList | refusedName => exact contained_of_json rfl
    | malformedElement listed first =>
      cases first.refused with
      | shape => exact contained_of_json rfl
      | expression refused =>
        obtain ⟨s, blamed⟩ := ((Expr.ofJson_blames _).error_iff d).mp refused
        obtain ⟨message, -, rfl⟩ := blamed.told
        exact contained_of_json rfl

theorem Rejected.tainted_iff {kind : DocumentKind} {node : Json} {d : Diagnostic}
    (order : node.Ordered) (h : Rejected kind node d) : d.Tainted ↔ Carries kind node := by
  cases h with
  | submission refused => exact Submission.tainted_iff order refused
  | operation refused =>
    have hrefusal := (Operation.ofJson_eq_error _ _).mp refused
    refine iff_of_false (Operation.refusal_not_tainted hrefusal) ?_
    intro hcarries
    cases hcarries
  | clause refused => exact Clause.tainted_iff refused

theorem rejected_of_evaluate {kind : DocumentKind} {node : Json} {d : Diagnostic}
    (h : evaluate kind node = .error d) : Rejected kind node d := by
  rcases rejected_or_accepted kind node with ⟨e, rejected⟩ | ⟨r, accepted⟩
  · cases h.symm.trans rejected.evaluate_eq
    exact rejected
  · obtain ⟨v, hv⟩ := accepted.renders
    cases h.symm.trans (accepted.evaluate_eq.trans hv)

section Invalid

theorem placed_not_escapes (p : Json.Position) : ¬ Escapes (Document.placed p) := by
  have hwords : ¬ Escapes " at line " ∧ ¬ Escapes " column " := by decide
  simp only [Document.placed, Text.escapes_append, hwords, Decimal.string_not_escapes, or_self,
    not_false_iff]

theorem error_not_escapes (e : Json.ReadError) : ¬ Escapes e.text := by
  have hfault : ∀ fault : Json.Fault, ¬ Escapes fault.text := by
    intro fault
    cases fault <;> exact not_escapes_ofList (by decide)
  have hwords : ¬ Escapes " at line " ∧ ¬ Escapes " column " := by decide
  simp only [Json.ReadError.text, Text.escapes_append, hfault, hwords, Decimal.string_not_escapes,
    or_self, not_false_iff]

theorem category_not_escapes (fault : Json.Fault) :
    ¬ Escapes (FaultCategory.ofKind fault).name := by
  rcases FaultCategory.ofKind_cases fault with h | h | h <;> rw [h] <;> decide

theorem invalid_contained (e : Json.ReadError) (label : String) :
    (Document.invalid e label).Contained := by
  rw [Document.invalid_eq]
  refine List.forall_mem_singleton.mpr ⟨?_, category_not_escapes e.fault⟩
  exact (by decide : ¬ Escapes "category")

/-- A text that is no JSON is told with the name of the input, as it is. -/
theorem invalid_tainted_iff {text : String} {e : Json.ReadError} (h : Json.read text = .error e)
    (label : String) : (Document.invalid e label).Tainted ↔ Escapes label := by
  have hmessage : ¬ Escapes "invalid JSON" := not_escapes_ofList (by decide)
  have hwords : ¬ Escapes "Input is not valid JSON" ∧ ¬ Escapes ". parse category: " ∧
      ¬ Escapes "; context: " :=
    ⟨not_escapes_ofList (by decide), not_escapes_ofList (by decide), not_escapes_ofList (by decide)⟩
  rw [Document.invalid_eq, Document.hint_of_line (Document.position_of_read h).1]
  simp only [Tainted, Option.some.injEq, exists_eq_left', List.head?_cons, hmessage,
    Text.escapes_append, hwords, placed_not_escapes, category_not_escapes, error_not_escapes,
    or_false, false_or]

end Invalid

/-- The report of a document that is refused has an escape just where the name of an input that is
no JSON has one, or where the document carries one in. -/
theorem report_escapes_iff (kind : DocumentKind) {text label : String} {d : Diagnostic}
    (refused : (Document.decode text label >>= evaluate kind) = .error d) :
    Escapes (reportText d.advised false) ↔
      ((∃ e, Json.read text = .error e) ∧ Escapes label) ∨
        ∃ node, Json.read text = .ok node ∧ Carries kind node := by
  cases hread : Json.read text with
  | ok node =>
    have hdecode : Document.decode text label = .ok node := Document.decode_eq_ok.mpr hread
    rw [hdecode] at refused
    have rejected : Rejected kind node d := rejected_of_evaluate refused
    have order : node.Ordered := (Document.decode_shaped hdecode).1
    rw [escapes_report_iff rejected.contained, rejected.tainted_iff order]
    simp
  | error e =>
    have hd : Document.invalid e label = d := by
      rw [Document.decode, hread] at refused
      exact Except.error.inj refused
    rw [← hd, escapes_report_iff (invalid_contained e label), invalid_tainted_iff hread]
    simp

/-- A name with an escape and a blank behind it: the name is refused, and told in quotes. -/
theorem refused_name_is_harmless :
    ∃ d, (Document.decode "\x7b\"with\":[\"\\u001b[31m \"]\x7d" "inline" >>=
        evaluate (.clause .withBindings)) = .error d ∧ d.message.isSome ∧
      ¬ Escapes (reportText d.advised false) := by
  let node : Json := .obj [("with", .arr [.str "\x1b[31m "])]
  have hplain := Document.plain_member "with" (Document.plain_item (Document.plain_str "\x1b[31m "))
  have hdecode : Document.decode node.compact "inline" = .ok node :=
    Document.decode_compact hplain (by decide) "inline"
  have hrefused : (Document.decode node.compact "inline" >>= evaluate (.clause .withBindings)) =
      .error ⟨.malformedWith, some (Clause.nameFault "\x1b[31m "), none,
        [("json", .str node.pretty)], [Clause.nameFault "\x1b[31m "]⟩ := by
    rw [hdecode]
    rfl
  refine ⟨_, hrefused, rfl, ?_⟩
  rw [report_escapes_iff _ hrefused]
  rintro (⟨-, hlabel⟩ | ⟨doc, hread, hcarries⟩)
  · revert hlabel
    decide
  · cases (Document.decode_eq_ok.mpr hread).symm.trans hdecode
    have hlisted : Carries (.clause .withBindings)
      (.obj [("with", .arr [.str "\x1b[31m "])]) := hcarries
    cases hlisted with
    | @function _ _ items i _ _ _ _ _ listed first =>
      cases listed
      cases i <;> cases first.found

/-- A function with an escape for a name, and no list of arguments: the message has the name as it
is, and so the terminal gets the escape. -/
theorem function_name_escapes :
    ∃ d, (Document.decode
        "\x7b\"with\":[\x7b\"x\":\x7b\"\\u001b[31m\":\"y\"\x7d\x7d]\x7d" "inline" >>=
        evaluate (.clause .withBindings)) = .error d ∧
      d.message = some "arguments to `\x1b[31m` must be a list" ∧
      Escapes (reportText d.advised false) := by
  let part : Json := .obj [("\x1b[31m", .str "y")]
  let node : Json := .obj [("with", .arr [.obj [("x", part)]])]
  have hplain := Document.plain_member "with" (Document.plain_item
    (Document.plain_member "x" (Document.plain_member "\x1b[31m" (Document.plain_str "y"))))
  have hdecode : Document.decode node.compact "inline" = .ok node :=
    Document.decode_compact hplain (by decide) "inline"
  let d : Diagnostic := ⟨.malformedExpr, some "arguments to `\x1b[31m` must be a list", none,
    [("json", .str part.pretty)], []⟩
  have hrefused : (Document.decode node.compact "inline" >>= evaluate (.clause .withBindings)) =
      .error d := by
    rw [hdecode]
    rfl
  refine ⟨d, hrefused, rfl, (escapes_report_iff (contained_of_json rfl)).mpr (.inl ⟨_, rfl, ?_⟩)⟩
  decide

end CommandLine

end Intake
