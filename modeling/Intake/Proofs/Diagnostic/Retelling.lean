import Intake.Proofs.Document

namespace Intake

namespace Diagnostic

/-- The line of a diagnostic has the words of a failure below it in itself. -/
def Retells (d : Diagnostic) : Prop := ∃ cause ∈ d.causes, cause.toList <:+: d.text.toList

def Apart (d : Diagnostic) : Prop := ∀ cause ∈ d.causes, ∃ c ∈ cause.toList, c ∉ d.text.toList

/-- A cause with a character that the line lacks is not in the line. -/
theorem Apart.not_retells {d : Diagnostic} (h : d.Apart) : ¬ d.Retells := by
  rintro ⟨cause, hcause, hinfix⟩
  obtain ⟨c, hc, hout⟩ := h cause hcause
  exact Text.not_infix_of_foreign hc hout hinfix

theorem apart_of_no_causes {d : Diagnostic} (h : d.causes = []) : d.Apart := by
  intro cause hcause
  rw [h] at hcause
  cases hcause

/-- Where the characters of a line come from. -/
theorem mem_text (d : Diagnostic) (c : Char) : c ∈ d.text.toList ↔ c ∈ d.kind.code.toList ∨
    (∃ m, d.message = some m ∧ (c ∈ ": ".toList ∨ c ∈ m.toList)) ∨
    ∃ e ∈ d.context, e.1 ≠ jsonKey ∧ c ∈ (entryText e).toList := by
  have hentries : c ∈ (String.join ((d.context.filter (·.1 != jsonKey)).map entryText)).toList ↔
      ∃ e ∈ d.context, e.1 ≠ jsonKey ∧ c ∈ (entryText e).toList := by
    simp [String.toList_join, and_assoc]
  unfold text
  dsimp only
  rw [String.toList_append, String.toList_append, List.mem_append, List.mem_append, hentries,
    or_assoc]
  cases d.message <;> simp [or_assoc]

theorem message_infix {message : String} (d : Diagnostic) (h : d.message = some message) :
    message.toList <:+: d.text.toList := by
  unfold text
  rw [h]
  dsimp only
  rw [String.toList_append, String.toList_append, String.toList_append, ← List.append_assoc]
  exact List.infix_append _ _ _

/-- A line without a character: neither the code, nor the message, nor the entries have it. -/
theorem not_mem_text {kind : DiagnosticKind} {message : String} {hint : Option String}
    {context : List (String × Json)} {causes : List String} {c : Char}
    (code : c ∉ kind.code.toList) (colon : c ∉ ": ".toList) (words : c ∉ message.toList)
    (entries : ∀ e ∈ context, e.1 ≠ jsonKey → c ∉ (entryText e).toList) :
    c ∉ (Diagnostic.mk kind (some message) hint context causes).text.toList := by
  rw [mem_text]
  rintro (h | ⟨m, hm, h | h⟩ | ⟨e, he, hkey, h⟩)
  · exact code h
  · exact colon h
  · cases hm
    exact words h
  · exact entries e he hkey h

end Diagnostic

namespace Document

/-- The cause names a column, and nothing in the line does. -/
theorem invalid_apart (e : Json.ReadError) (label : String) : (invalid e label).Apart := by
  rw [invalid_eq]
  intro cause hcause
  rw [List.mem_singleton.mp hcause]
  refine ⟨'u', by simp [Json.ReadError.text], ?_⟩
  refine Diagnostic.not_mem_text (by decide) (by decide) (by decide) ?_
  intro entry hentry _
  rw [List.mem_singleton.mp hentry]
  rcases FaultCategory.ofKind_cases e.fault with hc | hc | hc <;> rw [hc] <;> decide

theorem bind_apart {α : Type} {read : Json → Except Diagnostic α} {text label : String}
    {d : Diagnostic} (apart : ∀ node d, read node = .error d → d.Apart)
    (h : (decode text label >>= read) = .error d) : d.Apart := by
  cases hdecode : decode text label with
  | ok node =>
    rw [hdecode] at h
    exact apart node d h
  | error e =>
    rw [hdecode] at h
    cases h
    obtain ⟨fault, -, rfl⟩ := decode_eq_error.mp hdecode
    exact invalid_apart fault label

end Document

namespace TimestampFault

/-- A text with neither of two letters, of which every reason has one that a text is no
timestamp. -/
def Lacks (s : String) : Prop := 'c' ∉ s.toList ∧ 'w' ∉ s.toList

theorem lacks_ofList {cs : List Char} (h : 'c' ∉ cs ∧ 'w' ∉ cs) : Lacks (String.ofList cs) := by
  unfold Lacks
  rwa [String.toList_ofList]

theorem lacks_append {s t : String} (hs : Lacks s) (ht : Lacks t) : Lacks (s ++ t) := by
  unfold Lacks
  rw [String.toList_append, List.mem_append, List.mem_append]
  exact ⟨not_or.mpr ⟨hs.1, ht.1⟩, not_or.mpr ⟨hs.2, ht.2⟩⟩

/-- Every reason that a text is no timestamp has one of two letters. -/
theorem text_has_letter (f : TimestampFault) : 'c' ∈ f.text.toList ∨ 'w' ∈ f.text.toList := by
  cases f with
  | wrongMark | trailing => exact .inl (by simp [text])
  | unreadable c => exact .inl (by simp [text])
  | outOfRange c => exact .inr (by simp [text])

/-- A line with neither of the letters has none of the reasons in it. -/
theorem causes_apart {kind : DiagnosticKind} {message : String} {hint : Option String}
    {context : List (String × Json)} (f : TimestampFault) (code : Lacks kind.code)
    (words : Lacks message)
    (entries : ∀ e ∈ context, e.1 ≠ Diagnostic.jsonKey → Lacks (Diagnostic.entryText e)) :
    (Diagnostic.mk kind (some message) hint context f.causes).Apart := by
  intro cause hcause
  rw [mem_causes hcause]
  rcases f.text_has_letter with hletter | hletter
  · exact ⟨'c', hletter, Diagnostic.not_mem_text code.1 (by decide) words.1
      (fun e he hkey => (entries e he hkey).1)⟩
  · exact ⟨'w', hletter, Diagnostic.not_mem_text code.2 (by decide) words.2
      (fun e he hkey => (entries e he hkey).2)⟩

end TimestampFault

namespace Operation

open TimestampFault (Lacks lacks_ofList lacks_append)

/-- A refused operation is told apart from its causes, also where more is recorded of it. -/
theorem refused_apart {node : Json} {d : Diagnostic} (h : Refusal node d)
    {entries : List (String × Json)}
    (more : ∀ e ∈ entries, Lacks (Diagnostic.entryText e)) :
    (Diagnostic.mk d.kind d.message d.hint (d.context ++ entries) d.causes).Apart := by
  cases h with
  | notObject | unrecognized | ambiguous => exact Diagnostic.apart_of_no_causes rfl
  | @unmet ms tag x sole first =>
    rcases timed_of_causes ms tag x first.mem with hnone | ⟨hkind, ⟨key, hkey, hm⟩, f, hf⟩
    · exact Diagnostic.apart_of_no_causes hnone
    · have hkeys : ∀ key ∈ ["valid_from", "valid_to"], Lacks key :=
        List.forall_mem_cons.mpr ⟨lacks_ofList (by decide),
          List.forall_mem_singleton.mpr (lacks_ofList (by decide))⟩
      have hcode : Lacks "tx/malformed-op-" := lacks_ofList (by decide)
      have htag : Lacks tag.key := by
        rcases hkind with rfl | rfl <;> exact lacks_ofList (by decide)
      have hquote : Lacks "`" := lacks_ofList (by decide)
      have hwords : Lacks "` must be an RFC 3339 timestamp" :=
        lacks_ofList (by decide)
      simp only [hf]
      refine f.causes_apart ?_ ?_ ?_
      · exact lacks_append hcode htag
      · rw [hm]
        exact lacks_append (lacks_append hquote (hkeys key hkey)) hwords
      · intro e he hkey
        rcases List.mem_cons.mp he with rfl | he
        · exact (hkey rfl).elim
        · exact more e he

theorem ofJson_apart (node : Json) (d : Diagnostic) (h : ofJson node = .error d) : d.Apart := by
  have hmore := refused_apart ((ofJson_eq_error node d).mp h) (List.forall_mem_nil _)
  rwa [List.append_nil] at hmore

end Operation

namespace Options

theorem comma_mem_text (f : MemberFault) : ',' ∈ f.text.toList := by
  have hkeys : ',' ∈
      "`, expected one of `system_time`, `default_tz`, `default_all_valid_time`".toList := by decide
  have hexpected : ',' ∈ ", expected ".toList := by decide
  unfold MemberFault.text
  cases f with
  | unknownKey key =>
    dsimp only
    rw [String.toList_append]
    exact List.mem_append_right _ hkeys
  | wrongType found expected =>
    dsimp only
    rw [String.toList_append, String.toList_append]
    exact List.mem_append_left _ (List.mem_append_right _ hexpected)

theorem systemTimeOf_apart {node : Json} {text : Option String} {d : Diagnostic}
    (h : systemTimeOf node text = .error d) : d.Apart := by
  unfold systemTimeOf at h
  split at h
  · cases h
  · split at h
    · cases h
    · rename_i f _
      cases h
      have hcode : TimestampFault.Lacks DiagnosticKind.malformedTxOptions.code :=
        TimestampFault.lacks_ofList (by decide)
      refine f.causes_apart hcode (TimestampFault.lacks_ofList (by decide)) ?_
      intro e he hkey
      rw [List.mem_singleton.mp he] at hkey
      exact (hkey rfl).elim

theorem ofJson_apart (node : Json) (d : Diagnostic) (h : ofJson node = .error d) : d.Apart := by
  unfold ofJson at h
  split at h
  · rename_i ms
    split at h
    · rename_i f _
      cases h
      intro cause hcause
      rw [List.mem_singleton.mp hcause]
      have hcode : ',' ∉ DiagnosticKind.malformedTxOptions.code.toList := by decide
      refine ⟨',', comma_mem_text f, Diagnostic.not_mem_text hcode (by decide) (by decide) ?_⟩
      intro e he hkey
      rw [List.mem_singleton.mp he] at hkey
      exact (hkey rfl).elim
    · split at h
      · rename_i hd
        cases h
        exact systemTimeOf_apart hd
      · split at h
        · cases h
          exact Diagnostic.apart_of_no_causes rfl
        · cases h
  · cases h
    exact Diagnostic.apart_of_no_causes rfl

end Options

namespace Submission

open TimestampFault (Lacks lacks_ofList lacks_append)

theorem compact_ofNat (n : Nat) : (Json.ofNat n).compact.toList = Decimal.text n ∨
    (Json.ofNat n).compact.toList = "null".toList := by
  unfold Json.ofNat Number.ofNat? Json.compact
  rw [String.toList_ofList]
  split
  · left
    rfl
  · right
    rfl

/-- What is recorded as the index of an operation has neither of the letters. -/
theorem index_lacks (i : Nat) : Lacks (Diagnostic.entryText ("op_index", .ofNat i)) := by
  have hdigits {c : Char} (h : Decimal.isDigit c = false) : c ∉ Decimal.text i := by
    intro hm
    rw [Decimal.isDigit_of_mem_text hm] at h
    cases h
  have hvalue : Lacks (Json.ofNat i).compact := by
    unfold Lacks
    rcases compact_ofNat i with h | h <;> rw [h]
    · exact ⟨hdigits rfl, hdigits rfl⟩
    · decide
  have hfront : Lacks " (op_index: " := lacks_ofList (by decide)
  have hback : Lacks ")" := lacks_ofList (by decide)
  exact lacks_append (lacks_append hfront hvalue) hback

theorem ofJson_apart (node : Json) (d : Diagnostic) (h : ofJson node = .error d) : d.Apart := by
  have ha := answer_ofJson node
  rw [h] at ha
  cases ha with
  | notObject | noOperations | noList => exact Diagnostic.apart_of_no_causes rfl
  | @refusedOperation ms items i item d listed first =>
    refine Operation.refused_apart ((Operation.ofJson_eq_error item d).mp first.refused) ?_
    intro e he
    rw [List.mem_singleton.mp he]
    exact index_lacks i
  | refusedOptions listed accepted given notNull refused => exact Options.ofJson_apart _ _ refused

end Submission

namespace Clause

inductive NameRefused (kind : ClauseKind) : Json → String → Prop where
  | listed {ms : Members} {items : List Json} {i : Nat} {item : Json} {name : String}
      (list : ms.get? kind.field = some (.arr items))
      (first : Stops items i item (.refused ⟨name⟩)) : NameRefused kind (.obj ms) name

theorem Refuses.no_causes {item : Json} {d : Diagnostic} (h : Refuses item (.malformed d)) :
    d.causes = [] := by
  cases h with
  | shape => rfl
  | expression refused =>
    obtain ⟨s, first⟩ := ((Expr.ofJson_blames _).error_iff d).mp refused
    obtain ⟨message, -, rfl⟩ := first.told
    rfl

/-- The name is in the message as it is in the cause. -/
theorem NameRefused.retells {kind : ClauseKind} {node : Json} {name : String}
    (h : NameRefused kind node name) : ∃ d, ofJson kind node = .error d ∧ d.Retells := by
  cases h with
  | listed list first =>
    refine ⟨_, (Answer.refusedName list first).eq_ofJson, nameFault name, by simp, ?_⟩
    exact Diagnostic.message_infix _ rfl

/-- Of a clause a failure below is told twice just when it is a refused name. -/
theorem ofJson_retells_iff {kind : ClauseKind} {node : Json} {d : Diagnostic}
    (h : ofJson kind node = .error d) : d.Retells ↔ ∃ name, NameRefused kind node name := by
  constructor
  · intro hretells
    have ha : Answer kind node (ofJson kind node) := answer_ofJson node
    rw [h] at ha
    cases ha with
    | noList => exact absurd hretells (Diagnostic.apart_of_no_causes rfl).not_retells
    | malformedElement listed first =>
      have hapart := Diagnostic.apart_of_no_causes first.refused.no_causes
      exact absurd hretells hapart.not_retells
    | refusedName listed first => exact ⟨_, .listed listed first⟩
  · rintro ⟨name, hname⟩
    obtain ⟨e, he, hretells⟩ := hname.retells
    cases h.symm.trans he
    exact hretells

/-- The clause of a text tells a failure twice just when it is refused for a name. -/
theorem read_retells_iff {kind : ClauseKind} {text : String} {d : Diagnostic}
    (h : read kind text = .error d) : d.Retells ↔
      ∃ node name, Json.read text = .ok node ∧ NameRefused kind node name := by
  cases hread : Json.read text with
  | ok node =>
    have hnode : ofJson kind node = .error d := by
      unfold read at h
      rwa [Document.decode_eq_ok.mpr hread] at h
    simp only [ofJson_retells_iff hnode, Except.ok.injEq, exists_and_left, exists_eq_left']
  | error e =>
    have hinvalid : d = Document.invalid e (kind.field ++ " clause") := by
      unfold read Document.decode at h
      rw [hread] at h
      cases h
      rfl
    simp only [reduceCtorEq, false_and, exists_false, iff_false, hinvalid]
    exact (Document.invalid_apart e _).not_retells

end Clause

/-- The words of a failure below are told once: of every text, and of every value that options are
read from, no line repeats the words of one of its causes, but for clauses. There exactly the
refused names are told twice. -/
theorem only_names_are_retold (text label : String) (node : Json) (kind : ClauseKind)
    (d : Diagnostic) :
    (Submission.read text = .error d → ¬ d.Retells) ∧
    (Operation.read text = .error d → ¬ d.Retells) ∧
    ((Document.decode text label >>= Options.ofJson) = .error d → ¬ d.Retells) ∧
    (Options.ofJson node = .error d → ¬ d.Retells) ∧
    (Clause.read kind text = .error d → (d.Retells ↔
      ∃ node name, Json.read text = .ok node ∧ Clause.NameRefused kind node name)) := by
  refine ⟨?_, ?_, ?_, ?_, Clause.read_retells_iff⟩
  · exact fun h => (Document.bind_apart Submission.ofJson_apart h).not_retells
  · exact fun h => (Document.bind_apart Operation.ofJson_apart h).not_retells
  · exact fun h => (Document.bind_apart Options.ofJson_apart h).not_retells
  · exact fun h => (Options.ofJson_apart node d h).not_retells

/-- Options with a key that is unknown: its cause names it, and nothing else does. -/
theorem unknown_key_is_told_once :
    ∃ d, (Document.decode "\x7b\"isolation\":\"serial\"\x7d" "options" >>=
        Options.ofJson) = .error d ∧
      d.causes = ["unknown field `isolation`, " ++
        "expected one of `system_time`, `default_tz`, `default_all_valid_time`"] ∧
      ¬ d.Retells := by
  let node : Json := .obj [("isolation", .str "serial")]
  let d : Diagnostic := ⟨.malformedTxOptions, some "tx_options has unknown or ill-typed keys",
    some "Recognized keys: system_time, default_tz, default_all_valid_time.",
    [("json", .str node.pretty)], [(Options.MemberFault.unknownKey "isolation").text]⟩
  have hread : (Document.decode node.compact "options" >>= Options.ofJson) = .error d := by
    rw [Document.decode_compact (Document.plain_member _ (Document.plain_str _)) (by decide)]
    rfl
  exact ⟨d, hread, rfl, (only_names_are_retold _ _ node .withBindings d).2.2.1 hread⟩

/-- An empty name: the line has the words of the cause, and no others. -/
theorem empty_name_is_retold :
    ∃ d, Clause.read .withBindings "\x7b\"with\":[\"\"]\x7d" = .error d ∧
      d.causes = ["invalid binding name \"\""] ∧
      d.text = "query/malformed-with: invalid binding name \"\"" ∧ d.Retells := by
  let node : Json := .obj [("with", .arr [.str ""])]
  let d : Diagnostic := ⟨.malformedWith, some "invalid binding name \"\"", none,
    [("json", .str node.pretty)], ["invalid binding name \"\""]⟩
  have hplain := Document.plain_member "with" (Document.plain_item (Document.plain_str ""))
  have hread : Clause.read .withBindings node.compact = .error d := by
    unfold Clause.read
    rw [Document.decode_compact hplain (by decide)]
    rfl
  refine ⟨d, hread, rfl, rfl, "invalid binding name \"\"", List.mem_singleton.mpr rfl, ?_⟩
  exact d.message_infix rfl

end Intake
