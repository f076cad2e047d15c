import Intake.Document
import Intake.Proofs.Json.Position
import Intake.Proofs.Json.Printer
import Intake.Proofs.Json.Reader.End
import Intake.Proofs.Text.Phrase

namespace Intake

namespace FaultCategory

/-- Digits are no letters, so they have no small form of their own. -/
theorem map_toLower_text (n : Nat) : (Decimal.text n).map Char.toLower = Decimal.text n := by
  have hdigit : ∀ d < 10, (Decimal.digitChar d).toLower = Decimal.digitChar d := by decide
  unfold Decimal.text
  rw [List.map_map]
  exact List.map_congr_left fun d hd => hdigit d (Decimal.digits_lt n d hd)

def opening (fault : Json.Fault) : List Char :=
  (fault.text.toList ++ " at line ".toList).map Char.toLower

/-- The words of an error in small letters: an opening, then the two numbers. -/
theorem map_toLower_error (e : Json.ReadError) : e.text.toList.map Char.toLower =
    opening e.fault ++ (Decimal.text e.position.line ++ (" column ".toList ++
      (Decimal.text e.position.column ++ []))) := by
  have hcolumn : " column ".toList.map Char.toLower = " column ".toList := by decide
  simp only [Json.ReadError.text, Decimal.string, String.toList_append, String.toList_ofList,
    List.map_append, map_toLower_text, hcolumn, opening, List.append_assoc, List.append_nil]

section Phrase

variable {phrase : List Char} (word : phrase.any Decimal.isDigit = false)
include word

/-- A phrase of words does not reach across a number. -/
theorem infix_number {xs ys : List Char} (n : Nat) :
    phrase <:+: xs ++ (Decimal.text n ++ ys) ↔ phrase <:+: xs ∨ phrase <:+: ys := by
  refine Text.infix_gap (Decimal.text_ne_nil n) ?_
  intro d hd hphrase
  exact List.any_eq_false.mp word d hphrase (Decimal.isDigit_of_mem_text hd)

/-- The numbers in an error do not make a phrase of words, wherever the fault is. -/
theorem occurs_error (apart : Text.occurs phrase " column ".toList = false) (e : Json.ReadError) :
    Text.occurs phrase (e.text.toList.map Char.toLower) = Text.occurs phrase (opening e.fault) := by
  have hcolumn : ¬phrase <:+: " column ".toList := by
    intro h
    rw [Text.occurs_iff.mpr h] at apart
    cases apart
  rw [Bool.eq_iff_iff, Text.occurs_iff, Text.occurs_iff, map_toLower_error, infix_number word,
    infix_number word, List.infix_nil]
  refine or_iff_left_of_imp ?_
  rintro (h | rfl)
  · exact absurd h hcolumn
  · exact List.nil_infix

end Phrase

theorem occurs_recursion (fault : Json.Fault) :
    Text.occurs "recursion limit".toList (opening fault) = decide (fault = .depthLimit) := by
  cases fault <;> decide

theorem occurs_eof (fault : Json.Fault) :
    Text.occurs "eof while parsing".toList (opening fault) = fault.isEnd := by
  cases fault <;> decide

def ofKind (fault : Json.Fault) : FaultCategory :=
  if fault = .depthLimit then depthLimit else ofFault fault

theorem ofKind_of_not_limit {fault : Json.Fault} (h : fault ≠ .depthLimit) :
    ofKind fault = ofFault fault := if_neg h

theorem ofKind_cases (fault : Json.Fault) :
    ofKind fault = depthLimit ∨ ofKind fault = eof ∨ ofKind fault = syntactic := by
  cases fault <;> decide

/-- The words of an error give its category away, or nothing, and the depth limit always. -/
theorem ofMessage_error (e : Json.ReadError) : ofMessage e.text = ofKind e.fault ∨
    (ofMessage e.text = unknown ∧ e.fault ≠ .depthLimit) := by
  have hlimit := (occurs_error (by decide) (by decide) e).trans (occurs_recursion e.fault)
  have heof := (occurs_error (by decide) (by decide) e).trans (occurs_eof e.fault)
  simp only [ofMessage, hlimit, heof, ofKind, ofFault]
  by_cases hdepth : e.fault = .depthLimit
  · simp only [hdepth, decide_true, ↓reduceIte, true_or]
  · simp only [hdepth, decide_false, Bool.false_eq_true, ↓reduceIte]
    cases e.fault.isEnd with
    | true => exact .inl rfl
    | false =>
      simp only [Bool.false_eq_true, ↓reduceIte]
      split
      · exact .inl rfl
      · exact .inr ⟨rfl, hdepth⟩

/-- Words and fault together give the category of the fault. -/
theorem ofReadError_eq_ofKind (e : Json.ReadError) : ofReadError e = ofKind e.fault := by
  unfold ofReadError
  rcases ofMessage_error e with h | ⟨h, hdepth⟩
  · rw [h]
    rcases ofKind_cases e.fault with hc | hc | hc <;> rw [hc]
  · rw [h, ofKind_of_not_limit hdepth]

end FaultCategory

theorem Json.Position.line_le_advance (p : Position) (n : Nat) (cs : List Char) :
    p.line ≤ (p.advance n cs).line := by
  fun_induction advance p n cs with
  | case1 => exact Nat.le_refl _
  | case2 => exact Nat.le_refl _
  | case3 p n cs hn ih => exact Nat.le_trans (Nat.le_succ _) ih
  | case4 p n c cs hn hc ih => exact ih

namespace Document

open Json

def placed (p : Position) : String :=
  " at line " ++ Decimal.string p.line ++ " column " ++ Decimal.string p.column

/-- What a diagnostic tells of a text that is no JSON, and that all of it is so: the error `e` that
reading the text ends with, under the category `c`. -/
structure Truthful (text label : String) (d : Diagnostic) (e : ReadError) (c : FaultCategory) :
    Prop where
  read : Json.read text = .error e
  kind : d.kind = .invalidJson
  context : d.context = [("category", .str c.name)]
  hint : d.hint = some ("Input is not valid JSON" ++ placed e.position ++ ". parse category: " ++
    c.name ++ "; context: " ++ label)
  cause : d.causes = [e.fault.text ++ placed e.position]
  limit_iff : c = .depthLimit ↔ e.fault = .depthLimit
  eof_iff : c = .eof ↔ e.fault ∈ [.endInValue, .endInList, .endInObject, .endInString]
  otherwise : c = .syntactic ↔
    e.fault ∉ [.depthLimit, .endInValue, .endInList, .endInObject, .endInString]
  possible : c = .depthLimit ∨ c = .eof ∨ c = .syntactic
  /-- The words give this category away or none, and never another than the fault itself has. -/
  recognized : FaultCategory.ofMessage e.text = c ∨
    (FaultCategory.ofMessage e.text = .unknown ∧ FaultCategory.ofFault e.fault = c)
  classified : c ≠ .depthLimit → FaultCategory.ofFault e.fault = c
  at_end : c = .eof → e.position = Position.endOf text.toList

section Reading

variable {text : String} {e : ReadError}

/-- Every error has a line, and at the end of the text it has the position of the end. -/
theorem position_of_read (h : Json.read text = .error e) : 0 < e.position.line ∧
    (e.fault.isEnd = true → e.position = Position.endOf text.toList) := by
  unfold Json.read at h
  cases hr : readAll text.toList with
  | ok v =>
    rw [hr] at h
    cases h
  | error s =>
    rw [hr] at h
    cases h
    constructor
    · exact Position.line_le_advance Position.start _ _
    · intro hend
      have hunread := readAll_exhausts _ s hr hend
      simp only [ReadError.ofStop, hunread, Nat.sub_zero]
      exact Position.advance_all _

theorem hint_of_line (h : 0 < e.position.line) (label : String) :
    Document.hint e label = "Input is not valid JSON" ++ placed e.position ++
      ". parse category: " ++ (FaultCategory.ofKind e.fault).name ++ "; context: " ++ label := by
  unfold Document.hint placed
  dsimp only
  rw [if_pos h, FaultCategory.ofReadError_eq_ofKind]

theorem invalid_eq (e : ReadError) (label : String) : invalid e label =
    ⟨.invalidJson, some "invalid JSON", some (hint e label),
      [("category", .str (FaultCategory.ofKind e.fault).name)], [e.text]⟩ := by
  rw [← FaultCategory.ofReadError_eq_ofKind]
  rfl

/-- A text that is no JSON is told truthfully, whatever it is called: the diagnostic names the
category that the fault has, its hint names the line and the column of its cause, and where the text
stopped short that is where it ends. -/
theorem invalid_is_truthful {label : String} {d : Diagnostic} (h : decode text label = .error d) :
    ∃ e c, Truthful text label d e c := by
  unfold decode at h
  cases hread : Json.read text with
  | ok v =>
    rw [hread] at h
    cases h
  | error e =>
    rw [hread] at h
    have hd : invalid e label = d := Except.error.inj h
    rw [invalid_eq] at hd
    obtain ⟨hline, hend⟩ := position_of_read hread
    subst hd
    refine ⟨e, .ofKind e.fault, ?_⟩
    exact {
      read := hread
      kind := rfl
      context := rfl
      hint := congrArg some (hint_of_line hline label)
      cause := by simp only [ReadError.text, placed, String.append_assoc]
      limit_iff := by cases e.fault <;> decide
      eof_iff := by cases e.fault <;> decide
      otherwise := by cases e.fault <;> decide
      possible := FaultCategory.ofKind_cases e.fault
      recognized := by
        refine (FaultCategory.ofMessage_error e).imp_right fun ⟨hwords, hdepth⟩ => ⟨hwords, ?_⟩
        exact (FaultCategory.ofKind_of_not_limit hdepth).symm
      classified := by cases e.fault <;> decide
      at_end := by
        intro heof
        refine hend ?_
        revert heof
        cases e.fault <;> decide }

/-- A word cut short in the second line. -/
theorem cut_word_is_truthful :
    ∃ d, decode "\n\tnul" "words" = .error d ∧
      ∃ e c, Truthful "\n\tnul" "words" d e c ∧ c = .eof ∧ e.position = ⟨2, 4⟩ := by
  have hread : Json.read "\n\tnul" = .error ⟨.endInValue, ⟨2, 4⟩⟩ := rfl
  have hdecode : decode "\n\tnul" "words" = .error (invalid ⟨.endInValue, ⟨2, 4⟩⟩ "words") := rfl
  obtain ⟨e, c, told⟩ := invalid_is_truthful hdecode
  have he : e = ⟨.endInValue, ⟨2, 4⟩⟩ := Except.error.inj (told.read.symm.trans hread)
  refine ⟨_, hdecode, e, c, told, ?_, ?_⟩
  · rw [told.eof_iff, he]
    decide
  · rw [he]

end Reading

end Document

end Intake
