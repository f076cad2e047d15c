import Intake.Proofs.CommandLine.Input
import Intake.Proofs.Text.Utf8

namespace Intake.CommandLine

/-- The bytes that an origin supplies. An argument supplies those of its text. -/
inductive Supplies (s : Surroundings) : Origin → List UInt8 → Prop where
  | inline (text : String) : Supplies s (.inline text) (Text.utf8 text)
  | stdin {named : Bool} {content : List UInt8} (awaited : Awaited s (.stdin named))
      (read : s.stdin = .bytes content) : Supplies s (.stdin named) content
  | file {path : String} {content : List UInt8} (read : s.file path = .bytes content) :
      Supplies s (.file path) content

/-- Sizes are counted in 64 bits. An input that is larger than can be counted is told from one that
fits by every limit but the largest. -/
def Countable (limit : Nat) (content : List UInt8) : Prop :=
  limit < 0xFFFF_FFFF_FFFF_FFFF ∨ content.length ≤ 0xFFFF_FFFF_FFFF_FFFF

def verdict (limit : Nat) (content : List UInt8) (label : String) : Except Diagnostic Json :=
  if limit < content.length then .error (oversize limit)
  else
    match Text.decodeUtf8 content with
    | .error f => .error (notUtf8 label f)
    | .ok text => Document.decode text label

/-- Results that differ only in the name of the input, at the end of a hint or at the start of a
message. -/
inductive Relabelled (label label' : String) :
    Except Diagnostic Json → Except Diagnostic Json → Prop where
  | same (r : Except Diagnostic Json) : Relabelled label label' r r
  | hint (kind : DiagnosticKind) (message : Option String) (words : String)
      (context : List (String × Json)) (causes : List String) :
      Relabelled label label' (.error ⟨kind, message, some (words ++ label), context, causes⟩)
        (.error ⟨kind, message, some (words ++ label'), context, causes⟩)
  | message (kind : DiagnosticKind) (words : String) (hint : Option String)
      (context : List (String × Json)) (causes : List String) :
      Relabelled label label' (.error ⟨kind, some (label ++ words), hint, context, causes⟩)
        (.error ⟨kind, some (label' ++ words), hint, context, causes⟩)

section Verdict

variable {limit : Nat} {content : List UInt8} {label : String}

theorem verdict_oversize (h : limit < content.length) :
    verdict limit content label = .error (oversize limit) := if_pos h

theorem verdict_text {text : String} (h : content.length ≤ limit)
    (written : Text.utf8 text = content) :
    verdict limit content label = Document.decode text label := by
  unfold verdict
  rw [if_neg (Nat.not_lt.mpr h), Text.decodeUtf8_eq_ok.mpr written]

theorem verdict_notUtf8 (h : content.length ≤ limit)
    (unwritten : ∀ text, Text.utf8 text ≠ content) :
    ∃ f, verdict limit content label = .error (notUtf8 label f) := by
  cases hd : Text.decodeUtf8 content with
  | ok text => exact (unwritten text (Text.decodeUtf8_eq_ok.mp hd)).elim
  | error f =>
    refine ⟨f, ?_⟩
    unfold verdict
    rw [if_neg (Nat.not_lt.mpr h), hd]

theorem decode_ne_oversize (text : String) :
    Document.decode text label ≠ .error (oversize limit) := by
  intro h
  unfold Document.decode at h
  cases hr : Json.read text with
  | ok v =>
    rw [hr] at h
    exact nomatch h
  | error e =>
    rw [hr] at h
    exact nomatch congrArg Diagnostic.kind (Except.error.inj h)

/-- The words about a text that is no JSON start with another letter than those about bytes that
are no text. -/
theorem hint_starts (e : Json.ReadError) (label : String) :
    ∃ rest, (Document.hint e label).toList = 'I' :: rest := by
  unfold Document.hint
  simp only [String.toList_append, List.append_assoc]
  exact ⟨_, rfl⟩

/-- The two failures of a text are told with different hints. -/
theorem decode_ne_notUtf8 (text : String) (f : Text.Utf8Fault) :
    Document.decode text label ≠ .error (notUtf8 label f) := by
  intro h
  unfold Document.decode at h
  cases hr : Json.read text with
  | ok v =>
    rw [hr] at h
    exact nomatch h
  | error e =>
    rw [hr] at h
    have hhint := congrArg Diagnostic.hint (Except.error.inj h)
    rw [show (Document.invalid e label).hint = some (Document.hint e label) from rfl,
      show (notUtf8 label f).hint = some "JSON input must be UTF-8 encoded." from rfl] at hhint
    obtain ⟨rest, hrest⟩ := hint_starts e label
    rw [Option.some.inj hhint] at hrest
    exact nomatch (List.cons.inj hrest).1

theorem relabelled_decode (text label label' : String) :
    Relabelled label label' (Document.decode text label) (Document.decode text label') := by
  unfold Document.decode
  cases Json.read text with
  | ok v => exact .same _
  | error e => exact .hint _ _ _ _ _

theorem verdict_eq_oversize :
    verdict limit content label = .error (oversize limit) ↔ limit < content.length := by
  refine ⟨fun h => ?_, verdict_oversize⟩
  by_contra hlimit
  unfold verdict at h
  rw [if_neg hlimit] at h
  split at h
  · exact nomatch congrArg Diagnostic.kind (Except.error.inj h)
  · exact decode_ne_oversize _ h

/-- Bytes are told to be no text when they fit and no text has them. -/
theorem verdict_eq_notUtf8 :
    (∃ f, verdict limit content label = .error (notUtf8 label f)) ↔
      content.length ≤ limit ∧ ∀ text, Text.utf8 text ≠ content := by
  constructor
  · rintro ⟨f, h⟩
    by_cases hlimit : limit < content.length
    · rw [verdict_oversize hlimit] at h
      exact nomatch congrArg Diagnostic.kind (Except.error.inj h)
    · refine ⟨Nat.le_of_not_lt hlimit, ?_⟩
      intro text written
      rw [verdict_text (Nat.le_of_not_lt hlimit) written] at h
      exact decode_ne_notUtf8 text f h
  · rintro ⟨hlimit, unwritten⟩
    exact verdict_notUtf8 hlimit unwritten

/-- The name of an input has no say in what comes of it. -/
theorem verdict_relabelled (limit : Nat) (content : List UInt8) (label label' : String) :
    Relabelled label label' (verdict limit content label) (verdict limit content label') := by
  unfold verdict
  split
  · exact .same _
  · split
    · exact .message _ _ _ _ _
    · exact relabelled_decode _ label label'

end Verdict

/-- Where the input can be counted, what is told of its size is told of its whole size. -/
theorem Countable.counted_eq {limit : Nat} {content : List UInt8} (h : Countable limit content) :
    (limit < (counted content).length ↔ limit < content.length) ∧
      (content.length ≤ limit → counted content = content) := by
  unfold Countable at h
  unfold counted
  rw [List.length_take]
  refine ⟨by omega, fun hlimit => List.take_of_length_le (by omega)⟩

section Routes

variable {s : Surroundings} {origin : Origin} {limit : Nat} {content : List UInt8}

/-- Every origin hands over all the bytes that it supplies, up to the limit. -/
theorem Supplies.textOf_eq (h : Supplies s origin content) (countable : Countable limit content) :
    textOf origin limit (s.fetch origin) =
      if limit < content.length then .error (oversize limit)
      else (Text.decodeUtf8 content).mapError (notUtf8 origin.label) := by
  obtain ⟨hsize, hwhole⟩ := countable.counted_eq
  have hcounted :
      (if limit < (counted content).length then .error (oversize limit)
        else (Text.decodeUtf8 (counted content)).mapError (notUtf8 origin.label)) =
      (if limit < content.length then .error (oversize limit)
        else (Text.decodeUtf8 content).mapError (notUtf8 origin.label)) := by
    by_cases hlimit : limit < content.length
    · rw [if_pos hlimit, if_pos (hsize.mpr hlimit)]
    · rw [if_neg hlimit, if_neg (fun hl => hlimit (hsize.mp hl)),
        hwhole (Nat.le_of_not_lt hlimit)]
  cases h with
  | inline text =>
    rw [(Holds.inline text).textOf_eq limit, Text.length_utf8, Text.decodeUtf8_utf8]
  | stdin awaited read => rw [(Holds.stdin awaited read).textOf_eq limit, hcounted]
  | file read => rw [(Holds.file read).textOf_eq limit, hcounted]

/-- Every way of handing in a document leads to the verdict on all its bytes. -/
theorem Supplies.readDocument_eq (h : Supplies s origin content)
    (countable : Countable limit content) :
    readDocument origin limit (s.fetch origin) = verdict limit content origin.label := by
  unfold readDocument verdict
  rw [h.textOf_eq countable]
  split
  · rfl
  · cases Text.decodeUtf8 content <;> rfl

/-- An input is refused for its size exactly when all its bytes together exceed the limit, whatever
they are; then for not being UTF-8 exactly when no text has these bytes; and else it is decoded,
from the first byte to the last. Another origin that supplies the same bytes has the same result
under its own name. -/
theorem limit_decides_on_whole_input (supplies : Supplies s origin content)
    (countable : Countable limit content) :
    (readDocument origin limit (s.fetch origin) = .error (oversize limit) ↔
        limit < content.length) ∧
      ((∃ f, readDocument origin limit (s.fetch origin) = .error (notUtf8 origin.label f)) ↔
        content.length ≤ limit ∧ ∀ text, Text.utf8 text ≠ content) ∧
      (∀ text, Text.utf8 text = content → content.length ≤ limit →
        readDocument origin limit (s.fetch origin) = Document.decode text origin.label) ∧
      ∀ s' origin', Supplies s' origin' content →
        Relabelled origin.label origin'.label (readDocument origin limit (s.fetch origin))
          (readDocument origin' limit (s'.fetch origin')) := by
  rw [supplies.readDocument_eq countable]
  refine ⟨verdict_eq_oversize, verdict_eq_notUtf8, ?_, ?_⟩
  · intro text written hlimit
    exact verdict_text hlimit written
  · intro s' origin' supplies'
    rw [supplies'.readDocument_eq countable]
    exact verdict_relabelled limit content _ _

def trailed : Surroundings where
  stdin := .bytes [0x5B, 0x5D, 0xC3, 0xA9]
  file := fun _ => .notOpened .notFound
  terminals := ⟨false, false, false⟩

/-- A limit inside a character of two bytes refuses the input, though what comes before it is a
document. Without a limit the input is decoded, as it would be if it stood among the arguments. -/
theorem cut_character_is_refused :
    readDocument (.stdin false) 3 (trailed.fetch (.stdin false)) = .error (oversize 3) ∧
      readDocument (.stdin false) 0xFFFF_FFFF_FFFF_FFFF (trailed.fetch (.stdin false)) =
        Document.decode "[]é" "stdin" ∧
      Relabelled "stdin" "inline"
        (readDocument (.stdin false) 0xFFFF_FFFF_FFFF_FFFF (trailed.fetch (.stdin false)))
        (readDocument (.inline "[]é") 0xFFFF_FFFF_FFFF_FFFF (trailed.fetch (.inline "[]é"))) := by
  have supplies : Supplies trailed (.stdin false) [0x5B, 0x5D, 0xC3, 0xA9] :=
    .stdin (.inr rfl) rfl
  have written : Text.utf8 "[]é" = [0x5B, 0x5D, 0xC3, 0xA9] := by decide
  have countable (limit : Nat) : Countable limit [0x5B, 0x5D, 0xC3, 0xA9] := .inr (by decide)
  have small := limit_decides_on_whole_input supplies (countable 3)
  have large := limit_decides_on_whole_input supplies (countable 0xFFFF_FFFF_FFFF_FFFF)
  refine ⟨small.1.mpr (by decide), large.2.2.1 "[]é" written (by decide), ?_⟩
  exact large.2.2.2 trailed (.inline "[]é") (written ▸ .inline "[]é")

end Routes

end Intake.CommandLine
