import Intake.Proofs.CommandLine.ExitCode
import Intake.Proofs.CommandLine.Input
import Intake.Proofs.Json.Printer

namespace Intake.CommandLine

inductive Rejected : DocumentKind → Json → Diagnostic → Prop where
  | submission {node : Json} {d : Diagnostic} (refused : Submission.ofJson node = .error d) :
      Rejected .submission node d
  | operation {node : Json} {d : Diagnostic} (refused : Operation.ofJson node = .error d) :
      Rejected .operation node d
  | clause {kind : ClauseKind} {node : Json} {d : Diagnostic}
      (refused : Clause.ofJson kind node = .error d) : Rejected (.clause kind) node d

inductive Accepted : DocumentKind → Json → Except Diagnostic Json → Prop where
  | submission {node : Json} {x : Submission} (reads : Submission.ofJson node = .ok x) :
      Accepted .submission node x.toJson
  | operation {node : Json} {x : Operation} (reads : Operation.ofJson node = .ok x) :
      Accepted .operation node x.toJson
  | clause {kind : ClauseKind} {node : Json} {x : Clause}
      (reads : Clause.ofJson kind node = .ok x) : Accepted (.clause kind) node (.ok x.toJson)

inductive Fate where
  | shown
  | unrenderable
  | missing
  | tooLarge
  | unreadable
  | notUtf8
  | notJson
  | rejected
deriving DecidableEq

def Fate.exitCode : Fate → Nat
  | shown => 0
  | unrenderable => 1
  | missing | tooLarge => 2
  | unreadable => 3
  | notUtf8 | notJson => 4
  | rejected => 5

theorem Fate.exists_iff {p : Fate → Prop} : (∃ f, p f) ↔
    p shown ∨ p unrenderable ∨ p missing ∨ p tooLarge ∨ p unreadable ∨ p notUtf8 ∨ p notJson ∨
      p rejected := by
  constructor
  · rintro ⟨f, h⟩
    cases f <;> simp [h]
  · rintro (h | h | h | h | h | h | h | h) <;> exact ⟨_, h⟩

/-- How a document comes to its fate, and what there is to tell then: a value, or what went
wrong. -/
inductive Meets (s : Surroundings) (kind : DocumentKind) (limit : Nat) :
    Origin → Fate → Except Diagnostic Json → Prop where
  | missing (terminal : s.terminals.stdin = true) :
      Meets s kind limit (.stdin false) .missing (.error missingInput)
  | notOpened {origin : Origin} {e : OsError} (awaited : Awaited s origin)
      (failed : s.fetch origin = .notOpened e) :
      Meets s kind limit origin .unreadable (.error (notOpened origin.label e))
  | notRead {origin : Origin} {e : OsError} (awaited : Awaited s origin)
      (failed : s.fetch origin = .notRead e) :
      Meets s kind limit origin .unreadable (.error (notRead origin.label e))
  | tooLarge {origin : Origin} {size : Nat} {written : Except Text.Utf8Fault String}
      (holds : Holds s origin size written) (exceeds : limit < size) :
      Meets s kind limit origin .tooLarge (.error (oversize limit))
  | notUtf8 {origin : Origin} {size : Nat} {f : Text.Utf8Fault}
      (holds : Holds s origin size (.error f)) (fits : size ≤ limit) :
      Meets s kind limit origin .notUtf8 (.error (notUtf8 origin.label f))
  | notJson {origin : Origin} {size : Nat} {text : String} {e : Json.ReadError}
      (holds : Holds s origin size (.ok text)) (fits : size ≤ limit)
      (faulty : Json.read text = .error e) :
      Meets s kind limit origin .notJson (.error (Document.invalid e origin.label))
  | rejected {origin : Origin} {size : Nat} {text : String} {node : Json} {d : Diagnostic}
      (holds : Holds s origin size (.ok text)) (fits : size ≤ limit)
      (decodes : Json.read text = .ok node) (refused : Rejected kind node d) :
      Meets s kind limit origin .rejected (.error d)
  | unrenderable {origin : Origin} {size : Nat} {text : String} {node : Json} {d : Diagnostic}
      (holds : Holds s origin size (.ok text)) (fits : size ≤ limit)
      (decodes : Json.read text = .ok node) (accepted : Accepted kind node (.error d)) :
      Meets s kind limit origin .unrenderable (.error d)
  | shown {origin : Origin} {size : Nat} {text : String} {node v : Json}
      (holds : Holds s origin size (.ok text)) (fits : size ≤ limit)
      (decodes : Json.read text = .ok node) (accepted : Accepted kind node (.ok v)) :
      Meets s kind limit origin .shown (.ok v)

def Comes (s : Surroundings) (kind : DocumentKind) (limit : Nat) (origin : Origin) (f : Fate) :
    Prop := ∃ result, Meets s kind limit origin f result

theorem Rejected.evaluate_eq {kind : DocumentKind} {node : Json} {d : Diagnostic}
    (h : Rejected kind node d) : evaluate kind node = .error d := by
  cases h with
  | submission refused => rw [evaluate, refused]; rfl
  | operation refused => rw [evaluate, refused]; rfl
  | clause refused => rw [evaluate, refused]; rfl

theorem Accepted.evaluate_eq {kind : DocumentKind} {node : Json} {r : Except Diagnostic Json}
    (h : Accepted kind node r) : evaluate kind node = r := by
  cases h with
  | submission reads => rw [evaluate, reads]; rfl
  | operation reads => rw [evaluate, reads]; rfl
  | clause reads => rw [evaluate, reads]; rfl

/-- Every document is judged, and what was accepted can be written out or not. -/
theorem rejected_or_accepted (kind : DocumentKind) (node : Json) :
    (∃ d, Rejected kind node d) ∨ ∃ r, Accepted kind node r := by
  cases kind with
  | submission =>
    cases h : Submission.ofJson node with
    | error d => exact .inl ⟨d, .submission h⟩
    | ok x => exact .inr ⟨_, .submission h⟩
  | operation =>
    cases h : Operation.ofJson node with
    | error d => exact .inl ⟨d, .operation h⟩
    | ok x => exact .inr ⟨_, .operation h⟩
  | clause kind =>
    cases h : Clause.ofJson kind node with
    | error d => exact .inl ⟨d, .clause h⟩
    | ok x => exact .inr ⟨_, .clause h⟩

section Course

variable {s : Surroundings} {kind : DocumentKind} {limit : Nat} {origin : Origin}

theorem meets_of_text {size : Nat} {text : String} (holds : Holds s origin size (.ok text))
    (fits : size ≤ limit) : ∃ f r, Meets s kind limit origin f r := by
  cases hread : Json.read text with
  | error e => exact ⟨_, _, .notJson holds fits hread⟩
  | ok node =>
    rcases rejected_or_accepted kind node with ⟨d, refused⟩ | ⟨r, accepted⟩
    · exact ⟨_, _, .rejected holds fits hread refused⟩
    · cases r with
      | error d => exact ⟨_, _, .unrenderable holds fits hread accepted⟩
      | ok v => exact ⟨_, _, .shown holds fits hread accepted⟩

/-- What an origin holds is judged: for its size, as a text, and as a document. -/
theorem meets_of_holds {size : Nat} {written : Except Text.Utf8Fault String}
    (holds : Holds s origin size written) : ∃ f r, Meets s kind limit origin f r := by
  by_cases h : limit < size
  · exact ⟨_, _, .tooLarge holds h⟩
  · have fits := Nat.le_of_not_lt h
    cases written with
    | error f => exact ⟨_, _, .notUtf8 holds fits⟩
    | ok text => exact meets_of_text holds fits

/-- An input that is waited for is there to be judged, or it could not be opened or read. -/
theorem meets_of_awaited (awaited : Awaited s origin) :
    ∃ f r, Meets s kind limit origin f r := by
  cases hf : s.fetch origin with
  | notOpened e => exact ⟨_, _, .notOpened awaited hf⟩
  | notRead e => exact ⟨_, _, .notRead awaited hf⟩
  | bytes content =>
    cases origin with
    | inline text => exact meets_of_holds (.inline text)
    | stdin named => exact meets_of_holds (.stdin awaited hf)
    | file path => exact meets_of_holds (.file hf)

variable (s kind limit origin)

/-- No document is left without a fate. -/
theorem exists_meets : ∃ f r, Meets s kind limit origin f r := by
  by_cases h : Awaited s origin
  · exact meets_of_awaited h
  · obtain ⟨rfl, terminal⟩ := not_awaited_iff.mp h
    exact ⟨_, _, .missing terminal⟩

end Course

theorem exitCode_of_isRejection {k : DiagnosticKind} (h : k.isRejection = true) :
    k.exitCode = 5 := by
  cases k <;> first | rfl | cases h

theorem Rejected.exitCode_eq {kind : DocumentKind} {node : Json} {d : Diagnostic}
    (h : Rejected kind node d) : d.kind.exitCode = 5 :=
  exitCode_of_isRejection (evaluate_rejects kind node d h.evaluate_eq)

/-- Writing out what was accepted does not fail. -/
theorem Accepted.renders {kind : DocumentKind} {node : Json} {r : Except Diagnostic Json}
    (h : Accepted kind node r) : ∃ v, r = .ok v := by
  cases h with
  | submission reads =>
    obtain ⟨vs, options, -, -, hj⟩ := Submission.toJson_of_accepted reads
    exact ⟨_, hj⟩
  | operation reads => exact ⟨_, Operation.toJson_eq reads⟩
  | clause reads => exact ⟨_, rfl⟩

/-- The exit code of a diagnostic is that of the fate it tells of. -/
theorem Meets.exitCode_eq {s : Surroundings} {kind : DocumentKind} {limit : Nat} {origin : Origin}
    {f : Fate} {d : Diagnostic} (h : Meets s kind limit origin f (.error d)) :
    d.kind.exitCode = f.exitCode := by
  cases h with
  | rejected holds fits decodes refused => exact refused.exitCode_eq
  | unrenderable holds fits decodes accepted =>
    obtain ⟨v, hv⟩ := accepted.renders
    cases hv
  | _ => rfl

section Result

variable {s : Surroundings} {origin : Origin} {size : Nat} (r : Reading)

/-- What an origin holds goes through the limit, the decoding and the reader, in this order. -/
theorem Holds.result_eq {written : Except Text.Utf8Fault String}
    (holds : Holds s r.origin size written) :
    r.result (s.fetch r.origin) =
      (if r.limit < size then .error (oversize r.limit)
        else written.mapError (notUtf8 r.origin.label)) >>=
      fun text => Document.decode text r.origin.label >>= evaluate r.kind := by
  unfold Reading.result readDocument
  rw [holds.textOf_eq]
  split
  · rfl
  · cases written <;> rfl

theorem result_of_text {text : String} (holds : Holds s r.origin size (.ok text))
    (fits : size ≤ r.limit) : r.result (s.fetch r.origin) =
      Document.decode text r.origin.label >>= evaluate r.kind := by
  rw [holds.result_eq r, if_neg (Nat.not_lt.mpr fits)]
  rfl

theorem result_of_node {text : String} {node : Json} (holds : Holds s r.origin size (.ok text))
    (fits : size ≤ r.limit) (decodes : Json.read text = .ok node) :
    r.result (s.fetch r.origin) = evaluate r.kind node := by
  rw [result_of_text r holds fits, Document.decode, decodes]
  rfl

theorem result_of_failed {d : Diagnostic}
    (failed : textOf r.origin r.limit (s.fetch r.origin) = .error d) :
    r.result (s.fetch r.origin) = .error d := by
  unfold Reading.result readDocument
  rw [failed]
  rfl

/-- Only an inline text is there without being fetched, and then nothing fails. -/
theorem textOf_of_unopened {limit : Nat} {e : OsError} (failed : s.fetch origin = .notOpened e) :
    textOf origin limit (s.fetch origin) = .error (notOpened origin.label e) := by
  rw [failed]
  cases origin with
  | inline text => cases failed
  | stdin named | file path => rfl

theorem textOf_of_unread {limit : Nat} {e : OsError} (failed : s.fetch origin = .notRead e) :
    textOf origin limit (s.fetch origin) = .error (notRead origin.label e) := by
  rw [failed]
  cases origin with
  | inline text => cases failed
  | stdin named | file path => rfl

/-- At a terminal, standard input that nobody named is missing, whatever it would hold. -/
theorem Meets.eq_missing {kind : DocumentKind} {limit : Nat} {f : Fate}
    {result : Except Diagnostic Json} (h : Meets s kind limit (.stdin false) f result)
    (terminal : s.terminals.stdin = true) : result = .error missingInput := by
  have unawaited : ¬ Awaited s (.stdin false) := not_awaited_iff.mpr ⟨rfl, terminal⟩
  cases h with
  | missing => rfl
  | notOpened awaited | notRead awaited => exact (unawaited awaited).elim
  | tooLarge holds | notUtf8 holds | notJson holds | rejected holds | unrenderable holds
  | shown holds => exact (unawaited holds.awaited).elim

/-- An input that is waited for has the result that its fate tells. -/
theorem Meets.result_eq {origin : Origin} {f : Fate} {result : Except Diagnostic Json}
    (h : Meets s r.kind r.limit origin f result) (read : r.origin = origin)
    (awaited : Awaited s origin) : r.result (s.fetch r.origin) = result := by
  cases h with
  | missing terminal => exact (not_awaited_iff.mpr ⟨rfl, terminal⟩ awaited).elim
  | notOpened _ failed =>
    subst read
    exact result_of_failed r (textOf_of_unopened failed)
  | notRead _ failed =>
    subst read
    exact result_of_failed r (textOf_of_unread failed)
  | tooLarge holds exceeds =>
    subst read
    rw [holds.result_eq r, if_pos exceeds]
    rfl
  | notUtf8 holds fits =>
    subst read
    rw [holds.result_eq r, if_neg (Nat.not_lt.mpr fits)]
    rfl
  | notJson holds fits faulty =>
    subst read
    rw [result_of_text r holds fits, Document.decode, faulty]
    rfl
  | rejected holds fits decodes refused =>
    subst read
    rw [result_of_node r holds fits decodes]
    exact refused.evaluate_eq
  | unrenderable holds fits decodes accepted =>
    subst read
    rw [result_of_node r holds fits decodes]
    exact accepted.evaluate_eq
  | shown holds fits decodes accepted =>
    subst read
    rw [result_of_node r holds fits decodes]
    exact accepted.evaluate_eq

end Result

def ending (result : Except Diagnostic Json) (mode : ColorMode) (t : Terminals) : Outcome :=
  match result with
  | .ok v => .printed (shown v t)
  | .error d => .failed d.advised mode t

section Run

variable {args : List String} {s : Surroundings} {request : Request} {kind : DocumentKind}
  {origin : Origin}

/-- A run that is to read a document ends as reading it ends. -/
theorem run_document (accepted : readArguments (args.map normalize) = .ok request)
    (job : request.job = .document kind origin) :
    run args s =
      if origin = .stdin false ∧ s.terminals.stdin = true then
        ending (.error missingInput) request.color s.terminals
      else
        ending ((Reading.mk kind origin request.limit request.color s.terminals).result
          (s.fetch origin)) request.color s.terminals := by
  unfold run plan
  rw [accepted]
  dsimp only
  rw [job]
  dsimp only
  by_cases h : origin = .stdin false ∧ s.terminals.stdin = true
  · rw [if_pos h, if_pos h]
    rfl
  · rw [if_neg h, if_neg h]
    rfl

/-- What a run tells is what its document has come to. -/
theorem Meets.run_eq {f : Fate} {result : Except Diagnostic Json}
    (h : Meets s kind request.limit origin f result)
    (accepted : readArguments (args.map normalize) = .ok request)
    (job : request.job = .document kind origin) :
    run args s = ending result request.color s.terminals := by
  rw [run_document accepted job]
  by_cases awaited : Awaited s origin
  · rw [if_neg (fun missing => not_awaited_iff.mpr missing awaited)]
    let r : Reading := ⟨kind, origin, request.limit, request.color, s.terminals⟩
    have hr : r.result (s.fetch origin) = result := Meets.result_eq r h rfl awaited
    rw [hr]
  -- Nothing is fetched here, and so no other fate than the first is left.
  · obtain ⟨rfl, terminal⟩ := not_awaited_iff.mp awaited
    rw [if_pos ⟨rfl, terminal⟩, h.eq_missing terminal]

/-- The exit code of a run is that of a fate that its document comes to. -/
theorem exitCode_eq_iff (accepted : readArguments (args.map normalize) = .ok request)
    (job : request.job = .document kind origin) (n : Nat) :
    (run args s).exitCode = n ↔ ∃ f, Comes s kind request.limit origin f ∧ f.exitCode = n := by
  have hcode : ∀ f, Comes s kind request.limit origin f → (run args s).exitCode = f.exitCode := by
    rintro f ⟨r, h⟩
    rw [h.run_eq accepted job]
    cases r with
    | ok v => cases h with | shown => rfl
    | error d => exact (congrArg DiagnosticKind.exitCode d.advised_kind).trans h.exitCode_eq
  constructor
  · intro hn
    obtain ⟨f, r, h⟩ := exists_meets s kind request.limit origin
    exact ⟨f, ⟨r, h⟩, (hcode f ⟨r, h⟩).symm.trans hn⟩
  · rintro ⟨f, h, hn⟩
    exact (hcode f h).trans hn

end Run

structure Printed (v : Json) (t : Terminals) (o : Outcome) : Prop where
  exitCode : o.exitCode = 0
  stdout : o.stdout = (if t.stdout then v.pretty else v.compact) ++ "\n"
  stderr : o.stderr = ""

/-- Nothing was printed, and one failure was told of: on a single line, where no terminal reads
it. -/
structure Told (d : Diagnostic) (t : Terminals) (o : Outcome) : Prop where
  exitCode : o.exitCode = d.kind.exitCode
  failure : o.exitCode ≠ 0
  stdout : o.stdout = ""
  line : t.stderr = false → o.stderr = d.advised.report.compact ++ "\n" ∧
    Uncontrolled d.advised.report.compact.toList

theorem printed_ending (v : Json) (mode : ColorMode) (t : Terminals) :
    Printed v t (ending (.ok v) mode t) := ⟨rfl, rfl, rfl⟩

theorem exitCode_ne_zero (k : DiagnosticKind) : k.exitCode ≠ 0 := by
  cases k <;> simp [DiagnosticKind.exitCode]

/-- A failure is told, and its exit code says that it is one. -/
theorem told_ending (d : Diagnostic) (mode : ColorMode) (t : Terminals) :
    Told d t (ending (.error d) mode t) := by
  have hcode : (ending (.error d) mode t).exitCode = d.kind.exitCode :=
    congrArg DiagnosticKind.exitCode d.advised_kind
  refine ⟨hcode, ?_, rfl, ?_⟩
  · rw [hcode]
    exact exitCode_ne_zero _
  · intro ht
    refine ⟨?_, Json.uncontrolled_compact _⟩
    simp only [ending, Outcome.failed, told, ht]
    rfl

/-- A run that reads a document ends in one of two ways, and its exit code tells what became of the
document. -/
theorem document_outcome {args : List String} {s : Surroundings} {request : Request}
    {kind : DocumentKind} {origin : Origin}
    (accepted : readArguments (args.map normalize) = .ok request)
    (job : request.job = .document kind origin) :
    ((∃ v, Meets s kind request.limit origin .shown (.ok v) ∧
        Printed v s.terminals (run args s)) ∨
      ∃ f d, Meets s kind request.limit origin f (.error d) ∧ Told d s.terminals (run args s)) ∧
    ((run args s).exitCode = 0 ↔ Comes s kind request.limit origin .shown) ∧
    ((run args s).exitCode = 1 → Comes s kind request.limit origin .unrenderable) ∧
    ((run args s).exitCode = 2 ↔
      Comes s kind request.limit origin .missing ∨ Comes s kind request.limit origin .tooLarge) ∧
    ((run args s).exitCode = 3 ↔ Comes s kind request.limit origin .unreadable) ∧
    ((run args s).exitCode = 4 ↔
      Comes s kind request.limit origin .notUtf8 ∨ Comes s kind request.limit origin .notJson) ∧
    ((run args s).exitCode = 5 ↔ Comes s kind request.limit origin .rejected) := by
  have hcode := exitCode_eq_iff (s := s) accepted job
  refine ⟨?_, ?_, ?_, ?_, ?_, ?_, ?_⟩
  · obtain ⟨f, r, h⟩ := exists_meets s kind request.limit origin
    rw [h.run_eq accepted job]
    cases r with
    | ok v =>
      cases h with
      | shown holds fits decodes reads =>
        exact .inl ⟨v, .shown holds fits decodes reads, printed_ending v _ _⟩
    | error d => exact .inr ⟨f, d, h, told_ending d _ _⟩
  all_goals simp [hcode, Fate.exists_iff, Fate.exitCode]

def bare : Surroundings where
  stdin := .bytes []
  file := fun _ => .notOpened .notFound
  terminals := ⟨false, false, false⟩

/-- Line breaks in a path stay within the one line that tells of it. -/
theorem broken_path_on_one_line :
    (run ["op", "--file", "a\n\"b"] bare).exitCode = 3 ∧
    ∃ d, Told d bare.terminals (run ["op", "--file", "a\n\"b"] bare) := by
  have accepted : readArguments (["op", "--file", "a\n\"b"].map normalize) = .ok _ := rfl
  obtain ⟨hends, -, -, -, hunreadable, -⟩ := document_outcome (s := bare) accepted rfl
  have hcode := hunreadable.mpr ⟨_, .notOpened trivial rfl⟩
  refine ⟨hcode, ?_⟩
  rcases hends with ⟨v, -, hv⟩ | ⟨f, d, -, hd⟩
  · rw [hv.exitCode] at hcode
    cases hcode
  · exact ⟨d, hd⟩

/-- Standard input that is a directory. -/
example : (run ["tx"] { bare with stdin := .notRead .isADirectory }).exitCode = 3 := rfl

end Intake.CommandLine
