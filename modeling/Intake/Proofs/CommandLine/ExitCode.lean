import Intake.CommandLine.Run
import Intake.Proofs.Rejection
import Intake.Proofs.Submission.Rendering

namespace Intake

def DiagnosticKind.isInputFault : DiagnosticKind → Bool
  | usage | io | invalidJson => true
  | _ => false

/-- Advice is given on the strength of the kind and does not change it. -/
@[simp] theorem Diagnostic.advised_kind (d : Diagnostic) : d.advised.kind = d.kind := by
  unfold advised
  split <;> rfl

def BlamesInput {α : Type} (r : Except Diagnostic α) : Prop :=
  TellsOnly (fun k => k.isInputFault = true) r

namespace CommandLine

theorem checkSize_blames (size limit : Nat) : BlamesInput (checkSize size limit) := by
  unfold checkSize
  split
  · exact .error rfl
  · exact .ok _

theorem textOfBytes_blames (label : String) (limit : Nat) (content : List UInt8) :
    BlamesInput (textOfBytes label limit content) := by
  unfold textOfBytes
  apply (checkSize_blames _ limit).bind
  intro _ _
  cases Text.decodeUtf8 (content.take (readAhead limit)) with
  | error f => exact .error rfl
  | ok text => exact .ok _

theorem textOf_blames (origin : Origin) (limit : Nat) (fetched : Fetched) :
    BlamesInput (textOf origin limit fetched) := by
  unfold textOf
  split
  · exact (checkSize_blames _ limit).bind (fun _ _ => .ok _)
  · split
    · exact textOfBytes_blames _ _ _
    · exact .error rfl
    · exact .error rfl

theorem decode_blames (text label : String) : BlamesInput (Document.decode text label) := by
  unfold Document.decode
  cases Json.read text with
  | error e => exact .error rfl
  | ok v => exact .ok _

/-- Getting hold of a document fails for the input, never for the document. -/
theorem readDocument_blames (origin : Origin) (limit : Nat) (fetched : Fetched) :
    BlamesInput (readDocument origin limit fetched) :=
  (textOf_blames origin limit fetched).bind (fun _ _ => decode_blames _ _)

/-- A document that was read and still has no value to show is at fault itself: writing out what
was accepted does not fail. -/
theorem evaluate_rejects (kind : DocumentKind) (node : Json) : Rejects (evaluate kind node) := by
  cases kind with
  | submission =>
    apply (Submission.ofJson_rejects node).bind
    intro s hs
    obtain ⟨vs, options, -, -, hj⟩ := Submission.toJson_of_accepted hs
    rw [hj]
    exact .ok _
  | operation =>
    apply (Operation.ofJson_rejects node).bind
    intro op hop
    rw [Operation.toJson_eq hop]
    exact .ok _
  | clause kind => exact (Clause.ofJson_rejects kind node).bind (fun _ _ => .ok _)

/-- A run fails for its input or for its document, and for nothing else. -/
theorem result_tells (r : Reading) (fetched : Fetched) :
    TellsOnly (fun k => k.isInputFault = true ∨ k.isRejection = true) (r.result fetched) := by
  refine ((readDocument_blames r.origin r.limit fetched).mono (fun _ h => .inl h)).bind ?_
  intro node _
  exact (evaluate_rejects r.kind node).mono (fun _ h => .inr h)

theorem result_ne_internal {r : Reading} {fetched : Fetched} {d : Diagnostic}
    (h : r.result fetched = .error d) : d.kind ≠ .internal := by
  have ht := result_tells r fetched d h
  intro hk
  rw [hk] at ht
  rcases ht with ht | ht
  · cases ht
  · cases ht

def Ordinary (code : Nat) : Prop := code = 0 ∨ 2 ≤ code ∧ code ≤ 5

theorem ordinary_exitCode {k : DiagnosticKind} (h : k ≠ .internal) : Ordinary k.exitCode := by
  cases k <;> simp_all [Ordinary, DiagnosticKind.exitCode]

theorem Reading.outcome_ordinary (r : Reading) (fetched : Fetched) :
    Ordinary (r.outcome fetched).exitCode := by
  unfold Reading.outcome
  split
  · exact .inl rfl
  · rename_i d hd
    apply ordinary_exitCode
    rw [Diagnostic.advised_kind]
    exact result_ne_internal hd

theorem Detour.outcome_ordinary (d : Detour) (t : Terminals) :
    Ordinary (d.outcome t).exitCode := by
  cases d with
  | nothing => exact ordinary_exitCode (k := .usage) (by decide)
  | help page => exact .inl rfl
  | version => exact .inl rfl
  | fault e => exact ordinary_exitCode (k := .usage) (by decide)

theorem plan_ordinary {args : List String} {t : Terminals} {o : Outcome}
    (h : plan args t = .done o) : Ordinary o.exitCode := by
  unfold plan at h
  split at h
  · cases h
    exact Detour.outcome_ordinary _ t
  · split at h
    · cases h
      exact .inl rfl
    · cases h
    · split at h
      · cases h
        exact ordinary_exitCode (k := .usage) (by decide)
      · cases h

/-- Every run ends with exit code 0, or with one from 2 to 5. -/
theorem run_ordinary (args : List String) (s : Surroundings) : Ordinary (run args s).exitCode := by
  unfold run
  split
  · rename_i hp
    exact plan_ordinary hp
  · exact .inl rfl
  · exact Reading.outcome_ordinary _ _

/-- What was accepted is always written out, whatever times stand in it, and so no run ends with
the exit code of an internal failure. -/
theorem never_internal :
    (∀ node s, Submission.ofJson node = .ok s → ∃ j, s.toJson = .ok j) ∧
    (∀ node op, Operation.ofJson node = .ok op → ∃ j, op.toJson = .ok j) ∧
    (∀ (r : Reading) fetched d, r.result fetched = .error d → d.kind ≠ .internal) ∧
    (∀ args s, (run args s).exitCode ≠ 1) := by
  refine ⟨?_, ?_, ?_, ?_⟩
  · intro node s h
    obtain ⟨vs, options, -, -, hj⟩ := Submission.toJson_of_accepted h
    exact ⟨_, hj⟩
  · intro node op h
    exact ⟨_, Operation.toJson_eq h⟩
  · intro r fetched d h
    exact result_ne_internal h
  · intro args s
    have h := run_ordinary args s
    unfold Ordinary at h
    omega

def longestDeletion : Json :=
  .object [("delete", .str "docs"), ("id", .str "7"),
    ("valid_from", .str "0000-01-01T00:00:00+23:59"),
    ("valid_to", .str "9999-12-31T23:59:59.999999999-23:59")]

def latestSubmission : Json :=
  .object [("tx_ops", .arr [longestDeletion]),
    ("tx_options", .object [("system_time", .str "9999-12-31T23:59:60Z")])]

/-- The ends of time are accepted, rendered, and no internal failure. -/
theorem ends_of_time_are_rendered :
    (∃ s j, Submission.ofJson latestSubmission = .ok s ∧ s.toJson = .ok j) ∧
    (∃ op j, Operation.ofJson longestDeletion = .ok op ∧ op.toJson = .ok j) ∧
    (∃ (r : Reading) (fetched : Fetched) (d : Diagnostic),
      r.result fetched = .error d ∧ d.kind ≠ .internal) ∧
    ∀ s, (run ["tx"] s).exitCode ≠ 1 := by
  have hs : Submission.ofJson latestSubmission = .ok _ := rfl
  have hop : Operation.ofJson longestDeletion = .ok _ := rfl
  obtain ⟨j, hj⟩ := never_internal.1 _ _ hs
  obtain ⟨v, hv⟩ := never_internal.2.1 _ _ hop
  have hread : (Reading.mk .submission (.stdin true) 64 .auto ⟨false, false, false⟩).result
      (.notRead .isADirectory) = .error _ := rfl
  exact ⟨⟨_, j, hs, hj⟩, ⟨_, v, hop, hv⟩, ⟨_, _, _, hread, never_internal.2.2.1 _ _ _ hread⟩,
    fun s => never_internal.2.2.2 ["tx"] s⟩

end CommandLine

end Intake
