import Intake.Clause
import Intake.Options
import Intake.Proofs.Submission.Order

namespace Intake

def TellsOnly {α : Type} (p : DiagnosticKind → Prop) (r : Except Diagnostic α) : Prop :=
  ∀ d, r = .error d → p d.kind

def Rejects {α : Type} (r : Except Diagnostic α) : Prop :=
  TellsOnly (fun k => k.isRejection = true) r

section TellsOnly

variable {α β : Type} {p q : DiagnosticKind → Prop} {r : Except Diagnostic α}

theorem TellsOnly.ok (a : α) : TellsOnly p (.ok a : Except Diagnostic α) := by
  intro d h
  cases h

theorem TellsOnly.error {d : Diagnostic} (h : p d.kind) :
    TellsOnly p (.error d : Except Diagnostic α) := by
  intro e he
  cases he
  exact h

theorem TellsOnly.mono (h : TellsOnly p r) (hpq : ∀ k, p k → q k) : TellsOnly q r :=
  fun d hd => hpq _ (h d hd)

theorem TellsOnly.map {f : α → β} (h : TellsOnly p r) : TellsOnly p (r.map f) := by
  cases r with
  | ok a => exact .ok _
  | error d => exact .error (h d rfl)

/-- What goes on after a success tells of the same kinds. -/
theorem TellsOnly.bind {f : α → Except Diagnostic β} (h : TellsOnly p r)
    (hf : ∀ a, r = .ok a → TellsOnly p (f a)) : TellsOnly p (r >>= f) := by
  cases r with
  | ok a => exact hf a rfl
  | error d => exact .error (h d rfl)

end TellsOnly

namespace Expr

mutual

/-- A malformed part is told as such, however deep it lies. -/
theorem ofJson_rejects (node : Json) : Rejects (ofJson node) := by
  match node with
  | .null => exact .ok _
  | .bool b => exact .ok _
  | .num n => exact .ok _
  | .str s =>
    simp only [ofJson]
    split
    · exact .ok _
    · exact .error rfl
  | .arr items =>
    simp only [ofJson]
    exact (ofItems_rejects items).map
  | .obj [] => exact .error rfl
  | .obj (a :: b :: rest) => exact .error rfl
  | .obj [(key, value)] =>
    unfold ofJson
    split
    · split
      · exact .ok _
      · exact .error rfl
    · split
      · rename_i args
        exact (ofItems_rejects args).map
      · exact .error rfl

theorem ofItems_rejects (items : List Json) : Rejects (ofItems items) := by
  match items with
  | [] => exact .ok _
  | v :: rest =>
    unfold ofItems
    have hv := ofJson_rejects v
    have hrest := ofItems_rejects rest
    cases hr : ofJson v with
    | error d => exact .error (hv d hr)
    | ok e =>
      cases hrs : ofItems rest with
      | error d => exact .error (hrest d hrs)
      | ok es => exact .ok _

end

end Expr

namespace BindingList

variable {σ ε α : Type}

theorem element_rejects (item : Json) : Rejects (element item) := by
  unfold element
  split
  · exact .ok _
  · exact (Expr.ofJson_rejects _).map
  · exact .error rfl

/-- A fault that is not the constructor's own judges the document. -/
theorem make_malformed {construct : σ → String → Option Expr → Except ε α × σ} {s : σ}
    {items : List Json} {d : Diagnostic}
    (h : (make construct s items).1 = .error (.malformed d)) : d.kind.isRejection = true := by
  induction items generalizing s with
  | nil => cases h
  | cons item rest ih =>
    unfold make at h
    split at h
    · rename_i he
      cases h
      exact element_rejects item d he
    · split at h
      · cases h
      · rename_i t _
        split at h
        · rename_i f u hf
          apply ih (s := t)
          rw [hf]
          exact h
        · cases h

end BindingList

theorem Clause.ofJson_rejects (kind : ClauseKind) (node : Json) : Rejects (ofJson kind node) := by
  have hkind : kind.diagnosticKind.isRejection = true := by cases kind <;> rfl
  unfold ofJson
  dsimp only
  split
  · exact .error hkind
  · split
    · exact .ok _
    · rename_i d hd
      exact .error (BindingList.make_malformed hd)
    · exact .error hkind

theorem Options.systemTimeOf_rejects (node : Json) (text : Option String) :
    Rejects (systemTimeOf node text) := by
  unfold systemTimeOf
  split
  · exact .ok _
  · split
    · exact .ok _
    · exact .error rfl

theorem Options.ofJson_rejects (node : Json) : Rejects (ofJson node) := by
  unfold ofJson
  split
  · rename_i ms
    split
    · exact .error rfl
    · rename_i raw _
      split
      · rename_i d ht
        exact .error (systemTimeOf_rejects (.obj ms) raw.systemTime d ht)
      · split
        · exact .error rfl
        · exact .ok _
  · exact .error rfl

theorem Operation.ofJson_rejects (node : Json) : Rejects (ofJson node) := by
  intro d h
  cases (ofJson_eq_error node d).mp h <;> rfl

theorem Submission.ofJson_rejects (node : Json) : Rejects (ofJson node) := by
  intro d h
  have ha := answer_ofJson node
  rw [h] at ha
  cases ha with
  | notObject => rfl
  | noOperations => rfl
  | noList => rfl
  | refusedOperation _ first =>
    -- The index is added to the context, and the kind stays the operation's own.
    have hkind := Operation.ofJson_rejects _ _ first.refused
    exact hkind
  | refusedOptions _ _ _ _ refused => exact Options.ofJson_rejects _ _ refused

end Intake
