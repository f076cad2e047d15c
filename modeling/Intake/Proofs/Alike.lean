import Intake.Diagnostic
import Mathlib.Data.List.Forall2

namespace Intake

/-- Context entries under one key. What is recorded of a document may differ, nothing else. -/
def SameEntry (p q : String × Json) : Prop := p.1 = q.1 ∧ (p.1 ≠ "json" → p.2 = q.2)

structure Diagnostic.Alike (d e : Diagnostic) : Prop where
  kind : d.kind = e.kind
  message : d.message = e.message
  hint : d.hint = e.hint
  causes : d.causes = e.causes
  context : List.Forall₂ SameEntry d.context e.context

inductive Alike {α : Type} : Except Diagnostic α → Except Diagnostic α → Prop where
  | ok (a : α) : Alike (.ok a) (.ok a)
  | error {d e : Diagnostic} (told : d.Alike e) : Alike (.error d) (.error e)

namespace Diagnostic.Alike

variable {d e : Diagnostic}

theorem refl (d : Diagnostic) : d.Alike d :=
  ⟨rfl, rfl, rfl, rfl, List.forall₂_same.mpr fun _ _ => ⟨rfl, fun _ => rfl⟩⟩

/-- Two values in whose diagnostics nothing but the values themselves is recorded. -/
theorem recorded (kind : DiagnosticKind) (message hint : Option String) (causes : List String)
    (v w : Json) : Diagnostic.Alike ⟨kind, message, hint, [("json", .str v.pretty)], causes⟩
      ⟨kind, message, hint, [("json", .str w.pretty)], causes⟩ :=
  ⟨rfl, rfl, rfl, rfl, .cons ⟨rfl, fun h => (h rfl).elim⟩ .nil⟩

/-- Records that differ only where they may still do so after the same entry. -/
theorem setEntry {c c' : List (String × Json)} (key : String) (value : Json)
    (h : List.Forall₂ SameEntry c c') :
    List.Forall₂ SameEntry (setEntry key value c) (setEntry key value c') := by
  induction h with
  | nil => exact .cons ⟨rfl, fun _ => rfl⟩ .nil
  | @cons p q _ _ hpq hrest ih =>
    obtain ⟨k, v⟩ := p
    obtain ⟨l, w⟩ := q
    obtain ⟨rfl, hvalue⟩ := hpq
    unfold Diagnostic.setEntry
    split
    · exact .cons ⟨rfl, fun _ => rfl⟩ hrest
    · exact .cons ⟨rfl, hvalue⟩ ih

theorem withContext (h : d.Alike e) (key : String) (value : Json) :
    (d.withContext key value).Alike (e.withContext key value) :=
  ⟨h.kind, h.message, h.hint, h.causes, setEntry key value h.context⟩

end Diagnostic.Alike

namespace Alike

variable {α β : Type} {r r' : Except Diagnostic α}

theorem refl (r : Except Diagnostic α) : Alike r r := by
  cases r with
  | ok a => exact .ok a
  | error d => exact .error (.refl d)

/-- Outcomes stay alike through whatever is done with the value. -/
theorem bind {f f' : α → Except Diagnostic β} (h : Alike r r') (hf : ∀ a, Alike (f a) (f' a)) :
    Alike (r >>= f) (r' >>= f') := by
  cases h with
  | ok a => exact hf a
  | error told => exact .error told

theorem map (h : Alike r r') (f : α → β) : Alike (r.map f) (r'.map f) := by
  cases h with
  | ok a => exact .ok (f a)
  | error told => exact .error told

end Alike

end Intake
