import Intake.Json.Basic
import Intake.Proofs.Demands
import Mathlib.Data.List.Forall2

namespace Intake

/-- The least index at which `read` fails, with the element there and its failure. -/
structure FirstRefused {ε α : Type} (read : Json → Except ε α) (items : List Json) (i : Nat)
    (item : Json) (e : ε) : Prop where
  found : items[i]? = some item
  refused : read item = .error e
  earlier : ∀ j v, j < i → items[j]? = some v → ∃ a, read v = .ok a

namespace FirstRefused

variable {ε α : Type} {read : Json → Except ε α} {v item : Json} {rest : List Json} {i : Nat}
  {a : α} {e : ε}

theorem head (h : read v = .error e) : FirstRefused read (v :: rest) 0 v e :=
  ⟨rfl, h, fun _ _ hj => absurd hj (Nat.not_lt_zero _)⟩

theorem cons (hv : read v = .ok a) (h : FirstRefused read rest i item e) :
    FirstRefused read (v :: rest) (i + 1) item e := by
  refine ⟨by simpa using h.found, h.refused, ?_⟩
  intro j w hj hw
  cases j with
  | zero =>
    cases hw
    exact ⟨a, hv⟩
  | succ j => exact h.earlier j w (Nat.lt_of_succ_lt_succ hj) (by simpa using hw)

theorem of_cons_error (hv : read v = .error e) {f : ε}
    (h : FirstRefused read (v :: rest) i item f) : i = 0 ∧ f = e := by
  cases i with
  | zero =>
    have hi : v = item := by simpa using h.found
    have hr := h.refused
    rw [← hi, hv] at hr
    exact ⟨rfl, (Except.error.inj hr).symm⟩
  | succ i =>
    obtain ⟨b, hb⟩ := h.earlier 0 v (Nat.succ_pos i) rfl
    rw [hv] at hb
    cases hb

theorem of_cons_ok (hv : read v = .ok a) (h : FirstRefused read (v :: rest) i item e) :
    ∃ j, i = j + 1 ∧ FirstRefused read rest j item e := by
  cases i with
  | zero =>
    have hi : v = item := by simpa using h.found
    have hr := h.refused
    rw [← hi, hv] at hr
    cases hr
  | succ i =>
    refine ⟨i, rfl, by simpa using h.found, h.refused, ?_⟩
    intro j w hj hw
    exact h.earlier (j + 1) w (Nat.succ_lt_succ hj) (by simpa using hw)

theorem not_nil : ¬ FirstRefused read [] i item e := by
  intro h
  simpa using h.found

end FirstRefused

section Elements

variable {ε α : Type} {read : Json → Except ε α} {v : Json} {rest items : List Json} {a : α} {e : ε}

theorem mapM_cons_ok (h : read v = .ok a) :
    (v :: rest).mapM read = (rest.mapM read).map (a :: ·) := by
  rw [List.mapM_cons, h]
  cases rest.mapM read <;> rfl

theorem mapM_cons_error (h : read v = .error e) : (v :: rest).mapM read = .error e := by
  rw [List.mapM_cons, h]
  rfl

/-- An accepted list has one value for each element, in order. -/
theorem mapM_eq_ok (as : List α) :
    items.mapM read = .ok as ↔ List.Forall₂ (fun v a => read v = .ok a) items as := by
  induction items generalizing as with
  | nil =>
    rw [List.mapM_nil, except_pure_eq_ok, List.forall₂_nil_left_iff]
    exact eq_comm
  | cons v rest ih =>
    rw [List.forall₂_cons_left_iff]
    cases hv : read v with
    | error e =>
      rw [mapM_cons_error hv]
      simp
    | ok a =>
      rw [mapM_cons_ok hv, except_map_eq_ok]
      constructor
      · intro h
        obtain ⟨tail, ht, hc⟩ := h
        exact ⟨a, tail, rfl, (ih tail).mp ht, hc.symm⟩
      · intro h
        obtain ⟨b, tail, hb, ht, hc⟩ := h
        cases hb
        exact ⟨tail, (ih tail).mpr ht, hc.symm⟩

/-- A list is refused for the first element that is refused. -/
theorem mapM_eq_error :
    items.mapM read = .error e ↔ ∃ i item, FirstRefused read items i item e := by
  induction items with
  | nil =>
    constructor
    · intro h
      cases h
    · intro h
      obtain ⟨i, item, hf⟩ := h
      exact hf.not_nil.elim
  | cons v rest ih =>
    cases hv : read v with
    | error d =>
      rw [mapM_cons_error hv]
      constructor
      · intro h
        cases h
        exact ⟨0, v, .head hv⟩
      · intro h
        obtain ⟨i, item, hf⟩ := h
        rw [(hf.of_cons_error hv).2]
    | ok a =>
      have htail : (rest.mapM read).map (a :: ·) = .error e ↔ rest.mapM read = .error e := by
        cases rest.mapM read <;> simp [Except.map]
      rw [mapM_cons_ok hv, htail, ih]
      constructor
      · intro h
        obtain ⟨i, item, hf⟩ := h
        exact ⟨i + 1, item, hf.cons hv⟩
      · intro h
        obtain ⟨i, item, hf⟩ := h
        obtain ⟨j, -, ht⟩ := hf.of_cons_ok hv
        exact ⟨j, item, ht⟩

end Elements

end Intake
