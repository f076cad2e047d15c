import Intake.Diagnostic

namespace Intake

theorem except_bind_eq_ok {ε α β : Type} (r : Except ε α) (f : α → Except ε β) (b : β) :
    (r >>= f) = .ok b ↔ ∃ a, r = .ok a ∧ f a = .ok b := by
  cases r <;> simp [bind, Except.bind]

theorem except_map_eq_ok {ε α β : Type} (r : Except ε α) (f : α → β) (b : β) :
    r.map f = .ok b ↔ ∃ a, r = .ok a ∧ f a = b := by
  cases r <;> simp [Except.map]

theorem except_pure_eq_ok {ε α : Type} (a b : α) :
    (pure a : Except ε α) = .ok b ↔ a = b := by
  simp [pure, Except.pure]

/-- A guard in front of the rest of a reader. -/
theorem except_guard_eq_ok {ε α β : Type} {c : Prop} [Decidable c] (e : ε) (k : β → Except ε α)
    (r : Except ε α) (a : α) :
    (if c then throw e >>= k else r) = .ok a ↔ ¬ c ∧ r = .ok a := by
  split <;> simp_all [throw, throwThe, MonadExceptOf.throw, bind, Except.bind]

/-- A relation for each of the two outcomes, when one of them always holds, describes the outcome
in both directions. -/
theorem eq_iff_of_exhaustive {ε α : Type} {r : Except ε α} {p : α → Prop} {q : ε → Prop}
    (accepted : ∀ a, p a → r = .ok a) (refused : ∀ e, q e → r = .error e)
    (exhaustive : (∃ a, p a) ∨ ∃ e, q e) :
    (∀ a, r = .ok a ↔ p a) ∧ ∀ e, r = .error e ↔ q e := by
  rcases exhaustive with ⟨a, ha⟩ | ⟨e, he⟩
  · have hr := accepted a ha
    refine ⟨fun b => ⟨?_, accepted b⟩, fun e => ⟨?_, refused e⟩⟩
    · intro hb
      cases hr.symm.trans hb
      exact ha
    · intro he
      cases hr.symm.trans he
  · have hr := refused e he
    refine ⟨fun a => ⟨?_, accepted a⟩, fun d => ⟨?_, refused d⟩⟩
    · intro ha
      cases hr.symm.trans ha
    · intro hd
      cases hr.symm.trans hd
      exact he

structure Demand where
  met : Prop
  message : String
  causes : List String

inductive FirstUnmet : List Demand → Demand → Prop where
  | here {x : Demand} {rest : List Demand} (unmet : ¬ x.met) : FirstUnmet (x :: rest) x
  | later {x y : Demand} {rest : List Demand} (met : y.met) (tail : FirstUnmet rest x) :
      FirstUnmet (y :: rest) x

variable {α β : Type} {ds es : List Demand} {x y : Demand}

/-- Simultaneous faults leave no choice of what is told. -/
theorem FirstUnmet.unique (hx : FirstUnmet ds x) (hy : FirstUnmet ds y) : x = y := by
  induction hx with
  | here hn =>
    cases hy with
    | here _ => rfl
    | later hm _ => exact absurd hm hn
  | later hm _ ih =>
    cases hy with
    | here hn => exact absurd hm hn
    | later _ ht => exact ih ht

theorem FirstUnmet.mem (h : FirstUnmet ds x) : x ∈ ds := by
  induction h with
  | here => exact List.mem_cons_self
  | later _ _ ih => exact List.mem_cons_of_mem _ ih

/-- With one demand unmet, not all are met. -/
theorem FirstUnmet.not_all_met (h : FirstUnmet ds x) : ¬ ∀ y ∈ ds, y.met := by
  intro hall
  induction h with
  | here hn => exact hn (hall _ (by simp))
  | later _ _ ih => exact ih (fun y hy => hall y (by simp [hy]))

theorem FirstUnmet.append_left (h : FirstUnmet ds x) : FirstUnmet (ds ++ es) x := by
  induction h with
  | here hn => exact .here hn
  | later hm _ ih => exact .later hm ih

/-- Demands that are met may stand in front of the first unmet one. -/
theorem FirstUnmet.append_right (hds : ∀ y ∈ ds, y.met) (h : FirstUnmet es x) :
    FirstUnmet (ds ++ es) x := by
  induction ds with
  | nil => exact h
  | cons y ds ih =>
    exact .later (hds y (by simp)) (ih (fun z hz => hds z (by simp [hz])))

/-- A check that succeeds only when every demand is met, and otherwise complains about the first
one that is not. -/
def Judged (complain : Demand → Diagnostic) (ds : List Demand) : Except Diagnostic α → Prop
  | .ok _ => ∀ x ∈ ds, x.met
  | .error d => ∃ x, FirstUnmet ds x ∧ d = complain x

variable {complain : Demand → Diagnostic} {r : Except Diagnostic α}

/-- A check that asks for one thing only. -/
theorem Judged.single (hmet : x.met ↔ ∃ a, r = .ok a)
    (htold : ∀ d, r = .error d → d = complain x) : Judged complain [x] r := by
  cases r with
  | ok a =>
    intro y hy
    rw [List.mem_singleton.mp hy]
    exact hmet.mpr ⟨a, rfl⟩
  | error d =>
    refine ⟨x, .here ?_, htold d rfl⟩
    intro hx
    obtain ⟨a, ha⟩ := hmet.mp hx
    cases ha

/-- A check that asks for one thing more once the first is met. -/
theorem Judged.cons (hmet : x.met) (h : Judged complain ds r) : Judged complain (x :: ds) r := by
  cases r with
  | ok a =>
    intro y hy
    rcases List.mem_cons.mp hy with rfl | hy
    · exact hmet
    · exact h y hy
  | error d =>
    obtain ⟨y, hy, hd⟩ := h
    exact ⟨y, .later hmet hy, hd⟩

/-- Checks made one after the other ask for the demands of both, in that order. -/
theorem Judged.bind {f : α → Except Diagnostic β} (hr : Judged complain ds r)
    (hf : ∀ a, r = .ok a → Judged complain es (f a)) :
    Judged complain (ds ++ es) (r >>= f) := by
  cases r with
  | error d =>
    obtain ⟨x, hx, hd⟩ := hr
    exact ⟨x, hx.append_left, hd⟩
  | ok a =>
    have hb := hf a rfl
    change Judged complain (ds ++ es) (f a)
    cases hfa : f a with
    | error d =>
      rw [hfa] at hb
      obtain ⟨x, hx, hd⟩ := hb
      exact ⟨x, .append_right hr hx, hd⟩
    | ok b =>
      rw [hfa] at hb
      intro x hx
      rcases List.mem_append.mp hx with hx | hx
      · exact hr x hx
      · exact hb x hx

/-- What follows a check without asking for anything more leaves the judgement as it is. -/
theorem Judged.bind_pure {f : α → β} (hr : Judged complain ds r) :
    Judged complain ds (r >>= fun a => pure (f a)) := by
  cases r <;> exact hr

/-- What is judged fails for the first unmet demand, and for no other reason. -/
theorem Judged.error_iff (h : Judged complain ds r) (d : Diagnostic) :
    r = .error d ↔ ∃ x, FirstUnmet ds x ∧ d = complain x := by
  constructor
  · intro hr
    rw [hr] at h
    exact h
  · intro h
    obtain ⟨x, hx, rfl⟩ := h
    cases r with
    | ok a => exact absurd h hx.not_all_met
    | error d =>
      obtain ⟨y, hy, rfl⟩ := h
      rw [hx.unique hy]

end Intake
