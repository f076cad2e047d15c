import Intake.BindingList
import Mathlib.Data.List.Forall2

namespace Intake.BindingList

variable {σ ε α : Type}

abbrev Call : Type := String × Option Expr

inductive Asks : Json → Call → Prop where
  | bare (name : String) : Asks (.str name) (name, none)
  | keyed {name : String} {value : Json} {e : Expr} (reads : Expr.ofJson value = .ok e) :
      Asks (.obj [(name, value)]) (name, some e)

inductive AsksNothing : Json → Diagnostic → Prop where
  | shape {item : Json} (notName : ∀ s, item ≠ .str s)
      (notKeyed : ∀ name value, item ≠ .obj [(name, value)]) :
      AsksNothing item ⟨.malformedSpec,
        some "binding must be a name or an object with exactly one key", none,
        [("json", .str item.pretty)], []⟩
  | expression {name : String} {value : Json} {d : Diagnostic}
      (refused : Expr.ofJson value = .error d) : AsksNothing (.obj [(name, value)]) d

inductive Answered (construct : σ → String → Option Expr → Except ε α × σ) :
    σ → List Call → List α → σ → Prop where
  | done (s : σ) : Answered construct s [] [] s
  | next {s t u : σ} {name : String} {expr : Option Expr} {a : α} {calls : List Call}
      {answers : List α} (answer : construct s name expr = (.ok a, t))
      (rest : Answered construct t calls answers u) :
      Answered construct s ((name, expr) :: calls) (a :: answers) u

/-- The calls that the making of a list leads to, and how it ends: with an answer for every
element, at an element that asks for no call, or at a call that is refused. Nothing is made of what
comes after. -/
inductive Run (construct : σ → String → Option Expr → Except ε α × σ) (s : σ) :
    List Json → List Call → Except (Fault ε) (List α) × σ → Prop where
  | complete {items : List Json} {calls : List Call} {answers : List α} {t : σ}
      (asked : List.Forall₂ Asks items calls) (answered : Answered construct s calls answers t) :
      Run construct s items calls (.ok answers, t)
  | malformed {before : List Json} {item : Json} {d : Diagnostic} {calls : List Call}
      {answers : List α} {t : σ} (asked : List.Forall₂ Asks before calls)
      (answered : Answered construct s calls answers t) (nothing : AsksNothing item d)
      (after : List Json) :
      Run construct s (before ++ item :: after) calls (.error (.malformed d), t)
  | refused {before : List Json} {item : Json} {name : String} {expr : Option Expr} {e : ε}
      {calls : List Call} {answers : List α} {t u : σ} (asked : List.Forall₂ Asks before calls)
      (answered : Answered construct s calls answers t) (asks : Asks item (name, expr))
      (refusal : construct t name expr = (.error e, u)) (after : List Json) :
      Run construct s (before ++ item :: after) (calls ++ [(name, expr)])
        (.error (.refused e), u)

def logged (construct : σ → String → Option Expr → Except ε α × σ) (s : σ × List Call)
    (name : String) (expr : Option Expr) : Except ε α × (σ × List Call) :=
  match construct s.1 name expr with
  | (r, t) => (r, (t, s.2 ++ [(name, expr)]))

theorem Asks.element_eq {item : Json} {name : String} {expr : Option Expr}
    (h : Asks item (name, expr)) : element item = .ok (name, expr) := by
  cases h with
  | bare => rfl
  | keyed reads => simp only [element, reads, Except.map]

theorem AsksNothing.element_eq {item : Json} {d : Diagnostic} (h : AsksNothing item d) :
    element item = .error d := by
  cases h with
  | shape notName notKeyed =>
    unfold element
    split
    · exact (notName _ rfl).elim
    · exact (notKeyed _ _ rfl).elim
    · rfl
  | expression refused => simp only [element, refused, Except.map]

/-- An element asks for a call, or for none. -/
theorem asks_or_nothing (item : Json) :
    (∃ name expr, Asks item (name, expr)) ∨ ∃ d, AsksNothing item d := by
  by_cases hname : ∃ s, item = .str s
  · obtain ⟨s, rfl⟩ := hname
    exact .inl ⟨s, none, .bare s⟩
  · by_cases hkeyed : ∃ name value, item = .obj [(name, value)]
    · obtain ⟨name, value, rfl⟩ := hkeyed
      cases hv : Expr.ofJson value with
      | error d => exact .inr ⟨d, .expression hv⟩
      | ok e => exact .inl ⟨name, some e, .keyed hv⟩
    · refine .inr ⟨_, .shape ?_ ?_⟩
      · exact fun s hs => hname ⟨s, hs⟩
      · exact fun name value hv => hkeyed ⟨name, value, hv⟩

section Steps

variable {construct : σ → String → Option Expr → Except ε α × σ} {s t u : σ} {item : Json}
  {rest items : List Json} {name : String} {expr : Option Expr} {calls : List Call}

theorem make_of_nothing {d : Diagnostic} (h : AsksNothing item d) :
    make construct s (item :: rest) = (.error (.malformed d), s) := by
  simp only [make, h.element_eq]

theorem make_of_refusal {e : ε} (h : Asks item (name, expr))
    (refusal : construct s name expr = (.error e, t)) :
    make construct s (item :: rest) = (.error (.refused e), t) := by
  simp only [make, h.element_eq, refusal]

/-- An answered call is followed by what the rest of the list leads to. -/
theorem make_of_answer {a : α} {r : Except (Fault ε) (List α)} (h : Asks item (name, expr))
    (answer : construct s name expr = (.ok a, t)) (hrest : make construct t rest = (r, u)) :
    make construct s (item :: rest) = (r.map (a :: ·), u) := by
  simp only [make, h.element_eq, answer, hrest]
  cases r <;> rfl

/-- The elements whose calls are answered leave the rest of the list to the state they end in. -/
theorem make_append {answers : List α} {r : Except (Fault ε) (List α)}
    (asked : List.Forall₂ Asks items calls) (answered : Answered construct s calls answers t)
    (hrest : make construct t rest = (r, u)) :
    make construct s (items ++ rest) = (r.map (answers ++ ·), u) := by
  induction answered generalizing items with
  | done s =>
    cases asked
    rw [List.nil_append, hrest]
    cases r <;> rfl
  | next answer _ ih =>
    cases asked with
    | cons asks asked =>
      rw [List.cons_append, make_of_answer asks answer (ih asked hrest)]
      cases r <;> rfl

/-- What a run of calls ends with is what the list makes. -/
theorem Run.make_eq {r : Except (Fault ε) (List α)} (h : Run construct s items calls (r, t)) :
    make construct s items = (r, t) := by
  cases h with
  | complete asked answered =>
    have hnil : make construct t [] = (.ok [], t) := rfl
    have h := make_append asked answered hnil
    simpa [Except.map] using h
  | malformed asked answered nothing => exact make_append asked answered (make_of_nothing nothing)
  | refused asked answered asks refusal =>
    exact make_append asked answered (make_of_refusal asks refusal)

/-- An answered call in front of a run. -/
theorem Run.cons {a : α} {r : Except (Fault ε) (List α)} (asks : Asks item (name, expr))
    (answer : construct s name expr = (.ok a, t)) (h : Run construct t rest calls (r, u)) :
    Run construct s (item :: rest) ((name, expr) :: calls) (r.map (a :: ·), u) := by
  cases h with
  | complete asked answered => exact .complete (.cons asks asked) (.next answer answered)
  | malformed asked answered nothing after =>
    exact .malformed (.cons asks asked) (.next answer answered) nothing after
  | refused asked answered asksLast refusal after =>
    exact .refused (.cons asks asked) (.next answer answered) asksLast refusal after

/-- Making a list is always a run of calls. -/
theorem exists_run (construct : σ → String → Option Expr → Except ε α × σ) (s : σ)
    (items : List Json) : ∃ calls, Run construct s items calls (make construct s items) := by
  induction items generalizing s with
  | nil => exact ⟨[], .complete .nil (.done s)⟩
  | cons item rest ih =>
    rcases asks_or_nothing item with ⟨name, expr, asks⟩ | ⟨d, nothing⟩
    · cases hc : construct s name expr with
      | mk r t =>
        cases r with
        | error e =>
          rw [make_of_refusal asks hc]
          exact ⟨[(name, expr)], .refused .nil (.done s) asks hc rest⟩
        | ok a =>
          obtain ⟨calls, h⟩ := ih t
          rw [make_of_answer asks hc rfl]
          exact ⟨(name, expr) :: calls, h.cons asks hc⟩
    · rw [make_of_nothing nothing]
      exact ⟨[], .malformed .nil (.done s) nothing rest⟩

/-- The log grows by exactly the calls that were answered. -/
theorem Answered.logged {answers : List α} (h : Answered construct s calls answers t)
    (log : List Call) : Answered (logged construct) (s, log) calls answers (t, log ++ calls) := by
  induction h generalizing log with
  | done s =>
    rw [List.append_nil]
    exact .done _
  | @next s t u name expr a calls answers answer _ ih =>
    have hlog := ih (log ++ [(name, expr)])
    rw [List.append_assoc, List.singleton_append] at hlog
    refine .next ?_ hlog
    simp only [BindingList.logged, answer]

/-- Writing the calls down changes neither them nor how the run ends. -/
theorem Run.logged {r : Except (Fault ε) (List α)} (h : Run construct s items calls (r, t))
    (log : List Call) : Run (logged construct) (s, log) items calls (r, (t, log ++ calls)) := by
  cases h with
  | complete asked answered => exact .complete asked (answered.logged log)
  | malformed asked answered nothing after =>
    exact .malformed asked (answered.logged log) nothing after
  | refused asked answered asks refusal after =>
    refine .refused asked (answered.logged log) asks ?_ after
    simp only [BindingList.logged, refusal, List.append_assoc]

end Steps

/-- Making a list does nothing but the calls of a run, and ends as the run does. The log of the
constructor tells which calls were made, whatever else it keeps in its state. -/
theorem make_eq_iff_run (construct : σ → String → Option Expr → Except ε α × σ) (s : σ)
    (items : List Json) (r : Except (Fault ε) (List α)) (t : σ) :
    (make construct s items = (r, t) ↔ ∃ calls, Run construct s items calls (r, t)) ∧
    ∀ log calls, make (logged construct) (s, log) items = (r, (t, log ++ calls)) ↔
      Run construct s items calls (r, t) := by
  obtain ⟨asked, hrun⟩ := exists_run construct s items
  constructor
  · constructor
    · intro h
      rw [h] at hrun
      exact ⟨asked, hrun⟩
    · intro h
      obtain ⟨calls, h⟩ := h
      exact h.make_eq
  · intro log calls
    constructor
    · intro h
      generalize make construct s items = made at hrun
      obtain ⟨r', t'⟩ := made
      have hlog := (hrun.logged log).make_eq
      rw [h] at hlog
      simp only [Prod.mk.injEq, List.append_cancel_left_eq] at hlog
      obtain ⟨rfl, rfl, rfl⟩ := hlog
      exact hrun
    · exact fun h => (h.logged log).make_eq

end Intake.BindingList
