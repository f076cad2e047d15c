import Intake.Clause
import Intake.Proofs.FirstRefused
import Intake.Proofs.Text.Tight

namespace Intake.Clause

inductive Names : Json → String → Expr → Prop where
  | bare (name : String) : Names (.str name) name (.var name)
  | keyed {name : String} {value : Json} {e : Expr} (reads : Expr.ofJson value = .ok e) :
      Names (.obj [(name, value)]) name e

structure Makes (item : Json) (b : Binding) : Prop where
  named : Names item b.name b.expr
  tight : ¬ Text.Loose b.name

def nameFault (name : String) : String := "invalid binding name " ++ Text.quote name

/-- Why an element makes no binding. A name is only looked at when there is an expression. -/
inductive Refuses : Json → BindingList.Fault BindingNameFault → Prop where
  | shape {item : Json} (notName : ∀ s, item ≠ .str s)
      (notKeyed : ∀ name value, item ≠ .obj [(name, value)]) :
      Refuses item (.malformed ⟨.malformedSpec,
        some "binding must be a name or an object with exactly one key", none,
        [("json", .str item.pretty)], []⟩)
  | expression {name : String} {value : Json} {d : Diagnostic}
      (refused : Expr.ofJson value = .error d) : Refuses (.obj [(name, value)]) (.malformed d)
  | name {item : Json} {name : String} {e : Expr} (named : Names item name e)
      (loose : Text.Loose name) : Refuses item (.refused ⟨name⟩)

/-- The least index whose element makes no binding, with that element and the reason. -/
structure Stops (items : List Json) (i : Nat) (item : Json)
    (fault : BindingList.Fault BindingNameFault) : Prop where
  found : items[i]? = some item
  refused : Refuses item fault
  earlier : ∀ j v, j < i → items[j]? = some v → ∃ b, Makes v b

/-- What a JSON value leads to when it is read as a clause. -/
inductive Answer (kind : ClauseKind) : Json → Except Diagnostic Clause → Prop where
  | noList {node : Json} (shape : ∀ (ms : Members) (items : List Json),
      node = .obj ms → ms.get? kind.field ≠ some (.arr items)) :
      Answer kind node (.error ⟨kind.diagnosticKind, some kind.notAList, none,
        [("json", .str node.pretty)], []⟩)
  | malformedElement {ms : Members} {items : List Json} {i : Nat} {item : Json} {d : Diagnostic}
      (listed : ms.get? kind.field = some (.arr items))
      (first : Stops items i item (.malformed d)) : Answer kind (.obj ms) (.error d)
  | refusedName {ms : Members} {items : List Json} {i : Nat} {item : Json} {name : String}
      (listed : ms.get? kind.field = some (.arr items))
      (first : Stops items i item (.refused ⟨name⟩)) :
      Answer kind (.obj ms) (.error ⟨kind.diagnosticKind, some (nameFault name), none,
        [("json", .str (Json.obj ms).pretty)], [nameFault name]⟩)
  | accepted {ms : Members} {items : List Json} {bindings : List Binding}
      (listed : ms.get? kind.field = some (.arr items))
      (made : List.Forall₂ Makes items bindings) : Answer kind (.obj ms) (.ok ⟨kind, bindings⟩)

def readBinding (item : Json) : Except (BindingList.Fault BindingNameFault) Binding :=
  match BindingList.element item with
  | .error d => .error (.malformed d)
  | .ok (name, expr) => (Binding.new name expr).mapError .refused

/-- The constructor of bindings has no state to hand on. -/
theorem readBindings_cons (item : Json) (rest : List Json) : readBindings (item :: rest) =
    match readBinding item with
    | .error f => .error f
    | .ok b => (readBindings rest).map (b :: ·) := by
  simp only [readBindings, BindingList.make, readBinding]
  cases BindingList.element item with
  | error d => rfl
  | ok element =>
    obtain ⟨name, expr⟩ := element
    dsimp only
    cases Binding.new name expr with
    | error f => rfl
    | ok b =>
      dsimp only [Except.mapError]
      generalize BindingList.make _ () rest = made
      obtain ⟨result, s⟩ := made
      cases result <;> rfl

theorem readBindings_eq_mapM (items : List Json) : readBindings items = items.mapM readBinding := by
  induction items with
  | nil => rfl
  | cons item rest ih =>
    rw [readBindings_cons]
    cases hb : readBinding item with
    | error f => rw [mapM_cons_error hb]
    | ok b => rw [mapM_cons_ok hb, ih]

theorem Names.readBinding_eq {item : Json} {name : String} {e : Expr} (h : Names item name e) :
    readBinding item =
      if Text.isTight name then .ok ⟨name, e⟩ else .error (.refused ⟨name⟩) := by
  cases h with
  | bare =>
    simp only [readBinding, BindingList.element, Binding.new, Option.getD]
    split <;> rfl
  | keyed reads =>
    simp only [readBinding, BindingList.element, reads, Except.map, Binding.new, Option.getD]
    split <;> rfl

theorem Makes.readBinding_eq {item : Json} {b : Binding} (h : Makes item b) :
    readBinding item = .ok b := by
  rw [h.named.readBinding_eq, if_pos ((Text.isTight_iff _).mpr h.tight)]

theorem Refuses.readBinding_eq {item : Json} {f : BindingList.Fault BindingNameFault}
    (h : Refuses item f) : readBinding item = .error f := by
  cases h with
  | shape notName notKeyed =>
    have he : BindingList.element item = .error (BindingList.malformedSpec item) := by
      unfold BindingList.element
      split
      · exact (notName _ rfl).elim
      · exact (notKeyed _ _ rfl).elim
      · rfl
    unfold readBinding
    rw [he]
    rfl
  | expression refused => simp only [readBinding, BindingList.element, refused, Except.map]
  | name named loose =>
    rw [named.readBinding_eq, if_neg (fun ht => (Text.isTight_iff _).mp ht loose)]

/-- With a name and an expression there, only the name is left to judge. -/
theorem Names.outcome {item : Json} {name : String} {e : Expr} (h : Names item name e) :
    (∃ b, Makes item b) ∨ ∃ f, Refuses item f := by
  by_cases hl : Text.Loose name
  · exact .inr ⟨_, .name h hl⟩
  · exact .inl ⟨⟨name, e⟩, h, hl⟩

/-- There is nothing between making a binding and being refused. -/
theorem makes_or_refuses (item : Json) : (∃ b, Makes item b) ∨ ∃ f, Refuses item f := by
  by_cases hname : ∃ s, item = .str s
  · obtain ⟨s, rfl⟩ := hname
    exact (Names.bare s).outcome
  · by_cases hkeyed : ∃ name value, item = .obj [(name, value)]
    · obtain ⟨name, value, rfl⟩ := hkeyed
      cases hv : Expr.ofJson value with
      | error d => exact .inr ⟨_, .expression hv⟩
      | ok e => exact (Names.keyed hv).outcome
    · refine .inr ⟨_, .shape ?_ ?_⟩
      · exact fun s hs => hname ⟨s, hs⟩
      · exact fun name value hv => hkeyed ⟨name, value, hv⟩

/-- Binding and refusal, said without the reader, are what reading an element gives. -/
theorem readBinding_eq_iff (item : Json) :
    (∀ b, readBinding item = .ok b ↔ Makes item b) ∧
      ∀ f, readBinding item = .error f ↔ Refuses item f :=
  eq_iff_of_exhaustive (fun _ h => h.readBinding_eq) (fun _ h => h.readBinding_eq)
    (makes_or_refuses item)

theorem readBindings_eq_ok (items : List Json) (bindings : List Binding) :
    readBindings items = .ok bindings ↔ List.Forall₂ Makes items bindings := by
  rw [readBindings_eq_mapM, mapM_eq_ok]
  simp only [(readBinding_eq_iff _).1]

theorem readBindings_eq_error (items : List Json) (fault : BindingList.Fault BindingNameFault) :
    readBindings items = .error fault ↔ ∃ i item, Stops items i item fault := by
  rw [readBindings_eq_mapM, mapM_eq_error]
  constructor
  · intro h
    obtain ⟨i, item, found, refused, earlier⟩ := h
    simp only [(readBinding_eq_iff _).1] at earlier
    exact ⟨i, item, found, ((readBinding_eq_iff item).2 fault).mp refused, earlier⟩
  · intro h
    obtain ⟨i, item, found, refused, earlier⟩ := h
    simp only [← (readBinding_eq_iff _).1] at earlier
    exact ⟨i, item, found, refused.readBinding_eq, earlier⟩

theorem list_eq_some (node : Json) (key : String) (items : List Json) :
    (node.get? key).bind Json.asArray? = some items ↔
      ∃ ms : Members, node = .obj ms ∧ ms.get? key = some (.arr items) := by
  constructor
  · intro h
    obtain ⟨v, hv, hl⟩ := Option.bind_eq_some_iff.mp h
    cases node with
    | obj ms =>
      cases v with
      | arr vs =>
        cases hl
        exact ⟨ms, rfl, hv⟩
      | _ => cases hl
    | _ => cases hv
  · intro h
    obtain ⟨ms, rfl, hms⟩ := h
    exact Option.bind_eq_some_iff.mpr ⟨_, hms, rfl⟩

section Clauses

variable {kind : ClauseKind}

theorem ofJson_of_noList {node : Json}
    (h : ∀ (ms : Members) (items : List Json), node = .obj ms →
      ms.get? kind.field ≠ some (.arr items)) :
    ofJson kind node = .error ⟨kind.diagnosticKind, some kind.notAList, none,
      [("json", .str node.pretty)], []⟩ := by
  have hnone : (node.get? kind.field).bind Json.asArray? = none := by
    rw [Option.eq_none_iff_forall_ne_some]
    intro items hl
    obtain ⟨ms, hn, hms⟩ := (list_eq_some node kind.field items).mp hl
    exact h ms items hn hms
  unfold ofJson
  rw [hnone]
  rfl

variable {ms : Members} {items : List Json}

/-- A fault of an element is passed on as it is, and a refused name is wrapped once. -/
theorem ofJson_of_list (h : ms.get? kind.field = some (.arr items)) :
    ofJson kind (.obj ms) =
      match readBindings items with
      | .ok bindings => .ok ⟨kind, bindings⟩
      | .error (.malformed d) => .error d
      | .error (.refused f) => .error ⟨kind.diagnosticKind, some (nameFault f.name), none,
          [("json", .str (Json.obj ms).pretty)], [nameFault f.name]⟩ := by
  have hsome := (list_eq_some (.obj ms) kind.field items).mpr ⟨ms, rfl, h⟩
  unfold ofJson
  rw [hsome]
  rfl

theorem answer_of_list (h : ms.get? kind.field = some (.arr items)) :
    Answer kind (.obj ms) (ofJson kind (.obj ms)) := by
  rw [ofJson_of_list h]
  cases hr : readBindings items with
  | ok bindings => exact .accepted h ((readBindings_eq_ok _ _).mp hr)
  | error fault =>
    obtain ⟨i, item, first⟩ := (readBindings_eq_error _ _).mp hr
    cases fault with
    | malformed d => exact .malformedElement h first
    | refused f => exact .refusedName h first

/-- Every value has an answer, and reading gives it. -/
theorem answer_ofJson (node : Json) : Answer kind node (ofJson kind node) := by
  by_cases hl : ∃ (ms : Members) (items : List Json),
      node = .obj ms ∧ ms.get? kind.field = some (.arr items)
  · obtain ⟨ms, items, rfl, h⟩ := hl
    exact answer_of_list h
  · have shape : ∀ (ms : Members) (items : List Json), node = .obj ms →
        ms.get? kind.field ≠ some (.arr items) :=
      fun ms items hn hms => hl ⟨ms, items, hn, hms⟩
    rw [ofJson_of_noList shape]
    exact .noList shape

/-- No value has two answers. -/
theorem Answer.eq_ofJson {node : Json} {r : Except Diagnostic Clause} (h : Answer kind node r) :
    ofJson kind node = r := by
  cases h with
  | noList shape => exact ofJson_of_noList shape
  | malformedElement listed first =>
    rw [ofJson_of_list listed, (readBindings_eq_error _ _).mpr ⟨_, _, first⟩]
  | refusedName listed first =>
    rw [ofJson_of_list listed, (readBindings_eq_error _ _).mpr ⟨_, _, first⟩]
  | accepted listed made => rw [ofJson_of_list listed, (readBindings_eq_ok _ _).mpr made]

end Clauses

/-- The outcome of every JSON value that is read as a clause: which fault is told of several, of
which part of the document, and with which cause. -/
theorem ofJson_agrees_with_answer (kind : ClauseKind) (node : Json) (r : Except Diagnostic Clause) :
    ofJson kind node = r ↔ Answer kind node r := by
  constructor
  · intro h
    subst r
    exact answer_ofJson node
  · intro h
    exact h.eq_ofJson

end Intake.Clause
