import Intake.Proofs.Clause.Order
import Intake.Proofs.Expr.Blame
import Intake.Proofs.Json.Part
import Intake.Proofs.Submission.Order

namespace Intake

inductive Form where
  | submission
  | operation
  | options
  | clause (kind : ClauseKind)
  | element
  | expression

def Form.Refuses : Form → Json → Diagnostic → Prop
  | submission, node, d => Submission.ofJson node = .error d
  | operation, node, d => Operation.ofJson node = .error d
  | options, node, d => Options.ofJson node = .error d
  | clause kind, node, d => Clause.ofJson kind node = .error d
  | element, node, d => BindingList.element node = .error d
  | expression, node, d => Expr.ofJson node = .error d

/-- The part that a value is refused for. An operation and options are refused as a whole, and so
is a clause for one of its names; of what holds other things, the first that is refused decides. -/
inductive Offends : Form → Json → Json → Prop where
  | envelope {node : Json} (noList : ∀ (ms : Members) (items : List Json),
      node = .obj ms → ms.get? "tx_ops" ≠ some (.arr items)) : Offends .submission node node
  | firstOperation {ms : Members} {items : List Json} {i : Nat} {item : Json} {d : Diagnostic}
      (listed : ms.get? "tx_ops" = some (.arr items))
      (first : FirstRefused Operation.ofJson items i item d) : Offends .submission (.obj ms) item
  | givenOptions {ms : Members} {items : List Json} {ops : List Operation} {v : Json}
      {d : Diagnostic} (listed : ms.get? "tx_ops" = some (.arr items))
      (accepted : items.map Operation.ofJson = ops.map .ok)
      (given : ms.get? "tx_options" = some v) (notNull : v ≠ .null)
      (refused : Options.ofJson v = .error d) : Offends .submission (.obj ms) v
  | operation {node : Json} {d : Diagnostic} (refused : Operation.ofJson node = .error d) :
      Offends .operation node node
  | options {node : Json} {d : Diagnostic} (refused : Options.ofJson node = .error d) :
      Offends .options node node
  | noList {kind : ClauseKind} {node : Json} (noList : ∀ (ms : Members) (items : List Json),
      node = .obj ms → ms.get? kind.field ≠ some (.arr items)) : Offends (.clause kind) node node
  | firstElement {kind : ClauseKind} {ms : Members} {items : List Json} {i : Nat} {item s : Json}
      {d : Diagnostic} (listed : ms.get? kind.field = some (.arr items))
      (first : Clause.Stops items i item (.malformed d)) (inside : Offends .element item s) :
      Offends (.clause kind) (.obj ms) s
  | refusedName {kind : ClauseKind} {ms : Members} {items : List Json} {i : Nat} {item : Json}
      {f : BindingNameFault} (listed : ms.get? kind.field = some (.arr items))
      (first : Clause.Stops items i item (.refused f)) : Offends (.clause kind) (.obj ms) (.obj ms)
  | shape {item : Json} (notName : ∀ s, item ≠ .str s)
      (notKeyed : ∀ name value, item ≠ .obj [(name, value)]) : Offends .element item item
  | keyed {name : String} {value s : Json} (inside : Offends .expression value s) :
      Offends .element (.obj [(name, value)]) s
  | malformed {node s : Json} {d : Diagnostic}
      (first : Expr.FirstMalformed (Expr.visits node) s d) : Offends .expression node s

namespace Expr

/-- Only parts of a value are read as expressions in it. -/
theorem Reached.part {s node : Json} (h : Reached s node) : Json.Part s node := by
  induction h with
  | here => exact .whole _
  | @under c v position _ ih =>
    refine ih.trans ?_
    unfold positions at position
    split at position
    · exact .item position
    · split at position
      · cases position
      · exact (Json.Part.item position).trans (.only _ _)
    · cases position

theorem FirstMalformed.mem {nodes : List Json} {s : Json} {d : Diagnostic}
    (h : FirstMalformed nodes s d) : s ∈ nodes := by
  induction h with
  | found => exact List.mem_cons_self
  | later _ _ ih => exact List.mem_cons_of_mem _ ih

end Expr

/-- What is to blame stands in what is refused. -/
theorem Offends.part {form : Form} {node s : Json} (h : Offends form node s) :
    Json.Part s node := by
  induction h with
  | envelope | operation | options | noList | refusedName | shape => exact .whole _
  | firstOperation listed first =>
    exact (Json.Part.item (List.mem_of_getElem? first.found)).trans (.of_get listed)
  | givenOptions _ _ given => exact .of_get given
  | firstElement listed first _ ih =>
    exact (ih.trans (.item (List.mem_of_getElem? first.found))).trans (.of_get listed)
  | keyed _ ih => exact ih.trans (.only _ _)
  | malformed first => exact ((Expr.mem_visits_iff _ _).mp first.mem).part

/-- The offending part is what stands first in the context, whatever was added behind it. -/
theorem Diagnostic.json_eq {d : Diagnostic} {s : Json} {more : List (String × Json)}
    (h : d.context = ("json", .str s.pretty) :: more) : d.json? = some s.pretty := by
  simp [json?, context?, h, jsonKey, Json.asString?]

section Records

variable {node : Json} {d : Diagnostic}

theorem Options.systemTimeOf_error_context {text : Option String}
    (h : systemTimeOf node text = .error d) : d.context = [("json", .str node.pretty)] := by
  unfold systemTimeOf at h
  split at h
  · cases h
  · split at h
    · cases h
    · cases h
      rfl

theorem Options.ofJson_error_context (h : ofJson node = .error d) :
    d.context = [("json", .str node.pretty)] := by
  unfold ofJson at h
  split at h
  · split at h
    · cases h
      rfl
    · split at h
      · rename_i ht
        cases h
        exact systemTimeOf_error_context ht
      · split at h
        · cases h
          rfl
        · cases h
  · cases h
    rfl

def Recorded (form : Form) (node : Json) (d : Diagnostic) : Prop :=
  ∃ s, Offends form node s ∧ d.json? = some s.pretty

theorem Expr.FirstMalformed.json_eq {nodes : List Json} {s : Json}
    (h : FirstMalformed nodes s d) : d.json? = some s.pretty := by
  induction h with
  | found => exact Diagnostic.json_eq rfl
  | later _ _ ih => exact ih

theorem Expr.recorded (h : ofJson node = .error d) : Recorded .expression node d := by
  obtain ⟨s, first⟩ := ((ofJson_blames node).error_iff d).mp h
  exact ⟨s, .malformed first, first.json_eq⟩

theorem BindingList.recorded (h : element node = .error d) : Recorded .element node d := by
  unfold element at h
  split at h
  · cases h
  · rename_i name value
    cases hv : Expr.ofJson value with
    | ok e =>
      rw [hv] at h
      cases h
    | error e =>
      rw [hv] at h
      cases h
      obtain ⟨s, inside, hs⟩ := Expr.recorded hv
      exact ⟨s, .keyed inside, hs⟩
  · rename_i notName notKeyed
    cases h
    exact ⟨node, .shape notName notKeyed, Diagnostic.json_eq rfl⟩

theorem Options.recorded (h : ofJson node = .error d) : Recorded .options node d :=
  ⟨node, .options h, Diagnostic.json_eq (ofJson_error_context h)⟩

theorem Operation.recorded (h : ofJson node = .error d) : Recorded .operation node d :=
  ⟨node, .operation h, Diagnostic.json_eq (ofJson_error_context h)⟩

/-- An element that is malformed is refused so by itself, before its name is looked at. -/
theorem Clause.Refuses.element_eq {item : Json} (h : Refuses item (.malformed d)) :
    BindingList.element item = .error d := by
  have hread := h.readBinding_eq
  unfold readBinding at hread
  split at hread
  · rename_i he
    cases hread
    exact he
  · rename_i name expr _
    cases hb : Binding.new name expr with
    | ok b =>
      rw [hb] at hread
      cases hread
    | error f =>
      rw [hb] at hread
      cases hread

theorem Clause.recorded {kind : ClauseKind} (h : ofJson kind node = .error d) :
    Recorded (.clause kind) node d := by
  have ha : Answer kind node (ofJson kind node) := answer_ofJson node
  rw [h] at ha
  cases ha with
  | noList shape => exact ⟨node, .noList shape, Diagnostic.json_eq rfl⟩
  | malformedElement listed first =>
    obtain ⟨s, inside, hs⟩ := BindingList.recorded first.refused.element_eq
    exact ⟨s, .firstElement listed first inside, hs⟩
  | refusedName listed first => exact ⟨_, .refusedName listed first, Diagnostic.json_eq rfl⟩

/-- For a submission it is its operation or its options that is recorded, or all of it. -/
theorem Submission.recorded (h : ofJson node = .error d) : Recorded .submission node d := by
  have ha := answer_ofJson node
  rw [h] at ha
  cases ha with
  | notObject shape =>
    exact ⟨node, .envelope fun ms _ hn _ => shape ms hn, Diagnostic.json_eq rfl⟩
  | noOperations absent =>
    refine ⟨_, .envelope ?_, Diagnostic.json_eq rfl⟩
    intro ms items hn hms
    cases hn
    cases absent.symm.trans hms
  | noList present shape =>
    refine ⟨_, .envelope ?_, Diagnostic.json_eq rfl⟩
    intro ms items hn hms
    cases hn
    exact shape items (Option.some.inj (present.symm.trans hms))
  | refusedOperation listed first =>
    -- The index of the operation stands behind the offending part.
    have hcontext := Operation.ofJson_error_context first.refused
    exact ⟨_, .firstOperation listed first, Diagnostic.json_eq (by rw [hcontext]; rfl)⟩
  | refusedOptions listed accepted given notNull refused =>
    obtain ⟨s, inside, hs⟩ := Options.recorded refused
    cases inside
    exact ⟨_, .givenOptions listed accepted given notNull refused, hs⟩

end Records

/-- Whatever a value is refused as, its diagnostic records the part that is to blame. -/
theorem Form.Refuses.recorded {form : Form} {node : Json} {d : Diagnostic}
    (h : form.Refuses node d) : Recorded form node d := by
  cases form with
  | submission => exact Submission.recorded h
  | operation => exact Operation.recorded h
  | options => exact Options.recorded h
  | clause kind => exact Clause.recorded h
  | element => exact BindingList.recorded h
  | expression => exact Expr.recorded h

/-- A value is refused in one way only. -/
theorem Form.Refuses.unique {form : Form} {node : Json} {d e : Diagnostic}
    (hd : form.Refuses node d) (he : form.Refuses node e) : d = e := by
  cases form <;> exact Except.error.inj (hd.symm.trans he)

theorem Submission.refuses_envelope {node : Json} (noList : ∀ (ms : Members) (items : List Json),
      node = .obj ms → ms.get? "tx_ops" ≠ some (.arr items)) :
    ∃ d, ofJson node = .error d ∧ d.json? = some node.pretty := by
  cases node with
  | obj ms =>
    cases hv : Members.get? ms "tx_ops" with
    | none => exact ⟨_, ofJson_of_absent hv, Diagnostic.json_eq rfl⟩
    | some v =>
      have shape : ∀ items, v ≠ .arr items := by
        rintro items rfl
        exact noList ms items rfl hv
      exact ⟨_, ofJson_of_noList hv shape, Diagnostic.json_eq rfl⟩
  | _ => exact ⟨_, rfl, Diagnostic.json_eq rfl⟩

/-- Nothing is to blame but what keeps the value from being accepted. -/
theorem Offends.refuses {form : Form} {node s : Json} (h : Offends form node s) :
    ∃ d, form.Refuses node d ∧ d.json? = some s.pretty := by
  induction h with
  | envelope noList => exact Submission.refuses_envelope noList
  | firstOperation listed first =>
    have hcontext := Operation.ofJson_error_context first.refused
    exact ⟨_, (Submission.Answer.refusedOperation listed first).eq_ofJson,
      Diagnostic.json_eq (by rw [hcontext]; rfl)⟩
  | givenOptions listed accepted given notNull refused =>
    exact ⟨_, (Submission.Answer.refusedOptions listed accepted given notNull refused).eq_ofJson,
      Diagnostic.json_eq (Options.ofJson_error_context refused)⟩
  | operation refused =>
    exact ⟨_, refused, Diagnostic.json_eq (Operation.ofJson_error_context refused)⟩
  | options refused =>
    exact ⟨_, refused, Diagnostic.json_eq (Options.ofJson_error_context refused)⟩
  | noList noList => exact ⟨_, (Clause.Answer.noList noList).eq_ofJson, Diagnostic.json_eq rfl⟩
  | firstElement listed first _ ih =>
    obtain ⟨d, refused, hs⟩ := ih
    have hsame := Form.Refuses.unique refused first.refused.element_eq
    exact ⟨d, hsame ▸ (Clause.Answer.malformedElement listed first).eq_ofJson, hs⟩
  | refusedName listed first =>
    exact ⟨_, (Clause.Answer.refusedName listed first).eq_ofJson, Diagnostic.json_eq rfl⟩
  | shape notName notKeyed =>
    exact ⟨_, (Clause.Refuses.shape notName notKeyed).element_eq, Diagnostic.json_eq rfl⟩
  | keyed _ ih =>
    obtain ⟨d, refused, hs⟩ := ih
    exact ⟨d, (Clause.Refuses.expression refused).element_eq, hs⟩
  | malformed first =>
    exact ⟨_, ((Expr.ofJson_blames _).error_iff _).mpr ⟨_, first⟩, first.json_eq⟩

end Intake
