import Intake.Submission
import Intake.Proofs.FirstRefused
import Intake.Proofs.Operation.Acceptance

namespace Intake.Submission

inductive OptionsField : Option Json → Options → Prop where
  | absent : OptionsField none ⟨none, none, false⟩
  | null : OptionsField (some .null) ⟨none, none, false⟩
  | given {v : Json} {o : Options} (reads : Options.ofJson v = .ok o) : OptionsField (some v) o

/-- What a JSON value leads to. The diagnostic of a refused operation is kept whole, and its index
is appended. -/
inductive Answer : Json → Except Diagnostic Submission → Prop where
  | notObject {node : Json} (shape : ∀ ms, node ≠ .obj ms) :
      Answer node (.error ⟨.malformedTx, some "transaction must be a JSON object", none,
        [("json", .str node.pretty)], []⟩)
  | noOperations {ms : Members} (absent : ms.get? "tx_ops" = none) :
      Answer (.obj ms) (.error ⟨.missingTxOps, some "missing `tx_ops`", none,
        [("json", .str (Json.obj ms).pretty)], []⟩)
  | noList {ms : Members} {v : Json} (present : ms.get? "tx_ops" = some v)
      (shape : ∀ items, v ≠ .arr items) :
      Answer (.obj ms) (.error ⟨.malformedTxOps, some "`tx_ops` must be a list of operations",
        none, [("json", .str (Json.obj ms).pretty)], []⟩)
  | refusedOperation {ms : Members} {items : List Json} {i : Nat} {item : Json} {d : Diagnostic}
      (listed : ms.get? "tx_ops" = some (.arr items))
      (first : FirstRefused Operation.ofJson items i item d) :
      Answer (.obj ms) (.error ⟨d.kind, d.message, d.hint,
        d.context ++ [("op_index", .ofNat i)], d.causes⟩)
  | refusedOptions {ms : Members} {items : List Json} {ops : List Operation} {v : Json}
      {d : Diagnostic} (listed : ms.get? "tx_ops" = some (.arr items))
      (accepted : items.map Operation.ofJson = ops.map .ok)
      (given : ms.get? "tx_options" = some v) (notNull : v ≠ .null)
      (refused : Options.ofJson v = .error d) : Answer (.obj ms) (.error d)
  | accepted {ms : Members} {items : List Json} {ops : List Operation} {o : Options}
      (listed : ms.get? "tx_ops" = some (.arr items))
      (accepted : items.map Operation.ofJson = ops.map .ok)
      (options : OptionsField (ms.get? "tx_options") o) : Answer (.obj ms) (.ok ⟨ops, o⟩)

theorem readOperations_eq_ok (index : Nat) (items : List Json) (ops : List Operation) :
    readOperations index items = .ok ops ↔ items.map Operation.ofJson = ops.map .ok := by
  induction items generalizing index ops with
  | nil => cases ops <;> simp [readOperations]
  | cons item rest ih =>
    unfold readOperations
    cases hi : Operation.ofJson item with
    | error d => cases ops <;> simp [hi]
    | ok op =>
      cases hr : readOperations (index + 1) rest with
      | error d =>
        have hn : ∀ tail : List Operation, rest.map Operation.ofJson ≠ tail.map .ok := by
          intro tail ht
          have := (ih (index + 1) tail).mpr ht
          rw [hr] at this
          cases this
        cases ops <;> simp [hn]
      | ok tail =>
        have ht := (ih (index + 1) tail).mp hr
        cases ops <;> simp [hi, ht, List.map_inj_right]

/-- Recording the index leaves everything else of a refused operation's diagnostic as it is. -/
theorem withIndex_eq {item : Json} {d : Diagnostic} (h : Operation.ofJson item = .error d)
    (i : Nat) : d.withContext "op_index" (.ofNat i) =
      ⟨d.kind, d.message, d.hint, d.context ++ [("op_index", .ofNat i)], d.causes⟩ := by
  have hc := Operation.ofJson_error_context h
  simp [Diagnostic.withContext, hc, Diagnostic.setEntry]

/-- Operations are refused for the first that is, and its index is recorded. -/
theorem readOperations_eq_error (index : Nat) (items : List Json) (d : Diagnostic) :
    readOperations index items = .error d ↔ ∃ i item e,
      FirstRefused Operation.ofJson items i item e ∧
        d = e.withContext "op_index" (.ofNat (index + i)) := by
  induction items generalizing index with
  | nil =>
    simp only [readOperations, reduceCtorEq, false_iff]
    intro h
    obtain ⟨i, item, e, hf, -⟩ := h
    exact hf.not_nil
  | cons item rest ih =>
    unfold readOperations
    cases hi : Operation.ofJson item with
    | error e =>
      constructor
      · intro h
        cases h
        exact ⟨0, item, e, .head hi, rfl⟩
      · intro h
        obtain ⟨i, w, f, hf, rfl⟩ := h
        obtain ⟨rfl, rfl⟩ := hf.of_cons_error hi
        rfl
    | ok op =>
      have hstep : (∃ i w e, FirstRefused Operation.ofJson (item :: rest) i w e ∧
            d = e.withContext "op_index" (.ofNat (index + i))) ↔
          readOperations (index + 1) rest = .error d := by
        rw [ih]
        constructor
        · intro h
          obtain ⟨i, w, e, hf, hd⟩ := h
          obtain ⟨j, rfl, ht⟩ := hf.of_cons_ok hi
          exact ⟨j, w, e, ht, by rw [hd, Nat.add_assoc, Nat.add_comm 1 j]⟩
        · intro h
          obtain ⟨j, w, e, ht, hd⟩ := h
          exact ⟨j + 1, w, e, ht.cons hi, by rw [hd, Nat.add_assoc, Nat.add_comm 1 j]⟩
      rw [hstep]
      cases readOperations (index + 1) rest <;> simp

theorem readOptions_eq_ok (ms : Members) (o : Options) :
    readOptions ms = .ok o ↔ OptionsField (ms.get? "tx_options") o := by
  unfold readOptions
  constructor
  · intro h
    split at h
    · rename_i hv
      cases h
      exact hv ▸ .absent
    · rename_i hv
      cases h
      exact hv ▸ .null
    · rename_i v _ hv
      exact hv ▸ .given h
  · intro h
    cases hv : ms.get? optionsKey with
    | none =>
      rw [show ms.get? "tx_options" = none from hv] at h
      cases h
      rfl
    | some v =>
      rw [show ms.get? "tx_options" = some v from hv] at h
      cases h with
      | null => rfl
      | given reads =>
        cases v with
        | null => cases reads
        | _ => exact reads

theorem readOptions_of_given {ms : Members} {v : Json} (given : ms.get? "tx_options" = some v)
    (notNull : v ≠ .null) : readOptions ms = Options.ofJson v := by
  unfold readOptions optionsKey
  rw [given]
  cases v with
  | null => exact (notNull rfl).elim
  | _ => rfl

theorem readOptions_eq_error (ms : Members) (d : Diagnostic) :
    readOptions ms = .error d ↔
      ∃ v, ms.get? "tx_options" = some v ∧ v ≠ .null ∧ Options.ofJson v = .error d := by
  unfold readOptions
  constructor
  · intro h
    split at h
    · cases h
    · cases h
    · rename_i v hn hv
      exact ⟨v, hv, fun he => hn (he ▸ rfl), h⟩
  · intro h
    obtain ⟨v, hv, hn, hd⟩ := h
    exact (readOptions_of_given hv hn).trans hd

section Envelope

variable {ms : Members} {items : List Json}

theorem ofJson_of_absent (h : ms.get? "tx_ops" = none) :
    ofJson (.obj ms) = .error (malformed .missingTxOps (.obj ms) "missing `tx_ops`") := by
  simp only [ofJson]
  rw [show ms.get? operationsKey = none from h]

theorem ofJson_of_noList {v : Json} (h : ms.get? "tx_ops" = some v)
    (shape : ∀ items, v ≠ .arr items) : ofJson (.obj ms) =
      .error (malformed .malformedTxOps (.obj ms) "`tx_ops` must be a list of operations") := by
  simp only [ofJson]
  rw [show ms.get? operationsKey = some v from h]
  cases v with
  | arr items => exact (shape items rfl).elim
  | _ => rfl

/-- Behind a sound envelope the operations are read before the options. -/
theorem ofJson_of_list (h : ms.get? "tx_ops" = some (.arr items)) : ofJson (.obj ms) = (do
    let ops ← readOperations 0 items
    let options ← readOptions ms
    return ⟨ops, options⟩) := by
  simp only [ofJson]
  rw [show ms.get? operationsKey = some (.arr items) from h]

theorem answer_of_list (h : ms.get? "tx_ops" = some (.arr items)) :
    Answer (.obj ms) (ofJson (.obj ms)) := by
  rw [ofJson_of_list h]
  cases hr : readOperations 0 items with
  | error d =>
    obtain ⟨i, item, e, hf, he⟩ := (readOperations_eq_error 0 items d).mp hr
    rw [he, withIndex_eq hf.refused, Nat.zero_add]
    exact .refusedOperation h hf
  | ok ops =>
    have hops := (readOperations_eq_ok 0 items ops).mp hr
    cases ho : readOptions ms with
    | error d =>
      obtain ⟨v, hg, hn, hd⟩ := (readOptions_eq_error ms d).mp ho
      exact .refusedOptions h hops hg hn hd
    | ok o => exact .accepted h hops ((readOptions_eq_ok ms o).mp ho)

end Envelope

/-- Every value has an answer, and reading gives it. -/
theorem answer_ofJson (node : Json) : Answer node (ofJson node) := by
  cases node with
  | obj ms =>
    cases hv : Members.get? ms "tx_ops" with
    | none =>
      rw [ofJson_of_absent hv]
      exact .noOperations hv
    | some v =>
      by_cases hl : ∃ items, v = .arr items
      · obtain ⟨items, rfl⟩ := hl
        exact answer_of_list hv
      · have shape : ∀ items, v ≠ .arr items := fun items he => hl ⟨items, he⟩
        rw [ofJson_of_noList hv shape]
        exact .noList hv shape
  | _ => exact .notObject (by simp)

/-- No value has two answers. -/
theorem Answer.eq_ofJson {node : Json} {r : Except Diagnostic Submission} (h : Answer node r) :
    ofJson node = r := by
  cases h with
  | notObject shape =>
    cases node with
    | obj ms => exact (shape ms rfl).elim
    | _ => rfl
  | noOperations absent => exact ofJson_of_absent absent
  | noList present shape => exact ofJson_of_noList present shape
  | refusedOperation listed first =>
    have hr := (readOperations_eq_error 0 _ _).mpr ⟨_, _, _, first, rfl⟩
    rw [ofJson_of_list listed, hr, withIndex_eq first.refused, Nat.zero_add]
    rfl
  | refusedOptions listed accepted given notNull refused =>
    have hr := (readOperations_eq_ok 0 _ _).mpr accepted
    have ho := (readOptions_eq_error _ _).mpr ⟨_, given, notNull, refused⟩
    rw [ofJson_of_list listed, hr, ho]
    rfl
  | accepted listed accepted options =>
    have hr := (readOperations_eq_ok 0 _ _).mpr accepted
    have ho := (readOptions_eq_ok _ _).mpr options
    rw [ofJson_of_list listed, hr, ho]
    rfl

/-- The outcome of every JSON value, whatever else is wrong with it behind the first fault. -/
theorem ofJson_eq_iff_answer (node : Json) (r : Except Diagnostic Submission) :
    ofJson node = r ↔ Answer node r := by
  constructor
  · intro h
    subst r
    exact answer_ofJson node
  · intro h
    exact h.eq_ofJson

end Intake.Submission
