import Intake.Clause
import Intake.Proofs.Operation.OwnMembers
import Intake.Proofs.Submission.Order

namespace Intake

namespace Operation

/-- Members of two objects that may differ in what the selected kind does not own. The presence of
the five keys is compared, not what stands under those that select nothing. -/
structure Agree (ms ns : Members) : Prop where
  tags : ∀ t : OpTag, (ms.get? t.key).isSome = (ns.get? t.key).isSome
  own : ∀ tag, SoleTag ms tag → ∀ key ∈ tag.ownKeys, ms.get? key = ns.get? key

/-- Objects that agree are read alike. -/
theorem Agree.alike {ms ns : Members} (h : Agree ms ns) :
    Alike (ofJson (.obj ms)) (ofJson (.obj ns)) :=
  ofJson_alike h.tags fun tag hsole => matches_of_own (h.own tag hsole)

inductive Corresponds : Json → Json → Prop where
  | same (v : Json) : Corresponds v v
  | agree {ms ns : Members} (members : Agree ms ns) : Corresponds (.obj ms) (.obj ns)

theorem Corresponds.alike {v w : Json} (h : Corresponds v w) : Alike (ofJson v) (ofJson w) := by
  cases h with
  | same => exact .refl _
  | agree members => exact members.alike

end Operation

namespace Submission

/-- Lists of operations that are read alike one by one are read alike, with the same index told. -/
theorem readOperations_alike {items others : List Json}
    (h : List.Forall₂ (fun v w => Alike (Operation.ofJson v) (Operation.ofJson w)) items others)
    (index : Nat) : Alike (readOperations index items) (readOperations index others) := by
  induction h generalizing index with
  | nil => exact .ok []
  | @cons v w rest rest' hvw _ ih =>
    have htail := ih (index + 1)
    unfold readOperations
    generalize Operation.ofJson v = r at hvw ⊢
    generalize Operation.ofJson w = r' at hvw ⊢
    cases hvw with
    | error told => exact .error (told.withContext _ _)
    | ok op =>
      dsimp only
      generalize readOperations (index + 1) rest = tail at htail ⊢
      generalize readOperations (index + 1) rest' = tail' at htail ⊢
      cases htail with
      | error told => exact .error told
      | ok ops => exact .ok (op :: ops)

variable {ms ns : Members}

/-- Behind sound envelopes only the operations and the options are looked at. -/
theorem ofJson_alike {items others : List Json} (listed : ms.get? "tx_ops" = some (.arr items))
    (listed' : ns.get? "tx_ops" = some (.arr others))
    (operations : List.Forall₂ (fun v w => Alike (Operation.ofJson v) (Operation.ofJson w))
      items others)
    (options : Alike (readOptions ms) (readOptions ns)) :
    Alike (ofJson (.obj ms)) (ofJson (.obj ns)) := by
  rw [ofJson_of_list listed, ofJson_of_list listed']
  refine (readOperations_alike operations 0).bind fun ops => ?_
  refine options.bind fun o => ?_
  exact .ok _

/-- The envelope is asked for its options under one key alone. -/
theorem readOptions_congr (h : ms.get? "tx_options" = ns.get? "tx_options") :
    readOptions ms = readOptions ns := by
  unfold readOptions optionsKey
  rw [h]

end Submission

namespace Clause

/-- A clause is read off its list, and the rest of the document is at most recorded. -/
theorem ofJson_alike {kind : ClauseKind} {v w : Json} (h : v.get? kind.field = w.get? kind.field) :
    Alike (ofJson kind v) (ofJson kind w) := by
  unfold ofJson
  dsimp only
  rw [h]
  split
  · exact .error (.recorded _ _ _ _ _ _)
  · split
    · exact .ok _
    · exact .refl _
    · exact .error (.recorded _ _ _ _ _ _)

end Clause

/-- What stands in a document beside the members that belong to it has no influence on the outcome,
be it accepted or refused: neither in an operation, nor in the operations of a submission, each with
foreign members of its own, nor in a document that holds a clause. -/
theorem foreign_members_have_no_influence :
    (∀ ms ns, Operation.Agree ms ns →
      Alike (Operation.ofJson (.obj ms)) (Operation.ofJson (.obj ns))) ∧
    (∀ (ms ns : Members) (items others : List Json),
      ms.get? "tx_ops" = some (.arr items) → ns.get? "tx_ops" = some (.arr others) →
      List.Forall₂ Operation.Corresponds items others →
      ms.get? "tx_options" = ns.get? "tx_options" →
      Alike (Submission.ofJson (.obj ms)) (Submission.ofJson (.obj ns))) ∧
    (∀ (kind : ClauseKind) (v w : Json), v.get? kind.field = w.get? kind.field →
      Alike (Clause.ofJson kind v) (Clause.ofJson kind w)) := by
  refine ⟨?_, ?_, ?_⟩
  · intro ms ns h
    exact h.alike
  · intro ms ns items others listed listed' hitems hoptions
    have hoperations := hitems.imp fun _ _ h => h.alike
    refine Submission.ofJson_alike listed listed' hoperations ?_
    rw [Submission.readOptions_congr hoptions]
    exact .refl _
  · intro kind v w h
    exact Clause.ofJson_alike h

def untimedDeletion (foreign : Members) : Json :=
  .obj ([("delete", .str "docs"), ("id", .str "7"), ("valid_from", .str "noon")] ++ foreign)

/-- Two faults in one submission, and other foreign members at each place. -/
theorem untimed_deletion_is_told_alike :
    Alike (Operation.ofJson (untimedDeletion [("doc", .null), ("table", .str "x")]))
        (Operation.ofJson (untimedDeletion [("args", .str "x")])) ∧
      Alike (Submission.ofJson (.obj [("tx_ops",
          .arr [.obj [("call", .str "f")], untimedDeletion [("doc", .null), ("table", .str "x")]]),
            ("tx_options", .str "none")]))
        (Submission.ofJson (.obj [("note", .null), ("tx_ops",
          .arr [.obj [("call", .str "f")], untimedDeletion [("args", .str "x")]]),
            ("tx_options", .str "none")])) ∧
      Alike (Clause.ofJson .withBindings (.str "with"))
        (Clause.ofJson .withBindings (.obj [("return", .arr [])])) := by
  have hagree : Operation.Agree
      ([("delete", .str "docs"), ("id", .str "7"), ("valid_from", .str "noon")] ++
        [("doc", .null), ("table", .str "x")])
      ([("delete", .str "docs"), ("id", .str "7"), ("valid_from", .str "noon")] ++
        [("args", .str "x")]) := by
    constructor
    · intro t
      cases t <;> rfl
    · intro tag hsole key hkey
      obtain rfl : OpTag.delete = tag := (hsole .delete).mp ⟨_, rfl⟩
      have hown : key ∈ ["delete", "id", "valid_from", "valid_to"] := hkey
      simp only [List.mem_cons, List.not_mem_nil, or_false] at hown
      rcases hown with rfl | rfl | rfl | rfl <;> rfl
  obtain ⟨hoperation, hsubmission, hclause⟩ := foreign_members_have_no_influence
  refine ⟨hoperation _ _ hagree, hsubmission _ _ _ _ rfl rfl ?_ rfl, hclause _ _ _ rfl⟩
  exact .cons (.same _) (.cons (.agree hagree) .nil)

end Intake
