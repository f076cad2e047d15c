import Intake.Proofs.Alike
import Intake.Proofs.Operation.Acceptance

namespace Intake

namespace OpTag

def neededKeys : OpTag → List String
  | put => ["put", "doc"]
  | delete => ["delete", "id"]
  | erase => ["erase", "id"]
  | call => ["call"]
  | sql => ["sql"]

def optionalKeys : OpTag → List String
  | put | delete => ["valid_from", "valid_to"]
  | erase => []
  | call => ["args"]
  | sql => ["arg_rows"]

def ownKeys (t : OpTag) : List String := t.neededKeys ++ t.optionalKeys

theorem key_mem_neededKeys (t : OpTag) : t.key ∈ t.neededKeys := by cases t <;> decide

/-- What one kind needs is not left to choice by another. -/
theorem needed_not_optional (t u : OpTag) : ∀ key ∈ t.neededKeys, key ∉ u.optionalKeys := by
  cases t <;> cases u <;> decide

end OpTag

/-- What stands under a key in two objects: the same, or null where nothing stood. -/
inductive SameOrNull : Option Json → Option Json → Prop where
  | same (v : Option Json) : SameOrNull v v
  | null : SameOrNull none (some .null)

namespace Operation

structure Matches (tag : OpTag) (ms ns : Members) : Prop where
  needed : ∀ key ∈ tag.neededKeys, ms.get? key = ns.get? key
  optional : ∀ key ∈ tag.optionalKeys, SameOrNull (ms.get? key) (ns.get? key)

/-- Objects with the same own members say the same of an operation. -/
theorem matches_of_own {tag : OpTag} {ms ns : Members}
    (h : ∀ key ∈ tag.ownKeys, ms.get? key = ns.get? key) : Matches tag ms ns := by
  constructor
  · intro key hkey
    exact h key (List.mem_append_left _ hkey)
  · intro key hkey
    rw [h key (List.mem_append_right _ hkey)]
    exact .same _

namespace Source

section Accessors

variable {tag : OpTag} {ms ns : Members} {key : String}

theorem fault_alike (message : String) (causes : List String) :
    ((fault ⟨tag, ms⟩ message).withCauses causes).Alike
      ((fault ⟨tag, ns⟩ message).withCauses causes) :=
  .recorded (.malformedOpPayload tag) (some message) none causes (.obj ms) (.obj ns)

theorem table_alike (h : ms.get? tag.key = ns.get? tag.key) :
    Alike (table ⟨tag, ms⟩) (table ⟨tag, ns⟩) := by
  unfold table
  dsimp only
  rw [h]
  split
  · exact .ok _
  · exact .error (fault_alike _ [])

theorem docId_alike (h : ms.get? key = ns.get? key) :
    Alike (docId ⟨tag, ms⟩ key) (docId ⟨tag, ns⟩ key) := by
  unfold docId
  dsimp only
  rw [h]
  split
  · exact .error (fault_alike _ [])
  · split
    · exact .ok _
    · exact .error (fault_alike _ [])

theorem doc_alike (h : ms.get? "doc" = ns.get? "doc") :
    Alike (Source.doc ⟨tag, ms⟩) (Source.doc ⟨tag, ns⟩) := by
  unfold Source.doc
  dsimp only
  rw [h]
  split
  · exact .ok _
  · exact .error (fault_alike _ [])
  · exact .error (fault_alike _ [])

theorem optionalTime_alike (h : SameOrNull (ms.get? key) (ns.get? key)) :
    Alike (optionalTime ⟨tag, ms⟩ key) (optionalTime ⟨tag, ns⟩ key) := by
  unfold optionalTime
  dsimp only
  generalize ms.get? key = v at h
  generalize ns.get? key = w at h
  cases h with
  | null => exact .ok none
  | same =>
    split
    · exact .ok none
    · exact .ok none
    · split
      · exact .ok _
      · exact .error (fault_alike _ _)
    · exact .error (fault_alike _ [])

theorem inOrder_alike (start stop : Option Timestamp) :
    Alike (inOrder ⟨tag, ms⟩ start stop) (inOrder ⟨tag, ns⟩ start stop) := by
  unfold inOrder
  split
  · split
    · exact .error (fault_alike _ [])
    · exact .ok _
  · exact .ok _

theorem validTime_alike (hstart : SameOrNull (ms.get? "valid_from") (ns.get? "valid_from"))
    (hstop : SameOrNull (ms.get? "valid_to") (ns.get? "valid_to")) :
    Alike (validTime ⟨tag, ms⟩) (validTime ⟨tag, ns⟩) := by
  rw [validTime_eq, validTime_eq]
  refine (optionalTime_alike hstart).bind fun start => ?_
  refine (optionalTime_alike hstop).bind fun stop => ?_
  exact inOrder_alike start stop

theorem optionalList_alike (h : SameOrNull (ms.get? key) (ns.get? key)) :
    Alike (optionalList ⟨tag, ms⟩ key) (optionalList ⟨tag, ns⟩ key) := by
  unfold optionalList
  dsimp only
  generalize ms.get? key = v at h
  generalize ns.get? key = w at h
  cases h with
  | null => exact .ok []
  | same =>
    split
    · exact .ok []
    · exact .ok []
    · exact .ok _
    · exact .error (fault_alike _ [])

theorem statement_alike (h : ms.get? "sql" = ns.get? "sql") :
    Alike (statement ⟨tag, ms⟩) (statement ⟨tag, ns⟩) := by
  unfold statement
  rw [show OpTag.sql.key = "sql" from rfl]
  dsimp only
  rw [h]
  split
  · split
    · exact .error (fault_alike _ [])
    · exact .ok _
  · exact .error (fault_alike _ [])

theorem rows_alike (items : List Json) : Alike (rows ⟨tag, ms⟩ items) (rows ⟨tag, ns⟩ items) := by
  induction items with
  | nil => exact .ok []
  | cons item rest ih =>
    cases item with
    | arr args => exact ih.map (args :: ·)
    | _ => exact .error (fault_alike _ [])

end Accessors

/-- No constructor reads past the members of its kind, whichever check fails. -/
theorem read_alike {tag : OpTag} {ms ns : Members} (h : Matches tag ms ns) :
    Alike (read ⟨tag, ms⟩) (read ⟨tag, ns⟩) := by
  have hneeded := h.needed
  have hoptional := h.optional
  cases tag with
  | put =>
    refine (table_alike (hneeded "put" (by decide))).bind fun table => ?_
    refine (doc_alike (hneeded "doc" (by decide))).bind fun doc => ?_
    refine (validTime_alike (hoptional "valid_from" (by decide))
      (hoptional "valid_to" (by decide))).bind fun valid => ?_
    exact .ok _
  | delete =>
    refine (table_alike (hneeded "delete" (by decide))).bind fun table => ?_
    refine (docId_alike (hneeded "id" (by decide))).bind fun id => ?_
    refine (validTime_alike (hoptional "valid_from" (by decide))
      (hoptional "valid_to" (by decide))).bind fun valid => ?_
    exact .ok _
  | erase =>
    refine (table_alike (hneeded "erase" (by decide))).bind fun table => ?_
    refine (docId_alike (hneeded "id" (by decide))).bind fun id => ?_
    exact .ok _
  | call =>
    refine (docId_alike (hneeded "call" (by decide))).bind fun function => ?_
    refine (optionalList_alike (hoptional "args" (by decide))).bind fun args => ?_
    exact .ok _
  | sql =>
    refine (statement_alike (hneeded "sql" (by decide))).bind fun statement => ?_
    refine (optionalList_alike (hoptional "arg_rows" (by decide))).bind fun items => ?_
    refine (rows_alike items).bind fun argRows => ?_
    exact .ok _

end Source

/-- Which kinds are there depends on the presence of the five keys alone. -/
theorem tagsIn_congr {ms ns : Members}
    (h : ∀ t : OpTag, (ms.get? t.key).isSome = (ns.get? t.key).isSome) : tagsIn ms = tagsIn ns := by
  unfold tagsIn Members.contains
  simp only [h]

/-- The same keys of kinds are present, and what the selected kind owns says the same. -/
theorem ofJson_alike {ms ns : Members}
    (tags : ∀ t : OpTag, (ms.get? t.key).isSome = (ns.get? t.key).isSome)
    (own : ∀ tag, SoleTag ms tag → Matches tag ms ns) :
    Alike (ofJson (.obj ms)) (ofJson (.obj ns)) := by
  have htags := tagsIn_congr tags
  cases hms : tagsIn ms with
  | nil =>
    have hns : tagsIn ns = [] := htags ▸ hms
    simp only [ofJson, hms, hns]
    exact .error (.recorded _ _ _ _ _ _)
  | cons first rest =>
    cases rest with
    | nil =>
      rw [ofJson_of_tagsIn hms, ofJson_of_tagsIn (htags ▸ hms)]
      exact Source.read_alike (own first ((tagsIn_eq_singleton ms first).mp hms))
    | cons second rest =>
      have hns : tagsIn ns = first :: second :: rest := htags ▸ hms
      simp only [ofJson, hms, hns]
      exact .error (.recorded _ _ _ _ _ _)

end Operation

end Intake
