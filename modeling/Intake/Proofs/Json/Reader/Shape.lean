import Intake.Json.Reader.Value
import Intake.Proofs.Demands
import Intake.Proofs.Json.Part

namespace Intake.Json

def Shaped (n : Nat) (v : Json) : Prop := v.Ordered ∧ v.depth ≤ n

def Yields (item : Reader Json) (n : Nat) : Prop :=
  ∀ cs v rest, item.run cs = .ok (v, rest) → Shaped n v

theorem shaped_arr {n : Nat} {items : List Json} (h : ∀ v ∈ items, Shaped n v) :
    Shaped (n + 1) (.arr items) :=
  ⟨ordered_arr.mpr fun v hv => (h v hv).1,
    Nat.succ_le_succ (depthItems_le_iff.mpr fun v hv => (h v hv).2)⟩

theorem shaped_obj {n : Nat} {ms : Members} (hkeys : (ms.map Prod.fst).Pairwise (· < ·))
    (h : ∀ m ∈ ms, Shaped n m.2) : Shaped (n + 1) (.obj ms) :=
  ⟨ordered_obj.mpr ⟨hkeys, fun m hm => (h m hm).1⟩,
    Nat.succ_le_succ (depthMembers_le_iff.mpr fun m hm => (h m hm).2)⟩

section Containers

variable {item : Reader Json} {n : Nat} (hitem : Yields item n) {cs rest : List Char} {v : Json}
include hitem

theorem readItems_shaped {acc : List Json} (hacc : ∀ w ∈ acc, Shaped n w)
    (h : readItems item acc cs = .ok (v, rest)) : Shaped (n + 1) v := by
  fun_induction readItems item acc cs with
  | case2 =>
    cases h
    exact shaped_arr (by simpa using hacc)
  | case4 acc cs r hs w rest' hw _ _ _ _ _ ih =>
    exact ih (List.forall_mem_cons.mpr ⟨hitem _ _ _ hw, hacc⟩) h
  | _ => cases h

theorem readArray_shaped (h : readArray item cs = .ok (v, rest)) : Shaped (n + 1) v := by
  unfold readArray at h
  split at h
  · cases h
  · split at h
    · cases h
      exact shaped_arr (by simp)
    · split at h
      · rename_i w rest' hw
        exact readItems_shaped hitem (by simpa using hitem _ _ _ hw) h
      · cases h

theorem readMember_shaped {m : String × Json} (h : readMember item cs = .ok (m, rest)) :
    Shaped n m.2 := by
  unfold readMember at h
  split at h
  · cases h
  · split at h
    · cases h
    · split at h
      · split at h
        · rename_i w rest' hw
          cases h
          exact hitem _ _ _ hw
        · cases h
      · cases h

/-- Members that come in any order are put into theirs. -/
theorem readMembers_shaped {acc : Members} (hkeys : (acc.map Prod.fst).Pairwise (· < ·))
    (hacc : ∀ m ∈ acc, Shaped n m.2) (h : readMembers item acc cs = .ok (v, rest)) :
    Shaped (n + 1) v := by
  fun_induction readMembers item acc cs with
  | case2 =>
    cases h
    exact shaped_obj hkeys hacc
  | case4 acc cs r r' m rest' hm _ _ _ _ _ _ _ _ ih =>
    refine ih (Members.insert_ascending hkeys) ?_ h
    intro w hw
    rcases Members.mem_insert hw with rfl | hw
    · exact readMember_shaped hitem hm
    · exact hacc w hw
  | _ => cases h

theorem readObject_shaped (h : readObject item cs = .ok (v, rest)) : Shaped (n + 1) v := by
  unfold readObject at h
  split at h
  · cases h
  · split at h
    · cases h
      exact shaped_obj (by simp) (by simp)
    · split at h
      · split at h
        · rename_i m rest' hm
          exact readMembers_shaped hitem (by simp)
            (by simpa using readMember_shaped hitem hm) h
        · cases h
      · cases h

end Containers

theorem shaped_leaf {n : Nat} {v : Json} (h : v.depth = 0) : Shaped n v := by
  refine ⟨?_, by omega⟩
  cases v with
  | arr items => cases h
  | obj ms => cases h
  | _ => exact everywhere_of_leaf rfl trivial

/-- A value is shaped as what may stand in it allows; without a deeper reader it is a leaf. -/
theorem readValue_shaped {deeper : Option (Reader Json)} {n : Nat}
    (hdeeper : ∀ item, deeper = some item → ∃ m, n = m + 1 ∧ Yields item m)
    {cs rest : List Char} {v : Json} (h : readValue deeper cs = .ok (v, rest)) : Shaped n v := by
  have hleaf : ∀ {α : Type} {r : Except Stop α} {f : α → Json × List Char},
      r.map f = .ok (v, rest) → (∀ a, (f a).1.depth = 0) → Shaped n v := by
    intro α r f hr hf
    obtain ⟨a, -, ha⟩ := (except_map_eq_ok _ _ _).mp hr
    have hdepth := hf a
    rw [ha] at hdepth
    exact shaped_leaf hdepth
  unfold readValue at h
  split at h
  · cases h
  split at h
  · exact hleaf h (fun _ => rfl)
  split at h
  · exact hleaf h (fun _ => rfl)
  split at h
  · exact hleaf h (fun _ => rfl)
  split at h
  · exact hleaf h (fun _ => rfl)
  split at h
  · exact hleaf h (fun _ => rfl)
  split at h
  · exact hleaf h (fun _ => rfl)
  split at h
  · split at h
    · obtain ⟨m, rfl, hitem⟩ := hdeeper _ rfl
      exact readArray_shaped hitem h
    · cases h
  split at h
  · split at h
    · obtain ⟨m, rfl, hitem⟩ := hdeeper _ rfl
      exact readObject_shaped hitem h
    · cases h
  · cases h

/-- Every reader yields values that are in order and no deeper than it goes. -/
theorem reader_yields (n : Nat) : Yields (reader n) n := by
  induction n with
  | zero =>
    intro cs v rest h
    have hvalue : readValue none cs = .ok (v, rest) := h
    exact readValue_shaped (by simp) hvalue
  | succ n ih =>
    intro cs v rest h
    have hvalue : readValue (some (reader n)) cs = .ok (v, rest) := h
    refine readValue_shaped ?_ hvalue
    intro item hitem
    cases hitem
    exact ⟨n, rfl, ih⟩

/-- The members of a value that was read are in order, and it nests no more than is allowed. -/
theorem readAll_shaped {cs : List Char} {v : Json} (h : readAll cs = .ok v) :
    Shaped maxDepth v := by
  unfold readAll at h
  split at h
  · cases h
  · rename_i w rest hw
    split at h
    · cases h
      exact reader_yields maxDepth _ _ _ hw
    · cases h

end Intake.Json
