import Intake.Json.Basic
import Intake.Proofs.Members

namespace Intake.Json

def children : Json → List Json
  | .arr items => items
  | .obj ms => ms.map Prod.snd
  | _ => []

inductive Part : Json → Json → Prop where
  | whole (v : Json) : Part v v
  | inside {p c v : Json} (child : c ∈ v.children) (part : Part p c) : Part p v

def Everywhere (q : Json → Prop) (v : Json) : Prop := ∀ p, Part p v → q p

def KeysAscend : Json → Prop
  | .obj ms => (ms.map Prod.fst).Pairwise (· < ·)
  | _ => True

def NoDouble : Json → Prop
  | .num (.float _ _) => False
  | _ => True

/-- The members of every object in it are in order, as all readers keep them. -/
def Ordered (v : Json) : Prop := v.Everywhere KeysAscend

def FloatFree (v : Json) : Prop := v.Everywhere NoDouble

theorem Part.trans {p q v : Json} (hp : Part p q) (hq : Part q v) : Part p v := by
  induction hq with
  | whole => exact hp
  | inside child _ ih => exact .inside child ih

section Parts

variable {p v : Json} {items : List Json} {ms : Members} {key : String} {q : Json → Prop}

theorem Part.item (h : p ∈ items) : Part p (.arr items) := .inside h (.whole p)

theorem Part.member (h : (key, p) ∈ ms) : Part p (.obj ms) :=
  .inside (List.mem_map.mpr ⟨(key, p), h, rfl⟩) (.whole p)

/-- What stands under a key is a part. -/
theorem Part.of_get (h : ms.get? key = some p) : Part p (.obj ms) := .member (Members.mem_of_get? h)

theorem Part.only (key : String) (v : Json) : Part v (.obj [(key, v)]) :=
  .member (List.mem_singleton.mpr rfl)

theorem Everywhere.part (h : v.Everywhere q) (hp : Part p v) : p.Everywhere q :=
  fun r hr => h r (hr.trans hp)

/-- What holds everywhere holds here, and everywhere in what stands here. -/
theorem everywhere_iff : v.Everywhere q ↔ q v ∧ ∀ c ∈ v.children, c.Everywhere q := by
  constructor
  · intro h
    exact ⟨h v (.whole v), fun c hc => h.part (.inside hc (.whole c))⟩
  · rintro ⟨hv, hchildren⟩ p hp
    cases hp with
    | whole => exact hv
    | inside child part => exact hchildren _ child p part

theorem everywhere_arr : (Json.arr items).Everywhere q ↔
    q (.arr items) ∧ ∀ v ∈ items, v.Everywhere q := everywhere_iff

theorem everywhere_obj : (Json.obj ms).Everywhere q ↔
    q (.obj ms) ∧ ∀ m ∈ ms, m.2.Everywhere q := by
  rw [everywhere_iff]
  simp only [children, List.forall_mem_map]

theorem everywhere_of_leaf (h : v.children = []) (hv : q v) : v.Everywhere q :=
  everywhere_iff.mpr ⟨hv, by simp [h]⟩

theorem ordered_arr : (Json.arr items).Ordered ↔ ∀ v ∈ items, v.Ordered :=
  everywhere_arr.trans (and_iff_right trivial)

theorem ordered_obj : (Json.obj ms).Ordered ↔
    (ms.map Prod.fst).Pairwise (· < ·) ∧ ∀ m ∈ ms, m.2.Ordered := everywhere_obj

theorem depthItems_le_iff {n : Nat} : depthItems items ≤ n ↔ ∀ v ∈ items, v.depth ≤ n := by
  induction items with
  | nil => simp [depthItems]
  | cons v rest ih => rw [depthItems, Nat.max_le, ih, List.forall_mem_cons]

theorem depthMembers_eq (ms : Members) : depthMembers ms = depthItems (ms.map Prod.snd) := by
  induction ms with
  | nil => rfl
  | cons m rest ih =>
    obtain ⟨key, v⟩ := m
    simp only [depthMembers, depthItems, List.map_cons, ih]

theorem depthMembers_le_iff {n : Nat} : depthMembers ms ≤ n ↔ ∀ m ∈ ms, m.2.depth ≤ n := by
  rw [depthMembers_eq, depthItems_le_iff, List.forall_mem_map]

/-- What stands in a value is less deep than the value. -/
theorem depth_child_lt {c : Json} (h : c ∈ v.children) : c.depth < v.depth := by
  cases v with
  | arr items => exact Nat.lt_succ_of_le (depthItems_le_iff.mp (Nat.le_refl _) c h)
  | obj ms =>
    obtain ⟨m, hm, rfl⟩ := List.mem_map.mp h
    exact Nat.lt_succ_of_le (depthMembers_le_iff.mp (Nat.le_refl _) m hm)
  | _ => cases h

/-- No part of a value nests deeper than the value. -/
theorem Part.depth_le (h : Part p v) : p.depth ≤ v.depth := by
  induction h with
  | whole => exact Nat.le_refl _
  | inside child _ ih => exact Nat.le_trans ih (Nat.le_of_lt (depth_child_lt child))

end Parts

end Intake.Json
