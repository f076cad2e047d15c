import Intake.Options
import Intake.Proofs.Operation.Rendering

namespace Intake.Options

structure Sound (o : Options) : Prop where
  regular : ∀ t, o.systemTime = some t → t.Regular
  said : ∀ tz, o.defaultTz = some tz → Text.isAllBlank tz = false

theorem none_sound : Sound Options.none := ⟨by simp [Options.none], by simp [Options.none]⟩

theorem systemTimeOf_regular {node : Json} {text : Option String} {t : Option Timestamp}
    (h : systemTimeOf node text = .ok t) : ∀ u, t = some u → u.Regular := by
  intro u hu
  subst t
  unfold systemTimeOf at h
  split at h
  · cases h
  · split at h
    · rename_i hr
      cases h
      exact Timestamp.read_regular hr
    · cases h

/-- All options that are read are sound. -/
theorem ofJson_sound {node : Json} {o : Options} (h : ofJson node = .ok o) : o.Sound := by
  cases node with
  | obj ms =>
    simp only [ofJson] at h
    split at h
    · cases h
    · rename_i raw _
      split at h
      · cases h
      · rename_i t ht
        split at h
        · cases h
        · rename_i hblank
          cases h
          refine ⟨systemTimeOf_regular ht, ?_⟩
          intro tz htz
          have hz : raw.defaultTz = some tz := htz
          simpa [hz] using hblank
  | _ => cases h

def rendered (o : Options) : Members :=
  timeMembers "system_time" o.systemTime ++
    (o.defaultTz.map fun tz => ("default_tz", Json.str tz)).toList ++
    [("default_all_valid_time", .bool o.defaultAllValidTime)]

theorem toJson_eq {o : Options} (h : o.Sound) : o.toJson = .ok (.object o.rendered) := by
  unfold toJson
  rw [timeMember_eq h.regular]
  rfl

theorem keys_rendered (o : Options) : (o.rendered.map Prod.fst).Sublist
    ["system_time", "default_tz", "default_all_valid_time"] := by
  obtain ⟨t, tz, b⟩ := o
  cases t <;> cases tz <;> simp [rendered, timeMembers, timeEntry]

theorem rendered_descends (o : Options) : o.rendered.Pairwise fun p q => q.1 < p.1 := by
  have h : ["system_time", "default_tz", "default_all_valid_time"].Pairwise
    fun a b : String => b < a := by decide
  exact List.pairwise_map.mp (h.sublist o.keys_rendered)

/-- The members are looked at in another order than they are written, which makes no difference to
what they say. -/
theorem readMembers_rendered (o : Options) :
    readMembers ⟨.none, .none, false⟩ (Members.ofList o.rendered) =
      .ok ⟨o.systemTime.map fun t => String.ofList t.written, o.defaultTz,
        o.defaultAllValidTime⟩ := by
  rw [Members.ofList_descending o.rendered_descends]
  obtain ⟨t, tz, b⟩ := o
  cases t <;> cases tz <;> rfl

/-- A time that was written out is read as itself. -/
theorem systemTimeOf_written {t : Option Timestamp} (h : ∀ u, t = some u → u.Regular)
    (node : Json) : systemTimeOf node (t.map fun u => String.ofList u.written) = .ok t := by
  cases t with
  | none => rfl
  | some u => simp only [Option.map_some, systemTimeOf, Timestamp.read_written (h u rfl)]

/-- Written options read back as themselves. -/
theorem ofJson_toJson {o : Options} {j : Json} (h : o.Sound) (hj : o.toJson = .ok j) :
    ofJson j = .ok o := by
  rw [toJson_eq h] at hj
  cases hj
  have hblank : o.defaultTz.any Text.isAllBlank = false := by
    cases htz : o.defaultTz with
    | none => rfl
    | some tz => exact h.said tz htz
  simp only [ofJson, Json.object, readMembers_rendered, systemTimeOf_written h.regular, hblank,
    Bool.false_eq_true, ↓reduceIte]

end Intake.Options
