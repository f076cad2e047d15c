import Intake.Proofs.ForeignMembers
import Intake.Proofs.Options.Acceptance

namespace Intake

namespace Members

def addNulls (chosen : String → Bool) (keys : List String) (ms : Members) : Members :=
  keys.foldl (fun ms key => if chosen key && !ms.contains key then insert key .null ms else ms) ms

theorem addNulls_cons (chosen : String → Bool) (key : String) (keys : List String) (ms : Members) :
    addNulls chosen (key :: keys) ms = addNulls chosen keys
      (if chosen key && !ms.contains key then insert key .null ms else ms) := rfl

/-- Nulls come where they were chosen and nothing stood, and nowhere else. -/
theorem get?_addNulls (chosen : String → Bool) (keys : List String) (ms : Members) (k : String) :
    (addNulls chosen keys ms).get? k =
      if k ∈ keys ∧ chosen k = true ∧ ms.get? k = none then some .null else ms.get? k := by
  induction keys generalizing ms with
  | nil => simp [addNulls]
  | cons key rest ih =>
    rw [addNulls_cons, ih]
    by_cases hadd : chosen key = true ∧ ms.get? key = none
    · obtain ⟨hchosen, habsent⟩ := hadd
      by_cases hk : k = key
      · subst hk
        simp [contains, hchosen, habsent]
      · simp [contains, hchosen, habsent, hk]
    · have hsame : (if chosen key && !ms.contains key then insert key .null ms else ms) = ms := by
        rw [if_neg]
        simpa [contains] using hadd
      rw [hsame]
      by_cases hk : k = key
      · subst hk
        simp [hadd]
      · simp [hk]

theorem get?_mapValues (f : String → Json → Json) (ms : Members) (k : String) :
    Members.get? (ms.map fun m => (m.1, f m.1 m.2)) k = (ms.get? k).map (f k) := by
  induction ms with
  | nil => rfl
  | cons m rest ih =>
    obtain ⟨key, v⟩ := m
    rw [List.map_cons, get?_cons, get?_cons, ih]
    by_cases hk : k = key
    · subst hk
      simp
    · simp [hk]

theorem addNulls_sameOrNull (chosen : String → Bool) (keys : List String) (ms : Members)
    (k : String) : SameOrNull (ms.get? k) ((addNulls chosen keys ms).get? k) := by
  rw [get?_addNulls]
  split
  · rename_i h
    rw [h.2.2]
    exact .null
  · exact .same _

theorem get?_addNulls_of_not_mem (chosen : String → Bool) {keys : List String} (ms : Members)
    {k : String} (h : k ∉ keys) : (addNulls chosen keys ms).get? k = ms.get? k := by
  rw [get?_addNulls, if_neg (fun hk => h hk.1)]

end Members

namespace Operation

def optionalKeysIn (ms : Members) : List String := (tagsIn ms).flatMap OpTag.optionalKeys

/-- An operation with null under those of its optional keys that are chosen and absent. -/
def withNulls (chosen : String → Bool) : Json → Json
  | .obj ms => .obj (Members.addNulls chosen (optionalKeysIn ms) ms)
  | v => v

theorem not_mem_optionalKeysIn (ms : Members) {t : OpTag} {key : String}
    (h : key ∈ t.neededKeys) : key ∉ optionalKeysIn ms := by
  intro hkey
  obtain ⟨u, -, hu⟩ := List.mem_flatMap.mp hkey
  exact t.needed_not_optional u key h hu

theorem withNulls_alike (chosen : String → Bool) (v : Json) :
    Alike (ofJson v) (ofJson (withNulls chosen v)) := by
  cases v with
  | obj ms =>
    apply ofJson_alike
    · intro t
      rw [Members.get?_addNulls_of_not_mem _ _ (not_mem_optionalKeysIn ms t.key_mem_neededKeys)]
    · intro tag _
      constructor
      · intro key hkey
        exact (Members.get?_addNulls_of_not_mem _ _ (not_mem_optionalKeysIn ms hkey)).symm
      · intro key _
        exact Members.addNulls_sameOrNull _ _ ms key
  | _ => exact .refl _

end Operation

namespace Options

/-- Options with null under those of the keys of texts that are chosen and absent. -/
def withNulls (chosen : String → Bool) : Json → Json
  | .obj ms => .obj (Members.addNulls chosen textKeys ms)
  | v => v

/-- A null that changes nothing changes nothing behind a member with another key either. -/
theorem readMember_null {raw raw' : Raw} {key k : String} {v : Json}
    (h : readMember raw key .null = .ok raw) (hk : k ≠ key) (hr : readMember raw k v = .ok raw') :
    readMember raw' key .null = .ok raw' := by
  rw [readMember_eq_ok] at h hr ⊢
  obtain ⟨htakes, hraw⟩ := h
  obtain ⟨-, rfl⟩ := hr
  refine ⟨htakes, ?_⟩
  have hswap : ∀ l, Members.get? [(k, v), (key, .null)] l =
      Members.get? [(key, .null), (k, v)] l := by
    intro l
    by_cases hl : l = k
    · simp [hl, hk]
    · simp [hl]
  calc raw.overlay [(k, v)]
      = (raw.overlay [(key, .null)]).overlay [(k, v)] := by rw [← hraw]
    _ = raw.overlay [(k, v), (key, .null)] := raw.overlay_overlay [(key, .null)] [(k, v)]
    _ = raw.overlay [(key, .null), (k, v)] := raw.overlay_congr hswap
    _ = (raw.overlay [(k, v)]).overlay [(key, .null)] :=
        (raw.overlay_overlay [(k, v)] [(key, .null)]).symm

/-- A null that is read as nothing may stand anywhere among the members. -/
theorem readMembers_insert_null {raw : Raw} {key : String} {ms : Members}
    (absent : ms.get? key = .none) (h : readMember raw key .null = .ok raw) :
    readMembers raw (Members.insert key .null ms) = readMembers raw ms := by
  induction ms generalizing raw with
  | nil => simp only [Members.insert, readMembers, h]
  | cons m rest ih =>
    obtain ⟨k, v⟩ := m
    rw [Members.get?_cons] at absent
    have hk : k ≠ key := by
      rintro rfl
      simp at absent
    rw [if_neg hk.symm] at absent
    unfold Members.insert
    split
    · rw [readMembers, h]
    · rw [if_neg hk.symm, readMembers, readMembers]
      cases hr : readMember raw k v with
      | error f => rfl
      | ok raw' => exact ih absent (readMember_null h hk hr)

theorem readMembers_addNulls (chosen : String → Bool) {raw : Raw} {keys : List String}
    (h : ∀ key ∈ keys, readMember raw key .null = .ok raw) (ms : Members) :
    readMembers raw (ms.addNulls chosen keys) = readMembers raw ms := by
  induction keys generalizing ms with
  | nil => rfl
  | cons key rest ih =>
    obtain ⟨hkey, hrest⟩ := List.forall_mem_cons.mp h
    rw [Members.addNulls_cons, ih hrest]
    split
    · rename_i hadd
      refine readMembers_insert_null ?_ hkey
      simpa [Members.contains] using (Bool.and_eq_true_iff.mp hadd).2
    · rfl

theorem systemTimeOf_alike (v w : Json) (text : Option String) :
    Alike (systemTimeOf v text) (systemTimeOf w text) := by
  unfold systemTimeOf
  split
  · exact .ok _
  · split
    · exact .ok _
    · exact .error (.recorded _ _ _ _ _ _)

/-- Of the members only what they say together is looked at. -/
theorem ofJson_alike {ms ns : Members}
    (h : readMembers ⟨.none, .none, false⟩ ms = readMembers ⟨.none, .none, false⟩ ns) :
    Alike (ofJson (.obj ms)) (ofJson (.obj ns)) := by
  simp only [ofJson, h]
  split
  · exact .error (.recorded _ _ _ _ _ _)
  · rename_i raw _
    have htime := systemTimeOf_alike (.obj ms) (.obj ns) raw.systemTime
    generalize systemTimeOf (.obj ms) raw.systemTime = r at htime ⊢
    generalize systemTimeOf (.obj ns) raw.systemTime = r' at htime ⊢
    cases htime with
    | error told => exact .error told
    | ok time =>
      dsimp only
      split
      · exact .error (.recorded _ _ _ _ _ _)
      · exact .ok _

theorem withNulls_alike (chosen : String → Bool) (v : Json) :
    Alike (ofJson v) (ofJson (withNulls chosen v)) := by
  cases v with
  | obj ms =>
    refine ofJson_alike (readMembers_addNulls chosen ?_ ms).symm
    intro key hkey
    rw [readMember_of_takes _ (.null hkey)]
    rcases mem_textKeys.mp hkey with rfl | rfl <;> rfl
  | _ => exact .refl _

end Options

namespace Submission

/-- A place of a submission where a member may be left out. -/
inductive Place where
  | operation (index : Nat) (key : String)
  | options
  | option (key : String)

def memberWithNulls (chosen : Place → Bool) (key : String) (v : Json) : Json :=
  if key = "tx_ops" then
    match v with
    | .arr items =>
      .arr (items.mapIdx fun i item => Operation.withNulls (fun k => chosen (.operation i k)) item)
    | v => v
  else if key = "tx_options" then Options.withNulls (fun k => chosen (.option k)) v
  else v

theorem forall₂_mapIdx {α β : Type} {R : α → β → Prop} {f : Nat → α → β} (h : ∀ i a, R a (f i a))
    (items : List α) : List.Forall₂ R items (items.mapIdx f) := by
  induction items generalizing f with
  | nil => exact .nil
  | cons a rest ih =>
    rw [List.mapIdx_cons]
    exact .cons (h 0 a) (ih fun i b => h (i + 1) b)

section Envelope

variable (chosen : Place → Bool) (ms : Members)

def membersWithNulls : Members :=
  Members.addNulls (fun _ => chosen .options) ["tx_options"]
    (ms.map fun m => (m.1, memberWithNulls chosen m.1 m.2))

theorem get?_operations : (membersWithNulls chosen ms).get? "tx_ops" =
    (ms.get? "tx_ops").map (memberWithNulls chosen "tx_ops") := by
  unfold membersWithNulls
  rw [Members.get?_addNulls_of_not_mem _ _ (by decide), Members.get?_mapValues]

theorem get?_options : (membersWithNulls chosen ms).get? "tx_options" =
    if chosen .options = true ∧ ms.get? "tx_options" = none then some .null
    else (ms.get? "tx_options").map (Options.withNulls fun k => chosen (.option k)) := by
  unfold membersWithNulls
  rw [Members.get?_addNulls, Members.get?_mapValues]
  simp only [List.mem_singleton, true_and, Option.map_eq_none_iff]
  rfl

/-- Options, and a null for them, are read alike. -/
theorem readOptions_alike :
    Alike (readOptions ms) (readOptions (membersWithNulls chosen ms)) := by
  have hget := get?_options chosen ms
  cases hv : ms.get? "tx_options" with
  | none =>
    have hleft : readOptions ms = .ok .none := (readOptions_eq_ok _ _).mpr (hv ▸ .absent)
    have hright : readOptions (membersWithNulls chosen ms) = .ok .none := by
      refine (readOptions_eq_ok _ _).mpr ?_
      rw [hget, hv]
      split
      · exact .null
      · exact .absent
    rw [hleft, hright]
    exact .refl _
  | some v =>
    rw [hv, if_neg (by simp), Option.map_some] at hget
    by_cases hnull : v = .null
    · subst hnull
      rw [readOptions_congr (hget.trans hv.symm).symm]
      exact .refl _
    · have hnull' : Options.withNulls (fun k => chosen (.option k)) v ≠ .null := by
        cases v with
        | null => exact (hnull rfl).elim
        | _ => simp [Options.withNulls]
      rw [readOptions_of_given hv hnull, readOptions_of_given hget hnull']
      exact Options.withNulls_alike _ v

end Envelope

/-- A submission with null at those of the chosen places where nothing stands. -/
def withNulls (chosen : Place → Bool) : Json → Json
  | .obj ms => .obj (membersWithNulls chosen ms)
  | v => v

/-- Null at any of the places where a member may be left out leaves the outcome of every submission
as it is, be it accepted or refused. -/
theorem explicit_null_means_absent (chosen : Place → Bool) (node : Json) :
    Alike (ofJson node) (ofJson (withNulls chosen node)) := by
  cases node with
  | obj ms =>
    have hget := get?_operations chosen ms
    unfold withNulls
    cases hv : Members.get? ms "tx_ops" with
    | none =>
      rw [ofJson_of_absent hv, ofJson_of_absent (by rw [hget, hv]; rfl)]
      exact .error (.recorded _ _ _ _ _ _)
    | some v =>
      rw [hv, Option.map_some] at hget
      by_cases hlist : ∃ items, v = .arr items
      · obtain ⟨items, rfl⟩ := hlist
        refine ofJson_alike hv hget (forall₂_mapIdx ?_ items) (readOptions_alike chosen ms)
        intro i item
        exact Operation.withNulls_alike _ item
      · have shape : ∀ items, v ≠ .arr items := fun items he => hlist ⟨items, he⟩
        have hsame : memberWithNulls chosen "tx_ops" v = v := by
          cases v with
          | arr items => exact (shape items rfl).elim
          | _ => rfl
        rw [ofJson_of_noList hv shape, ofJson_of_noList (hsame ▸ hget) shape]
        exact .error (.recorded _ _ _ _ _ _)
  | _ => exact .refl _

example : withNulls (fun _ => true)
      (.obj [("tx_ops", .arr [
        .obj [("call", .str "f")],
        .obj [("erase", .str "docs"), ("id", .str "7")],
        .obj [("delete", .str "docs"), ("valid_to", .str "noon")]])]) =
    .obj [("tx_ops", .arr [
        .obj [("args", .null), ("call", .str "f")],
        .obj [("erase", .str "docs"), ("id", .str "7")],
        .obj [("delete", .str "docs"), ("valid_from", .null), ("valid_to", .str "noon")]]),
      ("tx_options", .null)] := by
  rfl

end Submission

end Intake
