import Intake.Expr

namespace Intake.Expr

/-- The values directly under a value that are read as expressions: the elements of a list, and
the arguments of a call. -/
def positions : Json → List Json
  | .arr items => items
  | .obj [(key, .arr args)] => if key = "@value" then [] else args
  | _ => []

inductive Reached : Json → Json → Prop where
  | here (node : Json) : Reached node node
  | under {s c node : Json} (position : c ∈ positions node) (reached : Reached s c) : Reached s node

/-- What is wrong with a value by itself, whatever stands under it. -/
inductive Malformed : Json → String → Prop where
  | noName : Malformed (.str "") "empty variable name"
  | loneMark : Malformed (.str "$") "empty variable name"
  | keys {ms : Members} (notOne : ms.length ≠ 1) :
      Malformed (.obj ms) "expression objects must have exactly one key"
  | wrappedList (items : List Json) :
      Malformed (.obj [("@value", .arr items)]) "@value must wrap a scalar"
  | wrappedObject (ms : Members) :
      Malformed (.obj [("@value", .obj ms)]) "@value must wrap a scalar"
  | noArguments {key : String} {value : Json} (function : key ≠ "@value")
      (noList : ∀ args, value ≠ .arr args) :
      Malformed (.obj [(key, value)]) ("arguments to `" ++ key ++ "` must be a list")

def Sound (v : Json) : Prop := ∀ message, ¬ Malformed v message

mutual

/-- All values that are reached, depth first and from left to right, each before those under it. -/
def visits : Json → List Json
  | .arr items => .arr items :: visitsAll items
  | .obj [(key, .arr args)] =>
    .obj [(key, .arr args)] :: if key = "@value" then [] else visitsAll args
  | v => [v]

def visitsAll : List Json → List Json
  | [] => []
  | v :: rest => visits v ++ visitsAll rest

end

theorem visitsAll_eq_flatMap (items : List Json) : visitsAll items = items.flatMap visits := by
  induction items with
  | nil => rfl
  | cons v rest ih => rw [visitsAll, ih, List.flatMap_cons]

/-- A value comes first, and then what is under it, position by position. -/
theorem visits_eq (node : Json) : visits node = node :: (positions node).flatMap visits := by
  rw [← visitsAll_eq_flatMap]
  unfold visits positions
  split
  · rfl
  · split
    · rfl
    · rfl
  · rfl

mutual

theorem reached_of_mem_visits {s node : Json} (h : s ∈ visits node) : Reached s node := by
  have hhere : ∀ v, s ∈ [v] → Reached s v := by
    intro v hv
    rw [List.mem_singleton.mp hv]
    exact .here v
  unfold visits at h
  split at h
  · rename_i items
    rcases List.mem_cons.mp h with rfl | h
    · exact .here _
    · obtain ⟨c, hc, hs⟩ := reached_of_mem_visitsAll h
      exact .under hc hs
  · rename_i key args
    rcases List.mem_cons.mp h with rfl | h
    · exact .here _
    · split at h
      · cases h
      · rename_i hkey
        obtain ⟨c, hc, hs⟩ := reached_of_mem_visitsAll h
        exact .under (by simpa [positions, hkey] using hc) hs
  · exact hhere _ h

theorem reached_of_mem_visitsAll {s : Json} {items : List Json} (h : s ∈ visitsAll items) :
    ∃ c ∈ items, Reached s c := by
  match items with
  | [] => cases h
  | v :: rest =>
    rcases List.mem_append.mp h with h | h
    · exact ⟨v, by simp, reached_of_mem_visits h⟩
    · obtain ⟨c, hc, hs⟩ := reached_of_mem_visitsAll h
      exact ⟨c, by simp [hc], hs⟩

end

/-- Exactly the values that are reached are visited. -/
theorem mem_visits_iff (s node : Json) : s ∈ visits node ↔ Reached s node := by
  refine ⟨reached_of_mem_visits, ?_⟩
  intro h
  induction h with
  | here =>
    rw [visits_eq]
    exact List.mem_cons_self
  | under position _ ih =>
    rw [visits_eq]
    exact List.mem_cons_of_mem _ (List.mem_flatMap.mpr ⟨_, position, ih⟩)

inductive FirstMalformed : List Json → Json → Diagnostic → Prop where
  | found {s : Json} {rest : List Json} {message : String} (malformed : Malformed s message) :
      FirstMalformed (s :: rest) s
        ⟨.malformedExpr, some message, none, [("json", .str s.pretty)], []⟩
  | later {v s : Json} {rest : List Json} {d : Diagnostic} (sound : Sound v)
      (tail : FirstMalformed rest s d) : FirstMalformed (v :: rest) s d

/-- A reading that succeeds when all of these values are sound, and otherwise tells of the first
that is not. -/
def Blames {α : Type} (nodes : List Json) : Except Diagnostic α → Prop
  | .ok _ => ∀ v ∈ nodes, Sound v
  | .error d => ∃ s, FirstMalformed nodes s d

/-- A malformed value is refused on its own, for the same reason. -/
theorem Malformed.ofJson_eq {s : Json} {message : String} (h : Malformed s message) :
    ofJson s = .error ⟨.malformedExpr, some message, none, [("json", .str s.pretty)], []⟩ := by
  cases h with
  | noName => rfl
  | loneMark => rfl
  | @keys ms notOne =>
    match ms with
    | [] => rfl
    | [_] => exact (notOne rfl).elim
    | _ :: _ :: _ => rfl
  | wrappedList => rfl
  | wrappedObject => rfl
  | @noArguments key value function noList =>
    have hkey : key ≠ literalKey := function
    unfold ofJson
    rw [if_neg hkey]
    split
    · exact (noList _ rfl).elim
    · rfl

section FirstMalformed

variable {nodes more : List Json} {s t : Json} {d e : Diagnostic}

theorem FirstMalformed.ofJson_eq (h : FirstMalformed nodes s d) : ofJson s = .error d := by
  induction h with
  | found malformed => exact malformed.ofJson_eq
  | later _ _ ih => exact ih

/-- All that is told of a value: what is wrong with it by itself. -/
theorem FirstMalformed.told (h : FirstMalformed nodes s d) : ∃ message, Malformed s message ∧
    d = ⟨.malformedExpr, some message, none, [("json", .str s.pretty)], []⟩ := by
  induction h with
  | found malformed => exact ⟨_, malformed, rfl⟩
  | later _ _ ih => exact ih

theorem FirstMalformed.not_all_sound (h : FirstMalformed nodes s d) :
    ¬ ∀ v ∈ nodes, Sound v := by
  intro hs
  induction h with
  | found malformed => exact hs _ (by simp) _ malformed
  | later _ _ ih => exact ih (fun v hv => hs v (by simp [hv]))

/-- There is only one first malformed value to tell of. -/
theorem FirstMalformed.unique (hs : FirstMalformed nodes s d) (ht : FirstMalformed nodes t e) :
    d = e := by
  induction hs with
  | found malformed =>
    cases ht with
    | found again => exact Except.error.inj (malformed.ofJson_eq.symm.trans again.ofJson_eq)
    | later sound _ => exact (sound _ malformed).elim
  | later sound _ ih =>
    cases ht with
    | found malformed => exact (sound _ malformed).elim
    | later _ tail => exact ih tail

theorem FirstMalformed.append_left (h : FirstMalformed nodes s d) :
    FirstMalformed (nodes ++ more) s d := by
  induction h with
  | found malformed => exact .found malformed
  | later sound _ ih => exact .later sound ih

theorem FirstMalformed.append_right (hs : ∀ v ∈ nodes, Sound v) (h : FirstMalformed more s d) :
    FirstMalformed (nodes ++ more) s d := by
  induction nodes with
  | nil => exact h
  | cons v nodes ih => exact .later (hs v (by simp)) (ih (fun w hw => hs w (by simp [hw])))

end FirstMalformed

section Blames

variable {α β : Type} {nodes more : List Json} {node : Json} {r : Except Diagnostic α}

theorem Blames.ok_iff (h : Blames nodes r) : (∃ a, r = .ok a) ↔ ∀ v ∈ nodes, Sound v := by
  cases r with
  | ok a => exact ⟨fun _ => h, fun _ => ⟨a, rfl⟩⟩
  | error d =>
    obtain ⟨s, hs⟩ := h
    simp [hs.not_all_sound]

/-- A reading that blames fails at a first malformed value, and only there. -/
theorem Blames.error_iff (h : Blames nodes r) (d : Diagnostic) :
    r = .error d ↔ ∃ s, FirstMalformed nodes s d := by
  cases r with
  | ok a =>
    simp only [reduceCtorEq, false_iff, not_exists]
    exact fun s hs => hs.not_all_sound h
  | error e =>
    obtain ⟨s, hs⟩ := h
    constructor
    · intro he
      cases he
      exact ⟨s, hs⟩
    · intro ht
      obtain ⟨t, ht⟩ := ht
      rw [hs.unique ht]

theorem Blames.of_malformed {message : String} (h : Malformed node message) (more : List Json) :
    Blames (node :: more) (ofJson node) := by
  rw [h.ofJson_eq]
  exact ⟨node, .found h⟩

/-- A sound value in front is passed over. -/
theorem Blames.cons (hn : Sound node) (h : Blames nodes r) : Blames (node :: nodes) r := by
  cases r with
  | ok a => exact List.forall_mem_cons.mpr ⟨hn, h⟩
  | error d =>
    obtain ⟨s, hs⟩ := h
    exact ⟨s, .later hn hs⟩

theorem Blames.map {f : α → β} (h : Blames nodes r) : Blames nodes (r.map f) := by
  cases r <;> exact h

theorem Blames.ok (hn : Sound node) (a : α) : Blames [node] (.ok a : Except Diagnostic α) :=
  Blames.cons hn (by simp [Blames])

end Blames

theorem symbol_eq_none {s : String} (h : symbol? s = none) :
    Malformed (.str s) "empty variable name" := by
  unfold symbol? at h
  split at h
  · rename_i hs
    have hempty : s = "" := String.toList_eq_nil_iff.mp hs
    rw [hempty]
    exact .noName
  · rename_i c rest hs
    split at h
    · rename_i hmark
      split at h
      · rename_i hrest
        have hone : s.toList = ['$'] := by
          rw [hs, hmark, List.isEmpty_iff.mp hrest]
          rfl
        have hs : s = "$" := String.toList_injective hone
        rw [hs]
        exact .loneMark
      · cases h
    · cases h

/-- What is read without fail is not malformed. -/
theorem sound_of_ofJson {s : Json} {e : Expr} (h : ofJson s = .ok e) : Sound s := by
  intro message hm
  cases h.symm.trans hm.ofJson_eq

theorem sound_call {key : String} (hkey : key ≠ "@value") (args : List Json) :
    Sound (.obj [(key, .arr args)]) := by
  intro message hm
  cases hm with
  | keys notOne => exact notOne rfl
  | wrappedList => exact hkey rfl
  | noArguments _ noList => exact noList args rfl

mutual

/-- Reading goes through a value in the order of its visits, up to the first malformed one. -/
theorem ofJson_blames (node : Json) : Blames (visits node) (ofJson node) := by
  match node with
  | .null => exact .ok (sound_of_ofJson rfl) _
  | .bool b => exact .ok (sound_of_ofJson rfl) _
  | .num n => exact .ok (sound_of_ofJson rfl) _
  | .str s =>
    cases hs : symbol? s with
    | none => exact .of_malformed (symbol_eq_none hs) []
    | some e =>
      have hread : ofJson (.str s) = .ok e := by simp only [ofJson, hs]
      rw [hread]
      exact .ok (sound_of_ofJson hread) e
  | .arr items =>
    have hsound : Sound (.arr items) := by
      intro m hm
      cases hm
    simp only [visits, ofJson]
    exact .cons hsound (ofItems_blames items).map
  | .obj [] => exact .of_malformed (.keys (by decide)) []
  | .obj (a :: b :: rest) =>
    have htwo : (a :: b :: rest).length ≠ 1 := by simp
    rw [visits_eq]
    exact .of_malformed (.keys htwo) _
  | .obj [(key, value)] =>
    by_cases hkey : key = "@value"
    · subst key
      match value with
      | .arr items => exact .of_malformed (.wrappedList items) _
      | .obj ms => exact .of_malformed (.wrappedObject ms) _
      | .null => exact .ok (sound_of_ofJson rfl) _
      | .bool b => exact .ok (sound_of_ofJson rfl) _
      | .num n => exact .ok (sound_of_ofJson rfl) _
      | .str s => exact .ok (sound_of_ofJson rfl) _
    · match value with
      | .arr args =>
        have hread : ofJson (.obj [(key, .arr args)]) = (ofItems args).map (.call key) :=
          if_neg hkey
        rw [hread, visits, if_neg hkey]
        exact .cons (sound_call hkey args) (ofItems_blames args).map
      | .null => exact .of_malformed (.noArguments hkey (by simp)) []
      | .bool b => exact .of_malformed (.noArguments hkey (by simp)) []
      | .num n => exact .of_malformed (.noArguments hkey (by simp)) []
      | .str s => exact .of_malformed (.noArguments hkey (by simp)) []
      | .obj ms => exact .of_malformed (.noArguments hkey (by simp)) []

theorem ofItems_blames (items : List Json) : Blames (visitsAll items) (ofItems items) := by
  match items with
  | [] => simp [Blames, visitsAll, ofItems]
  | v :: rest =>
    have hv := ofJson_blames v
    have hrest := ofItems_blames rest
    unfold ofItems visitsAll
    cases hr : ofJson v with
    | error d =>
      rw [hr] at hv
      obtain ⟨s, hs⟩ := hv
      exact ⟨s, hs.append_left⟩
    | ok e =>
      rw [hr] at hv
      cases hrs : ofItems rest with
      | error d =>
        rw [hrs] at hrest
        obtain ⟨s, hs⟩ := hrest
        exact ⟨s, hs.append_right hv⟩
      | ok es =>
        rw [hrs] at hrest
        exact List.forall_mem_append.mpr ⟨hv, hrest⟩

end

/-- Reading an expression succeeds exactly when nothing that is reached is malformed. Otherwise it
tells of the first malformed value that is visited, which is refused on its own in the same
words. -/
theorem ofJson_blames_first (node : Json) :
    ((∃ e, ofJson node = .ok e) ↔ ∀ s, Reached s node → ∀ message, ¬ Malformed s message) ∧
    (∀ d, ofJson node = .error d ↔
      ∃ s, FirstMalformed (visits node) s d ∧ ofJson s = .error d) := by
  have h := ofJson_blames node
  constructor
  · rw [h.ok_iff]
    simp only [mem_visits_iff]
    rfl
  · intro d
    rw [h.error_iff]
    exact exists_congr fun s => ⟨fun hs => ⟨hs, hs.ofJson_eq⟩, And.left⟩

end Intake.Expr
