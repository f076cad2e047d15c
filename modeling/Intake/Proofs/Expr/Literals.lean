import Intake.Proofs.Expr.Notation

namespace Intake.Expr

mutual

/-- The value with every `{"@value": …}` around a null, a boolean or a number taken off, and with
every number literal replaced, in all places that are read as expressions. -/
def unwrapped (number : Number → Json) : Json → Json
  | .num n => number n
  | .arr items => .arr (unwrappedAll number items)
  | .obj [(key, value)] =>
    if key = "@value" then
      match value with
      | .null => .null
      | .bool b => .bool b
      | .num n => number n
      | data => .obj [(key, data)]
    else
      match value with
      | .arr args => .obj [(key, .arr (unwrappedAll number args))]
      | data => .obj [(key, data)]
  | v => v

def unwrappedAll (number : Number → Json) : List Json → List Json
  | [] => []
  | v :: rest => unwrapped number v :: unwrappedAll number rest

end

/-- A number as an expression holds it: an integer of more than 63 bits is turned into a double. -/
def narrowed : Number → Json
  | .int n lower upper =>
    if n < 0x8000_0000_0000_0000 then .num (.int n lower upper)
    else .ofFloat (Number.int n lower upper).toFloat
  | .float f finite => .num (.float f finite)

def Narrow : Number → Prop
  | .int n _ _ => n < 0x8000_0000_0000_0000
  | .float _ _ => True

theorem narrowed_of_narrow {n : Number} (h : Narrow n) : narrowed n = .num n := by
  cases n with
  | int n lower upper => exact if_pos h
  | float f finite => rfl

theorem ofFloat_finite {f : Float} (h : f.isFinite = true) : Json.ofFloat f = .num (.float f h) := by
  simp [Json.ofFloat, Number.ofFloat?, h]

/-- What takes the place of an integer beyond 63 bits is a number too. -/
theorem narrowed_of_wide {n : Number} (h : ¬ Narrow n) :
    ∃ finite, narrowed n = .num (.float n.toFloat finite) := by
  cases n with
  | int n lower upper =>
    have hnone : (Number.int n lower upper).toInt64? = none := if_neg h
    have hfinite := Number.isFinite_toFloat hnone
    have hdouble : narrowed (.int n lower upper) = .ofFloat (Number.int n lower upper).toFloat :=
      if_neg h
    exact ⟨hfinite, hdouble.trans (ofFloat_finite hfinite)⟩
  | float f finite => exact (h trivial).elim

/-- A number is written out as the expression holds it. -/
theorem toJson_ofNumber (n : Number) : (ofNumber n).toJson = narrowed n := by
  cases n with
  | int n lower upper =>
    unfold ofNumber
    split
    · rename_i i hi
      have hn := (Number.toInt64?_int lower upper i).mp hi
      have hlt := i.toInt_lt
      subst n
      exact (if_pos hlt).symm
    · rename_i hnone
      have hlarge : ¬ n < 0x8000_0000_0000_0000 := by
        intro hn
        have hsome : (Number.int n lower upper).toInt64? = some (Int64.ofInt n) := if_pos hn
        rw [hsome] at hnone
        cases hnone
      exact (if_neg hlarge).symm
  | float f finite => exact ofFloat_finite finite

theorem toJson_symbol {s : String} {e : Expr} (h : symbol? s = some e) : e.toJson = .str s := by
  unfold symbol? at h
  split at h
  · cases h
  · rename_i c rest hs
    split at h
    · rename_i hmark
      split at h
      · cases h
      · cases h
        subst hmark
        simp only [toJson, String.toList_ofList, ← hs, String.ofList_toList]
    · cases h
      rfl

mutual

/-- Every accepted value is written out unwrapped, with its numbers narrowed. -/
theorem toJson_of_ofJson {node : Json} {e : Expr} (h : ofJson node = .ok e) :
    e.toJson = unwrapped narrowed node := by
  match node with
  | .null =>
    cases h
    rfl
  | .bool b =>
    cases h
    rfl
  | .num n =>
    cases h
    exact toJson_ofNumber n
  | .str s =>
    simp only [ofJson] at h
    split at h
    · rename_i f hf
      cases h
      exact toJson_symbol hf
    · cases h
  | .arr items =>
    simp only [ofJson] at h
    obtain ⟨es, hes, rfl⟩ := (except_map_eq_ok _ _ _).mp h
    simp only [toJson, unwrapped, toItems_of_ofItems hes]
  | .obj [] => cases h
  | .obj (a :: b :: rest) => cases h
  | .obj [(key, value)] =>
    unfold ofJson at h
    split at h
    · rename_i hkey
      have hliteral : key = "@value" := hkey
      subst hliteral
      cases value with
      | null =>
        cases h
        rfl
      | bool b =>
        cases h
        rfl
      | num n =>
        cases h
        exact toJson_ofNumber n
      | str s =>
        cases h
        rfl
      | arr items => cases h
      | obj ms => cases h
    · rename_i hkey
      have hcall : key ≠ "@value" := hkey
      split at h
      · obtain ⟨es, hes, rfl⟩ := (except_map_eq_ok _ _ _).mp h
        simp only [toJson, unwrapped, if_neg hcall, toItems_of_ofItems hes]
      · cases h

theorem toItems_of_ofItems {items : List Json} {es : List Expr} (h : ofItems items = .ok es) :
    toItems es = unwrappedAll narrowed items := by
  match items with
  | [] =>
    cases h
    rfl
  | v :: rest =>
    unfold ofItems at h
    split at h
    · cases h
    · rename_i e hv
      split at h
      · cases h
      · rename_i tail hrest
        cases h
        simp only [toItems, unwrappedAll, toJson_of_ofJson hv, toItems_of_ofItems hrest]

end

/-- An accepted value is written again as it was, up to scalars that need not be wrapped and
integers beyond 63 bits, which give way to their doubles; all other numbers are kept. -/
theorem literals_are_kept :
    (∀ node e, ofJson node = .ok e → e.toJson = unwrapped narrowed node) ∧
    (∀ n, Narrow n → narrowed n = .num n) ∧
    (∀ n, ¬ Narrow n → ∃ finite, narrowed n = .num (.float n.toFloat finite)) :=
  ⟨fun _ _ => toJson_of_ofJson, fun _ => narrowed_of_narrow, fun _ => narrowed_of_wide⟩

def largest : Number := .int 0xFFFF_FFFF_FFFF_FFFF (by decide) (by decide)

def least : Number := .int (-0x8000_0000_0000_0000) (by decide) (by decide)

def mixedCall : Json :=
  .obj [("f", .arr [.obj [("@value", .num largest)], .num least, .obj [("@value", .null)],
    .arr [.obj [("@value", .str "$s")], .str "$s"],
    .obj [("g", .arr [.obj [("@value", .num least)]])]])]

theorem mixedCall_is_unwrapped : ∃ e finite, ofJson mixedCall = .ok e ∧ e.toJson =
    .obj [("f", .arr [.num (.float largest.toFloat finite), .num least, .null,
      .arr [.obj [("@value", .str "$s")], .str "$s"],
      .obj [("g", .arr [.num least])]])] := by
  obtain ⟨hkept, hnarrow, hwide⟩ := literals_are_kept
  have hleast := hnarrow least (by simp [least, Narrow])
  obtain ⟨finite, hlargest⟩ := hwide largest (by simp [largest, Narrow])
  refine ⟨_, finite, rfl, ?_⟩
  rw [hkept mixedCall _ rfl]
  simp [mixedCall, unwrapped, unwrappedAll, hleast, hlargest]

/-- The largest integer is accepted, and comes back as another value than it was. -/
theorem largest_is_altered :
    ∃ e, ofJson (.num largest) = .ok e ∧ e.toJson ≠ unwrapped .num (.num largest) := by
  refine ⟨ofNumber largest, rfl, ?_⟩
  rw [toJson_ofNumber]
  intro h
  have hdouble : Json.ofFloat largest.toFloat = .num largest := h
  unfold Json.ofFloat Number.ofFloat? at hdouble
  split at hdouble
  · cases hdouble
  · cases hdouble

end Intake.Expr
