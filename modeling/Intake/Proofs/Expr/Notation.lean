import Intake.Expr
import Intake.Proofs.Demands
import Intake.Proofs.Json.Number

namespace Intake.Expr

def children : Expr → List Expr
  | .list items => items
  | .call _ args => args
  | _ => []

inductive Part : Expr → Expr → Prop where
  | whole (e : Expr) : Part e e
  | inside {p c e : Expr} (child : c ∈ e.children) (part : Part p c) : Part p e

/-- What the notation asks of an expression, its parts aside: a name is there and is not taken for
something else, and a number is one. -/
def Spelled : Expr → Prop
  | .float f => f.isFinite = true
  | .var name => name ≠ "" ∧ name.toList.head? ≠ some '$'
  | .param name => name ≠ ""
  | .call function _ => function ≠ "@value"
  | _ => True

def WellFormed (e : Expr) : Prop := ∀ p, Part p e → p.Spelled

/-- An expression is well-formed when it can be spelled and all in it is well-formed. -/
theorem wellFormed_iff (e : Expr) :
    e.WellFormed ↔ e.Spelled ∧ ∀ c ∈ e.children, c.WellFormed := by
  constructor
  · intro h
    exact ⟨h e (.whole e), fun c hc p hp => h p (.inside hc hp)⟩
  · intro h p hp
    cases hp with
    | whole => exact h.1
    | inside hc hp => exact h.2 _ hc p hp

/-- Nothing stands in an expression without children but the expression itself. -/
theorem wellFormed_of_leaf {e : Expr} (h : e.children = []) : e.WellFormed ↔ e.Spelled := by
  rw [wellFormed_iff, h]
  simp

theorem Spelled.wellFormed {e : Expr} (h : e.Spelled) (hc : e.children = []) : e.WellFormed :=
  (wellFormed_of_leaf hc).mpr h

@[simp] theorem wellFormed_list (items : List Expr) :
    (Expr.list items).WellFormed ↔ ∀ e ∈ items, e.WellFormed := by
  rw [wellFormed_iff]
  exact and_iff_right trivial

@[simp] theorem wellFormed_call (function : String) (args : List Expr) :
    (Expr.call function args).WellFormed ↔
      function ≠ "@value" ∧ ∀ e ∈ args, e.WellFormed := wellFormed_iff _

@[simp] theorem wellFormed_var (name : String) :
    (Expr.var name).WellFormed ↔ name ≠ "" ∧ name.toList.head? ≠ some '$' :=
  wellFormed_of_leaf rfl

/-- An integer stays one, and what became a double is a number. -/
theorem spelled_ofNumber (n : Number) : (ofNumber n).Spelled ∧ (ofNumber n).children = [] := by
  unfold ofNumber
  split
  · exact ⟨trivial, rfl⟩
  · rename_i hn
    exact ⟨Number.isFinite_toFloat hn, rfl⟩

theorem spelled_symbol {s : String} {e : Expr} (h : symbol? s = some e) :
    e.Spelled ∧ e.children = [] := by
  unfold symbol? at h
  split at h
  · cases h
  · rename_i c rest hs
    split at h
    · split at h
      · cases h
      · rename_i hne
        cases h
        refine ⟨?_, rfl⟩
        intro hempty
        have hrest : rest = [] := by simpa using congrArg String.toList hempty
        exact hne (by rw [hrest]; rfl)
    · rename_i hmark
      cases h
      refine ⟨⟨?_, ?_⟩, rfl⟩
      · intro hempty
        rw [hempty] at hs
        cases hs
      · rw [hs]
        intro hd
        exact hmark (Option.some.inj hd)

theorem spelled_literal {v : Json} {e : Expr} (h : literal? v = some e) :
    e.Spelled ∧ e.children = [] := by
  cases v with
  | num n =>
    cases h
    exact spelled_ofNumber n
  | arr _ => cases h
  | obj _ => cases h
  | _ =>
    cases h
    exact ⟨trivial, rfl⟩

mutual

/-- Reading never produces anything that could not be spelled, however deep it lies. -/
theorem wellFormed_of_ofJson {node : Json} {e : Expr} (h : ofJson node = .ok e) :
    e.WellFormed := by
  match node with
  | .null =>
    cases h
    exact Spelled.wellFormed trivial rfl
  | .bool b =>
    cases h
    exact Spelled.wellFormed trivial rfl
  | .num n =>
    cases h
    obtain ⟨hs, hc⟩ := spelled_ofNumber n
    exact hs.wellFormed hc
  | .str s =>
    simp only [ofJson] at h
    split at h
    · rename_i f hf
      cases h
      obtain ⟨hs, hc⟩ := spelled_symbol hf
      exact hs.wellFormed hc
    · cases h
  | .arr items =>
    simp only [ofJson] at h
    obtain ⟨es, hes, rfl⟩ := (except_map_eq_ok _ _ _).mp h
    exact (wellFormed_list _).mpr (wellFormed_of_ofItems hes)
  | .obj [] => cases h
  | .obj (a :: b :: rest) => cases h
  | .obj [(key, value)] =>
    unfold ofJson at h
    split at h
    · split at h
      · rename_i f hf
        cases h
        obtain ⟨hs, hc⟩ := spelled_literal hf
        exact hs.wellFormed hc
      · cases h
    · rename_i hkey
      split at h
      · obtain ⟨es, hes, rfl⟩ := (except_map_eq_ok _ _ _).mp h
        exact (wellFormed_call _ _).mpr ⟨hkey, wellFormed_of_ofItems hes⟩
      · cases h

theorem wellFormed_of_ofItems {items : List Json} {es : List Expr} (h : ofItems items = .ok es) :
    ∀ e ∈ es, e.WellFormed := by
  match items with
  | [] =>
    cases h
    simp
  | v :: rest =>
    unfold ofItems at h
    split at h
    · cases h
    · rename_i e hv
      split at h
      · cases h
      · rename_i tail hrest
        cases h
        intro c hc
        rcases List.mem_cons.mp hc with rfl | hc
        · exact wellFormed_of_ofJson hv
        · exact wellFormed_of_ofItems hrest c hc

end

theorem symbol_var {name : String} (h : (Expr.var name).Spelled) :
    symbol? name = some (.var name) := by
  obtain ⟨hne, hmark⟩ := h
  unfold symbol?
  split
  · rename_i hs
    exact (hne (String.toList_eq_nil_iff.mp hs)).elim
  · rename_i c rest hs
    rw [hs] at hmark
    exact if_neg (fun hc => hmark (congrArg some hc))

theorem symbol_param {name : String} (h : (Expr.param name).Spelled) :
    symbol? (String.ofList ('$' :: name.toList)) = some (.param name) := by
  have hne : name.toList.isEmpty = false := by
    rw [List.isEmpty_eq_false_iff]
    exact fun hs => h (String.toList_eq_nil_iff.mp hs)
  simp [symbol?, paramMark, hne]

/-- A finite double is read back bit for bit. -/
theorem ofJson_float {f : Float} (h : f.isFinite = true) :
    ofJson (Expr.float f).toJson = .ok (.float f) := by
  have hj : (Expr.float f).toJson = .num (.float f h) := by
    simp [toJson, Json.ofFloat, Number.ofFloat?, h]
  rw [hj]
  rfl

theorem ofJson_int (n : Int64) : ofJson (Expr.int n).toJson = .ok (.int n) := by
  have hn : (Number.ofInt64 n).toInt64? = some n := (Number.toInt64?_int _ _ n).mpr rfl
  simp only [toJson, Json.ofInt64, ofJson, ofNumber, hn]

mutual

/-- The notation of a well-formed expression is read as nothing but that expression. -/
theorem ofJson_toJson (e : Expr) (h : e.WellFormed) : ofJson e.toJson = .ok e := by
  obtain ⟨hs, hc⟩ := (wellFormed_iff e).mp h
  match e with
  | .null => rfl
  | .bool b => rfl
  | .int n => exact ofJson_int n
  | .float f => exact ofJson_float hs
  | .str s => simp [toJson, ofJson, literal?]
  | .var name => simp only [toJson, ofJson, symbol_var hs]
  | .param name => simp only [toJson, ofJson, paramMark, symbol_param hs]
  | .list items => simp only [toJson, ofJson, ofItems_toItems items hc, Except.map]
  | .call function args =>
    have hkey : function ≠ literalKey := hs
    simp only [toJson, ofJson, if_neg hkey, ofItems_toItems args hc, Except.map]

theorem ofItems_toItems (es : List Expr) (h : ∀ e ∈ es, e.WellFormed) :
    ofItems (toItems es) = .ok es := by
  match es with
  | [] => rfl
  | e :: rest =>
    have he := ofJson_toJson e (h e (by simp))
    have hrest := ofItems_toItems rest (fun c hc => h c (by simp [hc]))
    simp only [toItems, ofItems, he, hrest]

end

/-- An expression is read back from its notation exactly when it is well-formed. -/
theorem ofJson_toJson_iff (e : Expr) : ofJson e.toJson = .ok e ↔ e.WellFormed :=
  ⟨wellFormed_of_ofJson, ofJson_toJson e⟩

/-- Well-formed expressions are all that reading produces, and each of them is what its own
notation is read as. -/
theorem wellFormed_is_image :
    (∀ e : Expr, (∃ node, ofJson node = .ok e) ↔ e.WellFormed) ∧
    (∀ e : Expr, e.WellFormed → ofJson e.toJson = .ok e) := by
  refine ⟨?_, ofJson_toJson⟩
  intro e
  constructor
  · intro h
    obtain ⟨node, hnode⟩ := h
    exact wellFormed_of_ofJson hnode
  · intro h
    exact ⟨e.toJson, ofJson_toJson e h⟩

def lookalikes : Expr :=
  .call "" [.var "x", .param "x", .str "x", .str "$x", .param "$x", .float (-0.0),
    .list [.int 0, .float 0.0, .call "$" []]]

/-- Parts whose notations look alike, each read back as itself. -/
theorem lookalikes_are_kept :
    lookalikes.WellFormed ∧ ofJson lookalikes.toJson = .ok lookalikes := by
  have hplain : (Expr.float 0.0).WellFormed :=
    (wellFormed_of_leaf rfl).mpr (by decide : (0.0 : Float).isFinite = true)
  have hminus : (Expr.float (-0.0)).WellFormed :=
    (wellFormed_of_leaf rfl).mpr (by decide : (-0.0 : Float).isFinite = true)
  have hlist : (Expr.list [.int 0, .float 0.0, .call "$" []]).WellFormed := by
    simp only [wellFormed_list, wellFormed_call, List.forall_mem_cons]
    exact ⟨(wellFormed_of_leaf rfl).mpr trivial, hplain, ⟨by decide, by simp⟩, by simp⟩
  have h : lookalikes.WellFormed := by
    simp only [lookalikes, wellFormed_call, List.forall_mem_cons]
    refine ⟨by decide, ?_, ?_, ?_, ?_, ?_, hminus, hlist, by simp⟩
    · exact (wellFormed_var "x").mpr ⟨by decide, by decide⟩
    · exact (wellFormed_of_leaf rfl).mpr (by decide : "x" ≠ "")
    · exact (wellFormed_of_leaf rfl).mpr trivial
    · exact (wellFormed_of_leaf rfl).mpr trivial
    · exact (wellFormed_of_leaf rfl).mpr (by decide : "$x" ≠ "")
  exact ⟨h, wellFormed_is_image.2 lookalikes h⟩

end Intake.Expr
