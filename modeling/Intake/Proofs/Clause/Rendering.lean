import Intake.Proofs.Clause.Order
import Intake.Proofs.Expr.Notation
import Intake.Proofs.Members

namespace Intake.Clause

def keyed (b : Binding) : Json := .obj [(b.name, b.expr.toJson)]

def elementOf (kind : ClauseKind) (entry : Json) : Option Json := do
  let name ← (← entry.get? kind.nameKey).asString?
  let expr ← entry.get? "expr"
  return .obj [(name, expr)]

def document (kind : ClauseKind) (items : List Json) : Json := .obj [(kind.field, .arr items)]

/-- A rendered clause as a document that can be submitted again. -/
def resubmission (kind : ClauseKind) (j : Json) : Option Json := do
  let entries ← (← j.get? kind.field).asArray?
  let items ← entries.mapM (elementOf kind)
  return document kind items

/-- No bare name of the list looks like a parameter. -/
def Unmarked (items : List Json) : Prop := ∀ s, Json.str s ∈ items → s.toList.head? ≠ some '$'

def Interchangeable (name : String) : Prop :=
  ∀ (kind : ClauseKind) (before after : List Json) (c : Clause),
    ofJson kind (document kind (before ++ .str name :: after)) = .ok c ↔
      ofJson kind (document kind (before ++ .obj [(name, .str name)] :: after)) = .ok c

theorem elementOf_bindingJson (kind : ClauseKind) (b : Binding) :
    elementOf kind (bindingJson kind b) = some (keyed b) := by
  cases kind <;> simp [elementOf, bindingJson, Json.get?, Json.object, Json.asString?, keyed,
    ClauseKind.nameKey]

theorem mapM_elementOf (kind : ClauseKind) (bindings : List Binding) :
    (bindings.map (bindingJson kind)).mapM (elementOf kind) = some (bindings.map keyed) := by
  induction bindings with
  | nil => rfl
  | cons b rest ih => simp [elementOf_bindingJson, ih]

theorem resubmission_toJson (c : Clause) :
    resubmission c.kind c.toJson = some (document c.kind (c.bindings.map keyed)) := by
  have hentries :
      c.toJson.get? c.kind.field = some (.arr (c.bindings.map (bindingJson c.kind))) := by
    simp [toJson, Json.object, Json.get?]
  unfold resubmission
  rw [hentries]
  change ((c.bindings.map (bindingJson c.kind)).mapM (elementOf c.kind)).bind _ = _
  rw [mapM_elementOf]
  rfl

/-- A document of elements is accepted as the bindings that its elements make. -/
theorem ofJson_document_eq_ok (kind : ClauseKind) (items : List Json) (c : Clause) :
    ofJson kind (document kind items) = .ok c ↔
      c.kind = kind ∧ List.Forall₂ Makes items c.bindings := by
  have hlist : Members.get? [(kind.field, Json.arr items)] kind.field = some (.arr items) := by simp
  constructor
  · intro h
    have ha : Answer kind (document kind items) (ofJson kind (document kind items)) :=
      answer_ofJson _
    rw [h] at ha
    cases ha with
    | accepted listed made =>
      rw [hlist] at listed
      cases listed
      exact ⟨rfl, made⟩
  · intro h
    obtain ⟨kind', bindings⟩ := c
    obtain ⟨rfl, made⟩ := h
    exact (Answer.accepted hlist made).eq_ofJson

/-- All that is known of a clause that was read. -/
theorem makes_of_ofJson {kind : ClauseKind} {node : Json} {c : Clause}
    (h : ofJson kind node = .ok c) : c.kind = kind ∧
      ∃ items, node.get? kind.field = some (.arr items) ∧ List.Forall₂ Makes items c.bindings := by
  have ha : Answer kind node (ofJson kind node) := answer_ofJson node
  rw [h] at ha
  cases ha with
  | accepted listed made => exact ⟨rfl, _, listed, made⟩

/-- What is named can be spelled unless it is the variable of a marked bare name. -/
theorem Names.wellFormed_iff {item : Json} {name : String} {e : Expr} (h : Names item name e)
    (hne : name ≠ "") : e.WellFormed ↔ ∀ s, item = .str s → s.toList.head? ≠ some '$' := by
  cases h with
  | bare => simp [hne]
  | keyed reads =>
    have hw := Expr.wellFormed_of_ofJson reads
    simp [hw]

theorem Makes.name_ne_empty {item : Json} {b : Binding} (h : Makes item b) : b.name ≠ "" :=
  fun he => h.tight (.inl he)

section Bindings

variable {items : List Json} {bindings : List Binding}

theorem exists_makes (h : List.Forall₂ Makes items bindings) :
    ∀ b ∈ bindings, ∃ item, Makes item b := by
  induction h with
  | nil => simp
  | cons hb _ ih =>
    rw [List.forall_mem_cons]
    exact ⟨⟨_, hb⟩, ih⟩

/-- Among the bindings of an accepted list only a marked bare name lacks a notation. -/
theorem wellFormed_iff_unmarked (h : List.Forall₂ Makes items bindings) :
    (∀ b ∈ bindings, b.expr.WellFormed) ↔ Unmarked items := by
  induction h with
  | nil => simp [Unmarked]
  | cons hb _ ih =>
    unfold Unmarked at ih ⊢
    rw [List.forall_mem_cons, ih, hb.named.wellFormed_iff hb.name_ne_empty]
    simp only [List.mem_cons, or_imp, forall_and, eq_comm]

/-- A keyed element makes its binding again exactly when the expression has a notation. -/
theorem makes_keyed_iff {b : Binding} (tight : ¬ Text.Loose b.name) :
    Makes (keyed b) b ↔ b.expr.WellFormed := by
  rw [← Expr.ofJson_toJson_iff]
  constructor
  · intro h
    cases h.named with
    | keyed reads => exact reads
  · intro h
    exact ⟨.keyed h, tight⟩

/-- The keyed elements make the same bindings when every expression can be spelled. -/
theorem makes_keyed_all (h : List.Forall₂ Makes items bindings) :
    List.Forall₂ Makes (bindings.map keyed) bindings ↔ ∀ b ∈ bindings, b.expr.WellFormed := by
  rw [List.forall₂_map_left_iff, List.forall₂_same]
  constructor
  · intro hk b hb
    obtain ⟨item, hm⟩ := exists_makes h b hb
    exact (makes_keyed_iff hm.tight).mp (hk b hb)
  · intro hw b hb
    obtain ⟨item, hm⟩ := exists_makes h b hb
    exact (makes_keyed_iff hm.tight).mpr (hw b hb)

end Bindings

def Distinct (e : Expr) : Prop :=
  ∀ x p, Expr.Part (.var x) e → (Expr.var x).toJson ≠ (Expr.param p).toJson

theorem toJson_var_eq_param {x : String} :
    (∃ p, (Expr.var x).toJson = (Expr.param p).toJson) ↔ x.toList.head? = some '$' := by
  constructor
  · intro h
    obtain ⟨p, hp⟩ := h
    have hx : x = String.ofList ('$' :: p.toList) := by simpa [Expr.toJson, Expr.paramMark] using hp
    rw [hx, String.toList_ofList]
    rfl
  · intro h
    obtain ⟨rest, hrest⟩ := List.head?_eq_some_iff.mp h
    refine ⟨String.ofList rest, ?_⟩
    have hx : x = String.ofList ('$' :: rest) := by rw [← hrest, String.ofList_toList]
    simp [Expr.toJson, Expr.paramMark, hx]

/-- With a notation for every part, no variable is taken for a parameter. -/
theorem distinct_of_wellFormed {e : Expr} (h : e.WellFormed) : Distinct e := by
  intro x p hp heq
  have hs : x ≠ "" ∧ x.toList.head? ≠ some '$' := h _ hp
  exact hs.2 (toJson_var_eq_param.mp ⟨p, heq⟩)

theorem Names.distinct_iff {item : Json} {name : String} {e : Expr} (h : Names item name e)
    (hne : name ≠ "") : Distinct e ↔ e.WellFormed := by
  refine ⟨?_, distinct_of_wellFormed⟩
  intro hd
  cases h with
  | bare =>
    rw [Expr.wellFormed_var]
    refine ⟨hne, ?_⟩
    intro hmark
    obtain ⟨p, hp⟩ := toJson_var_eq_param.mpr hmark
    exact hd name p (.whole _) hp
  | keyed reads => exact Expr.wellFormed_of_ofJson reads

section Places

variable {x y : Json} (same : ∀ b, Makes x b ↔ Makes y b)
include same

/-- Elements that make the same bindings do so in any place of a list. -/
theorem makes_in_place (before after : List Json) (bindings : List Binding) :
    List.Forall₂ Makes (before ++ x :: after) bindings ↔
      List.Forall₂ Makes (before ++ y :: after) bindings := by
  induction before generalizing bindings with
  | nil => simp only [List.nil_append, List.forall₂_cons_left_iff, same]
  | cons v before ih => simp only [List.cons_append, List.forall₂_cons_left_iff, ih]

end Places

theorem ofJson_unmarked {name : String} (hne : name ≠ "") (hmark : name.toList.head? ≠ some '$') :
    Expr.ofJson (.str name) = .ok (.var name) :=
  Expr.ofJson_toJson (.var name) ((Expr.wellFormed_var name).mpr ⟨hne, hmark⟩)

theorem names_bare_iff {s name : String} {e : Expr} :
    Names (.str s) name e ↔ name = s ∧ e = .var s := by
  constructor
  · intro h
    cases h
    exact ⟨rfl, rfl⟩
  · intro h
    obtain ⟨rfl, rfl⟩ := h
    exact .bare name

theorem names_keyed_iff {s name : String} {value : Json} {e : Expr} :
    Names (.obj [(s, value)]) name e ↔ name = s ∧ Expr.ofJson value = .ok e := by
  constructor
  · intro h
    cases h with
    | keyed reads => exact ⟨rfl, reads⟩
  · intro h
    obtain ⟨rfl, reads⟩ := h
    exact .keyed reads

/-- Without a mark, a bare name and the name keyed to itself make the same binding. -/
theorem makes_self_reference {name : String} (hmark : name.toList.head? ≠ some '$') (b : Binding) :
    Makes (.str name) b ↔ Makes (.obj [(name, .str name)]) b := by
  constructor
  · intro h
    obtain ⟨hn, he⟩ := names_bare_iff.mp h.named
    have hreads := ofJson_unmarked (hn ▸ h.name_ne_empty) hmark
    exact ⟨names_keyed_iff.mpr ⟨hn, he ▸ hreads⟩, h.tight⟩
  · intro h
    obtain ⟨hn, hreads⟩ := names_keyed_iff.mp h.named
    rw [ofJson_unmarked (hn ▸ h.name_ne_empty) hmark] at hreads
    exact ⟨names_bare_iff.mpr ⟨hn, (Except.ok.inj hreads).symm⟩, h.tight⟩

/-- Without a mark, the bare name and the keyed one may be exchanged anywhere in a list. -/
theorem interchangeable_of_unmarked {name : String} (hmark : name.toList.head? ≠ some '$') :
    Interchangeable name := by
  intro kind before after c
  rw [ofJson_document_eq_ok, ofJson_document_eq_ok,
    makes_in_place (makes_self_reference hmark) before after]

/-- An accepted name alone, as a bare element, already tells a mark from other characters. -/
theorem unmarked_of_interchangeable {name : String} (tight : ¬ Text.Loose name)
    (h : Interchangeable name) : name.toList.head? ≠ some '$' := by
  have hbare : List.Forall₂ Makes [.str name] [⟨name, .var name⟩] :=
    .cons ⟨.bare name, tight⟩ .nil
  have hboth := h .withBindings [] [] ⟨.withBindings, [⟨name, .var name⟩]⟩
  rw [ofJson_document_eq_ok, ofJson_document_eq_ok] at hboth
  obtain ⟨-, hkeyed⟩ := hboth.mp ⟨rfl, hbare⟩
  cases hkeyed with
  | cons hmakes _ =>
    cases hmakes.named with
    | keyed reads =>
      have hw := Expr.wellFormed_of_ofJson reads
      exact ((Expr.wellFormed_var name).mp hw).2

/-- A clause that was read survives being written out exactly when none of its bare names starts
with the mark of parameters, and just then is every expression read back and no variable written
like a parameter. An accepted name may be keyed to itself on the same condition. -/
theorem survives_iff_unmarked {kind : ClauseKind} {node : Json} {c : Clause}
    (h : ofJson kind node = .ok c) :
    (∃ items, node.get? kind.field = some (.arr items) ∧
      ((∀ b ∈ c.bindings, Expr.ofJson b.expr.toJson = .ok b.expr) ↔ Unmarked items) ∧
      ((∃ doc, resubmission kind c.toJson = some doc ∧ ofJson kind doc = .ok c) ↔
        Unmarked items) ∧
      ((∀ b ∈ c.bindings, Distinct b.expr) ↔ Unmarked items)) ∧
    ∀ name, ¬ Text.Loose name → (Interchangeable name ↔ name.toList.head? ≠ some '$') := by
  refine ⟨?_, fun name tight =>
    ⟨unmarked_of_interchangeable tight, interchangeable_of_unmarked⟩⟩
  obtain ⟨rfl, items, hlist, hmade⟩ := makes_of_ofJson h
  refine ⟨items, hlist, ?_, ?_, ?_⟩
  · simp only [Expr.ofJson_toJson_iff]
    exact wellFormed_iff_unmarked hmade
  · rw [← wellFormed_iff_unmarked hmade, ← makes_keyed_all hmade]
    constructor
    · intro hdoc
      obtain ⟨doc, hd, hc⟩ := hdoc
      rw [resubmission_toJson] at hd
      cases hd
      exact ((ofJson_document_eq_ok _ _ _).mp hc).2
    · intro hk
      exact ⟨_, resubmission_toJson c, (ofJson_document_eq_ok _ _ _).mpr ⟨rfl, hk⟩⟩
  · rw [← wellFormed_iff_unmarked hmade]
    constructor
    · intro hd b hb
      obtain ⟨item, hm⟩ := exists_makes hmade b hb
      exact (hm.named.distinct_iff hm.name_ne_empty).mp (hd b hb)
    · exact fun hw b hb => distinct_of_wellFormed (hw b hb)

def markedValues : Json :=
  document .withBindings
    [.str "x", .obj [("$y", .str "$p")], .obj [("z", .obj [("@value", .str "$p")])]]

/-- Marks that mean a parameter survive, and so do those within a literal. -/
theorem marked_values_survive :
    ∃ c doc, ofJson .withBindings markedValues = .ok c ∧ ¬ Text.Loose "x" ∧
      (∀ b ∈ c.bindings, Expr.ofJson b.expr.toJson = .ok b.expr) ∧
      (resubmission .withBindings c.toJson = some doc ∧ ofJson .withBindings doc = .ok c) ∧
      (∀ b ∈ c.bindings, Distinct b.expr) ∧ Interchangeable "x" := by
  have hread : ofJson .withBindings markedValues = .ok ⟨.withBindings,
      [⟨"x", .var "x"⟩, ⟨"$y", .param "p"⟩, ⟨"z", .str "$p"⟩]⟩ := rfl
  have htight : ¬ Text.Loose "x" := (Text.isTight_iff "x").mp rfl
  obtain ⟨⟨items, hlist, hexprs, hdoc, hvars⟩, hnames⟩ := survives_iff_unmarked hread
  have hplain : Unmarked items := by
    have hitems : markedValues.get? ClauseKind.withBindings.field = some (.arr [.str "x",
      .obj [("$y", .str "$p")], .obj [("z", .obj [("@value", .str "$p")])]]) := rfl
    rw [hitems] at hlist
    cases hlist
    intro s hs
    have hx : s = "x" := by simpa using hs
    rw [hx]
    decide
  obtain ⟨doc, hd⟩ := hdoc.mpr hplain
  exact ⟨_, doc, hread, htight, hexprs.mpr hplain, hd, hvars.mpr hplain,
    (hnames "x" htight).mpr (by decide)⟩

/-- A bare name with a mark is accepted as a variable, and read as a parameter once the clause has
been written out. -/
theorem bare_mark_is_misread :
    ∃ c d doc, ofJson .withBindings (document .withBindings [.str "$p"]) = .ok c ∧
      resubmission .withBindings c.toJson = some doc ∧ ofJson .withBindings doc = .ok d ∧
      c.bindings.map Binding.expr = [.var "$p"] ∧ d.bindings.map Binding.expr = [.param "p"] :=
  ⟨_, _, _, rfl, rfl, rfl, rfl, rfl⟩

end Intake.Clause
