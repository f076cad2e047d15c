import Intake.Proofs.FaultCategory
import Intake.Proofs.Json.Reader.Shape
import Intake.Proofs.Json.Reader.Value
import Intake.Proofs.Offender

namespace Intake

theorem Json.Spacing.lines_adds : Spacing.lines.Adds (isSpace · = true) := by
  constructor
  · intro level c hc
    rcases List.mem_cons.mp hc with rfl | hc
    · rfl
    · rw [(List.mem_replicate.mp hc).2]
      rfl
  · intro c hc
    rw [List.mem_singleton.mp hc]
    rfl

namespace Document

open Json

theorem decode_eq_ok {text label : String} {node : Json} :
    decode text label = .ok node ↔ Json.read text = .ok node := by
  unfold decode
  cases Json.read text <;> simp [Except.mapError]

theorem decode_eq_error {text label : String} {d : Diagnostic} :
    decode text label = .error d ↔ ∃ e, Json.read text = .error e ∧ d = invalid e label := by
  unfold decode
  cases Json.read text <;> simp [Except.mapError, eq_comm]

def TooDeep (r : Except Diagnostic Json) : Prop :=
  ∃ d, r = .error d ∧ d.kind = .invalidJson ∧ d.context? "category" = some (.str "depth-limit")

/-- Decoding a written value gives the value where it nests no deeper than the reader goes. -/
theorem decode_written {sp : Spacing} (layout : sp.Adds (isSpace · = true)) {v : Json}
    (hord : v.Ordered) (hfree : v.FloatFree) (label : String) :
    (v.depth ≤ maxDepth → decode (String.ofList (write sp 0 v)) label = .ok v) ∧
      (maxDepth < v.depth → TooDeep (decode (String.ofList (write sp 0 v)) label)) := by
  have h := readAll_written layout hord hfree
  have hread : decode (String.ofList (write sp 0 v)) label =
      ((readAll (write sp 0 v)).mapError (ReadError.ofStop (write sp 0 v))).mapError
        (invalid · label) := by
    rw [decode, Json.read, String.toList_ofList]
  rw [hread]
  constructor
  · intro hfits
    rw [h.fits hfits]
    rfl
  · intro hdeep
    obtain ⟨s, hs, hfault⟩ := h.deep (Nat.not_le.mpr hdeep)
    rw [hs]
    refine ⟨_, rfl, rfl, ?_⟩
    have hcategory : FaultCategory.ofReadError (ReadError.ofStop (write sp 0 v) s) =
        .depthLimit := by
      rw [FaultCategory.ofReadError_eq_ofKind]
      exact if_pos hfault
    simp [invalid, hcategory, FaultCategory.name, Diagnostic.context?, Diagnostic.withContext,
      Diagnostic.withCauses, Diagnostic.withHint, Diagnostic.withMessage, Diagnostic.new,
      Diagnostic.setEntry]

/-- What is decoded is in order, and no deeper than the reader goes. -/
theorem decode_shaped {text label : String} {doc : Json} (h : decode text label = .ok doc) :
    Shaped maxDepth doc := by
  unfold decode Json.read at h
  cases hr : readAll text.toList with
  | error s =>
    rw [hr] at h
    cases h
  | ok v =>
    rw [hr] at h
    cases h
    exact readAll_shaped hr

/-- Every part of a decoded document is decoded from its own pretty text. -/
theorem decode_part {text label : String} {doc : Json} (h : decode text label = .ok doc)
    (hfree : doc.FloatFree) {s : Json} (hs : Part s doc) (again : String) :
    decode s.pretty again = .ok s := by
  obtain ⟨hord, hdepth⟩ := decode_shaped h
  have hwritten := decode_written Spacing.lines_adds (hord.part hs) (hfree.part hs) again
  exact hwritten.1 (Nat.le_trans hs.depth_le hdepth)

/-- Parts that offend have one pretty text, that of the diagnostic, and so are one part. -/
theorem sole_offender {text label : String} {doc : Json} (h : decode text label = .ok doc)
    (hfree : doc.FloatFree) {form : Form} {d : Diagnostic} (refused : form.Refuses doc d)
    {p s : Json} (hs : d.json? = some s.pretty) (offends : Offends form doc s)
    (hp : Offends form doc p) : p = s := by
  obtain ⟨e, again, hjson⟩ := hp.refuses
  rw [again.unique refused, hs] at hjson
  have hpretty : s.pretty = p.pretty := Option.some.inj hjson
  have hread := decode_part h hfree hp.part label
  rw [← hpretty, decode_part h hfree offends.part label] at hread
  exact (Except.ok.inj hread).symm

/-- The texts that are printed are read again, whatever they are called: both written forms of a
value without doubles give the value where it nests at most 127 arrays and objects, and are refused
for their depth where it nests more. The members of a value are in order, as all readers keep them.
So what a diagnostic records of a decoded document is the one part that offends, and can be decoded
again. -/
theorem printed_texts_are_readable :
    (∀ v : Json, v.Ordered → v.FloatFree → ∀ label : String,
      (v.depth ≤ 127 → decode v.compact label = .ok v ∧ decode v.pretty label = .ok v) ∧
      (127 < v.depth → TooDeep (decode v.compact label) ∧ TooDeep (decode v.pretty label))) ∧
    (∀ (text label : String) (doc : Json), decode text label = .ok doc → doc.FloatFree →
      ∀ (form : Form) (d : Diagnostic), form.Refuses doc d →
        ∃ s, (∀ p, Offends form doc p ↔ p = s) ∧ Part s doc ∧ d.json? = some s.pretty ∧
          ∀ again, decode s.pretty again = .ok s) := by
  constructor
  · intro v hord hfree label
    have hcompact := decode_written (Spacing.none_adds _) hord hfree label
    have hpretty := decode_written Spacing.lines_adds hord hfree label
    exact ⟨fun h => ⟨hcompact.1 h, hpretty.1 h⟩, fun h => ⟨hcompact.2 h, hpretty.2 h⟩⟩
  · intro text label doc hdoc hfree form d refused
    obtain ⟨s, offends, hs⟩ := refused.recorded
    refine ⟨s, ?_, offends.part, hs, decode_part hdoc hfree offends.part⟩
    intro p
    constructor
    · exact fun hp => sole_offender hdoc hfree refused hs offends hp
    · rintro rfl
      exact offends

section Plain

variable {v : Json}

/-- The compact text of a value without doubles is decoded as that value. -/
theorem decode_compact (h : v.Ordered ∧ v.FloatFree) (fits : v.depth ≤ maxDepth) (label : String) :
    decode v.compact label = .ok v :=
  (decode_written (Spacing.none_adds _) h.1 h.2 label).1 fits

theorem plain_str (s : String) : (Json.str s).Ordered ∧ (Json.str s).FloatFree :=
  ⟨everywhere_of_leaf rfl trivial, everywhere_of_leaf rfl trivial⟩

theorem plain_item (h : v.Ordered ∧ v.FloatFree) :
    (Json.arr [v]).Ordered ∧ (Json.arr [v]).FloatFree :=
  ⟨everywhere_arr.mpr ⟨trivial, List.forall_mem_singleton.mpr h.1⟩,
    everywhere_arr.mpr ⟨trivial, List.forall_mem_singleton.mpr h.2⟩⟩

theorem plain_member (key : String) (h : v.Ordered ∧ v.FloatFree) :
    (Json.obj [(key, v)]).Ordered ∧ (Json.obj [(key, v)]).FloatFree :=
  ⟨everywhere_obj.mpr ⟨List.pairwise_singleton _ _, List.forall_mem_singleton.mpr h.1⟩,
    everywhere_obj.mpr ⟨trivial, List.forall_mem_singleton.mpr h.2⟩⟩

end Plain

def twoKeys : Json :=
  .obj [("a", .num (.int 0xFFFF_FFFF_FFFF_FFFE (by decide) (by decide))),
    ("b", .str "\"\\\n\x07é😀")]

def badColumns : Json :=
  .obj [("return", .arr [.str "x", .obj [("y", .arr [.obj [("f", .arr [.str "$p", twoKeys])]])]])]

def nested : Nat → Json
  | 0 => .arr []
  | n + 1 => .arr [nested n]

theorem nested_plain (n : Nat) :
    (nested n).Ordered ∧ (nested n).FloatFree ∧ (nested n).depth = n + 1 := by
  induction n with
  | zero => exact ⟨ordered_arr.mpr (by simp), everywhere_arr.mpr ⟨trivial, by simp⟩, rfl⟩
  | succ n ih =>
    obtain ⟨hord, hfree, hdepth⟩ := ih
    refine ⟨ordered_arr.mpr (by simpa using hord), everywhere_arr.mpr ⟨trivial, ?_⟩, ?_⟩
    · exact List.forall_mem_singleton.mpr hfree
    · simp [nested, depth, depthItems, hdepth]

theorem twoKeys_plain : twoKeys.Ordered ∧ twoKeys.FloatFree := by
  constructor
  · refine ordered_obj.mpr ⟨by decide, ?_⟩
    simp only [List.forall_mem_cons]
    exact ⟨everywhere_of_leaf rfl trivial, everywhere_of_leaf rfl trivial, by simp⟩
  · refine everywhere_obj.mpr ⟨trivial, ?_⟩
    simp only [List.forall_mem_cons]
    exact ⟨everywhere_of_leaf rfl trivial, everywhere_of_leaf rfl trivial, by simp⟩

theorem twoKeys_is_told :
    Offends (.clause .returnColumns) badColumns twoKeys ∧
      decode twoKeys.pretty "again" = .ok twoKeys ∧
      TooDeep (decode (nested 127).compact "deep") := by
  obtain ⟨hprinted, htold⟩ := printed_texts_are_readable
  obtain ⟨hkeys, hflat⟩ := twoKeys_plain
  have hord : badColumns.Ordered := by
    simp only [badColumns, ordered_obj, ordered_arr, List.forall_mem_cons, List.map_cons,
      List.map_nil, List.pairwise_singleton, List.not_mem_nil, IsEmpty.forall_iff, implies_true,
      and_true, true_and]
    exact ⟨everywhere_of_leaf rfl trivial, everywhere_of_leaf rfl trivial, hkeys⟩
  have hfree : badColumns.FloatFree := by
    simp only [FloatFree, badColumns, everywhere_obj, everywhere_arr, NoDouble,
      List.forall_mem_cons, List.not_mem_nil, IsEmpty.forall_iff, implies_true, and_true, true_and]
    exact ⟨everywhere_of_leaf rfl trivial, everywhere_of_leaf rfl trivial, hflat⟩
  have hdecode := ((hprinted badColumns hord hfree "columns").1 (by decide)).1
  obtain ⟨s, offends, -, hs, hread⟩ :=
    htold _ _ badColumns hdecode hfree (.clause .returnColumns) _ rfl
  have hpretty : twoKeys.pretty = s.pretty := Option.some.inj hs
  have hagain := ((hprinted twoKeys hkeys hflat "again").1 (by decide)).2
  have hsame : s = twoKeys := by
    rw [hpretty, hread "again"] at hagain
    exact Except.ok.inj hagain
  obtain ⟨hlist, hplain, hdepth⟩ := nested_plain 127
  have hdeep := ((hprinted _ hlist hplain "deep").2 (by rw [hdepth]; decide)).1
  exact ⟨(offends twoKeys).mpr hsame.symm, hsame ▸ hread "again", hdeep⟩

end Document

end Intake
