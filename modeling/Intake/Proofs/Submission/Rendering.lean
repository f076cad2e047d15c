import Intake.Proofs.Options.Rendering
import Intake.Proofs.Submission.Order

namespace Intake.Submission

/-- A rendered submission as a document that can be submitted again. -/
def resubmission (j : Json) : Option Json := do
  let items ← (← j.get? "ops").asArray?
  let options ← j.get? "options"
  return .object [("tx_ops", .arr (items.map Operation.sourceOf)), ("tx_options", options)]

theorem optionsField_sound {v : Option Json} {o : Options} (h : OptionsField v o) : o.Sound := by
  cases h with
  | absent => exact Options.none_sound
  | null => exact Options.none_sound
  | given reads => exact Options.ofJson_sound reads

/-- All that is known of a submission that was read. -/
theorem accepted_of_ofJson {node : Json} {s : Submission} (h : ofJson node = .ok s) :
    (∃ items : List Json, items.map Operation.ofJson = s.operations.map .ok) ∧
      s.options.Sound := by
  have ha := answer_ofJson node
  rw [h] at ha
  cases ha with
  | accepted _ accepted options => exact ⟨⟨_, accepted⟩, optionsField_sound options⟩

/-- Every operation of the list is written out, and each reads back from its source form. -/
theorem operationsJson_of_accepted {items : List Json} {ops : List Operation}
    (h : items.map Operation.ofJson = ops.map .ok) :
    ∃ vs, operationsJson ops = .ok vs ∧
      (vs.map Operation.sourceOf).map Operation.ofJson = ops.map .ok := by
  induction ops generalizing items with
  | nil => exact ⟨[], rfl, rfl⟩
  | cons op ops ih =>
    cases items with
    | nil => cases h
    | cons item items =>
      obtain ⟨hop, hops⟩ := List.cons.inj h
      obtain ⟨vs, hvs, hback⟩ := ih hops
      have hv := Operation.toJson_eq hop
      refine ⟨.object (("op", .str op.tag.key) :: op.rendered) :: vs, ?_, ?_⟩
      · simp only [operationsJson, hv, hvs]
      · rw [List.map_cons, List.map_cons, hback, Operation.ofJson_sourceOf hop hv]
        rfl

/-- The written form of a submission that was read. -/
theorem toJson_of_accepted {node : Json} {s : Submission} (h : ofJson node = .ok s) :
    ∃ vs options, operationsJson s.operations = .ok vs ∧ s.options.toJson = .ok options ∧
      s.toJson = .ok (.object [("ops", .arr vs), ("options", options)]) := by
  obtain ⟨⟨items, hitems⟩, hsound⟩ := accepted_of_ofJson h
  obtain ⟨vs, hvs, -⟩ := operationsJson_of_accepted hitems
  have ho := Options.toJson_eq hsound
  refine ⟨vs, _, hvs, ho, ?_⟩
  unfold toJson
  rw [hvs, ho]
  rfl

theorem resubmission_object (vs : List Json) (options : Json) :
    resubmission (.object [("ops", .arr vs), ("options", options)]) =
      some (.object [("tx_ops", .arr (vs.map Operation.sourceOf)), ("tx_options", options)]) := by
  simp [resubmission, Json.get?, Json.object, Json.asArray?]

/-- What is written of a submission is the same submission once it is submitted again. -/
theorem ofJson_resubmission {node j : Json} {s : Submission} (h : ofJson node = .ok s)
    (hj : s.toJson = .ok j) : ∃ doc, resubmission j = some doc ∧ ofJson doc = .ok s := by
  obtain ⟨⟨items, hitems⟩, hsound⟩ := accepted_of_ofJson h
  obtain ⟨vs, options, hvs, ho, he⟩ := toJson_of_accepted h
  obtain ⟨ws, hws, hback⟩ := operationsJson_of_accepted hitems
  rw [hvs] at hws
  cases hws
  rw [he] at hj
  cases hj
  refine ⟨_, resubmission_object vs options, ?_⟩
  apply Answer.eq_ofJson
  refine .accepted ?_ hback ?_
  · simp
  · have hgiven : Members.get? (Members.ofList [("tx_ops", Json.arr (vs.map Operation.sourceOf)),
        ("tx_options", options)]) "tx_options" = some options := by simp
    rw [hgiven]
    exact .given (Options.ofJson_toJson hsound ho)

/-- Rendering keeps everything: what is rendered can be submitted again and is the same submission
then, so no two submissions are rendered alike. -/
theorem rendering_is_faithful :
    (∀ node s j, ofJson node = .ok s → s.toJson = .ok j →
      ∃ doc, resubmission j = some doc ∧ ofJson doc = .ok s) ∧
    (∀ node node' s s' j, ofJson node = .ok s → ofJson node' = .ok s' →
      s.toJson = .ok j → s'.toJson = .ok j → s = s') := by
  refine ⟨fun node s j h hj => ofJson_resubmission h hj, ?_⟩
  intro node node' s s' j h h' hj hj'
  obtain ⟨doc, hdoc, hs⟩ := ofJson_resubmission h hj
  obtain ⟨doc', hdoc', hs'⟩ := ofJson_resubmission h' hj'
  rw [hdoc] at hdoc'
  cases hdoc'
  rw [hs] at hs'
  exact Except.ok.inj hs'

def deletionFrom (time : String) : Json :=
  .object [("tx_ops", .arr [.object
    [("delete", .str "docs"), ("id", .str "7"), ("valid_from", .str time)]])]

/-- A leap second is read as the last nanosecond of the minute, and so it is rendered. -/
theorem leap_second_is_kept :
    ∃ s t j doc, ofJson (deletionFrom "2016-12-31T23:59:60Z") = .ok s ∧
      ofJson (deletionFrom "2016-12-31T23:59:59.999999999Z") = .ok t ∧
      s.toJson = .ok j ∧ t.toJson = .ok j ∧
      resubmission j = some doc ∧ ofJson doc = .ok s ∧ s = t := by
  have hleap : ofJson (deletionFrom "2016-12-31T23:59:60Z") = .ok ⟨[.delete ⟨"docs", by decide⟩
      (.text "7") ⟨some ⟨⟨2016, 12, 31⟩, 23, 59, 59, 999999999, 0⟩, none⟩], .none⟩ := rfl
  have hplain : ofJson (deletionFrom "2016-12-31T23:59:59.999999999Z") = .ok _ := rfl
  obtain ⟨doc, hdoc, hs⟩ := rendering_is_faithful.1 _ _ _ hleap rfl
  have hsame := rendering_is_faithful.2 _ _ _ _ _ hleap hplain rfl rfl
  exact ⟨_, _, _, doc, hleap, hplain, rfl, rfl, hdoc, hs, hsame⟩

end Intake.Submission
