import Intake.Json.Reader.Value

namespace Intake.Json

/-- Where reading stops because the text ended, nothing of it is left unread. -/
def Exhausts {α : Type} (r : Except Stop α) : Prop :=
  ∀ s, r = .error s → s.fault.isEnd = true → s.unread = 0

namespace Exhausts

variable {α β : Type} {r : Except Stop α}

theorem ok (a : α) : Exhausts (.ok a : Except Stop α) := by
  intro s h
  cases h

theorem stop {s : Stop} (h : s.fault.isEnd = true → s.unread = 0) :
    Exhausts (.error s : Except Stop α) := by
  intro t ht
  cases ht
  exact h

theorem atEnd (fault : Fault) : Exhausts (.error (.atEnd fault) : Except Stop α) :=
  stop fun _ => rfl

/-- Only the faults that say so are held to the end of the text. -/
theorem other {s : Stop} (h : s.fault.isEnd = false) : Exhausts (.error s : Except Stop α) := by
  refine stop fun he => ?_
  rw [h] at he
  cases he

/-- A reading that goes on where another stopped has looked at all that both looked at. -/
theorem bind {f : α → Except Stop β} (h : Exhausts r) (hf : ∀ a, Exhausts (f a)) :
    Exhausts (r >>= f) := by
  cases r with
  | ok a => exact hf a
  | error s => exact stop (h s rfl)

theorem map {f : α → β} (h : Exhausts r) : Exhausts (r.map f) := by
  cases r with
  | ok a => exact ok _
  | error s => exact stop (h s rfl)

end Exhausts

theorem readWord_exhausts (word cs : List Char) : Exhausts (readWord word cs) := by
  induction word generalizing cs with
  | nil => exact .ok _
  | cons w ws ih =>
    cases cs with
    | nil => exact .atEnd _
    | cons c cs =>
      unfold readWord
      split
      · exact ih cs
      · exact .other rfl

section Strings

theorem readHex_exhausts (cs : List Char) : Exhausts (readHex cs) := by
  unfold readHex
  split
  · exact .atEnd _
  · split
    · split
      · exact .ok _
      · exact .other rfl
    · exact .other rfl

theorem readTrail_exhausts (lead : Nat) (cs : List Char) : Exhausts (readTrail lead cs) := by
  unfold readTrail
  split
  · exact .atEnd _
  · split
    · exact .atEnd _
    · refine (readHex_exhausts _).bind fun p => ?_
      dsimp only
      split
      · exact .other rfl
      · exact .ok _
    · exact .other rfl
  · exact .other rfl

theorem readUnicode_exhausts (cs : List Char) : Exhausts (readUnicode cs) := by
  refine (readHex_exhausts cs).bind fun p => ?_
  dsimp only
  split
  · exact .other rfl
  · split
    · exact readTrail_exhausts _ _
    · exact .ok _

theorem readEscape_exhausts (cs : List Char) : Exhausts (readEscape cs) := by
  unfold readEscape
  split
  case h_1 => exact .atEnd _
  case h_10 => exact readUnicode_exhausts _
  case h_11 => exact .other rfl
  all_goals exact .ok _

theorem readString_exhausts (acc cs : List Char) : Exhausts (readString acc cs) := by
  fun_induction readString acc cs with
  | case1 => exact .atEnd _
  | case2 => exact .ok _
  | case3 acc rest _ e rest' _ _ ih => exact ih
  | case4 acc rest s hs => exact .stop (readEscape_exhausts rest s hs)
  | case5 => exact .other rfl
  | case6 acc c rest _ _ _ ih => exact ih

end Strings

namespace Numeral

theorem readWhole_exhausts (cs : List Char) : Exhausts (readWhole cs) := by
  unfold readWhole
  split
  · exact .atEnd _
  · split
    · exact .ok _
    · split
      · exact .other rfl
      · exact .ok _
  · split
    · exact .ok _
    · exact .other rfl

theorem readFraction_exhausts (cs : List Char) : Exhausts (readFraction cs) := by
  unfold readFraction
  split
  · split
    · exact .atEnd _
    · exact .other rfl
    · exact .ok _
  · exact .ok _

theorem readExponent_exhausts (cs : List Char) : Exhausts (readExponent cs) := by
  unfold readExponent
  split
  · split
    · split
      · exact .atEnd _
      · exact .other rfl
      · exact .ok _
    · exact .ok _
  · exact .ok _

theorem readUnsigned_exhausts (negative : Bool) (cs : List Char) :
    Exhausts (readUnsigned negative cs) := by
  refine (readWhole_exhausts cs).bind fun whole => ?_
  refine (readFraction_exhausts _).bind fun fraction => ?_
  exact (readExponent_exhausts _).bind fun exponent => .ok _

theorem readNumber_exhausts (negative : Bool) (cs : List Char) :
    Exhausts (readNumber negative cs) := by
  refine (readUnsigned_exhausts negative cs).bind fun p => ?_
  dsimp only
  split
  · exact .ok _
  · exact .other rfl

end Numeral

section Containers

variable {item : Reader Json} (hitem : ∀ cs, Exhausts (item.run cs))
include hitem

theorem readItems_exhausts (acc : List Json) (cs : List Char) :
    Exhausts (readItems item acc cs) := by
  fun_induction readItems item acc cs with
  | case1 => exact .atEnd _
  | case2 => exact .ok _
  | case4 _ _ _ _ _ _ _ _ _ _ _ _ ih => exact ih
  | case5 acc cs rest _ s hs => exact .stop (hitem rest s hs)
  | _ => exact .other rfl

theorem readArray_exhausts (cs : List Char) : Exhausts (readArray item cs) := by
  unfold readArray
  split
  · exact .atEnd _
  · rename_i c rest _
    split
    · exact .ok _
    · split
      · exact readItems_exhausts hitem _ _
      · rename_i s hv
        exact .stop (hitem (c :: rest) s hv)

theorem readMember_exhausts (cs : List Char) : Exhausts (readMember item cs) := by
  unfold readMember
  split
  · rename_i s hs
    exact .stop (readString_exhausts [] cs s hs)
  · split
    · exact .atEnd _
    · split
      · split
        · exact .ok _
        · rename_i s hv
          exact .stop (hitem _ s hv)
      · exact .other rfl

theorem readMembers_exhausts (acc : Members) (cs : List Char) :
    Exhausts (readMembers item acc cs) := by
  fun_induction readMembers item acc cs with
  | case1 | case3 => exact .atEnd _
  | case2 => exact .ok _
  | case4 =>
    rename_i ih
    exact ih
  | case5 acc cs rest rest' s hs => exact .stop (readMember_exhausts hitem rest' s hs)
  | _ => exact .other rfl

theorem readObject_exhausts (cs : List Char) : Exhausts (readObject item cs) := by
  unfold readObject
  split
  · exact .atEnd _
  · split
    · exact .ok _
    · split
      · split
        · exact readMembers_exhausts hitem _ _
        · rename_i s hm
          exact .stop (readMember_exhausts hitem _ s hm)
      · exact .other rfl

end Containers

theorem readValue_exhausts {deeper : Option (Reader Json)}
    (hdeeper : ∀ item, deeper = some item → ∀ cs, Exhausts (item.run cs)) (cs : List Char) :
    Exhausts (readValue deeper cs) := by
  unfold readValue
  split
  · exact .atEnd _
  split
  · exact (readWord_exhausts _ _).map
  split
  · exact (readWord_exhausts _ _).map
  split
  · exact (readWord_exhausts _ _).map
  split
  · exact (readString_exhausts _ _).map
  split
  · exact (Numeral.readNumber_exhausts _ _).map
  split
  · exact (Numeral.readNumber_exhausts _ _).map
  split
  · split
    · exact readArray_exhausts (hdeeper _ rfl) _
    · exact .other rfl
  split
  · split
    · exact readObject_exhausts (hdeeper _ rfl) _
    · exact .other rfl
  · exact .other rfl

/-- Values of any depth tell the end of the text only at the end. -/
theorem reader_exhausts (n : Nat) (cs : List Char) : Exhausts ((reader n).run cs) := by
  induction n generalizing cs with
  | zero =>
    have hleaf : Exhausts (readValue none cs) := readValue_exhausts (by simp) cs
    exact hleaf
  | succ n ih =>
    have hdeeper : Exhausts (readValue (some (reader n)) cs) := by
      refine readValue_exhausts ?_ cs
      intro item hitem
      cases hitem
      exact ih
    exact hdeeper

/-- However a text stops short, it is told so only behind its last byte. -/
theorem readAll_exhausts (cs : List Char) : Exhausts (readAll cs) := by
  unfold readAll
  split
  · rename_i s hs
    exact .stop (reader_exhausts maxDepth cs s hs)
  · split
    · exact .ok _
    · exact .other rfl

end Intake.Json
