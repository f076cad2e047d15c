import Intake.Json.Fault
import Mathlib.Data.List.DropRight

namespace Intake.Json.Position

def endOf (cs : List Char) : Position :=
  ⟨1 + cs.count '\n', byteLength (cs.rtakeWhile (· != '\n'))⟩

def past (p : Position) (c : Char) : Position :=
  if c = '\n' then ⟨p.line + 1, 0⟩ else ⟨p.line, p.column + c.utf8Size⟩

theorem advance_cons (p : Position) (c : Char) (cs : List Char) :
    p.advance (byteLength (c :: cs)) (c :: cs) = (p.past c).advance (byteLength cs) cs := by
  have hpos := c.utf8Size_pos
  rw [byteLength_cons, advance, if_neg (by omega), past]
  by_cases hc : c = '\n'
  · have hone : c.utf8Size = 1 := by rw [hc]; rfl
    rw [if_pos hc, if_pos hc, hone, Nat.add_sub_cancel_left]
  · rw [if_neg hc, if_neg hc, Nat.add_sub_cancel_left, Nat.min_eq_right (Nat.le_add_right _ _)]

/-- All bytes of a text are those of its characters, one after the other. -/
theorem advance_eq_foldl (p : Position) (cs : List Char) :
    p.advance (byteLength cs) cs = cs.foldl past p := by
  induction cs generalizing p with
  | nil => rfl
  | cons c cs ih => rw [advance_cons, ih, List.foldl_cons]

theorem endOf_concat (cs : List Char) (c : Char) : endOf (cs ++ [c]) = (endOf cs).past c := by
  unfold endOf past
  rw [List.rtakeWhile_concat, List.count_append, List.count_singleton]
  by_cases hc : c = '\n'
  · simp [hc, byteLength_nil, Nat.add_assoc]
  · simp [hc, byteLength_append, byteLength_cons, byteLength_nil]

-- The last line grows at its end, so the induction is on the text from behind.
/-- Advancing by all bytes of a text leads to its end. -/
theorem advance_all (cs : List Char) : start.advance (byteLength cs) cs = endOf cs := by
  rw [advance_eq_foldl]
  induction cs using List.reverseRecOn with
  | nil => rfl
  | append_singleton cs c ih =>
    rw [List.foldl_append, ih, endOf_concat, List.foldl_cons, List.foldl_nil]

end Intake.Json.Position
