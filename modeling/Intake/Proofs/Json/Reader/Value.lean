import Intake.Proofs.Json.Reader.Container

namespace Intake.Json

open Decimal Numeral

section Values

variable {deeper : Option (Reader Json)} {rest : List Char}

/-- Spaces in front of a value are passed over. -/
theorem readValue_spaces {ws : List Char} (h : Spaces ws) (cs : List Char) :
    readValue deeper (ws ++ cs) = readValue deeper cs := by
  unfold readValue
  rw [skipSpace_append h]

theorem readValue_str (s : String) :
    readValue deeper (quoted s ++ rest) = .ok (.str s, rest) := by
  have hsplit : quoted s ++ rest = '"' :: (s.toList.flatMap escape ++ '"' :: rest) := by
    simp only [quoted, List.cons_append, List.append_assoc, List.nil_append]
  rw [hsplit]
  simp only [readValue, skipSpace_cons (c := '"') rfl, Char.reduceEq, ↓reduceIte,
    readString_quoted, Except.map]

/-- A digit at the front starts a number without a sign. -/
theorem readValue_digit {c : Char} {cs : List Char} (h : isDigit c = true) :
    readValue deeper (c :: cs) =
      (readNumber false (c :: cs)).map fun found => (.num found.1, found.2) := by
  have hne : ∀ {d : Char}, isDigit d = false → c ≠ d := by
    rintro d hd rfl
    exact absurd h (by simp [hd])
  simp only [readValue, skipSpace_cons (isDigit_not_space h).1]
  rw [if_neg (hne rfl), if_neg (hne rfl), if_neg (hne rfl), if_neg (hne rfl), if_neg (hne rfl),
    if_pos h]

theorem readValue_int {n : Int} (lower : -0x8000_0000_0000_0000 ≤ n)
    (upper : n < 0x1_0000_0000_0000_0000) (hrest : Ends rest) :
    readValue deeper (intText n ++ rest) = .ok (.num (.int n lower upper), rest) := by
  unfold intText
  split
  · rename_i hneg
    have hvalue : integer? true n.natAbs = some (.int n lower upper) := by
      have hn : -(n.natAbs : Int) = n := by omega
      unfold integer?
      rw [if_pos rfl, dif_pos (by omega)]
      simp only [hn]
    rw [List.cons_append]
    simp only [readValue, skipSpace_cons (c := '-') rfl, Char.reduceEq, ↓reduceIte,
      readNumber_text (by omega) hvalue hrest, Except.map]
  · rename_i hpos
    have hvalue : integer? false n.natAbs = some (.int n lower upper) := by
      have hn : (n.natAbs : Int) = n := by omega
      unfold integer? Number.ofNat?
      rw [if_neg (by decide), dif_pos (by omega)]
      simp only [hn]
    obtain ⟨c, tail, htext, hc⟩ := text_eq_cons n.natAbs
    have hread := readNumber_text (by omega) hvalue hrest
    rw [htext, List.cons_append] at hread ⊢
    rw [readValue_digit hc, hread]
    rfl

/-- A bracket that is too deep is refused where it stands. -/
theorem readValue_open (h : deeper = none) {c : Char} (hc : c = '[' ∨ c = '\x7b') :
    readValue deeper (c :: rest) = .error (.onByte .depthLimit (c :: rest)) := by
  subst deeper
  rcases hc with rfl | rfl <;> simp [readValue, skipSpace_cons, isSpace, isDigit]

theorem readValue_array (item : Reader Json) :
    readValue (some item) ('[' :: rest) = readArray item rest := by
  simp [readValue, skipSpace_cons, isSpace, isDigit]

theorem readValue_object (item : Reader Json) :
    readValue (some item) ('\x7b' :: rest) = readObject item rest := by
  simp [readValue, skipSpace_cons, isSpace, isDigit]

/-- A value without arrays and objects is read at any depth. -/
theorem readValue_leaf (sp : Spacing) (level : Nat) {v : Json} (hfree : v.FloatFree)
    (hleaf : v.depth = 0) (hrest : Ends rest) :
    readValue deeper (write sp level v ++ rest) = .ok (v, rest) := by
  match v with
  | .null =>
    rw [write]
    rfl
  | .bool true =>
    rw [write]
    rfl
  | .bool false =>
    rw [write]
    rfl
  | .num (.int n lower upper) =>
    rw [write]
    exact readValue_int lower upper hrest
  | .num (.float f finite) => exact (hfree _ (.whole _)).elim
  | .str s =>
    rw [write]
    exact readValue_str s

/-- Arrays and objects show by their first character. -/
theorem write_container (sp : Spacing) (level : Nat) {v : Json} (h : v.depth ≠ 0) :
    ∃ c tail, write sp level v = c :: tail ∧ (c = '[' ∨ c = '\x7b') := by
  match v with
  | .arr [] => exact ⟨'[', _, by rw [write], .inl rfl⟩
  | .arr (v :: items) => exact ⟨'[', _, by rw [write], .inl rfl⟩
  | .obj [] => exact ⟨'\x7b', _, by rw [write], .inr rfl⟩
  | .obj ((k, v) :: ms) => exact ⟨'\x7b', _, by rw [write], .inr rfl⟩
  | .null | .bool _ | .num _ | .str _ => exact (h rfl).elim

end Values

/-- Each reader recovers every value without doubles, in any layout of spaces. -/
theorem reader_recovers {sp : Spacing} (layout : sp.Adds (isSpace · = true)) (n : Nat) {v : Json}
    (hord : v.Ordered) (hfree : v.FloatFree) : Recovers sp (reader n) n v := by
  induction n generalizing v with
  | zero =>
    intro ws level rest hws hrest
    change Within _ _ (readValue none _)
    rw [readValue_spaces hws]
    by_cases hleaf : v.depth = 0
    · exact .of_ok (readValue_leaf sp level hfree hleaf hrest) (by omega)
    · obtain ⟨c, tail, hwrite, hc⟩ := write_container sp level hleaf
      rw [hwrite, List.cons_append, readValue_open rfl hc]
      exact ⟨fun h => (hleaf (by omega)).elim, fun _ => ⟨_, rfl, rfl⟩⟩
  | succ n ih =>
    intro ws level rest hws hrest
    change Within _ _ (readValue (some (reader n)) _)
    rw [readValue_spaces hws]
    have hparts : ∀ p, Part p v → p.FloatFree ∧ Recovers sp (reader n) n p :=
      fun p hp => ⟨hfree.part hp, ih (hord.part hp) (hfree.part hp)⟩
    match v with
    | .arr [] =>
      rw [write]
      exact .of_ok rfl (Nat.succ_le_succ (Nat.zero_le n))
    | .arr (w :: items) =>
      have harray := readArray_written (level + 1) rest layout (layout.line level)
        (fun p hp => hparts p (.item hp))
      have hsplit : write sp level (.arr (w :: items)) ++ rest =
          '[' :: (sp.line (level + 1) ++ (write sp (level + 1) w ++
            (writeItems sp (level + 1) items ++ (sp.line level ++ ']' :: rest)))) := by
        simp only [write, List.cons_append, List.append_assoc, List.nil_append]
      rw [hsplit, readValue_array]
      exact harray.of_iff Nat.succ_le_succ_iff
    | .obj [] =>
      rw [write]
      exact .of_ok rfl (Nat.succ_le_succ (Nat.zero_le n))
    | .obj ((key, w) :: ms) =>
      have hobject := readObject_written (level + 1) rest layout (layout.line level)
        (fun m hm => (hparts m.2 (.member hm)).2) (ordered_obj.mp hord).1
      have hsplit : write sp level (.obj ((key, w) :: ms)) ++ rest =
          '\x7b' :: (sp.line (level + 1) ++ '"' :: (key.toList.flatMap escape ++ '"' :: ':' ::
            (sp.afterColon ++ (write sp (level + 1) w ++
              (writeMembers sp (level + 1) ms ++ (sp.line level ++ '\x7d' :: rest)))))) := by
        simp only [write, quoted, List.cons_append, List.append_assoc, List.nil_append]
      rw [hsplit, readValue_object]
      exact hobject.of_iff Nat.succ_le_succ_iff
    | .null | .bool _ | .num _ | .str _ =>
      exact .of_ok (readValue_leaf sp level hfree rfl hrest) (Nat.zero_le _)

/-- A whole text is read as the value it was written for, unless that nests too deep. -/
theorem readAll_written {sp : Spacing} (layout : sp.Adds (isSpace · = true)) {v : Json}
    (hord : v.Ordered) (hfree : v.FloatFree) :
    Within (v.depth ≤ maxDepth) v (readAll (write sp 0 v)) := by
  have h := reader_recovers layout maxDepth hord hfree [] 0 [] (by simp [Spaces]) .nil
  rw [List.append_nil, List.nil_append] at h
  constructor
  · intro hfits
    simp [readAll, h.fits hfits, skipSpace]
  · intro hdeep
    obtain ⟨s, hs, hfault⟩ := h.deep hdeep
    exact ⟨s, by simp [readAll, hs], hfault⟩

end Intake.Json
