import Intake.Proofs.Json.Part
import Intake.Proofs.Json.Reader.Scalar

namespace Intake.Json

open Decimal Numeral

def Spaces (cs : List Char) : Prop := ∀ c ∈ cs, isSpace c = true

theorem isSpace_iff (c : Char) :
    isSpace c = true ↔ c = ' ' ∨ c = '\t' ∨ c = '\n' ∨ c = '\r' := by
  simp [isSpace, or_assoc]

theorem skipSpace_append {ws : List Char} (h : Spaces ws) (rest : List Char) :
    skipSpace (ws ++ rest) = skipSpace rest := List.dropWhile_append_of_pos h

theorem skipSpace_cons {c : Char} (h : isSpace c = false) (rest : List Char) :
    skipSpace (c :: rest) = c :: rest := by
  simp [skipSpace, h]

theorem skipSpace_quote {ws : List Char} (h : Spaces ws) (rest : List Char) :
    skipSpace (ws ++ '"' :: rest) = '"' :: rest := by
  rw [skipSpace_append h, skipSpace_cons rfl]

def Starts (cs : List Char) : Prop :=
  ∃ c tail, cs = c :: tail ∧ isSpace c = false ∧ c ≠ ']'

theorem Starts.append {cs : List Char} (h : Starts cs) (rest : List Char) :
    Starts (cs ++ rest) := by
  obtain ⟨c, tail, rfl, hc⟩ := h
  exact ⟨c, tail ++ rest, rfl, hc⟩

theorem Starts.skipSpace_eq {cs : List Char} (h : Starts cs) : skipSpace cs = cs := by
  obtain ⟨c, tail, rfl, hc, -⟩ := h
  exact skipSpace_cons hc tail

theorem ends_cons {c : Char} (h : isSpace c = true ∨ c = ',' ∨ c = ']' ∨ c = '\x7d')
    (rest : List Char) : Ends (c :: rest) := by
  intro d hd
  cases hd
  rw [isSpace_iff] at h
  rcases h with (rfl | rfl | rfl | rfl) | rfl | rfl | rfl <;> decide

/-- No numeral goes on behind what closes a container, with or without spaces in front. -/
theorem ends_spaces {ws : List Char} {c : Char} (hws : Spaces ws)
    (hc : c = ',' ∨ c = ']' ∨ c = '\x7d') (rest : List Char) : Ends (ws ++ c :: rest) := by
  cases ws with
  | nil => exact ends_cons (.inr hc) rest
  | cons w ws => exact ends_cons (.inl (hws w (by simp))) _

theorem isDigit_not_space {c : Char} (h : isDigit c = true) : isSpace c = false ∧ c ≠ ']' := by
  rw [isDigit_iff] at h
  constructor
  · rw [Bool.eq_false_iff, ne_eq, isSpace_iff]
    rintro (rfl | rfl | rfl | rfl) <;> exact absurd h (by decide)
  · rintro rfl
    exact absurd h (by decide)

theorem text_eq_cons (n : Nat) : ∃ c tail, text n = c :: tail ∧ isDigit c = true := by
  by_cases hn : n = 0
  · subst n
    exact ⟨'0', [], by rw [text, digits_zero]; rfl, rfl⟩
  · obtain ⟨d, ds, hds, hlt, -⟩ := digits_eq_cons (Nat.pos_of_ne_zero hn)
    exact ⟨digitChar d, ds.map digitChar, by rw [text, hds]; rfl, isDigit_digitChar hlt⟩

theorem starts_intText (n : Int) : Starts (intText n) := by
  unfold intText
  split
  · exact ⟨'-', _, rfl, rfl, by decide⟩
  · obtain ⟨c, tail, htext, hc⟩ := text_eq_cons n.natAbs
    exact ⟨c, tail, htext, isDigit_not_space hc⟩

/-- A written value begins with neither a space nor a closing bracket. -/
theorem starts_write (sp : Spacing) (level : Nat) {v : Json} (h : v.FloatFree) :
    Starts (write sp level v) := by
  match v with
  | .null => exact ⟨'n', _, by rw [write], rfl, by decide⟩
  | .bool true => exact ⟨'t', _, by rw [write], rfl, by decide⟩
  | .bool false => exact ⟨'f', _, by rw [write], rfl, by decide⟩
  | .num (.int n lower upper) =>
    rw [write]
    exact starts_intText n
  | .num (.float f finite) => exact (h _ (.whole _)).elim
  | .str s => exact ⟨'"', _, by rw [write, quoted], rfl, by decide⟩
  | .arr [] => exact ⟨'[', _, by rw [write], rfl, by decide⟩
  | .arr (v :: rest) => exact ⟨'[', _, by rw [write], rfl, by decide⟩
  | .obj [] => exact ⟨'\x7b', _, by rw [write], rfl, by decide⟩
  | .obj ((k, v) :: rest) => exact ⟨'\x7b', _, by rw [write], rfl, by decide⟩

/-- A reading that gives a value under a condition, and otherwise stops at the depth limit. -/
structure Within {α : Type} (p : Prop) (a : α) (r : Except Stop α) : Prop where
  fits : p → r = .ok a
  deep : ¬ p → ∃ s, r = .error s ∧ s.fault = .depthLimit

section Within

variable {α β : Type} {p q : Prop} {a : α} {b : β} {r : Except Stop α}

theorem Within.of_ok (h : r = .ok a) (hp : p) : Within p a r :=
  ⟨fun _ => h, fun hn => (hn hp).elim⟩

theorem Within.of_iff (h : Within p a r) (hpq : q ↔ p) : Within q a r :=
  ⟨fun hq => h.fits (hpq.mp hq), fun hq => h.deep (fun hp => hq (hpq.mpr hp))⟩

/-- Two readings one after the other succeed under both conditions. -/
theorem Within.bind {k : α → Except Stop β} (h : Within p a r) (hk : Within q b (k a)) :
    Within (p ∧ q) b (r.bind k) := by
  constructor
  · intro hpq
    rw [h.fits hpq.1]
    exact hk.fits hpq.2
  · intro hpq
    by_cases hp : p
    · rw [h.fits hp]
      exact hk.deep (fun hq => hpq ⟨hp, hq⟩)
    · obtain ⟨s, hs, hfault⟩ := h.deep hp
      rw [hs]
      exact ⟨s, rfl, hfault⟩

theorem Within.map (f : α → β) (h : Within p a r) : Within p (f a) (r.map f) := by
  constructor
  · intro hp
    rw [h.fits hp]
    rfl
  · intro hp
    obtain ⟨s, hs, hfault⟩ := h.deep hp
    rw [hs]
    exact ⟨s, rfl, hfault⟩

end Within

/-- A reader takes a value, written behind any spaces, if it nests at most `n` arrays and
objects. -/
def Recovers (sp : Spacing) (item : Reader Json) (n : Nat) (v : Json) : Prop :=
  ∀ ws level rest, Spaces ws → Ends rest →
    Within (v.depth ≤ n) (v, rest) (item.run (ws ++ (write sp level v ++ rest)))

section Step

variable {item : Reader Json} {cs rest more : List Char}

theorem readItems_close {acc : List Json} (h : skipSpace cs = ']' :: rest) :
    readItems item acc cs = .ok (.arr acc.reverse, rest) := by
  unfold readItems
  split
  · rename_i hnil
    cases h.symm.trans hnil
  · rename_i hcons
    cases h.symm.trans hcons
    exact if_pos rfl

theorem readItems_comma {acc : List Json} (h : skipSpace cs = ',' :: rest)
    (hopen : (skipSpace rest).head? ≠ some ']') :
    readItems item acc cs =
      (item.run rest).bind fun found => readItems item (found.1 :: acc) found.2 := by
  rw [readItems]
  split
  · rename_i hnil
    cases h.symm.trans hnil
  · rename_i hcons
    cases h.symm.trans hcons
    rw [if_neg (by decide), if_pos rfl, if_neg hopen]
    split <;> rename_i hv <;> simp only [hv, Except.bind]

theorem readArray_items (h : skipSpace cs = more) (hs : Starts more) :
    readArray item cs =
      (item.run more).bind fun found => readItems item [found.1] found.2 := by
  obtain ⟨c, tail, rfl, -, hne⟩ := hs
  simp only [readArray, h, if_neg hne]
  cases item.run (c :: tail) <;> rfl

theorem readMember_key {key : String} (hk : readString [] cs = .ok (key, rest))
    (hc : skipSpace rest = ':' :: more) :
    readMember item cs = (item.run more).map fun found => ((key, found.1), found.2) := by
  simp only [readMember, hk, hc, ↓reduceIte]
  cases item.run more <;> rfl

theorem readMembers_close {acc : Members} (h : skipSpace cs = '\x7d' :: rest) :
    readMembers item acc cs = .ok (.obj acc, rest) := by
  unfold readMembers
  split
  · rename_i hnil
    cases h.symm.trans hnil
  · rename_i hcons
    cases h.symm.trans hcons
    exact if_pos rfl

theorem readMembers_comma {acc : Members} (h : skipSpace cs = ',' :: rest)
    (hkey : skipSpace rest = '"' :: more) :
    readMembers item acc cs = (readMember item more).bind fun found =>
      readMembers item (Members.insert found.1.1 found.1.2 acc) found.2 := by
  rw [readMembers]
  split
  · rename_i hnil
    cases h.symm.trans hnil
  · rename_i hcons
    cases h.symm.trans hcons
    rw [if_neg (by decide), if_pos rfl]
    split
    · rename_i hnil
      cases hkey.symm.trans hnil
    · rename_i hquote
      cases hkey.symm.trans hquote
      rw [if_pos rfl]
      split <;> rename_i hm <;> simp only [hm, Except.bind]

theorem readObject_members (h : skipSpace cs = '"' :: more) :
    readObject item cs =
      (readMember item more).bind fun found => readMembers item [found.1] found.2 := by
  simp only [readObject, h]
  rw [if_neg (by decide), if_pos trivial]
  cases readMember item more <;> rfl

end Step

section Containers

variable {sp : Spacing} {item : Reader Json} {n : Nat} {ws : List Char} (level : Nat)
  (rest : List Char) (layout : sp.Adds (isSpace · = true)) (hws : Spaces ws)

section Ends

variable (sp)
include hws

theorem ends_items (items : List Json) :
    Ends (writeItems sp level items ++ (ws ++ ']' :: rest)) := by
  cases items with
  | nil => exact ends_spaces hws (by decide) rest
  | cons v items => exact ends_cons (by decide) _

theorem ends_members (ms : Members) :
    Ends (writeMembers sp level ms ++ (ws ++ '\x7d' :: rest)) := by
  cases ms with
  | nil => exact ends_spaces hws (by decide) rest
  | cons m ms => exact ends_cons (by decide) _

end Ends

section Items

include layout hws

/-- The items behind some that were read, up to the bracket. -/
theorem readItems_written (acc : List Json) {items : List Json}
    (hitems : ∀ v ∈ items, v.FloatFree ∧ Recovers sp item n v) :
    Within (depthItems items ≤ n) (.arr (acc.reverse ++ items), rest)
      (readItems item acc (writeItems sp level items ++ (ws ++ ']' :: rest))) := by
  induction items generalizing acc with
  | nil =>
    have hclose : skipSpace ([] ++ (ws ++ ']' :: rest)) = ']' :: rest := by
      rw [List.nil_append, skipSpace_append hws, skipSpace_cons rfl]
    refine .of_ok ?_ (Nat.zero_le n)
    rw [writeItems, readItems_close hclose, List.append_nil]
  | cons v items ih =>
    obtain ⟨hfree, hread⟩ := hitems v (by simp)
    have hv := hread (sp.line level) level _ (layout.line level) (ends_items sp level rest hws items)
    have hrest := ih (v :: acc) (fun w hw => hitems w (by simp [hw]))
    have hsplit : writeItems sp level (v :: items) ++ (ws ++ ']' :: rest) =
        ',' :: (sp.line level ++ (write sp level v ++
          (writeItems sp level items ++ (ws ++ ']' :: rest)))) := by
      simp only [writeItems, List.cons_append, List.append_assoc]
    have hopen : (skipSpace (sp.line level ++ (write sp level v ++
        (writeItems sp level items ++ (ws ++ ']' :: rest))))).head? ≠ some ']' := by
      obtain ⟨c, tail, hc, hspace, hne⟩ := starts_write sp level hfree
      rw [skipSpace_append (layout.line level), hc, List.cons_append, skipSpace_cons hspace]
      simpa using hne
    rw [hsplit, readItems_comma (skipSpace_cons rfl _) hopen]
    rw [List.reverse_cons, List.append_assoc, List.singleton_append] at hrest
    exact (hv.bind hrest).of_iff Nat.max_le

/-- An array behind its opening bracket. -/
theorem readArray_written {v : Json} {items : List Json}
    (hitems : ∀ w ∈ v :: items, w.FloatFree ∧ Recovers sp item n w) :
    Within (depthItems (v :: items) ≤ n) (.arr (v :: items), rest)
      (readArray item (sp.line level ++ (write sp level v ++
        (writeItems sp level items ++ (ws ++ ']' :: rest))))) := by
  obtain ⟨⟨hfree, hread⟩, hothers⟩ := List.forall_mem_cons.mp hitems
  have hstarts := (starts_write sp level hfree).append
    (writeItems sp level items ++ (ws ++ ']' :: rest))
  have hskip := (skipSpace_append (layout.line level) _).trans hstarts.skipSpace_eq
  have hv := hread [] level _ (by simp [Spaces]) (ends_items sp level rest hws items)
  have hrest := readItems_written level rest layout hws [v] hothers
  rw [readArray_items hskip hstarts]
  exact (hv.bind hrest).of_iff Nat.max_le

end Items

/-- A member behind the opening quote of its key. -/
theorem readMember_written (key : String) {v : Json} (layout : sp.Adds (isSpace · = true))
    (hread : Recovers sp item n v) (hrest : Ends rest) :
    Within (v.depth ≤ n) ((key, v), rest)
      (readMember item (key.toList.flatMap escape ++ '"' :: ':' :: (sp.afterColon ++
        (write sp level v ++ rest)))) := by
  have hv := hread sp.afterColon level rest layout.colon hrest
  rw [readMember_key (readString_quoted key _) (skipSpace_cons rfl _)]
  exact hv.map (fun found => ((key, found.1), found.2))

section Members

include layout hws

/-- The members behind some that were read, up to the brace. Their keys come after those of the
members read before, so that each is written behind all others. -/
theorem readMembers_written (acc : Members) {ms : Members} (hms : ∀ m ∈ ms, Recovers sp item n m.2)
    (hkeys : ((acc ++ ms).map Prod.fst).Pairwise (· < ·)) :
    Within (depthMembers ms ≤ n) (.obj (acc ++ ms), rest)
      (readMembers item acc (writeMembers sp level ms ++ (ws ++ '\x7d' :: rest))) := by
  induction ms generalizing acc with
  | nil =>
    have hclose : skipSpace ([] ++ (ws ++ '\x7d' :: rest)) = '\x7d' :: rest := by
      rw [List.nil_append, skipSpace_append hws, skipSpace_cons rfl]
    refine .of_ok ?_ (Nat.zero_le n)
    rw [writeMembers, readMembers_close hclose, List.append_nil]
  | cons m ms ih =>
    obtain ⟨key, v⟩ := m
    obtain ⟨hread, hothers⟩ := List.forall_mem_cons.mp hms
    have hbehind : ∀ m ∈ acc, m.1 < key := by
      rw [List.map_append, List.pairwise_append] at hkeys
      exact fun m hm => hkeys.2.2 m.1 (List.mem_map_of_mem hm) key (by simp)
    have happend : acc ++ (key, v) :: ms = Members.insert key v acc ++ ms := by
      simp [Members.insert_of_gt hbehind]
    have hv := readMember_written level _ key layout hread (ends_members sp level rest hws ms)
    have hrest := ih (Members.insert key v acc) hothers (happend ▸ hkeys)
    have hsplit : writeMembers sp level ((key, v) :: ms) ++ (ws ++ '\x7d' :: rest) =
        ',' :: (sp.line level ++ '"' :: (key.toList.flatMap escape ++ '"' :: ':' ::
          (sp.afterColon ++ (write sp level v ++
            (writeMembers sp level ms ++ (ws ++ '\x7d' :: rest)))))) := by
      simp only [writeMembers, quoted, List.cons_append, List.append_assoc, List.nil_append]
    rw [hsplit, readMembers_comma (skipSpace_cons rfl _) (skipSpace_quote (layout.line level) _),
      happend]
    exact (hv.bind hrest).of_iff Nat.max_le

/-- An object behind its opening brace. -/
theorem readObject_written {key : String} {v : Json} {ms : Members}
    (hms : ∀ m ∈ (key, v) :: ms, Recovers sp item n m.2)
    (hkeys : (((key, v) :: ms).map Prod.fst).Pairwise (· < ·)) :
    Within (depthMembers ((key, v) :: ms) ≤ n) (.obj ((key, v) :: ms), rest)
      (readObject item (sp.line level ++ '"' :: (key.toList.flatMap escape ++ '"' :: ':' ::
        (sp.afterColon ++ (write sp level v ++
          (writeMembers sp level ms ++ (ws ++ '\x7d' :: rest))))))) := by
  obtain ⟨hread, hothers⟩ := List.forall_mem_cons.mp hms
  have hv := readMember_written level _ key layout hread (ends_members sp level rest hws ms)
  have hrest := readMembers_written level rest layout hws [(key, v)] hothers hkeys
  rw [readObject_members (skipSpace_quote (layout.line level) _)]
  exact (hv.bind hrest).of_iff Nat.max_le

end Members

end Containers

end Intake.Json
