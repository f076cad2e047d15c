import Intake.Json.Basic

namespace Intake.Members

def erase (ms : Members) (key : String) : Members := ms.filter (fun m => m.1 != key)

def rename (ms : Members) (old new : String) : Members :=
  match ms.get? old with
  | some v => insert new v (ms.erase old)
  | none => ms

@[simp] theorem get?_nil (k : String) : get? [] k = none := rfl

@[simp] theorem get?_cons (key k : String) (v : Json) (ms : Members) :
    get? ((key, v) :: ms) k = if k = key then some v else get? ms k := by
  unfold get?
  rw [List.lookup_cons]
  split
  · rename_i h
    rw [if_pos (by simpa using h)]
  · rename_i h
    rw [if_neg (by simpa using h)]

/-- Only what stands under the written key changes. -/
@[simp] theorem get?_insert (key k : String) (v : Json) (ms : Members) :
    get? (insert key v ms) k = if k = key then some v else get? ms k := by
  induction ms with
  | nil => exact get?_cons key k v []
  | cons m ms ih =>
    obtain ⟨l, w⟩ := m
    unfold insert
    split
    · exact get?_cons key k v _
    · split
      · rename_i hl
        subst hl
        rw [get?_cons, get?_cons]
        split <;> rfl
      · rename_i hl
        rw [get?_cons, get?_cons, ih]
        by_cases hk : k = key
        · subst hk
          simp [hl]
        · simp [hk]

@[simp] theorem get?_append (ms ns : Members) (k : String) :
    get? (ms ++ ns) k = (get? ms k).or (get? ns k) := List.lookup_append

theorem get?_foldl_insert (pairs : List (String × Json)) (ms : Members) (k : String) :
    get? (pairs.foldl (fun ms p => insert p.1 p.2 ms) ms) k =
      (get? pairs.reverse k).or (get? ms k) := by
  induction pairs generalizing ms with
  | nil => rfl
  | cons p ps ih =>
    obtain ⟨key, v⟩ := p
    rw [List.foldl_cons, ih, get?_insert, List.reverse_cons, get?_append, get?_cons, get?_nil,
      Option.or_assoc]
    congr 1
    split <;> rfl

/-- Of several members written under one key the last one counts. -/
@[simp] theorem get?_ofList (pairs : List (String × Json)) (k : String) :
    get? (ofList pairs) k = get? pairs.reverse k := by
  rw [ofList, get?_foldl_insert, get?_nil, Option.or_none]

@[simp] theorem get?_erase (ms : Members) (key k : String) :
    get? (ms.erase key) k = if k = key then none else get? ms k := by
  induction ms with
  | nil => simp [erase, get?]
  | cons m ms ih =>
    obtain ⟨l, w⟩ := m
    unfold erase at ih ⊢
    rw [List.filter_cons, get?_cons]
    by_cases hl : l = key
    · simp only [hl, bne_self_eq_false, Bool.false_eq_true, ↓reduceIte, ih]
      split <;> rfl
    · simp only [bne_iff_ne, ne_eq, hl, not_false_eq_true, ↓reduceIte, get?_cons, ih]
      by_cases hk : k = l
      · subst hk
        simp [hl]
      · simp [hk]

/-- A member moves to its new key, where there is one to move. -/
theorem get?_rename (ms : Members) (old new k : String) :
    get? (rename ms old new) k =
      if (get? ms old).isSome then
        if k = new then get? ms old else if k = old then none else get? ms k
      else get? ms k := by
  unfold rename
  cases get? ms old <;> simp

/-- A key in front of all others is written in front. -/
theorem insert_of_lt {key : String} {v : Json} {ms : Members} (h : ∀ m ∈ ms, key < m.1) :
    insert key v ms = (key, v) :: ms := by
  cases ms with
  | nil => rfl
  | cons m rest =>
    unfold insert
    exact if_pos (h m (by simp))

/-- A key behind all others is written behind them. -/
theorem insert_of_gt {key : String} {v : Json} {ms : Members} (h : ∀ m ∈ ms, m.1 < key) :
    insert key v ms = ms ++ [(key, v)] := by
  induction ms with
  | nil => rfl
  | cons m ms ih =>
    obtain ⟨k, w⟩ := m
    have hk : k < key := h (k, w) (by simp)
    have hne : key ≠ k := by
      intro he
      subst he
      exact String.lt_irrefl key hk
    unfold insert
    rw [if_neg (String.lt_asymm hk), if_neg hne, ih (fun m hm => h m (by simp [hm]))]
    rfl

theorem foldl_insert_descending {pairs : List (String × Json)} {ms : Members}
    (h : pairs.Pairwise fun p q => q.1 < p.1) (hms : ∀ p ∈ pairs, ∀ m ∈ ms, p.1 < m.1) :
    pairs.foldl (fun ms p => insert p.1 p.2 ms) ms = pairs.reverse ++ ms := by
  induction pairs generalizing ms with
  | nil => rfl
  | cons p rest ih =>
    obtain ⟨hp, hrest⟩ := List.pairwise_cons.mp h
    rw [List.foldl_cons, insert_of_lt (hms p (by simp)), ih hrest, List.reverse_cons,
      List.append_assoc]
    · rfl
    · intro q hq m hm
      rcases List.mem_cons.mp hm with rfl | hm
      · exact hp q hq
      · exact hms q (by simp [hq]) m hm

/-- Members written from the last key to the first are kept the other way round. -/
theorem ofList_descending {pairs : List (String × Json)}
    (h : pairs.Pairwise fun p q => q.1 < p.1) : ofList pairs = pairs.reverse := by
  rw [ofList, foldl_insert_descending h (by simp), List.append_nil]

section Distinct

variable {pairs ms : Members}

theorem insert_perm {key : String} (h : key ∉ ms.map Prod.fst) (v : Json) :
    (insert key v ms).Perm ((key, v) :: ms) := by
  induction ms with
  | nil => exact .refl _
  | cons m rest ih =>
    obtain ⟨k, w⟩ := m
    obtain ⟨hk, hrest⟩ := not_or.mp (mt List.mem_cons.mpr h)
    unfold insert
    split
    · exact .refl _
    · exact ((ih hrest).cons (k, w)).trans (.swap (key, v) (k, w) rest)

theorem foldl_insert_perm (h : ((pairs ++ ms).map Prod.fst).Nodup) :
    (pairs.foldl (fun ms p => insert p.1 p.2 ms) ms).Perm (pairs ++ ms) := by
  induction pairs generalizing ms with
  | nil => exact .refl _
  | cons p rest ih =>
    have hmiddle : (rest ++ p :: ms).Perm (p :: (rest ++ ms)) := List.perm_middle
    have hnew : p.1 ∉ ms.map Prod.fst := by
      intro hp
      obtain ⟨m, hm, hkey⟩ := List.mem_map.mp hp
      exact (List.nodup_cons.mp h).1 (List.mem_map.mpr ⟨m, List.mem_append_right _ hm, hkey⟩)
    have hwritten : (rest ++ insert p.1 p.2 ms).Perm (p :: (rest ++ ms)) :=
      ((insert_perm hnew p.2).append_left rest).trans hmiddle
    exact (ih ((hwritten.map Prod.fst).nodup_iff.mpr h)).trans hwritten

/-- Members under distinct keys are all kept, in another order. -/
theorem ofList_perm (h : (pairs.map Prod.fst).Nodup) : (ofList pairs).Perm pairs := by
  have hall : (ofList pairs).Perm (pairs ++ []) := foldl_insert_perm (by rwa [List.append_nil])
  rwa [List.append_nil] at hall

end Distinct

section Order

variable {key : String} {v : Json} {ms : Members}

theorem mem_insert {m : String × Json} (h : m ∈ insert key v ms) : m = (key, v) ∨ m ∈ ms := by
  induction ms with
  | nil => exact .inl (List.mem_singleton.mp h)
  | cons n ms ih =>
    obtain ⟨k, w⟩ := n
    unfold insert at h
    split at h
    · exact List.mem_cons.mp h
    · split at h
      · exact (List.mem_cons.mp h).imp_right (List.mem_cons_of_mem _)
      · rcases List.mem_cons.mp h with rfl | h
        · exact .inr (by simp)
        · exact (ih h).imp_right (List.mem_cons_of_mem _)

/-- Writing a member keeps the order, whether the key is new or not. -/
theorem insert_ascending (h : (ms.map Prod.fst).Pairwise (· < ·)) :
    ((insert key v ms).map Prod.fst).Pairwise (· < ·) := by
  induction ms with
  | nil => simp [insert]
  | cons m ms ih =>
    obtain ⟨k, w⟩ := m
    obtain ⟨hk, hms⟩ := List.pairwise_cons.mp h
    unfold insert
    split
    · rename_i hlt
      refine List.pairwise_cons.mpr ⟨?_, h⟩
      intro l hl
      rcases List.mem_cons.mp hl with rfl | hl
      · exact hlt
      · exact String.lt_trans hlt (hk l hl)
    · rename_i hnot
      split
      · rename_i heq
        subst heq
        exact List.pairwise_cons.mpr ⟨hk, hms⟩
      · rename_i hne
        have hgt : k < key := by
          have hle : k ≤ key := String.not_lt.mp hnot
          by_cases hlt : k < key
          · exact hlt
          · exact (hne (String.le_antisymm (String.not_lt.mp hlt) hle)).elim
        refine List.pairwise_cons.mpr ⟨?_, ih hms⟩
        intro l hl
        obtain ⟨m, hm, rfl⟩ := List.mem_map.mp hl
        rcases mem_insert hm with rfl | hm
        · exact hgt
        · exact hk m.1 (List.mem_map_of_mem hm)

theorem get?_of_mem (h : (ms.map Prod.fst).Pairwise (· < ·)) (hm : (key, v) ∈ ms) :
    ms.get? key = some v := by
  induction ms with
  | nil => exact absurd hm List.not_mem_nil
  | cons m rest ih =>
    obtain ⟨k, w⟩ := m
    obtain ⟨hk, hrest⟩ := List.pairwise_cons.mp h
    rw [get?_cons]
    rcases List.mem_cons.mp hm with heq | hm
    · obtain ⟨rfl, rfl⟩ := Prod.mk.inj heq
      exact if_pos rfl
    · have hlt : k < key := hk key (List.mem_map_of_mem hm)
      rw [if_neg, ih hrest hm]
      rintro rfl
      exact String.lt_irrefl _ hlt

theorem mem_of_get? (h : ms.get? key = some v) : (key, v) ∈ ms := by
  obtain ⟨front, back, rfl, -⟩ := List.lookup_eq_some_iff.mp h
  exact List.mem_append_right front List.mem_cons_self

/-- With each key there once it does not matter from which side it is looked for. -/
theorem get?_reverse (h : (ms.map Prod.fst).Pairwise (· < ·)) (k : String) :
    get? ms.reverse k = get? ms k := by
  induction ms with
  | nil => rfl
  | cons m rest ih =>
    obtain ⟨l, w⟩ := m
    obtain ⟨hl, hrest⟩ := List.pairwise_cons.mp h
    rw [List.reverse_cons, get?_append, ih hrest, get?_cons, get?_cons, get?_nil]
    by_cases hk : k = l
    · subst hk
      have habsent : get? rest k = none := by
        refine Option.eq_none_iff_forall_ne_some.mpr (fun u hu => ?_)
        exact String.lt_irrefl _ (hl k (List.mem_map_of_mem (mem_of_get? hu)))
      rw [habsent, Option.none_or]
    · rw [if_neg hk, if_neg hk, Option.or_none]

end Order

end Intake.Members
