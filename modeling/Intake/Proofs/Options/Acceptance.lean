import Intake.Proofs.Json.Part
import Intake.Proofs.Operation.Acceptance
import Intake.Proofs.Options.Grammar

namespace Intake

def Json.isTrue : Json → Bool
  | .bool b => b
  | _ => false

namespace Options

theorem mem_textKeys {key : String} : key ∈ textKeys ↔ key = "system_time" ∨ key = "default_tz" := by
  simp [textKeys]

/-- Every member is taken by an option, or by none. -/
theorem takes_or_misfit (key : String) (v : Json) : Takes key v ∨ ∃ f, Misfit key v f := by
  by_cases htext : key ∈ textKeys
  · cases v with
    | null => exact .inl (.null htext)
    | str s => exact .inl (.text htext s)
    | _ => exact .inr ⟨_, .notText htext (by simp) (by simp)⟩
  · by_cases hflag : key = flagKey
    · subst hflag
      cases v with
      | bool b => exact .inl (.flag b)
      | _ => exact .inr ⟨_, .notFlag (by simp)⟩
    · exact .inr ⟨_, .unknown htext hflag v⟩

def Raw.overlay (raw : Raw) (ms : Members) : Raw :=
  ⟨((ms.get? "system_time").map Json.asString?).getD raw.systemTime,
    ((ms.get? "default_tz").map Json.asString?).getD raw.defaultTz,
    ((ms.get? "default_all_valid_time").map Json.isTrue).getD raw.defaultAllValidTime⟩

/-- Of members written over options twice, the first ones that are found are the last ones
written. -/
theorem Raw.overlay_overlay (raw : Raw) (ms ns : Members) :
    (raw.overlay ms).overlay ns = raw.overlay (ns ++ ms) := by
  unfold overlay
  simp only [Members.get?_append]
  congr 1
  · cases ns.get? "system_time" <;> rfl
  · cases ns.get? "default_tz" <;> rfl
  · cases ns.get? "default_all_valid_time" <;> rfl

theorem Raw.overlay_congr (raw : Raw) {ms ns : Members} (h : ∀ key, ms.get? key = ns.get? key) :
    raw.overlay ms = raw.overlay ns := by
  simp only [overlay, h]

section Member

variable {raw raw' : Raw} {key : String} {v : Json} {f : MemberFault}

theorem readMember_of_takes (raw : Raw) (h : Takes key v) :
    readMember raw key v = .ok (raw.overlay [(key, v)]) := by
  cases h with
  | null recognized => rcases mem_textKeys.mp recognized with rfl | rfl <;> rfl
  | text recognized s => rcases mem_textKeys.mp recognized with rfl | rfl <;> rfl
  | flag b => rfl

theorem optionalText_of_misfit (null : v ≠ .null) (text : ∀ s, v ≠ .str s) :
    optionalText v = .error (.wrongType v "a string") := by
  cases v with
  | null => exact (null rfl).elim
  | str s => exact (text s rfl).elim
  | _ => rfl

theorem readMember_of_misfit (raw : Raw) (h : Misfit key v f) : readMember raw key v = .error f := by
  cases h with
  | unknown text flag =>
    have hkeys : key ≠ "system_time" ∧ key ≠ "default_tz" :=
      not_or.mp (fun hkey => text (mem_textKeys.mpr hkey))
    have hflag : key ≠ "default_all_valid_time" := flag
    simp only [readMember, hkeys.1, hkeys.2, hflag, ↓reduceIte]
  | notText recognized null text =>
    have hv := optionalText_of_misfit null text
    rcases mem_textKeys.mp recognized with rfl | rfl
    · simp only [readMember, ↓reduceIte, hv]
      rfl
    · simp only [readMember, hv]
      rfl
  | notFlag flag =>
    have hv : Options.flag v = .error (.wrongType v "a boolean") := by
      cases v with
      | bool b => exact (flag b rfl).elim
      | _ => rfl
    simp only [readMember, flagKey, hv]
    rfl

theorem not_misfit_of_takes (h : Takes key v) : ¬ Misfit key v f := by
  intro hf
  have he := readMember_of_takes ⟨.none, .none, false⟩ h
  rw [readMember_of_misfit _ hf] at he
  exact nomatch he

/-- A member is read just where an option takes it, and what it says is written over the rest. -/
theorem readMember_eq_ok :
    readMember raw key v = .ok raw' ↔ Takes key v ∧ raw' = raw.overlay [(key, v)] := by
  rcases takes_or_misfit key v with h | ⟨f, h⟩
  · rw [readMember_of_takes raw h]
    simp [h, eq_comm]
  · rw [readMember_of_misfit raw h]
    constructor
    · intro he
      exact nomatch he
    · rintro ⟨ht, -⟩
      exact (not_misfit_of_takes ht h).elim

end Member

/-- The members are read over the options one after the other, so the last one of a key counts. -/
theorem readMembers_of_takes (raw : Raw) {ms : Members} (h : ∀ m ∈ ms, Takes m.1 m.2) :
    readMembers raw ms = .ok (raw.overlay ms.reverse) := by
  induction ms generalizing raw with
  | nil => rfl
  | cons m rest ih =>
    obtain ⟨hm, hrest⟩ := List.forall_mem_cons.mp h
    rw [readMembers, readMember_of_takes _ hm]
    dsimp only
    rw [ih _ hrest, Raw.overlay_overlay, List.reverse_cons]

/-- Reading stops at the first misfit. -/
theorem readMembers_of_misfit (raw : Raw) {front back : Members} {key : String} {v : Json}
    {f : MemberFault} (h : ∀ m ∈ front, Takes m.1 m.2) (hf : Misfit key v f) :
    readMembers raw (front ++ (key, v) :: back) = .error f := by
  induction front generalizing raw with
  | nil => rw [List.nil_append, readMembers, readMember_of_misfit raw hf]
  | cons m rest ih =>
    obtain ⟨hm, hrest⟩ := List.forall_mem_cons.mp h
    rw [List.cons_append, readMembers, readMember_of_takes _ hm]
    exact ih _ hrest

theorem takes_or_first_misfit (ms : Members) :
    (∀ m ∈ ms, Takes m.1 m.2) ∨ ∃ front key v back f, ms = front ++ (key, v) :: back ∧
      (∀ m ∈ front, Takes m.1 m.2) ∧ Misfit key v f := by
  induction ms with
  | nil => exact .inl (by simp)
  | cons m rest ih =>
    rcases takes_or_misfit m.1 m.2 with hm | ⟨f, hf⟩
    · rcases ih with hrest | ⟨front, key, v, back, f, rfl, hfront, hf⟩
      · exact .inl (List.forall_mem_cons.mpr ⟨hm, hrest⟩)
      · exact .inr ⟨m :: front, key, v, back, f, rfl, List.forall_mem_cons.mpr ⟨hm, hfront⟩, hf⟩
    · exact .inr ⟨[], m.1, m.2, rest, f, rfl, by simp, hf⟩

def textOf (v : Option Json) : Option String := (v.map Json.asString?).getD .none

theorem systemTimeOf_field {v : Option Json} {t : Option Timestamp} (node : Json)
    (h : Operation.TimeField v t) : systemTimeOf node (textOf v) = .ok t := by
  cases h with
  | absent => rfl
  | null => rfl
  | given reads =>
    simp only [textOf, Option.map_some, Json.asString?, Option.getD_some, systemTimeOf, reads]

theorem ZoneField.textOf_eq {v : Option Json} {z : Option String} (h : ZoneField v z) :
    textOf v = z ∧ z.any Text.isAllBlank = false := by
  cases h with
  | absent => exact ⟨rfl, rfl⟩
  | null => exact ⟨rfl, rfl⟩
  | given said => exact ⟨rfl, (Operation.isAllBlank_eq_false _).mpr said⟩

theorem FlagField.isTrue_eq {v : Option Json} {b : Bool} (h : FlagField v b) :
    (v.map Json.isTrue).getD false = b := by
  cases h <;> rfl

section Stages

variable {ms : Members}

/-- What the members say, when each of them is taken. -/
theorem readMembers_of_fits (order : (Json.obj ms).KeysAscend) (fits : Fits ms) :
    readMembers ⟨.none, .none, false⟩ ms = .ok ⟨textOf (ms.get? "system_time"),
      textOf (ms.get? "default_tz"),
      ((ms.get? "default_all_valid_time").map Json.isTrue).getD false⟩ := by
  rw [readMembers_of_takes]
  · rw [Raw.overlay_congr _ (Members.get?_reverse order)]
    rfl
  · intro m hm
    exact fits m.1 m.2 (Members.get?_of_mem order hm)

/-- The first misfit by the order of keys is the first one that is met. -/
theorem FirstMisfit.readMembers_eq {key : String} {v : Json} {f : MemberFault}
    (order : (Json.obj ms).KeysAscend) (h : FirstMisfit ms key v f) (raw : Raw) :
    readMembers raw ms = .error f := by
  obtain ⟨front, back, rfl⟩ := List.append_of_mem (Members.mem_of_get? h.found)
  refine readMembers_of_misfit raw ?_ h.misfit
  intro m hm
  rcases takes_or_misfit m.1 m.2 with ht | ⟨g, hg⟩
  · exact ht
  · have hlt : m.1 < key := by
      rw [Json.KeysAscend, List.map_append, List.pairwise_append] at order
      exact order.2.2 m.1 (List.mem_map_of_mem hm) key (by simp)
    have hm' := Members.get?_of_mem order (List.mem_append_left _ hm)
    exact absurd (Text.utf8_lt_utf8.mpr hlt) (h.first m.1 m.2 g hm' hg)

/-- In ascending members the first misfit has the least key of all misfits. -/
theorem firstMisfit_of_split {front back : Members} {key : String} {v : Json} {f : MemberFault}
    (order : (Json.obj (front ++ (key, v) :: back)).KeysAscend) (h : ∀ m ∈ front, Takes m.1 m.2)
    (hf : Misfit key v f) : FirstMisfit (front ++ (key, v) :: back) key v f := by
  refine ⟨Members.get?_of_mem order (by simp), hf, ?_⟩
  intro k w g hk hg
  rcases List.mem_append.mp (Members.mem_of_get? hk) with hm | hm
  · exact absurd hg (not_misfit_of_takes (h _ hm))
  · rw [Json.KeysAscend, List.map_append, List.pairwise_append] at order
    have hkey := (List.pairwise_cons.mp order.2.1).1
    rcases List.mem_cons.mp hm with heq | hm
    · obtain ⟨rfl, -⟩ := Prod.mk.inj heq
      exact List.le_refl _
    · have hlt := Text.utf8_lt_utf8.mpr (hkey k (List.mem_map_of_mem hm))
      exact List.le_of_lt hlt

theorem takes_of_timeField {v : Json} {t : Option Timestamp}
    (h : Operation.TimeField (some v) t) : Takes "system_time" v := by
  cases h with
  | null => exact .null (by decide)
  | given reads => exact .text (by decide) _

theorem takes_of_zoneField {v : Json} {z : Option String} (h : ZoneField (some v) z) :
    Takes "default_tz" v := by
  cases h with
  | null => exact .null (by decide)
  | given said => exact .text (by decide) _

theorem takes_of_flagField {v : Json} {b : Bool} (h : FlagField (some v) b) : Takes flagKey v := by
  cases h with
  | given => exact .flag b

theorem Grammar.fits {o : Options} (h : Grammar (.obj ms) o) : Fits ms := by
  intro key v hv
  obtain ⟨recognized, time, zone, flag⟩ := h
  rcases recognized key v hv with htext | rfl
  · rcases mem_textKeys.mp htext with rfl | rfl
    · exact takes_of_timeField (hv ▸ time)
    · exact takes_of_zoneField (hv ▸ zone)
  · exact takes_of_flagField (hv ▸ flag)

/-- Options that follow the grammar are read as what they write. -/
theorem Grammar.ofJson_eq {node : Json} {o : Options} (order : node.KeysAscend)
    (h : Grammar node o) : ofJson node = .ok o := by
  cases h with
  | @object ms o recognized time zone flag =>
    have fits := (Grammar.object recognized time zone flag).fits
    simp only [ofJson, readMembers_of_fits order fits, systemTimeOf_field _ time, zone.textOf_eq.1,
      zone.textOf_eq.2, flag.isTrue_eq, Bool.false_eq_true, ↓reduceIte]

/-- Every refusal is how reading fails, given members in order. -/
theorem Refusal.ofJson_eq {node : Json} {d : Diagnostic} (order : node.KeysAscend)
    (h : Refusal node d) : ofJson node = .error d := by
  cases h with
  | notObject shape =>
    cases node with
    | obj ms => exact (shape ms rfl).elim
    | _ => rfl
  | misfit first =>
    simp only [ofJson, first.readMembers_eq order]
    rfl
  | time fits given unreadable =>
    simp only [ofJson, readMembers_of_fits order fits, given, textOf, Option.map_some,
      Json.asString?, Option.getD_some, systemTimeOf, unreadable]
    rfl
  | @zone ms t text fits time given blank =>
    have hblank : Text.isAllBlank text = true := List.all_eq_true.mpr blank
    simp only [ofJson, readMembers_of_fits order fits, systemTimeOf_field _ time, given,
      show textOf (some (.str text)) = some text from rfl, Option.any_some, hblank, ↓reduceIte]
    rfl

theorem text_of_takes {key : String} {v : Json} (recognized : key ∈ textKeys) (h : Takes key v) :
    v = .null ∨ ∃ s, v = .str s := by
  cases h with
  | null => exact .inl rfl
  | text _ s => exact .inr ⟨s, rfl⟩
  | flag => exact absurd recognized (by decide)

theorem flag_of_takes {v : Json} (h : Takes flagKey v) : ∃ b, v = .bool b := by
  generalize hkey : flagKey = key at h
  cases h with
  | null recognized => exact absurd recognized (hkey ▸ by decide)
  | text recognized => exact absurd recognized (hkey ▸ by decide)
  | flag b => exact ⟨b, rfl⟩

/-- A text under the time key is read, or it is known why not. -/
theorem time_or_fault (fits : Fits ms) :
    (∃ t, Operation.TimeField (ms.get? "system_time") t) ∨
      ∃ text f, ms.get? "system_time" = some (.str text) ∧ Timestamp.read text = .error f := by
  cases hv : ms.get? "system_time" with
  | none => exact .inl ⟨_, .absent⟩
  | some v =>
    rcases text_of_takes (by decide) (fits _ v hv) with rfl | ⟨s, rfl⟩
    · exact .inl ⟨_, .null⟩
    · cases hr : Timestamp.read s with
      | ok t => exact .inl ⟨_, .given hr⟩
      | error f => exact .inr ⟨s, f, rfl, hr⟩

theorem zone_or_blank (fits : Fits ms) :
    (∃ z, ZoneField (ms.get? "default_tz") z) ∨
      ∃ text, ms.get? "default_tz" = some (.str text) ∧
        ∀ c ∈ text.toList, Text.isBlank c = true := by
  cases hv : ms.get? "default_tz" with
  | none => exact .inl ⟨_, .absent⟩
  | some v =>
    rcases text_of_takes (by decide) (fits _ v hv) with rfl | ⟨s, rfl⟩
    · exact .inl ⟨_, .null⟩
    · cases hs : Text.isAllBlank s with
      | false => exact .inl ⟨_, .given ((Operation.isAllBlank_eq_false s).mp hs)⟩
      | true => exact .inr ⟨s, rfl, List.all_eq_true.mp hs⟩

theorem flag_of_fits (fits : Fits ms) :
    ∃ b, FlagField (ms.get? "default_all_valid_time") b := by
  cases hv : ms.get? "default_all_valid_time" with
  | none => exact ⟨_, .absent⟩
  | some v =>
    obtain ⟨b, rfl⟩ := flag_of_takes (fits _ v hv)
    exact ⟨b, .given b⟩

theorem Fits.recognized (fits : Fits ms) :
    ∀ key v, ms.get? key = some v → key ∈ textKeys ∨ key = flagKey := by
  intro key v hv
  cases fits key v hv with
  | null recognized => exact .inl recognized
  | text recognized => exact .inl recognized
  | flag => exact .inr rfl

/-- Each value is of the grammar or has a fault. -/
theorem grammar_or_refusal {node : Json} (order : node.KeysAscend) :
    (∃ o, Grammar node o) ∨ ∃ d, Refusal node d := by
  cases node with
  | obj ms =>
    rcases takes_or_first_misfit ms with hall | ⟨front, key, v, back, f, rfl, hfront, hf⟩
    · have fits : Fits ms := fun key v hv => hall (key, v) (Members.mem_of_get? hv)
      rcases time_or_fault fits with ⟨t, time⟩ | ⟨text, f, given, unreadable⟩
      · rcases zone_or_blank fits with ⟨z, zone⟩ | ⟨text, given, blank⟩
        · obtain ⟨b, flag⟩ := flag_of_fits fits
          exact .inl ⟨⟨t, z, b⟩, .object fits.recognized time zone flag⟩
        · exact .inr ⟨_, .zone fits time given blank⟩
      · exact .inr ⟨_, .time fits given unreadable⟩
    · exact .inr ⟨_, .misfit (firstMisfit_of_split order hfront hf)⟩
  | _ => exact .inr ⟨_, .notObject (by simp)⟩

/-- The reader and the grammar agree on every value: on what is accepted and as which options, and
on what is refused and with which words. -/
theorem ofJson_matches_grammar {node : Json} (order : node.KeysAscend) :
    (∀ o, ofJson node = .ok o ↔ Grammar node o) ∧
      (∀ d, ofJson node = .error d ↔ Refusal node d) :=
  eq_iff_of_exhaustive (fun _ h => h.ofJson_eq order) (fun _ h => h.ofJson_eq order)
    (grammar_or_refusal order)

def allWrong : Members :=
  [("default_all_valid_time", .bool true), ("default_tz", .str " "), ("isolation", .str "serial"),
    ("read_only", .num (.ofInt64 1)), ("system_time", .str "noon")]

/-- Of all that is wrong the first unknown key is told. -/
theorem first_unknown_key_is_told :
    (Json.obj allWrong).KeysAscend ∧ ofJson (.obj allWrong) = .error
      ⟨.malformedTxOptions, some "tx_options has unknown or ill-typed keys",
        some "Recognized keys: system_time, default_tz, default_all_valid_time.",
        [("json", .str (Json.obj allWrong).pretty)],
        ["unknown field `isolation`, " ++
          "expected one of `system_time`, `default_tz`, `default_all_valid_time`"]⟩ := by
  have order : (Json.obj allWrong).KeysAscend := by
    change (allWrong.map Prod.fst).Pairwise (· < ·)
    decide
  have first : FirstMisfit allWrong "isolation" (.str "serial") (.unknownKey "isolation") := by
    refine @firstMisfit_of_split (allWrong.take 2) (allWrong.drop 3) _ _ _ order ?_
      (.unknown (by decide) (by decide) _)
    intro m hm
    rcases List.mem_cons.mp hm with rfl | hm
    · exact .flag true
    · obtain rfl := List.mem_singleton.mp hm
      exact .text (by decide) " "
  exact ⟨order, ((ofJson_matches_grammar order).2 _).mpr (.misfit first)⟩

end Stages

end Options

end Intake
