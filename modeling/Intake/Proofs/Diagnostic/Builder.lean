import Intake.CommandLine.Report
import Intake.Proofs.Members
import Mathlib.Data.List.Induction

namespace Intake

namespace Diagnostic

/-- A step of building. A failure below is known by its words, or was built by steps itself. -/
inductive Step where
  | message (text : String)
  | hint (text : String)
  | context (key : String) (value : Json)
  | json (node : Json)
  | cause (text : String)
  | failure (kind : DiagnosticKind) (steps : List Step)

mutual

def Step.apply : Step → Diagnostic → Diagnostic
  | .message text, d => d.withMessage text
  | .hint text, d => d.withHint text
  | .context key value, d => d.withContext key value
  | .json node, d => d.withJson node
  | .cause text, d => d.withCauses [text]
  | .failure kind steps, d => d.withCause (run steps (.new kind))

def run : List Step → Diagnostic → Diagnostic
  | [], d => d
  | s :: rest, d => run rest (s.apply d)

end

def build (kind : DiagnosticKind) (steps : List Step) : Diagnostic := run steps (.new kind)

theorem run_concat (steps : List Step) (s : Step) (d : Diagnostic) :
    run (steps ++ [s]) d = s.apply (run steps d) := by
  induction steps generalizing d with
  | nil => simp [run]
  | cons t rest ih => simp only [List.cons_append, run, ih]

theorem build_concat (kind : DiagnosticKind) (steps : List Step) (s : Step) :
    build kind (steps ++ [s]) = s.apply (build kind steps) := run_concat steps s _

namespace Step

def message? : Step → Option String
  | .message text => some text
  | _ => none

def hint? : Step → Option String
  | .hint text => some text
  | _ => none

def entry? : Step → Option (String × Json)
  | .context key value => some (key, value)
  | .json node => some (jsonKey, .str node.pretty)
  | _ => none

def isSource : Step → Bool
  | .cause _ | .failure .. => true
  | _ => false

def texts : Step → List String
  | .cause text => [text]
  | .failure kind steps => (build kind steps).text :: (build kind steps).causes
  | _ => []

end Step

def written (steps : List Step) : List (String × Json) := steps.filterMap Step.entry?

def lastSource (steps : List Step) : Option Step := (steps.filter Step.isSource).getLast?

/-- The words of all failures below, from the outermost inwards: each failure that was built is
asked for the one that was put below it. -/
inductive Chain : List Step → List String → Prop where
  | done {steps} (h : lastSource steps = none) : Chain steps []
  | foreign {steps text} (h : lastSource steps = some (.cause text)) : Chain steps [text]
  | built {steps kind inner texts} (h : lastSource steps = some (.failure kind inner))
      (below : Chain inner texts) : Chain steps ((build kind inner).text :: texts)

def reported (d : Diagnostic) (key : String) : Option Json :=
  (d.report.get? "error").bind (·.get? key)

structure Step.Keeps (s : Step) (d e : Diagnostic) : Prop where
  kind : e.kind = d.kind
  message : s.message? = none → e.message = d.message
  hint : s.hint? = none → e.hint = d.hint
  causes : s.isSource = false → e.causes = d.causes
  context : s.entry? = none → e.context = d.context
  values : ∀ key, (∀ value, s.entry? ≠ some (key, value)) → e.context? key = d.context? key
  order : (d.context.map Prod.fst) <+: (e.context.map Prod.fst)

structure Holds (kind : DiagnosticKind) (steps : List Step) (d : Diagnostic) : Prop where
  kind : d.kind = kind
  message : d.message = (steps.filterMap Step.message?).getLast?
  hint : d.hint = (steps.filterMap Step.hint?).getLast?
  distinct : (d.context.map Prod.fst).Nodup
  order : d.context.map Prod.fst = ((written steps).map Prod.fst).eraseDups
  values : ∀ key, d.context? key = (written steps).reverse.lookup key
  causes : d.causes = ((lastSource steps).map Step.texts).getD []

section Entries

variable (key : String) (value : Json) (entries : List (String × Json))

/-- A new key goes behind all others, a known one stays where it is. -/
theorem setEntry_keys : (setEntry key value entries).map Prod.fst =
    if key ∈ entries.map Prod.fst then entries.map Prod.fst
    else entries.map Prod.fst ++ [key] := by
  induction entries with
  | nil => rfl
  | cons e rest ih =>
    obtain ⟨k, v⟩ := e
    unfold setEntry
    by_cases hk : k = key
    · simp [hk]
    · rw [if_neg hk, List.map_cons, ih]
      simp only [List.map_cons, List.mem_cons, Ne.symm hk, false_or]
      split <;> rfl

/-- Writing an entry changes what stands under its own key, and nothing else. -/
theorem get?_setEntry (k : String) : Members.get? (setEntry key value entries) k =
    if k = key then some value else Members.get? entries k := by
  induction entries with
  | nil => exact Members.get?_cons key k value []
  | cons e rest ih =>
    obtain ⟨l, v⟩ := e
    unfold setEntry
    split
    · rename_i hl
      subst hl
      rw [Members.get?_cons, Members.get?_cons]
      split <;> rfl
    · rename_i hl
      rw [Members.get?_cons, Members.get?_cons, ih]
      by_cases hk : k = l
      · subst hk
        simp [hl]
      · simp [hk]

end Entries

/-- All that a step does: each attribute that it names it sets, the others it takes over. -/
theorem Step.apply_eq (s : Step) (d : Diagnostic) : s.apply d = {
    kind := d.kind
    message := s.message?.or d.message
    hint := s.hint?.or d.hint
    context := s.entry?.elim d.context fun e => setEntry e.1 e.2 d.context
    causes := if s.isSource then s.texts else d.causes } := by
  cases s <;> rfl

/-- Every step keeps what it does not name. -/
theorem Step.keeps (s : Step) (d : Diagnostic) : s.Keeps d (s.apply d) := by
  rw [s.apply_eq]
  constructor
  case kind => rfl
  case message | hint =>
    intro h
    simp only [h, Option.none_or]
  case causes =>
    intro h
    simp only [h, Bool.false_eq_true, ↓reduceIte]
  case context =>
    intro h
    simp only [h, Option.elim_none]
  case values =>
    intro key h
    cases he : s.entry? with
    | none => rfl
    | some e =>
      have hne : key ≠ e.1 := by
        rintro rfl
        exact h e.2 he
      exact (get?_setEntry e.1 e.2 d.context key).trans (if_neg hne)
  case order =>
    cases s.entry? with
    | none => exact List.prefix_rfl
    | some e =>
      simp only [Option.elim_some, setEntry_keys]
      split
      · exact List.prefix_rfl
      · exact List.prefix_append _ _

section Steps

variable {kind : DiagnosticKind} {steps : List Step} {d : Diagnostic}

theorem written_concat (steps : List Step) (s : Step) :
    written (steps ++ [s]) = written steps ++ s.entry?.toList := by
  rw [written, List.filterMap_append, List.filterMap_cons]
  cases s.entry? <;> rfl

theorem lastSource_concat (steps : List Step) (s : Step) : lastSource (steps ++ [s]) =
    if s.isSource then some s else lastSource steps := by
  rw [lastSource, List.filter_append, List.filter_cons]
  split <;> simp [lastSource]

theorem getLast?_concat {α : Type} (f : Step → Option α) (steps : List Step) (s : Step) :
    ((steps ++ [s]).filterMap f).getLast? = (f s).or (steps.filterMap f).getLast? := by
  rw [List.filterMap_append, List.filterMap_cons]
  cases f s <;> simp

/-- A key that comes once more adds nothing to the order of first insertion. -/
theorem eraseDups_concat (keys : List String) (key : String) : (keys ++ [key]).eraseDups =
    if key ∈ keys.eraseDups then keys.eraseDups else keys.eraseDups ++ [key] := by
  rw [List.eraseDups_append, List.removeAll, List.filter_cons, List.filter_nil]
  simp only [List.mem_eraseDups, List.elem_eq_contains, List.contains_eq_mem]
  by_cases h : key ∈ keys
  · simp [h]
  · simp only [h, decide_false, Bool.not_false, ↓reduceIte]
    rfl

/-- What one more step leaves is what the steps said and it said last. -/
theorem Holds.concat (h : Holds kind steps d) (s : Step) :
    Holds kind (steps ++ [s]) (s.apply d) := by
  rw [s.apply_eq]
  constructor
  case kind => exact h.kind
  case message => rw [getLast?_concat, h.message]
  case hint => rw [getLast?_concat, h.hint]
  case distinct =>
    cases s.entry? with
    | none => exact h.distinct
    | some e =>
      simp only [Option.elim_some, setEntry_keys]
      split
      · exact h.distinct
      · rename_i hnew
        refine List.nodup_append.mpr ⟨h.distinct, List.pairwise_singleton _ _, ?_⟩
        rintro k hk l hl rfl
        rw [List.mem_singleton.mp hl] at hk
        exact hnew hk
  case order =>
    rw [written_concat]
    cases s.entry? with
    | none => simpa using h.order
    | some e =>
      simp only [Option.elim_some, Option.toList_some, List.map_append, List.map_cons,
        List.map_nil]
      rw [setEntry_keys, eraseDups_concat, h.order]
  case values =>
    intro key
    rw [written_concat, List.reverse_append]
    cases s.entry? with
    | none => exact h.values key
    | some e =>
      have hvalue := h.values key
      have hset := get?_setEntry e.1 e.2 d.context key
      have hcons := Members.get?_cons e.1 key e.2 (written steps).reverse
      exact hset.trans ((congrArg _ hvalue).trans hcons.symm)
  case causes =>
    rw [lastSource_concat]
    cases s.isSource with
    | true => rfl
    | false => exact h.causes

/-- Whatever steps a diagnostic is built by, it holds what they said. -/
theorem build_holds (kind : DiagnosticKind) (steps : List Step) :
    Holds kind steps (build kind steps) := by
  induction steps using List.reverseRecOn with
  | nil => exact ⟨rfl, rfl, rfl, List.nodup_nil, rfl, fun _ => rfl, rfl⟩
  | append_singleton steps s ih =>
    rw [build_concat]
    exact ih.concat s

end Steps

section Chains

theorem mem_of_lastSource {steps : List Step} {s : Step} (h : lastSource steps = some s) :
    s ∈ steps ∧ s.isSource = true := List.mem_filter.mp (List.mem_of_getLast? h)

/-- The words below a diagnostic are those of the whole chain. -/
theorem chain_build (kind : DiagnosticKind) (steps : List Step) :
    Chain steps (build kind steps).causes := by
  rw [(build_holds kind steps).causes]
  cases hs : lastSource steps with
  | none => exact .done hs
  | some s =>
    obtain ⟨hmem, hsource⟩ := mem_of_lastSource hs
    cases s with
    | cause text => exact .foreign hs
    | failure inner below => exact .built hs (chain_build inner below)
    | message | hint | context | json => cases hsource
termination_by sizeOf steps
decreasing_by
  have hsize := List.sizeOf_lt_of_mem hmem
  simp only [Step.failure.sizeOf_spec] at hsize
  omega

/-- The steps determine the chain of failures. -/
theorem Chain.unique {steps : List Step} {xs ys : List String} (hx : Chain steps xs)
    (hy : Chain steps ys) : xs = ys := by
  induction hx generalizing ys with
  | done h =>
    cases hy with
    | done => rfl
    | foreign g | built g => cases h.symm.trans g
  | foreign h =>
    cases hy with
    | done g | built g => cases h.symm.trans g
    | foreign g =>
      cases h.symm.trans g
      rfl
  | built h below ih =>
    cases hy with
    | done g | foreign g => cases h.symm.trans g
    | built g below' =>
      cases h.symm.trans g
      rw [ih below']

end Chains

section Report

/-- Where the report has its context and its causes. -/
theorem reported_eq (d : Diagnostic) :
    reported d "context" = (if d.context.isEmpty then none else some (.object d.context)) ∧
    reported d "causes" =
      (if d.causes.isEmpty then none else some (.arr (d.causes.map .str))) := by
  unfold reported report Json.object Json.get?
  simp only [Members.get?_ofList, List.reverse_cons, List.reverse_append, List.reverse_nil,
    List.nil_append, Members.get?_append, Members.get?_cons, Members.get?_nil, ↓reduceIte,
    Option.bind_some]
  cases d.hint <;> cases d.context.isEmpty <;> cases d.causes.isEmpty <;> simp

structure Faithful (kind : DiagnosticKind) (steps : List Step) (d : Diagnostic) : Prop
    extends Holds kind steps d where
  keeps : ∀ s : Step, s.Keeps d (s.apply d)
  json : d.json? = ((written steps).reverse.lookup jsonKey).bind Json.asString?
  chain : ∀ texts, Chain steps texts ↔ texts = d.causes
  no_context : d.context = [] → reported d "context" = none
  context_told : d.context ≠ [] →
    ∃ ms : Members, reported d "context" = some (.obj ms) ∧ ms.Perm d.context
  no_causes : Chain steps [] → reported d "causes" = none
  causes_told : ∀ text below, Chain steps (text :: below) →
    reported d "causes" = some (.arr ((text :: below).map .str))

/-- Building is faithful: whatever the steps and the failures below are, the context is the map that
they wrote, in the order in which its keys came, the last word on each attribute counts, and the
report has every entry of the context and the words of the whole chain of failures. -/
theorem build_is_faithful (kind : DiagnosticKind) (steps : List Step) :
    Faithful kind steps (build kind steps) := by
  have holds := build_holds kind steps
  have hchain := chain_build kind steps
  obtain ⟨hcontext, hcauses⟩ := reported_eq (build kind steps)
  constructor
  case toHolds => exact holds
  case keeps => exact fun s => s.keeps _
  case json => rw [json?, holds.values]
  case chain =>
    intro texts
    constructor
    · exact fun h => h.unique hchain
    · rintro rfl
      exact hchain
  case no_context =>
    intro h
    rw [hcontext, h]
    rfl
  case context_told =>
    intro h
    rw [hcontext, if_neg (by simpa using h)]
    exact ⟨_, rfl, Members.ofList_perm holds.distinct⟩
  case no_causes =>
    intro h
    rw [hcauses, hchain.unique h]
    rfl
  case causes_told =>
    intro text below h
    rw [hcauses, hchain.unique h]
    rfl

/-- A key written again stands where it stood, and the failure of a failure is told behind it. -/
example :
    let d := build .malformedTx [.context "b" .null, .context "a" .null, .context "b" (.bool true),
      .failure .malformedExpr [.message "odd", .cause "lost"]]
    d.context.map Prod.fst = ["b", "a"] ∧
      d.causes = ["query/malformed-expr: odd", "lost"] := by decide

end Report

end Diagnostic

end Intake
