import HeaderBridge.DictionarySteps
import HeaderBridge.Proofs.Typedefs

/-!
# Runs on a dictionary

What steps add is known from the steps (`addedRules`) : until the dictionary is closed each
rule that is added counts, and a typedef line adds its alias with what its type stands for at
that point. Whatever is done to a dictionary, it holds these rules, each put into the ordered
map in its turn (`DictionaryState.holds_run`). So the raw tokens stand in the order in which
they came first (`keys_foldl_insert`), and each of them has the target with which it came last
(`lookup_foldl_insert`).

A closed dictionary is never changed again (`DictionaryState.dictionary_run_of_frozen`). It
refuses the steps that are to add a rule and no others, and an open one refuses none
(`DictionaryState.refused_iff`).
-/

namespace HeaderBridge

open Text

/-! ## Rules put in one after another -/

/-- The target with which a raw token came last among the rules. -/
def latestTarget (rules : List Rule) (raw : Text) : Option Text :=
  (rules.reverse.find? fun r => r.raw = raw).map Rule.target

theorem latestTarget_append (rules more : List Rule) (raw : Text) :
    latestTarget (rules ++ more) raw = (latestTarget more raw).or (latestTarget rules raw) := by
  rw [latestTarget, List.reverse_append, List.find?_append, Option.map_or]
  rfl

theorem latestTarget_singleton (r : Rule) (raw : Text) :
    latestTarget [r] raw = if r.raw = raw then some r.target else none := by
  by_cases h : r.raw = raw <;> simp [latestTarget, h]

namespace Dictionary

/-- New raw tokens stand behind those that were there, in the order in which they came
first. -/
theorem keys_foldl_insert (rules : List Rule) (m : OrderedMap Text Text) :
    (rules.foldl (fun m r => OrderedMap.insert m r.raw r.target) m).keys =
      m.keys ++ ((rules.map Rule.raw).filter fun raw => decide (raw ∉ m.keys)).eraseDups := by
  induction rules generalizing m with
  | nil => simp
  | cons r rules ih =>
    rw [List.foldl_cons, ih, OrderedMap.keys_insert, List.map_cons]
    by_cases hr : r.raw ∈ m.keys
    · rw [if_pos hr, List.filter_cons_of_neg (by simpa using hr)]
    · rw [if_neg hr, List.filter_cons_of_pos (by simpa using hr), List.eraseDups_cons,
        List.filter_filter, List.append_assoc, List.singleton_append]
      congr 3
      refine List.filter_congr fun raw _ => ?_
      by_cases hraw : raw = r.raw <;> simp [hraw]

/-- Each raw token has the target with which it came last. -/
theorem lookup_foldl_insert (rules : List Rule) (m : OrderedMap Text Text) (raw : Text) :
    (rules.foldl (fun m r => OrderedMap.insert m r.raw r.target) m).lookup raw =
      (latestTarget rules raw).or (m.lookup raw) := by
  induction rules generalizing m with
  | nil => rfl
  | cons r rules ih =>
    rw [List.foldl_cons, ih, OrderedMap.lookup_insert, ← List.singleton_append,
      latestTarget_append, latestTarget_singleton, Option.or_assoc]
    by_cases hr : r.raw = raw <;> simp [hr]

end Dictionary

/-! ## Typedef lines -/

section

variable {d : Dictionary} {line type name : Text}

theorem Dictionary.registerTypedef_of_frozen (hd : d.frozen = true)
    (h : readTypedef line = some (type, name)) : d.registerTypedef line = .error ⟨name⟩ := by
  have hinsert : d.insert? name (d.resolve type) = .error ⟨name⟩ :=
    Dictionary.insert?_eq_error_iff.2 ⟨hd, rfl⟩
  simp [registerTypedef, h, hinsert]

/-- An open dictionary registers rules without a refusal, and has put them in one after
another. -/
theorem resolveTypedefs_of_open (hd : d.frozen = false) (lines : List Text) :
    (resolveTypedefs d lines).refused = none ∧
      (resolveTypedefs d lines).dictionary.frozen = false ∧
      (resolveTypedefs d lines).dictionary.rules =
        (resolveTypedefs d lines).registered.foldl
          (fun m r => OrderedMap.insert m r.raw r.target) d.rules := by
  induction lines generalizing d with
  | nil => exact ⟨rfl, hd, rfl⟩
  | cons line lines ih =>
    unfold resolveTypedefs
    by_cases hb : line.isBlank = true
    · simpa [hb] using ih hd
    · cases hr : readTypedef line with
      | none => simpa [hb, Dictionary.registerTypedef_of_none hr] using ih hd
      | some a =>
        have hkept : (d.register a.1 a.2).frozen = false := hd
        simp only [hb, Bool.false_eq_true, if_false, Dictionary.registerTypedef_of_some hd hr]
        exact ih hkept

/-- A closed dictionary refuses the first typedef line and is left as it is. -/
theorem resolveTypedefs_of_frozen (hd : d.frozen = true) (lines : List Text) :
    (resolveTypedefs d lines).dictionary = d ∧ (resolveTypedefs d lines).registered = [] ∧
      (resolveTypedefs d lines).refused =
        (lines.filterMap readTypedef).head?.map fun a => ⟨a.2⟩ := by
  induction lines with
  | nil => exact ⟨rfl, rfl, rfl⟩
  | cons line lines ih =>
    unfold resolveTypedefs
    by_cases hb : line.isBlank = true
    · simpa [hb, readTypedef_of_isBlank hb] using ih
    · cases hr : readTypedef line with
      | none => simpa [hb, hr, Dictionary.registerTypedef_of_none hr] using ih
      | some a => simp [hb, hr, Dictionary.registerTypedef_of_frozen hd hr]

end

/-! ## What steps add -/

/-- The rules that typedef lines add to those that are known : each alias with what its type
stands for by then. A line of another form adds nothing. -/
def typedefRules (known : List Rule) : List Text → List Rule
  | [] => []
  | line :: lines =>
    match readTypedef line with
    | none => typedefRules known lines
    | some (type, name) =>
      let rule : Rule := (name, (latestTarget known type).getD type)
      rule :: typedefRules (known ++ [rule]) lines

/-- The rules that a step adds to those that are known. -/
def DictionaryStep.adds (known : List Rule) : DictionaryStep → List Rule
  | .add raw target => [(raw, target)]
  | .typedef line => typedefRules known [line]
  | .resolve lines => typedefRules known lines
  | _ => []

/-- The rules that steps add to those that are known, until the dictionary is closed. -/
def addedRules (known : List Rule) : List DictionaryStep → List Rule
  | [] => []
  | .freeze :: _ => []
  | step :: steps => step.adds known ++ addedRules (known ++ step.adds known) steps

theorem typedefRules_of_filterMap_eq_nil {known : List Rule} {lines : List Text}
    (h : lines.filterMap readTypedef = []) : typedefRules known lines = [] := by
  induction lines with
  | nil => rfl
  | cons line lines ih =>
    cases hr : readTypedef line with
    | none =>
      rw [List.filterMap_cons_none hr] at h
      simp only [typedefRules, hr, ih h]
    | some a => simp [hr] at h

namespace Dictionary

variable {d : Dictionary} {known : List Rule}

/-- The dictionary is that of the rules, put in one after another. -/
def Holds (d : Dictionary) (rules : List Rule) : Prop :=
  d.rules = rules.foldl (fun m r => OrderedMap.insert m r.raw r.target) []

theorem holds_ofRules (rules : List Rule) : (ofRules rules).Holds rules := rfl

theorem Holds.nodup_keys (h : d.Holds known) : d.rules.keys.Nodup := by
  rw [h]
  exact nodup_keys_foldl_insert known List.nodup_nil

theorem Holds.keys (h : d.Holds known) : d.rules.keys = (known.map Rule.raw).eraseDups := by
  rw [h, keys_foldl_insert, List.filter_eq_self.2 (by simp [OrderedMap.keys])]
  rfl

theorem Holds.lookup (h : d.Holds known) (raw : Text) : d.lookup raw = latestTarget known raw := by
  rw [Dictionary.lookup, h, lookup_foldl_insert]
  simp

theorem Holds.insert (h : d.Holds known) (r : Rule) :
    ({ d with rules := d.rules.insert r.raw r.target } : Dictionary).Holds (known ++ [r]) := by
  rw [Holds, List.foldl_append, ← h]
  rfl

theorem Holds.register (h : d.Holds known) (type name : Text) :
    (d.register type name).Holds (known ++ [(name, (latestTarget known type).getD type)]) := by
  rw [← h.lookup type]
  exact h.insert (name, d.resolve type)

/-- An open dictionary registers the rules that the lines add to its own. -/
theorem Holds.registered_resolveTypedefs (hd : d.frozen = false) (h : d.Holds known)
    (lines : List Text) : (resolveTypedefs d lines).registered = typedefRules known lines := by
  induction lines generalizing d known with
  | nil => rfl
  | cons line lines ih =>
    unfold resolveTypedefs typedefRules
    by_cases hb : line.isBlank = true
    · simpa [hb, readTypedef_of_isBlank hb] using ih hd h
    · cases hr : readTypedef line with
      | none => simpa [hb, registerTypedef_of_none hr] using ih hd h
      | some a =>
        have hkept : (d.register a.1 a.2).frozen = false := hd
        simp only [hb, Bool.false_eq_true, if_false, registerTypedef_of_some hd hr,
          ih hkept (h.register a.1 a.2)]
        rw [resolve, h.lookup]

/-- Lines of which none is refused are registered. A closed dictionary refuses all lines but
those that add nothing. -/
theorem Holds.registered_of_refused_eq_none (h : d.Holds known) {lines : List Text}
    (hrefused : (resolveTypedefs d lines).refused = none) :
    (resolveTypedefs d lines).registered = typedefRules known lines := by
  cases hd : d.frozen with
  | false => exact h.registered_resolveTypedefs hd lines
  | true =>
    obtain ⟨-, hregistered, hfirst⟩ := resolveTypedefs_of_frozen hd lines
    have hnone : lines.filterMap readTypedef = [] := by
      rwa [hfirst, Option.map_eq_none_iff, List.head?_eq_none_iff] at hrefused
    rw [hregistered, typedefRules_of_filterMap_eq_nil hnone]

theorem Holds.resolveTypedefs (hd : d.frozen = false) (h : d.Holds known) (lines : List Text) :
    (resolveTypedefs d lines).dictionary.Holds (known ++ typedefRules known lines) := by
  rw [Holds, (resolveTypedefs_of_open hd lines).2.2, h.registered_resolveTypedefs hd,
    List.foldl_append, ← h]

end Dictionary

/-! ## Steps -/

/-- The line has the form of a typedef line, with anything behind the semicolon. -/
def IsTypedefLine (line : Text) : Prop :=
  ∃ type name, IsWord type ∧ IsWord name ∧ ∃ b b' rest, isBlank b = true ∧ isBlank b' = true ∧
    line = "typedef".toList ++ b :: (type ++ b' :: (name ++ ';' :: rest))

theorem isTypedefLine_iff {line : Text} :
    IsTypedefLine line ↔ ∃ a, readTypedef line = some a := by
  constructor
  · rintro ⟨type, name, h⟩
    exact ⟨(type, name), readTypedef_eq_some_iff.2 h⟩
  · rintro ⟨⟨type, name⟩, h⟩
    exact ⟨type, name, readTypedef_eq_some_iff.1 h⟩

/-- The step is to add a rule. -/
def DictionaryStep.AddsRule : DictionaryStep → Prop
  | .add .. => True
  | .typedef line => IsTypedefLine line
  | .resolve lines => ∃ line ∈ lines, IsTypedefLine line
  | _ => False

namespace DictionaryState

variable {s : DictionaryState} {known : List Rule}

/-- An open dictionary takes in the rules that a step adds. -/
theorem holds_perform (hd : s.dictionary.frozen = false) (h : s.dictionary.Holds known)
    (step : DictionaryStep) :
    (s.perform step).1.dictionary.Holds (known ++ step.adds known) := by
  cases step with
  | add raw target =>
    simp only [perform, Dictionary.insert?, hd, Bool.false_eq_true, if_false]
    exact h.insert (raw, target)
  | typedef line =>
    simp only [perform, DictionaryStep.adds, typedefRules]
    cases hr : readTypedef line with
    | none => simpa [Dictionary.registerTypedef_of_none hr] using h
    | some a => simpa [Dictionary.registerTypedef_of_some hd hr] using h.register a.1 a.2
  | resolve lines => exact h.resolveTypedefs hd lines
  | freeze =>
    show s.dictionary.Holds (known ++ [])
    rwa [List.append_nil]
  | lookup raw => simpa [perform, DictionaryStep.adds] using h
  | substitute line => simpa [perform, DictionaryStep.adds] using h
  | rewrite line => simpa [perform, DictionaryStep.adds] using h

/-- What a step answers to have added is what it adds. -/
theorem eq_adds_of_perform (h : s.dictionary.Holds known) {step : DictionaryStep}
    {rules : List Rule} (hanswer : (s.perform step).2 = .added rules) :
    rules = step.adds known := by
  cases step with
  | add raw target =>
    simp only [perform] at hanswer
    split at hanswer
    · exact (StepAnswer.added.inj hanswer).symm
    · cases hanswer
  | freeze => exact (StepAnswer.added.inj hanswer).symm
  | typedef line =>
    simp only [DictionaryStep.adds, typedefRules]
    cases hr : readTypedef line with
    | none =>
      simp only [perform, Dictionary.registerTypedef_of_none hr] at hanswer
      exact (StepAnswer.added.inj hanswer).symm
    | some a =>
      cases hd : s.dictionary.frozen with
      | false =>
        simp only [perform, Dictionary.registerTypedef_of_some hd hr] at hanswer
        rw [← StepAnswer.added.inj hanswer, Dictionary.resolve, h.lookup]
      | true =>
        simp only [perform, Dictionary.registerTypedef_of_frozen hd hr] at hanswer
        cases hanswer
  | resolve lines =>
    simp only [perform] at hanswer
    cases hrefused : (resolveTypedefs s.dictionary lines).refused with
    | none =>
      rw [hrefused] at hanswer
      rw [← StepAnswer.added.inj hanswer]
      exact h.registered_of_refused_eq_none hrefused
    | some e =>
      rw [hrefused] at hanswer
      cases hanswer
  | lookup raw => cases hanswer
  | substitute line => cases hanswer
  | rewrite line => cases hanswer

/-- A dictionary is closed by one step only, and for good. -/
theorem frozen_perform (s : DictionaryState) (step : DictionaryStep) :
    (s.perform step).1.dictionary.frozen = true ↔
      s.dictionary.frozen = true ∨ step = .freeze := by
  cases step with
  | add raw target =>
    simp only [perform, reduceCtorEq, or_false]
    split
    · next h =>
      obtain ⟨-, rfl⟩ := Dictionary.insert?_eq_ok_iff.1 h
      rfl
    · rfl
  | typedef line =>
    simp only [perform, reduceCtorEq, or_false]
    split
    · next h => rw [frozen_of_registerTypedef h]
    · rfl
    · rfl
  | resolve lines =>
    simp only [perform, reduceCtorEq, or_false]
    cases hd : s.dictionary.frozen with
    | false => rw [(resolveTypedefs_of_open hd lines).2.1]
    | true => rw [(resolveTypedefs_of_frozen hd lines).1, hd]
  | freeze => simp [perform, Dictionary.freeze]
  | lookup raw => simp [perform]
  | substitute line => simp [perform]
  | rewrite line => simp [perform]

/-- A step is refused exactly if the dictionary is closed and the step is to add a rule. -/
theorem refused_iff (s : DictionaryState) (step : DictionaryStep) :
    (∃ e, (s.perform step).2 = .refused e) ↔ s.dictionary.frozen = true ∧ step.AddsRule := by
  cases step with
  | add raw target =>
    cases hd : s.dictionary.frozen <;>
      simp [perform, Dictionary.insert?, hd, DictionaryStep.AddsRule]
  | typedef line =>
    simp only [perform, DictionaryStep.AddsRule, isTypedefLine_iff]
    cases hr : readTypedef line with
    | none => simp [Dictionary.registerTypedef_of_none hr]
    | some a =>
      cases hd : s.dictionary.frozen with
      | false => simp [Dictionary.registerTypedef_of_some hd hr]
      | true => simp [Dictionary.registerTypedef_of_frozen hd hr]
  | resolve lines =>
    simp only [perform, DictionaryStep.AddsRule, isTypedefLine_iff]
    cases hd : s.dictionary.frozen with
    | false => simp [(resolveTypedefs_of_open hd lines).1]
    | true =>
      rw [(resolveTypedefs_of_frozen hd lines).2.2]
      cases hl : lines.filterMap readTypedef with
      | nil =>
        have hnone : ¬ ∃ line ∈ lines, ∃ a, readTypedef line = some a := by
          rintro ⟨line, hline, a, ha⟩
          have hmem : a ∈ lines.filterMap readTypedef := List.mem_filterMap.2 ⟨line, hline, ha⟩
          simp [hl] at hmem
        simpa using hnone
      | cons a as =>
        obtain ⟨line, hline, ha⟩ := List.mem_filterMap.1 (hl ▸ List.mem_cons_self : a ∈ _)
        simp only [List.head?_cons, Option.map_some, StepAnswer.refused.injEq, exists_eq',
          true_and, true_iff]
        exact ⟨line, hline, a, ha⟩
  | freeze => simp [perform, DictionaryStep.AddsRule]
  | lookup raw => simp [perform, DictionaryStep.AddsRule]
  | substitute line => simp [perform, DictionaryStep.AddsRule]
  | rewrite line => simp [perform, DictionaryStep.AddsRule]

/-- A closed dictionary is left as it is. -/
theorem dictionary_perform_of_frozen (hd : s.dictionary.frozen = true) (step : DictionaryStep) :
    (s.perform step).1.dictionary = s.dictionary := by
  cases step with
  | add raw target => simp [perform, Dictionary.insert?, hd]
  | typedef line =>
    simp only [perform]
    cases hr : readTypedef line with
    | none => simp [Dictionary.registerTypedef_of_none hr]
    | some a => simp [Dictionary.registerTypedef_of_frozen hd hr]
  | resolve lines => exact (resolveTypedefs_of_frozen hd lines).1
  | freeze =>
    show { s.dictionary with frozen := true } = s.dictionary
    rw [← hd]
  | lookup raw => rfl
  | substitute line => rfl
  | rewrite line => rfl

/-! ## Runs -/

theorem run_append (s : DictionaryState) (a b : List DictionaryStep) :
    s.run (a ++ b) = (((s.run a).1.run b).1, (s.run a).2 ++ ((s.run a).1.run b).2) := by
  induction a generalizing s with
  | nil => rfl
  | cons step a ih => simp [run, ih]

theorem frozen_run (s : DictionaryState) (steps : List DictionaryStep) :
    (s.run steps).1.dictionary.frozen = true ↔
      s.dictionary.frozen = true ∨ .freeze ∈ steps := by
  induction steps generalizing s with
  | nil => simp [run]
  | cons step steps ih =>
    simp only [run]
    rw [ih, frozen_perform, or_assoc, List.mem_cons, eq_comm (a := step)]

/-- Nothing changes a closed dictionary. -/
theorem dictionary_run_of_frozen (hd : s.dictionary.frozen = true)
    (steps : List DictionaryStep) : (s.run steps).1.dictionary = s.dictionary := by
  induction steps generalizing s with
  | nil => rfl
  | cons step steps ih =>
    have hstep := dictionary_perform_of_frozen hd step
    simp only [run]
    rw [ih (hstep ▸ hd), hstep]

/-- An open dictionary takes in the rules that the steps add, and none behind its closing. -/
theorem holds_run (hd : s.dictionary.frozen = false) (h : s.dictionary.Holds known)
    (steps : List DictionaryStep) :
    (s.run steps).1.dictionary.Holds (known ++ addedRules known steps) := by
  induction steps generalizing s known with
  | nil => simpa [run, addedRules] using h
  | cons step steps ih =>
    by_cases hstep : step = .freeze
    · subst hstep
      have hclosed := (frozen_perform s .freeze).2 (.inr rfl)
      have hkept := holds_perform hd h .freeze
      rw [← dictionary_run_of_frozen hclosed steps] at hkept
      exact hkept
    · have hopen : (s.perform step).1.dictionary.frozen = false := by
        rw [← Bool.not_eq_true, frozen_perform]
        simp [hd, hstep]
      have hrest := ih hopen (holds_perform hd h step)
      have hadded : addedRules known (step :: steps) =
          step.adds known ++ addedRules (known ++ step.adds known) steps := by
        cases step with
        | freeze => exact absurd rfl hstep
        | _ => rfl
      rw [hadded, ← List.append_assoc]
      exact hrest

/-- After any steps on the dictionary of some rules, each raw token has one rule, in the
place in which it was added first and with the target with which it was added last, and a step
answers with the rules that it adds. Once the dictionary is closed it is never changed again,
and exactly the steps that are to add a rule are refused, which changes nothing. -/
theorem run_ofRules (seed : List Rule) (steps : List DictionaryStep) :
    let start : DictionaryState := { dictionary := .ofRules seed }
    let s := (start.run steps).1
    let added := seed ++ addedRules seed steps
    s.dictionary.rules.keys.Nodup ∧
      s.dictionary.rules.keys = (added.map Rule.raw).eraseDups ∧
      (∀ r ∈ s.dictionary.rules, latestTarget added (Rule.raw r) = some (Rule.target r)) ∧
      (∀ raw, (s.perform (.lookup raw)).2 = .target (latestTarget added raw)) ∧
      (∀ step rules, (s.perform step).2 = .added rules → rules = step.adds added) ∧
      (s.dictionary.frozen = true ↔ .freeze ∈ steps) ∧
      (.freeze ∈ steps → ∀ more,
        (start.run (steps ++ more)).1.dictionary.rules = s.dictionary.rules) ∧
      ∀ step, ((∃ e, (s.perform step).2 = .refused e) ↔
          s.dictionary.frozen = true ∧ step.AddsRule) ∧
        ∀ e, (s.perform step).2 = .refused e →
          (s.perform step).1.dictionary.rules = s.dictionary.rules := by
  intro start s added
  have hholds : s.dictionary.Holds added := holds_run rfl (Dictionary.holds_ofRules seed) steps
  have hfrozen : s.dictionary.frozen = true ↔ .freeze ∈ steps := by
    rw [show s.dictionary.frozen = true ↔ _ from frozen_run start steps]
    simp [start, Dictionary.ofRules]
  refine ⟨hholds.nodup_keys, hholds.keys, fun r hr => ?_, fun raw => ?_,
    fun step rules => eq_adds_of_perform hholds, hfrozen, fun hmem more => ?_, fun step => ?_⟩
  · rw [← hholds.lookup]
    exact (OrderedMap.lookup_eq_some_iff hholds.nodup_keys).2 hr
  · exact congrArg StepAnswer.target (hholds.lookup raw)
  · rw [run_append]
    exact congrArg Dictionary.rules (dictionary_run_of_frozen (hfrozen.2 hmem) more)
  · refine ⟨refused_iff s step, fun e he => ?_⟩
    have hd := ((refused_iff s step).1 ⟨e, he⟩).1
    rw [dictionary_perform_of_frozen hd]

end DictionaryState

end HeaderBridge
