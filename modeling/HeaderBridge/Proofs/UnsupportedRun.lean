import HeaderBridge.UnsupportedSteps
import HeaderBridge.Proofs.Survey
import Mathlib.Data.List.DropRight

/-!
# Runs on the unsupported types

Each step brings some types (`UnsupportedStep.brings`) : a type that is added, or the types
of a signature, blank ones and those left out that the dictionary puts in at that moment.
Whatever the steps are, the unsupported types are those brought since they were last
forgotten, in the order in which they were brought first (`UnsupportedState.types_run`).
What the dictionary learns afterwards takes none of them away (`types_prefix_run`).

A step announces the types that are there after it and were not before it, and no others
(`UnsupportedState.run_fresh`).
-/

namespace HeaderBridge

/-! ## What steps bring -/

/-- The types that a step brings, held against the dictionary, whether they are there or
not. -/
def UnsupportedStep.brings (d : Dictionary) : UnsupportedStep → List Text
  | .add type => [type]
  | .classify sig =>
    (sig.returnType :: sig.paramTypes).filter fun t => !t.isBlank && !d.produces t
  | _ => []

/-- The dictionary with the rule that the step adds. -/
def UnsupportedStep.extend (d : Dictionary) : UnsupportedStep → Dictionary
  | .addRule raw target => { d with rules := d.rules.insert raw target }
  | _ => d

/-- The dictionary with the rules that the steps add. -/
def extended (d : Dictionary) (steps : List UnsupportedStep) : Dictionary :=
  steps.foldl UnsupportedStep.extend d

/-- The types that the steps bring, each step held against the dictionary at that moment. -/
def brought (d : Dictionary) : List UnsupportedStep → List Text
  | [] => []
  | step :: steps => step.brings d ++ brought (step.extend d) steps

/-- The types that were brought since the types were last forgotten. -/
def remembered (d : Dictionary) (steps : List UnsupportedStep) : List Text :=
  brought (extended d (steps.rdropWhile (· ≠ .clear))) (steps.rtakeWhile (· ≠ .clear))

section

variable {d : Dictionary}

theorem extended_append (a b : List UnsupportedStep) :
    extended d (a ++ b) = extended (extended d a) b :=
  List.foldl_append

theorem brought_append (a b : List UnsupportedStep) :
    brought d (a ++ b) = brought d a ++ brought (extended d a) b := by
  induction a generalizing d with
  | nil => rfl
  | cons step a ih =>
    rw [List.cons_append, brought, ih, brought, List.append_assoc]
    rfl

@[simp] theorem remembered_nil : remembered d [] = [] := by
  simp [remembered, brought]

theorem remembered_concat_clear (steps : List UnsupportedStep) :
    remembered d (steps ++ [.clear]) = [] := by
  simp [remembered, brought, List.rtakeWhile_concat_neg]

/-- A step that forgets nothing brings its types behind those that are remembered. -/
theorem remembered_concat (steps : List UnsupportedStep) {step : UnsupportedStep}
    (h : step ≠ .clear) :
    remembered d (steps ++ [step]) = remembered d steps ++ step.brings (extended d steps) := by
  have hnow : extended (extended d (steps.rdropWhile (· ≠ .clear)))
      (steps.rtakeWhile (· ≠ .clear)) = extended d steps := by
    rw [← extended_append, List.rdropWhile_append_rtakeWhile]
  rw [remembered, List.rdropWhile_concat_pos _ _ _ (by simpa using h),
    List.rtakeWhile_concat_pos _ _ _ (by simpa using h), brought_append, hnow]
  simp [remembered, brought]

end

/-! ## Steps -/

/-- New elements behind those that are there, none of them twice. -/
theorem eraseDups_append_filter {u b : List Text} (hu : u = b.eraseDups) (l : List Text) :
    u ++ (l.filter fun t => decide (t ∉ u)).eraseDups = (b ++ l).eraseDups := by
  rw [List.eraseDups_append, hu, List.removeAll]
  congr 2
  refine List.filter_congr fun t _ => ?_
  simp

/-- The types that a signature adds are those it brings and that are not there. -/
theorem Unsupported.newTypes_eq (u : Unsupported) (sig : Signature) (d : Dictionary) :
    u.newTypes sig d =
      (((UnsupportedStep.classify sig).brings d).filter fun t => decide (t ∉ u)).eraseDups := by
  rw [newTypes, additions_eq, Signature.types, UnsupportedStep.brings, List.filter_filter,
    List.filter_filter]
  congr 1
  refine List.filter_congr fun t _ => ?_
  cases t.isBlank <;> cases d.produces t <;> simp

namespace UnsupportedState

variable {s : UnsupportedState}

/-- A step that forgets nothing puts the types it brings behind those that are there, if
they are not there. -/
theorem types_perform (s : UnsupportedState) {step : UnsupportedStep} (h : step ≠ .clear) :
    (s.perform step).1.types = s.types ++
      ((step.brings s.dictionary).filter fun t => decide (t ∉ s.types)).eraseDups := by
  cases step with
  | add type =>
    by_cases ht : type ∈ s.types <;>
      simp [perform, Unsupported.add?, UnsupportedStep.brings, ht, List.eraseDups_cons]
  | classify sig => rw [← Unsupported.newTypes_eq]; rfl
  | clear => exact absurd rfl h
  | addRule raw target =>
    simp only [perform, UnsupportedStep.brings, List.filter_nil, List.eraseDups_nil,
      List.append_nil]
    split <;> rfl

/-- An open dictionary takes the rule of a step. -/
theorem dictionary_perform (hd : s.dictionary.frozen = false) (step : UnsupportedStep) :
    (s.perform step).1.dictionary = step.extend s.dictionary := by
  cases step with
  | add type => simp only [perform]; split <;> rfl
  | classify sig => rfl
  | clear => rfl
  | addRule raw target => simp [perform, Dictionary.insert?, hd, UnsupportedStep.extend]

theorem nodup_perform (hs : s.types.Nodup) (step : UnsupportedStep) :
    (s.perform step).1.types.Nodup := by
  cases step with
  | add type =>
    by_cases ht : type ∈ s.types
    · simpa [perform, Unsupported.add?, ht] using hs
    · simpa [perform, Unsupported.add?, ht, List.nodup_append] using
        ⟨hs, fun a ha h => ht (h ▸ ha)⟩
  | classify sig => exact Unsupported.nodup_classify hs sig s.dictionary
  | clear => exact List.nodup_nil
  | addRule raw target =>
    simp only [perform]
    split <;> exact hs

/-- An added type is new exactly if it was not there and is there now. -/
theorem perform_add (s : UnsupportedState) (type : Text) :
    ∃ new, (s.perform (.add type)).2 = .isNew new ∧
      (new = true ↔ type ∉ s.types ∧ type ∈ (s.perform (.add type)).1.types) := by
  by_cases ht : type ∈ s.types
  · exact ⟨false, by simp [perform, Unsupported.add?, ht], by simp [ht]⟩
  · exact ⟨true, by simp [perform, Unsupported.add?, ht], by simp [perform, Unsupported.add?, ht]⟩

/-- A signature lists the types it brings that were not there: those that are there now and
were not. -/
theorem perform_classify (s : UnsupportedState) (sig : Signature) :
    ∃ listed, (s.perform (.classify sig)).2 = .listed listed ∧
      listed = (((UnsupportedStep.classify sig).brings s.dictionary).filter
        fun t => decide (t ∉ s.types)).eraseDups ∧
      ∀ t, t ∈ listed ↔ t ∉ s.types ∧ t ∈ (s.perform (.classify sig)).1.types := by
  refine ⟨_, rfl, Unsupported.newTypes_eq .., fun t => ?_⟩
  have hnew : t ∈ s.types.newTypes sig s.dictionary → t ∉ s.types := fun h => by
    rw [Unsupported.newTypes_eq, List.mem_eraseDups, List.mem_filter] at h
    simpa using h.2
  show _ ↔ _ ∧ t ∈ s.types ++ s.types.newTypes sig s.dictionary
  rw [List.mem_append]
  exact ⟨fun h => ⟨hnew h, .inr h⟩, fun h => h.2.resolve_left h.1⟩

/-! ## Runs -/

theorem run_append (s : UnsupportedState) (a b : List UnsupportedStep) :
    s.run (a ++ b) = (((s.run a).1.run b).1, (s.run a).2 ++ ((s.run a).1.run b).2) := by
  induction a generalizing s with
  | nil => rfl
  | cons step a ih => simp [run, ih]

theorem run_concat (s : UnsupportedState) (steps : List UnsupportedStep)
    (step : UnsupportedStep) :
    s.run (steps ++ [step]) =
      (((s.run steps).1.perform step).1, (s.run steps).2 ++ [((s.run steps).1.perform step).2]) :=
  run_append s steps [step]

theorem nodup_run (hs : s.types.Nodup) (steps : List UnsupportedStep) :
    (s.run steps).1.types.Nodup := by
  induction steps generalizing s with
  | nil => exact hs
  | cons step steps ih => exact ih (nodup_perform hs step)

theorem dictionary_run (hd : s.dictionary.frozen = false) (steps : List UnsupportedStep) :
    (s.run steps).1.dictionary = extended s.dictionary steps := by
  induction steps generalizing s with
  | nil => rfl
  | cons step steps ih =>
    have hstep := dictionary_perform hd step
    have hopen : (step.extend s.dictionary).frozen = false := by
      cases step <;> exact hd
    rw [run, ih (by rw [hstep, hopen]), hstep]
    rfl

/-- Until they are forgotten, the types stay in their places. -/
theorem types_prefix_run (s : UnsupportedState) {steps : List UnsupportedStep}
    (h : .clear ∉ steps) : s.types <+: (s.run steps).1.types := by
  induction steps generalizing s with
  | nil => exact List.prefix_rfl
  | cons step steps ih =>
    rw [List.mem_cons, not_or] at h
    have hstep : s.types <+: (s.perform step).1.types := by
      rw [types_perform s (Ne.symm h.1)]
      exact List.prefix_append ..
    exact hstep.trans (ih (s.perform step).1 h.2)

/-- The unsupported types are those that were brought since they were last forgotten, in the
order in which they were brought first. -/
theorem types_run {d : Dictionary} (hd : d.frozen = false) (steps : List UnsupportedStep) :
    (run { dictionary := d } steps).1.types = (remembered d steps).eraseDups := by
  -- From the back: the last step either forgets everything or adds to what is remembered.
  induction steps using List.reverseRecOn with
  | nil => simp [run]
  | append_singleton steps step ih =>
    rw [run_concat]
    by_cases hclear : step = .clear
    · rw [hclear, remembered_concat_clear]
      rfl
    · rw [types_perform _ hclear, remembered_concat steps hclear, dictionary_run hd,
        eraseDups_append_filter ih]

/-- After any steps on no types and an open dictionary, no type is listed twice, and the
types are those brought since they were last forgotten, in the order in which they were
brought first, whatever rules came later. A step that adds a type or a signature announces
the types that it made appear, those of a signature in its order. -/
theorem run_fresh {d : Dictionary} (hd : d.frozen = false) (steps : List UnsupportedStep) :
    let start : UnsupportedState := { dictionary := d }
    let s := (start.run steps).1
    s.types.Nodup ∧ s.types = (remembered d steps).eraseDups ∧
      s.dictionary = extended d steps ∧
      (∀ more, .clear ∉ more → s.types <+: (start.run (steps ++ more)).1.types) ∧
      (∀ step, start.run (steps ++ [step]) =
        ((s.perform step).1, (start.run steps).2 ++ [(s.perform step).2])) ∧
      (∀ type, ∃ new, (s.perform (.add type)).2 = .isNew new ∧
        (new = true ↔ type ∉ s.types ∧ type ∈ (s.perform (.add type)).1.types)) ∧
      ∀ sig, ∃ listed, (s.perform (.classify sig)).2 = .listed listed ∧
        listed = (((UnsupportedStep.classify sig).brings s.dictionary).filter
          fun t => decide (t ∉ s.types)).eraseDups ∧
        ∀ t, t ∈ listed ↔ t ∉ s.types ∧ t ∈ (s.perform (.classify sig)).1.types := by
  intro start s
  refine ⟨nodup_run List.nodup_nil steps, types_run hd steps, dictionary_run hd steps, ?_,
    run_concat start steps, perform_add s, perform_classify s⟩
  intro more hmore
  rw [run_append]
  exact types_prefix_run s hmore

/-- Signatures between which the dictionary learns that `my_t` is a type and `Other` as well. -/
def stepsWithRules : List UnsupportedStep :=
  [.add "old_t".toList, .clear,
   .classify ⟨"my_t".toList, "f".toList, ["other_t".toList, " ".toList, "my_t".toList], []⟩,
   .addRule "other_t".toList "Other".toList, .addRule "mine".toList "my_t".toList,
   .classify ⟨"Other".toList, "g".toList, ["third_t".toList, "my_t".toList], []⟩]

/-- The types of both signatures, `my_t` kept although a rule puts it in by then, and all of
them kept by a rule that comes later. -/
theorem run_fresh_stepsWithRules :
    let start : UnsupportedState := { dictionary := .builtin }
    let more := [UnsupportedStep.addRule "third".toList "third_t".toList]
    Dictionary.builtin.frozen = false ∧ .clear ∉ more ∧
      (start.run stepsWithRules).1.types =
        ["my_t".toList, "other_t".toList, "third_t".toList] ∧
      (start.run stepsWithRules).1.types <+: (start.run (stepsWithRules ++ more)).1.types := by
  intro start more
  have hclear : .clear ∉ more := by decide
  have h := run_fresh (d := .builtin) rfl stepsWithRules
  exact ⟨rfl, hclear, h.2.1.trans (by decide), h.2.2.2.1 more hclear⟩

end UnsupportedState

end HeaderBridge
