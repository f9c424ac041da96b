import HeaderBridge.Generation

/-!
# The survey of a run

What a survey holds is known from the lines with Java types alone (`survey_eq`) : their
signatures, what is reported of each, and the types of all signatures that no rule of the
dictionary puts in, each of them once and in the order in which they come first.
-/

namespace HeaderBridge

/-! ## Unsupported types -/

namespace Unsupported

variable {u : Unsupported} {d : Dictionary}

/-- The types of a list are added after those of the list before it. -/
theorem additions_append (a b : List Text) :
    additions u d (a ++ b) = additions u d a ++ additions (u ++ additions u d a) d b := by
  induction a generalizing u with
  | nil => simp [additions]
  | cons t a ih =>
    rw [List.cons_append, additions, additions]
    split
    · exact ih
    · rw [ih]
      simp

/-- Those of the types are added that no rule puts in and that are not there, each of them
once. -/
theorem additions_eq (types : List Text) :
    additions u d types =
      (types.filter fun t => !d.produces t && !decide (t ∈ u)).eraseDups := by
  induction types generalizing u with
  | nil => rfl
  | cons t types ih =>
    rw [additions]
    split
    · next h =>
      have hskip : (!d.produces t && !decide (t ∈ u)) = false := by
        rw [← Bool.not_or, h]
        rfl
      rw [List.filter_cons, hskip, ih]
      rfl
    · next h =>
      have hadd : (!d.produces t && !decide (t ∈ u)) = true := by
        simp only [Bool.not_eq_true] at h
        rw [← Bool.not_or, h]
        rfl
      rw [List.filter_cons, hadd, if_pos rfl, List.eraseDups_cons, List.filter_filter, ih]
      congr 2
      refine List.filter_congr fun t' _ => ?_
      by_cases ht : t' = t
      · simp [ht]
      · simp [ht]

theorem additions_nil (types : List Text) :
    additions [] d types = (types.filter fun t => !d.produces t).eraseDups := by
  simp [additions_eq]

/-- Nothing is added if every type is the target of a rule. -/
theorem additions_nil_eq_nil_iff {types : List Text} :
    additions [] d types = [] ↔ ∀ t ∈ types, d.produces t = true := by
  rw [additions_nil]
  constructor
  · intro h t ht
    cases hd : d.produces t with
    | true => rfl
    | false =>
      have hmem : t ∈ (types.filter fun t => !d.produces t).eraseDups := by
        rw [List.mem_eraseDups, List.mem_filter]
        exact ⟨ht, by simp [hd]⟩
      simp [h] at hmem
  · intro h
    have hempty : (types.filter fun t => !d.produces t) = [] := by
      rw [List.filter_eq_nil_iff]
      intro t ht
      simp [h t ht]
    rw [hempty]
    rfl

end Unsupported

/-! ## Surveys -/

/-- The lines with Java types of declaration lines, blank ones left out. -/
def Dictionary.javaLines (d : Dictionary) (declarations : List Text) : List Text :=
  (declarations.map d.javaLine).filter fun line => !line.isBlank

/-- The survey of lines with Java types. -/
def Survey.ofLines (d : Dictionary) (lines : List Text) : Survey :=
  { lines
    signatures := lines.map Signature.ofLine
    unsupported := (((lines.map Signature.ofLine).flatMap Signature.types).filter
      fun t => !d.produces t).eraseDups
    reports := lines.flatMap fun line => (Signature.ofLine line).check line }

theorem surveyFrom_eq (s : Survey) (d : Dictionary) (declarations : List Text) :
    surveyFrom s d declarations =
      { lines := s.lines ++ d.javaLines declarations
        signatures := s.signatures ++ (d.javaLines declarations).map Signature.ofLine
        unsupported := s.unsupported ++ Unsupported.additions s.unsupported d
          (((d.javaLines declarations).map Signature.ofLine).flatMap Signature.types)
        reports := s.reports ++
          (d.javaLines declarations).flatMap fun line => (Signature.ofLine line).check line } := by
  induction declarations generalizing s with
  | nil => simp [surveyFrom, Dictionary.javaLines, Unsupported.additions]
  | cons line declarations ih =>
    have hstep : surveyFrom s d (line :: declarations) = surveyFrom (s.add d line) d declarations :=
      rfl
    rw [hstep, ih]
    by_cases hb : (d.javaLine line).isBlank = true
    · have hadd : s.add d line = s := by simp [Survey.add, hb]
      have hlines : d.javaLines (line :: declarations) = d.javaLines declarations := by
        simp [Dictionary.javaLines, hb]
      rw [hadd, hlines]
    · have hlines : d.javaLines (line :: declarations) =
          d.javaLine line :: d.javaLines declarations := by
        simp [Dictionary.javaLines, hb]
      rw [hlines, List.map_cons, List.flatMap_cons, Unsupported.additions_append]
      simp [Survey.add, hb, Unsupported.classify, Unsupported.newTypes]

/-- A survey is that of the lines with Java types. -/
theorem survey_eq (d : Dictionary) (declarations : List Text) :
    survey d declarations = Survey.ofLines d (d.javaLines declarations) := by
  rw [survey, surveyFrom_eq]
  simp [Survey.ofLines, Unsupported.additions_nil]

end HeaderBridge
