import HeaderBridge.Proofs.Survey
import HeaderBridge.Proofs.Typedefs

/-!
# Runs over more lines

A declaration line is read by the dictionary alone, and the dictionary is that of the typedef
lines. So the survey of two lists of lines is put together from their own surveys
(`survey_append_eq`). All that is carried from one line to the next is which types are listed
as unsupported already, and what a list adds behind another is what it would add alone
without the types that are there (`Unsupported.filter_additions`).

`Settings.generate_append` says so of a run : its lines, signatures, unsupported types and
warnings, and that each line comes out as in a run of its own.
-/

namespace HeaderBridge

/-! ## Unsupported types -/

namespace Unsupported

variable {u v : Unsupported} {d : Dictionary}

/-- It matters which types are there, and not in which order. -/
theorem additions_congr (h : ∀ t, t ∈ u ↔ t ∈ v) (types : List Text) :
    additions u d types = additions v d types := by
  simp only [additions_eq, h]

/-- Of the types that would be added, those are added that are not among more types, either. -/
theorem filter_additions (u v : Unsupported) (d : Dictionary) (types : List Text) :
    (additions v d types).filter (fun t => t ∉ u) = additions (u ++ v) d types := by
  induction types generalizing v with
  | nil => rfl
  | cons t types ih =>
    rw [additions, additions]
    by_cases hskip : (d.produces t || decide (t ∈ v)) = true
    · have hskip' : (d.produces t || decide (t ∈ u ++ v)) = true := by
        simp only [Bool.or_eq_true, decide_eq_true_eq] at hskip ⊢
        exact hskip.imp_right (List.mem_append_right u)
      rw [if_pos hskip, if_pos hskip', ih]
    · rw [if_neg hskip]
      simp only [Bool.or_eq_true, decide_eq_true_eq, not_or] at hskip
      by_cases hu : t ∈ u
      · -- The type is dropped here and passed over there, and from then on it is on both lists.
        have hsame : ∀ x, x ∈ u ++ (v ++ [t]) ↔ x ∈ u ++ v := by
          intro x
          by_cases hx : x = t <;> simp [hx, hu]
        rw [List.filter_cons_of_neg (by simpa using hu), ih, additions_congr hsame,
          if_pos (by simp [hu])]
      · rw [List.filter_cons_of_pos (by simpa using hu), ih, if_neg (by simp [hskip, hu]),
          List.append_assoc]

end Unsupported

/-! ## Surveys -/

namespace Dictionary

variable (d : Dictionary)

theorem javaLines_append (a b : List Text) :
    d.javaLines (a ++ b) = d.javaLines a ++ d.javaLines b := by
  simp [javaLines]

/-- Each declaration line has a line with Java types of its own, or none. -/
theorem javaLines_eq_flatMap (declarations : List Text) :
    d.javaLines declarations = declarations.flatMap fun line => d.javaLines [line] := by
  induction declarations with
  | nil => rfl
  | cons line declarations ih =>
    rw [List.flatMap_cons, ← ih, ← javaLines_append, List.singleton_append]

end Dictionary

/-- Of two lists of lines the surveys are put together. A type that the first one lists is
not listed again. -/
theorem survey_append_eq (d : Dictionary) (a b : List Text) :
    survey d (a ++ b) =
      { lines := (survey d a).lines ++ (survey d b).lines
        signatures := (survey d a).signatures ++ (survey d b).signatures
        unsupported := (survey d a).unsupported ++
          (survey d b).unsupported.filter fun t => t ∉ (survey d a).unsupported
        reports := (survey d a).reports ++ (survey d b).reports } := by
  have hsecond : (survey d b).unsupported = Unsupported.additions [] d
      (((d.javaLines b).map Signature.ofLine).flatMap Signature.types) := by
    rw [survey, surveyFrom_eq]
    rfl
  rw [survey_append, surveyFrom_eq, hsecond, Unsupported.filter_additions, List.append_nil]
  simp only [survey_eq, Survey.ofLines]

/-! ## Warnings -/

/-- The warnings on typedef lines : on those that are neither blank nor of the right form. -/
def typedefWarnings (typedefs : List Text) : Diagnostics :=
  (typedefs.filter fun l => !l.isBlank && (readTypedef l).isNone).map unreadableTypedef

namespace Generation

/-- The warnings of a run, in their order. -/
def warnings (g : Generation) : Diagnostics :=
  g.diagnostics.filter fun d => d.severity = .warning

/-- The warnings on the signatures of a run. -/
def signatureWarnings (g : Generation) : Diagnostics :=
  (List.zipWith (fun line signature => signature.check line) g.lines g.signatures).flatten

end Generation

theorem Signature.severity_of_mem_check {s : Signature} {line : Text} {d : Diagnostic}
    (h : d ∈ s.check line) : d.severity = .warning := by
  unfold check at h
  split at h
  · rw [List.mem_singleton.1 h]
    rfl
  · split at h
    · simp at h
    · rw [List.mem_singleton.1 h]
      rfl

theorem severity_of_mem_typedefWarnings {typedefs : List Text} {d : Diagnostic}
    (h : d ∈ typedefWarnings typedefs) : d.severity = .warning := by
  obtain ⟨line, -, rfl⟩ := List.mem_map.1 h
  rfl

/-! ## Runs -/

namespace Settings

variable (s : Settings) (typedefs declarations : List Text)

/-- The dictionary by which a run with the typedef lines reads its declaration lines. -/
def dictionaryAfter (s : Settings) (typedefs : List Text) : Dictionary :=
  (resolveTypedefs s.dictionary typedefs).dictionary.freeze

theorem lines_generate : (s.generate typedefs declarations).lines =
    (s.dictionaryAfter typedefs).javaLines declarations :=
  congrArg Survey.lines (survey_eq (s.dictionaryAfter typedefs) declarations)

theorem signatures_generate : (s.generate typedefs declarations).signatures =
    ((s.dictionaryAfter typedefs).javaLines declarations).map Signature.ofLine :=
  congrArg Survey.signatures (survey_eq (s.dictionaryAfter typedefs) declarations)

theorem signatures_generate_eq : (s.generate typedefs declarations).signatures =
    (s.generate typedefs declarations).lines.map Signature.ofLine := by
  rw [signatures_generate, lines_generate]

/-- The class of a run is made of its lines. -/
theorem output_generate : (s.generate typedefs declarations).output =
    s.unit (s.interface ((s.generate typedefs declarations).lines.map interfaceMethod))
      ((s.generate typedefs declarations).lines.map fun line =>
        s.forwardingMethod line (Signature.ofLine line)) := by
  have houtput : (s.generate typedefs declarations).output =
      s.unit (s.interface ((s.generate typedefs declarations).lines.map interfaceMethod))
        (List.zipWith s.forwardingMethod (s.generate typedefs declarations).lines
          (s.generate typedefs declarations).signatures) := rfl
  rw [houtput, signatures_generate_eq, List.zipWith_map_right, List.zipWith_self]

theorem signatureWarnings_generate : (s.generate typedefs declarations).signatureWarnings =
    ((s.dictionaryAfter typedefs).javaLines declarations).flatMap fun line =>
      (Signature.ofLine line).check line := by
  rw [Generation.signatureWarnings, lines_generate, signatures_generate, List.zipWith_map_right,
    List.zipWith_self, List.flatMap_def]

theorem diagnostics_generate : (s.generate typedefs declarations).diagnostics =
    typedefWarnings typedefs ++ (s.generate typedefs declarations).signatureWarnings ++
      [info (s.generate typedefs declarations).unsupported.report] := by
  have hreports : (survey (s.dictionaryAfter typedefs) declarations).reports =
      (s.generate typedefs declarations).signatureWarnings := by
    rw [signatureWarnings_generate, survey_eq]
    rfl
  have htypedefs : (resolveTypedefs s.dictionary typedefs).reports = typedefWarnings typedefs :=
    reports_resolveTypedefs rfl typedefs
  rw [← hreports, ← htypedefs]
  rfl

/-- The warnings of a run are those on its typedef lines and those on its signatures. -/
theorem warnings_generate : (s.generate typedefs declarations).warnings =
    typedefWarnings typedefs ++ (s.generate typedefs declarations).signatureWarnings := by
  have hsignatures : ∀ d ∈ (s.generate typedefs declarations).signatureWarnings,
      d.severity = .warning := by
    intro d hd
    rw [signatureWarnings_generate] at hd
    obtain ⟨line, -, hmem⟩ := List.mem_flatMap.1 hd
    exact Signature.severity_of_mem_check hmem
  rw [Generation.warnings, diagnostics_generate, List.filter_append, List.filter_append,
    List.filter_eq_self.2 fun d hd => by simpa using severity_of_mem_typedefWarnings hd,
    List.filter_eq_self.2 fun d hd => by simpa using hsignatures d hd]
  simp [info]

/-- A run over two lists of declaration lines yields what two runs yield, one after the
other : the lines and the signatures, the unsupported types without those that are listed
already, and the warnings, those on the typedef lines once. So each declaration line comes out
as it does in a run of its own. -/
theorem generate_append (a b : List Text) :
    let g := s.generate typedefs (a ++ b)
    let first := s.generate typedefs a
    let second := s.generate typedefs b
    g.lines = first.lines ++ second.lines ∧
      g.signatures = first.signatures ++ second.signatures ∧
      g.unsupported =
        first.unsupported ++ second.unsupported.filter (fun t => t ∉ first.unsupported) ∧
      g.warnings =
        typedefWarnings typedefs ++ first.signatureWarnings ++ second.signatureWarnings ∧
      first.warnings = typedefWarnings typedefs ++ first.signatureWarnings ∧
      second.warnings = typedefWarnings typedefs ++ second.signatureWarnings ∧
      g.lines = (a ++ b).flatMap (fun line => (s.generate typedefs [line]).lines) ∧
      g.signatures = (a ++ b).flatMap (fun line => (s.generate typedefs [line]).signatures) := by
  intro g first second
  have happend := (s.dictionaryAfter typedefs).javaLines_append a b
  have heach := (s.dictionaryAfter typedefs).javaLines_eq_flatMap (a ++ b)
  have hwarnings : g.signatureWarnings = first.signatureWarnings ++ second.signatureWarnings := by
    simp only [g, first, second, signatureWarnings_generate, happend, List.flatMap_append]
  refine ⟨?_, ?_, ?_, ?_, s.warnings_generate typedefs a, s.warnings_generate typedefs b, ?_, ?_⟩
  · simp only [g, first, second, lines_generate, happend]
  · simp only [g, first, second, signatures_generate, happend, List.map_append]
  · exact congrArg Survey.unsupported (survey_append_eq (s.dictionaryAfter typedefs) a b)
  · rw [warnings_generate, hwarnings, List.append_assoc]
  · simp only [g, lines_generate]
    exact heach
  · simp only [g, signatures_generate]
    rw [heach, List.map_flatMap]

end Settings

end HeaderBridge
