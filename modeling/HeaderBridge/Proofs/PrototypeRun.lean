import HeaderBridge.Proofs.JavaLine

/-!
# A run over plain prototypes

With plain extra rules and any typedef lines, a run over plain prototypes makes one line,
one signature and one forwarding method of each, reports no signature (`survey_lines`), and
counts as unsupported exactly the tokens of which no rule of the dictionary knows
(`unsupported_survey`).
-/

namespace HeaderBridge

open Text

/-! ## Methods -/

section

variable {head : Text} {args : List Text}

theorem lineOf_eq_append (head : Text) (args : List Text) :
    lineOf head args = (head ++ '(' :: (join ", ".toList args ++ [')'])) ++ [';'] := by
  simp [lineOf]

/-- A line that does not begin with a blank has none to be stripped. -/
theorem strip_lineOf {c : Char} (hc : head.head? = some c) (hb : isBlank c = false) :
    strip (lineOf head args) = lineOf head args := by
  have hfront : dropBlanks (lineOf head args) = lineOf head args := by
    obtain ⟨t, rfl⟩ := List.head?_eq_some_iff.1 hc
    exact dropBlanks_cons_of_not hb
  have hback : dropBlanks (lineOf head args).reverse = (lineOf head args).reverse := by
    rw [lineOf_eq_append, List.reverse_append]
    exact dropBlanks_cons_of_not (by decide)
  rw [strip, hfront, dropTrailingBlanks, hback, List.reverse_reverse]

theorem dropSemicolon_lineOf :
    dropSemicolon (lineOf head args) = head ++ '(' :: (join ", ".toList args ++ [')']) := by
  rw [dropSemicolon, lineOf_eq_append, List.getLast?_concat, if_pos rfl, List.dropLast_concat]

end

namespace Prototype

variable (p : Prototype) (d : Dictionary)

/-- The static method that forwards to the native function. -/
def forwarding (s : Settings) : Text :=
  block
    ["public static ".toList ++ p.function.inJava d ++
        '(' :: join ", ".toList (p.params.map fun q => q.inJava d) ++ ") \x7b".toList,
      "    ".toList ++ (if p.function.javaType d = voidType then [] else "return ".toList) ++
        (s.interfaceName ++ '.' :: s.libraryName ++ '.' :: p.function.javaName ++
          '(' :: join ", ".toList (p.params.map Declared.javaName) ++ ");".toList),
      "\x7d".toList]

variable {d} (hd : d.Plain) (hm : d.Marked)
include hd hm

theorem strip_javaLine : strip (p.javaLine d) = p.javaLine d := by
  obtain ⟨w, hw, htype⟩ := p.function.isTypeWord_javaType hd hm
  obtain ⟨c, w', rfl, hc⟩ := hw.exists_cons
  refine strip_lineOf (c := c) ?_ (isBlank_of_isWordChar hc)
  rcases htype with htype | htype <;> simp [Declared.inJava, htype]

theorem forwardingMethod_javaLine (s : Settings) :
    s.forwardingMethod (p.javaLine d) (p.signature d) = p.forwarding d s := by
  have hclose : ") \x7b".toList = ')' :: " \x7b".toList := rfl
  have hheader : "public static ".toList ++ dropSemicolon (strip (p.javaLine d)) ++ " \x7b".toList =
      "public static ".toList ++ p.function.inJava d ++
        '(' :: join ", ".toList (p.params.map fun q => q.inJava d) ++ ") \x7b".toList := by
    rw [p.strip_javaLine hd hm, javaLine, dropSemicolon_lineOf, hclose]
    simp only [List.append_assoc, List.cons_append, List.nil_append]
  have hvoid : (p.signature d).returnsVoid = decide (p.function.javaType d = voidType) := rfl
  rw [Settings.forwardingMethod, hheader, hvoid]
  simp only [decide_eq_true_eq]
  rfl

/-- The lines stand in the interface as they are. -/
theorem map_interfaceMethod_javaLine (ps : List Prototype) :
    (ps.map fun p => p.javaLine d).map interfaceMethod = ps.map fun p => p.javaLine d := by
  rw [List.map_map]
  exact List.map_congr_left fun p _ => p.strip_javaLine hd hm

/-- The static methods are those that forward the prototypes. -/
theorem zipWith_forwardingMethod_javaLine (s : Settings) (ps : List Prototype) :
    List.zipWith s.forwardingMethod (ps.map fun p => p.javaLine d)
      (ps.map fun p => p.signature d) = ps.map fun p => p.forwarding d s := by
  rw [List.zipWith_map, List.zipWith_self]
  exact List.map_congr_left fun p _ => p.forwardingMethod_javaLine hd hm s

end Prototype

/-! ## Surveys -/

section

variable {d : Dictionary} (hd : d.Plain) (hm : d.Marked)
include hd hm

theorem Prototype.types_signature (p : Prototype) :
    (p.signature d).types = p.tokens.map d.image := by
  have htype : ∀ q : Declared, (!(q.javaType d).isBlank) = true := by
    intro q
    rw [(q.isTypeWord_javaType hd hm).isToken.not_isBlank]
    rfl
  have hkept : (p.signature d).types =
      (p.signature d).returnType :: (p.signature d).paramTypes := by
    rw [Signature.types, List.filter_eq_self, List.forall_mem_cons]
    exact ⟨htype p.function, List.forall_mem_map.2 fun q _ => htype q⟩
  rw [hkept]
  simp [signature, tokens, Declared.javaType]

theorem flatMap_types (ps : List Prototype) :
    (ps.map fun p => p.signature d).flatMap Signature.types =
      (ps.flatMap Prototype.tokens).map d.image := by
  rw [List.flatMap_map, List.map_flatMap, List.flatMap_def, List.flatMap_def]
  exact congrArg List.flatten (List.map_congr_left fun p _ => p.types_signature hd hm)

variable {ps : List Prototype} (hps : ∀ p ∈ ps, p.Plain)
include hps

/-- Of plain prototypes a survey has the Java lines and their signatures, and reports
nothing of them. -/
theorem survey_lines :
    survey d (ps.map Prototype.line) =
      { lines := ps.map fun p => p.javaLine d
        signatures := ps.map fun p => p.signature d
        unsupported := (((ps.flatMap Prototype.tokens).map d.image).filter
          fun t => !d.produces t).eraseDups
        reports := [] } := by
  have hlines : d.javaLines (ps.map Prototype.line) = ps.map fun p => p.javaLine d := by
    have hmap : (ps.map Prototype.line).map d.javaLine = ps.map fun p => p.javaLine d := by
      rw [List.map_map]
      exact List.map_congr_left fun p hp => javaLine_line hd (hps p hp)
    rw [Dictionary.javaLines, hmap, List.filter_eq_self, List.forall_mem_map]
    intro p _
    rw [Prototype.javaLine, isBlank_lineOf]
    rfl
  have hsignatures : (ps.map fun p => p.javaLine d).map Signature.ofLine =
      ps.map fun p => p.signature d := by
    rw [List.map_map]
    exact List.map_congr_left fun p _ => ofLine_javaLine hd hm p
  have hreports : ∀ line ∈ ps.map fun p => p.javaLine d,
      (Signature.ofLine line).check line = [] := by
    rw [List.forall_mem_map]
    intro p _
    rw [ofLine_javaLine hd hm p, Signature.check_eq_nil_iff]
    exact ⟨p.function.isWord_javaName.ne_nil, by simp [Prototype.signature]⟩
  rw [survey_eq, hlines, Survey.ofLines, hsignatures, flatMap_types hd hm,
    List.flatMap_eq_nil_iff.2 hreports]

/-- The types of plain prototypes are the images of their tokens. -/
theorem types_survey :
    (survey d (ps.map Prototype.line)).signatures.flatMap Signature.types =
      (ps.flatMap Prototype.tokens).map d.image := by
  rw [survey_lines hd hm hps]
  exact flatMap_types hd hm ps

/-- The unsupported types of plain prototypes are the tokens of which the dictionary does
not know. -/
theorem unsupported_survey :
    (survey d (ps.map Prototype.line)).unsupported =
      ((ps.flatMap Prototype.tokens).filter fun t => !d.knows t).eraseDups := by
  have himage : ∀ t ∈ (ps.flatMap Prototype.tokens).filter fun t => !d.knows t, d.image t = t := by
    intro t ht
    refine Dictionary.image_eq_self fun r hr hrt => ?_
    have hknown : d.knows t = true := Dictionary.knows_iff.2 ⟨r, hr, Or.inl hrt⟩
    simp [hknown] at ht
  rw [survey_lines hd hm hps]
  simp only [List.filter_map, Function.comp_def, Dictionary.produces_image_eq_knows]
  rw [List.map_congr_left himage, List.map_id']

end

/-! ## Runs -/

/-- The Java line does not depend on how an empty parameter list is marked, and a header
always marks it. -/
theorem Prototype.toFunction_line (p : Prototype) :
    p.toFunction.line = Prototype.line { p with voidMarked := true } :=
  (Prototype.line_eq { p with voidMarked := true } rfl).symm

instance (q : Declared) : Decidable q.Plain :=
  decidable_of_iff
    (¬ "const".toList <:+ q.type.base.text ∧ ¬ "extern".toList <:+ q.type.base.text ∧
      q.type.base.text ≠ reservedWord ∧ (q.type.stars ≠ .none → "char".toList <:+ q.type.base.text →
        q.type.base.text = "char".toList ∧ q.type.stars = .one))
    ⟨fun h => ⟨h.1, h.2.1, h.2.2.1, h.2.2.2⟩,
      fun h => ⟨h.not_const, h.not_external, h.not_reserved, h.charPointer⟩⟩

instance (p : Prototype) : Decidable p.Plain :=
  decidable_of_iff (p.function.Plain ∧ ∀ q ∈ p.params, q.Plain)
    ⟨fun h => ⟨h.1, h.2⟩, fun h => ⟨h.function, h.params⟩⟩

/-- A function with a result of unknown type, the name of the time zone, a pointer to
pointers and the reserved word. -/
def Prototype.sample : Prototype where
  storage := .external
  function := ⟨{ base := ⟨"Temporal".toList, by decide, by decide⟩ },
    ⟨"at_zone".toList, by decide, by decide⟩⟩
  params :=
    [⟨{ isConst := true, base := ⟨"char".toList, by decide, by decide⟩, stars := .one },
        ⟨"tz_str".toList, by decide, by decide⟩⟩,
      ⟨{ base := ⟨"Span".toList, by decide, by decide⟩, stars := .two },
        ⟨"spans".toList, by decide, by decide⟩⟩,
      ⟨{ base := ⟨"bool".toList, by decide, by decide⟩ },
        ⟨"synchronized".toList, by decide, by decide⟩⟩]

theorem plain_datum : ∀ r ∈ [("Datum".toList, "long".toList)], Rule.Plain r := by
  intro r hr
  rw [List.mem_singleton.1 hr]
  exact ⟨.of_all (by decide) (by decide), (IsWord.of_all (by decide) (by decide)).isTypeWord⟩

namespace Settings

variable (s : Settings)

theorem marked_generate (typedefs declarations : List Text) :
    (s.generate typedefs declarations).dictionary.Marked := by
  have hmarkers : ∀ m ∈ [pointerMarker, pointerArrayMarker, stringMarker, byteArray],
      ∃ b ∈ builtinRules, Rule.raw b = m := by decide +kernel
  intro m hmem
  obtain ⟨b, hb, rfl⟩ := hmarkers m hmem
  exact s.exists_builtin_generate typedefs declarations hb

/-- A run over plain prototypes, as a header writes them, has for each of them the line
with the images of its tokens under the final dictionary, the signature of these types and
the names, and the method that forwards them. Nothing is reported but the lines that are
no typedef lines. -/
theorem generate_prototypes (hs : ∀ r ∈ s.extraRules, Rule.Plain r) (typedefs : List Text)
    (ps : List Prototype) (hps : ∀ p ∈ ps, p.Plain) :
    let g := s.generate typedefs (ps.map fun p => p.toFunction.line)
    g.lines = ps.map (fun p => p.javaLine g.dictionary) ∧
      g.signatures = ps.map (fun p => p.signature g.dictionary) ∧
      g.diagnostics =
        (typedefs.filter fun l => !l.isBlank && (readTypedef l).isNone).map unreadableTypedef ++
          [info g.unsupported.report] ∧
      g.output = s.unit (s.interface (ps.map fun p => p.javaLine g.dictionary))
        (ps.map fun p => p.forwarding g.dictionary s) := by
  intro g
  let marked : Prototype → Prototype := fun p => { p with voidMarked := true }
  have hd : g.dictionary.Plain := s.plain_generate typedefs _ hs
  have hm : g.dictionary.Marked := s.marked_generate typedefs _
  have hdeclarations : (ps.map fun p => p.toFunction.line) =
      (ps.map marked).map Prototype.line := by
    rw [List.map_map]
    exact List.map_congr_left fun p _ => p.toFunction_line
  have hplain : ∀ p ∈ ps.map marked, p.Plain :=
    List.forall_mem_map.2 fun p hp => ⟨(hps p hp).function, (hps p hp).params⟩
  have hsurvey := survey_lines hd hm hplain
  rw [← hdeclarations, List.map_map, List.map_map] at hsurvey
  have hlines : g.lines = ps.map fun p => p.javaLine g.dictionary :=
    congrArg Survey.lines hsurvey
  have hsignatures : g.signatures = ps.map fun p => p.signature g.dictionary :=
    congrArg Survey.signatures hsurvey
  have hreports : (survey g.dictionary (ps.map fun p => p.toFunction.line)).reports = [] :=
    congrArg Survey.reports hsurvey
  refine ⟨hlines, hsignatures, ?_, ?_⟩
  · have hdiagnostics : g.diagnostics = (resolveTypedefs s.dictionary typedefs).reports ++
        (survey g.dictionary (ps.map fun p => p.toFunction.line)).reports ++
          [info g.unsupported.report] := rfl
    rw [hdiagnostics, hreports, reports_resolveTypedefs rfl, List.append_nil]
  · have houtput : g.output = s.unit (s.interface (g.lines.map interfaceMethod))
        (List.zipWith s.forwardingMethod g.lines g.signatures) := rfl
    rw [houtput, hlines, hsignatures, Prototype.map_interfaceMethod_javaLine hd hm,
      Prototype.zipWith_forwardingMethod_javaLine hd hm]

theorem generate_prototypes_sample :
    let s : Settings := { extraRules := [("Datum".toList, "long".toList)] }
    (∀ r ∈ s.extraRules, Rule.Plain r) ∧ Prototype.sample.Plain ∧
      (s.generate ["typedef Datum Interval;".toList] [Prototype.sample.toFunction.line]).lines =
        ["Temporal at_zone(byte[] tz_str, Pointer spans, boolean synchronize);".toList] := by
  intro s
  have hs : ∀ r ∈ s.extraRules, Rule.Plain r := plain_datum
  have hp : Prototype.sample.Plain := by decide
  refine ⟨hs, hp, ?_⟩
  exact (s.generate_prototypes hs ["typedef Datum Interval;".toList] [Prototype.sample]
    (by simpa using hp)).1.trans (by decide +kernel)

/-- The unsupported types of a run over plain prototypes are, each of them once and in the
order in which they come first, the tokens of which the final dictionary does not know. So
no raw token of a rule is among them. -/
theorem unsupported_prototypes (hs : ∀ r ∈ s.extraRules, Rule.Plain r) (typedefs : List Text)
    (ps : List Prototype) (hps : ∀ p ∈ ps, p.Plain) :
    let g := s.generate typedefs (ps.map Prototype.line)
    g.unsupported =
        ((ps.flatMap Prototype.tokens).filter fun t => !g.dictionary.knows t).eraseDups ∧
      ∀ r ∈ g.dictionary.rules, Rule.raw r ∉ g.unsupported := by
  intro g
  have hunsupported : g.unsupported =
      ((ps.flatMap Prototype.tokens).filter fun t => !g.dictionary.knows t).eraseDups :=
    unsupported_survey (s.plain_generate typedefs _ hs) (s.marked_generate typedefs _) hps
  refine ⟨hunsupported, fun r hr hmem => ?_⟩
  rw [hunsupported, List.mem_eraseDups, List.mem_filter] at hmem
  have hknown : g.dictionary.knows (Rule.raw r) = true := Dictionary.knows_iff.2 ⟨r, hr, Or.inl rfl⟩
  simp [hknown] at hmem

theorem unsupported_prototypes_sample :
    let s : Settings := { extraRules := [("Datum".toList, "long".toList)] }
    (∀ r ∈ s.extraRules, Rule.Plain r) ∧ Prototype.sample.Plain ∧
      (s.generate ["typedef Datum Interval;".toList]
        [Prototype.sample.line, Prototype.sample.line]).unsupported = ["Temporal".toList] := by
  intro s
  have hs : ∀ r ∈ s.extraRules, Rule.Plain r := plain_datum
  have hp : Prototype.sample.Plain := by decide
  refine ⟨hs, hp, ?_⟩
  exact (s.unsupported_prototypes hs ["typedef Datum Interval;".toList]
    [Prototype.sample, Prototype.sample] (by simpa using hp)).1.trans (by decide +kernel)

end Settings

end HeaderBridge
