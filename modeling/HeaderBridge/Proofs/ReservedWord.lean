import HeaderBridge.Proofs.Composition
import HeaderBridge.Proofs.Exceptions
import HeaderBridge.Proofs.Reading
import HeaderBridge.Proofs.WholeWords

/-!
# The reserved word in the generated class

The exceptions take every whole word `synchronized` off a line, whatever the line is
(`not_hasWord_settleExceptions`), and no rule brings it back unless its own target has it
(`Rule.keeps_match?`). What the readers find on a line are whole words of the line. So the
generated class has the reserved word only if it was given the word as a name or as a target
(`not_hasWord_output_generate`).
-/

namespace HeaderBridge

open Text

/-! ## The pass over a line -/

theorem beginsApart_replaceMatches_reservedName {t : Text} (h : BeginsApart t)
    (p : Option Char) : BeginsApart (replaceMatches reservedName p 0 t) := by
  cases t with
  | nil => exact h
  | cons c t =>
    have hc : c ≠ 's' := (ne_of_isWordChar (by decide) (beginsApart_cons.1 h)).symm
    rw [replaceMatches_cons (reservedName_cons hc p t)]
    exact beginsApart_cons.2 (beginsApart_cons.1 h)

theorem not_hasWord_javaWord {w : Text} (hw : IsWord w) : ¬ HasWord reservedWord (javaWord w) := by
  unfold javaWord
  split
  · decide
  · next h => exact fun hh => h (hw.hasWord_iff.1 hh).symm

/-- Behind the pass no text has the reserved word. -/
theorem not_hasWord_replace_reservedName (t : Text) :
    ¬ HasWord reservedWord (t.replace reservedName) := by
  have hruns : ∀ p : Option Char, p.any isWordChar = false ∨ BeginsApart t →
      ¬ HasWord reservedWord (replaceMatches reservedName p 0 t) := by
    induction t using runs_induction with
    | nil => exact fun p _ => not_hasWord_nil isWord_reservedWord
    | cons c t hc ih =>
      intro p _
      have hs : c ≠ 's' := (ne_of_isWordChar (by decide) hc).symm
      rw [replaceMatches_cons (reservedName_cons hs p t), hasWord_cons_iff isWord_reservedWord hc]
      exact ih (some c) (Or.inl hc)
    | word w t hw ht ih =>
      intro p hp
      have hp' := hp.resolve_right fun h => hw.not_beginsApart h.of_append
      have hrest := beginsApart_replaceMatches_reservedName ht (lastFrom p w)
      rw [replaceMatches_reservedName_word hw ht hp',
        hasWord_append_iff isWord_reservedWord (Or.inr hrest)]
      exact not_or.2 ⟨not_hasWord_javaWord hw, ih _ (Or.inr ht)⟩
  exact hruns none (Or.inl rfl)

/-- The exceptions leave no whole reserved word on a line, whatever the line is. -/
theorem not_hasWord_settleExceptions (line : Text) :
    ¬ HasWord reservedWord (settleExceptions line) :=
  not_hasWord_replace_reservedName _

/-! ## The rules -/

namespace Rule

theorem exists_of_mem_typePlaces {n k : Nat} {t start : Text}
    (h : (k, start) ∈ typePlaces n t) :
    ∃ o, t = o ++ start ∧ k = n + o.length ∧ ∀ c ∈ o, opensType c = true := by
  induction t generalizing n with
  | nil =>
    simp only [typePlaces, List.mem_singleton, Prod.mk.injEq] at h
    exact ⟨[], by simp [h.2], by simp [h.1], by simp⟩
  | cons c t ih =>
    rcases List.mem_cons.1 h with h | h
    · obtain ⟨rfl, rfl⟩ := Prod.mk.inj h
      exact ⟨[], by simp, by simp, by simp⟩
    · split at h
      · next hc =>
        obtain ⟨o, rfl, rfl, ho⟩ := ih h
        exact ⟨c :: o, by simp, by simp; omega, by simpa [hc] using ho⟩
      · simp at h

/-- A type begins behind characters that open a type, of which there are none only at the
start of the line. -/
theorem exists_of_mem_typeStarts {p : Option Char} {k : Nat} {t start : Text}
    (h : (k, start) ∈ typeStarts p t) : ∃ o, t = o ++ start ∧ k = o.length ∧
      (∀ c ∈ o, opensType c = true) ∧ (o = [] → p = none) := by
  have hcases : (p = none ∧ (k, start) = (0, t)) ∨
      ∃ c cs, t = c :: cs ∧ opensType c = true ∧ (k, start) ∈ typePlaces 1 cs := by
    cases t with
    | nil => cases p <;> simp_all [typeStarts, typePlaces]
    | cons c cs =>
      have hcons : (p = none ∧ (k, start) = (0, c :: cs)) ∨
          (opensType c = true ∧ (k, start) ∈ typePlaces 1 cs) := by
        cases p <;> by_cases hc : opensType c = true <;> simp_all [typeStarts, typePlaces]
      exact hcons.imp_right fun h => ⟨c, cs, rfl, h⟩
  rcases hcases with ⟨rfl, heq⟩ | ⟨c, cs, rfl, hc, h⟩
  · obtain ⟨rfl, rfl⟩ := Prod.mk.inj heq
    exact ⟨[], by simp, by simp, by simp, fun _ => rfl⟩
  · obtain ⟨o, rfl, rfl, ho⟩ := exists_of_mem_typePlaces h
    exact ⟨c :: o, by simp, by simp; omega, by simpa [hc] using ho, fun h => by simp at h⟩

/-- A match is the raw token with a blank behind it, where a type may begin. -/
theorem exists_of_match? {r : Rule} {p : Option Char} {t new : Text} {n : Nat}
    (h : r.match? p t = some (n, new)) : ∃ o b rest, t = (o ++ r.raw ++ [b]) ++ rest ∧
      n = (o ++ r.raw ++ [b]).length ∧ new = o ++ r.target ++ [' '] ∧ isBlank b = true ∧
      (∀ c ∈ o, opensType c = true) ∧ (o = [] → p = none) := by
  obtain ⟨⟨k, start⟩, hmem, hat⟩ := List.exists_of_findSome?_eq_some h
  obtain ⟨o, rfl, rfl, ho, hstart⟩ := exists_of_mem_typeStarts hmem
  cases hraw : r.raw.isPrefixOf? start with
  | none => simp [hraw] at hat
  | some rest =>
    obtain rfl := isPrefixOf?_eq_some_iff.1 hraw
    cases hb : Text.blank? rest with
    | none => simp [hraw, hb] at hat
    | some rest' =>
      obtain ⟨b, hblank, rfl⟩ := blank?_eq_some_iff.1 hb
      simp only [hraw, hb, Option.bind_eq_bind, Option.bind_some, Option.pure_def,
        Option.some.injEq, Prod.mk.injEq, List.take_left] at hat
      exact ⟨o, b, rest', by simp, by simp [← hat.1]; omega, hat.2.symm, hblank, ho, hstart⟩

theorem not_isWordChar_of_opensType {c : Char} (h : opensType c = true) :
    isWordChar c = false := by
  simp only [opensType, Bool.or_eq_true, decide_eq_true_eq] at h
  rcases h with rfl | h
  · decide
  · exact isWordChar_of_isBlank h

/-- A rule brings no whole word into a line that its own target has not. -/
theorem keeps_match? {w : Text} (hw : IsWord w) {r : Rule} (hr : ¬ HasWord w r.target) :
    Keeps (fun t => ¬ HasWord w t) r.match? := by
  intro p t n new hm
  obtain ⟨o, b, rest, rfl, rfl, rfl, hb, ho, hstart⟩ := exists_of_match? hm
  refine ⟨o ++ r.raw ++ [b], rest, rfl, by simp, rfl, fun pre hpre h => ?_⟩
  have hblank : isWordChar b = false := isWordChar_of_isBlank hb
  have hends : EndsApart (pre ++ o) := by
    cases o with
    | nil => simp [hpre (hstart rfl)]
    | cons c o =>
      have hwordless : Wordless (c :: o) :=
        wordless_iff.2 fun d hd => not_isWordChar_of_opensType (ho d hd)
      exact (endsApart_append_iff (by simp)).2 hwordless.endsApart
  have hold : pre ++ (o ++ r.raw ++ [b] ++ rest) = (pre ++ o) ++ (r.raw ++ b :: rest) := by simp
  have hnew : pre ++ (o ++ r.target ++ [' '] ++ rest) =
      (pre ++ o) ++ (r.target ++ ' ' :: rest) := by simp
  rw [hold, hasWord_append_iff hw (Or.inl hends), hasWord_append_cons_iff hw hblank] at h
  show ¬ HasWord w _
  rw [hnew, hasWord_append_iff hw (Or.inl hends), hasWord_append_cons_iff hw (by decide)]
  simp only [not_or] at h ⊢
  exact ⟨h.1, hr, h.2.2⟩

end Rule

/-- A line with Java types has the reserved word only if the target of a rule has it. -/
theorem Dictionary.not_hasWord_javaLine {d : Dictionary}
    (hd : ∀ r ∈ d.rules, ¬ HasWord reservedWord (Rule.target r)) (line : Text) :
    ¬ HasWord reservedWord (d.javaLine line) := by
  cases hb : line.isBlank with
  | true =>
    rw [d.javaLine_of_isBlank hb]
    exact (wordless_of_isBlank hb).not_hasWord isWord_reservedWord
  | false =>
    have hsettled := not_hasWord_settleExceptions (markPointers (dropQualifiers line))
    rw [d.javaLine_eq hb]
    exact List.foldlRecOn d.rules _ (motive := fun t => ¬ HasWord reservedWord t) hsettled
      fun t ht r hr => (Rule.keeps_match? isWord_reservedWord (hd r hr)).replace ht

/-! ## What the readers find -/

namespace Signature

theorem exists_of_mem_paramNamesFrom {p : Option Char} {t name : Text}
    (h : name ∈ paramNamesFrom p t) :
    ∃ u v, t = u ++ v ∧ paramNameAt? (lastFrom p u) v = some name := by
  induction t generalizing p with
  | nil => simp [paramNamesFrom] at h
  | cons c t ih =>
    rw [paramNamesFrom] at h
    have hbehind : name ∈ paramNamesFrom (some c) t → ∃ u v, c :: t = u ++ v ∧
        paramNameAt? (lastFrom p u) v = some name := by
      intro h
      obtain ⟨u, v, rfl, hfind⟩ := ih h
      exact ⟨c :: u, v, rfl, hfind⟩
    split at h
    · next b hb =>
      rcases List.mem_cons.1 h with rfl | h
      · exact ⟨[], c :: t, rfl, hb⟩
      · exact hbehind h
    · exact hbehind h

/-- The name of a function stands behind no word character and before none. -/
theorem exists_of_nameAt? {p : Option Char} {t name : Text} (h : nameAt? p t = some name) :
    p.any isWordChar = false ∧ ∃ rest, t = name ++ rest ∧ BeginsApart rest := by
  obtain ⟨hp, -, b, r, hb, rfl⟩ := nameAt?_eq_some_iff.1 h
  have hopen : BeginsApart ('(' :: r) := beginsApart_cons.2 (by decide)
  exact ⟨hp, _, rfl, (wordless_of_isBlank hb).beginsApart.append hopen⟩

/-- The name of a parameter stands behind no word character and before none. -/
theorem exists_of_paramNameAt? {p : Option Char} {t name : Text}
    (h : paramNameAt? p t = some name) :
    p.any isWordChar = false ∧ ∃ rest, t = name ++ rest ∧ BeginsApart rest := by
  simp only [paramNameAt?, Option.ite_none_right_eq_some, Bool.and_eq_true, Bool.not_eq_true',
    Option.some.injEq] at h
  obtain ⟨⟨⟨hp, -⟩, -⟩, rfl⟩ := h
  exact ⟨hp, _, (word_append_afterWord t).symm, beginsApart_afterWord t⟩

/-- The name of the function is a whole word of the line, if there is one. -/
theorem hasWord_readName (line : Text) : readName line = [] ∨ HasWord (readName line) line := by
  unfold readName
  cases hs : search nameAt? none line with
  | none => exact Or.inl rfl
  | some name =>
    obtain ⟨u, v, rfl, hat⟩ := exists_of_search hs
    obtain ⟨hu, rest, rfl, hrest⟩ := exists_of_nameAt? hat
    exact Or.inr ⟨u, rest, by simp, by rwa [lastFrom_none] at hu, hrest⟩

/-- The names of the parameters are whole words of the line. -/
theorem hasWord_of_mem_readParamNames {line name : Text} (h : name ∈ readParamNames line) :
    HasWord name line := by
  obtain ⟨u, v, rfl, hat⟩ := exists_of_mem_paramNamesFrom h
  obtain ⟨hu, rest, rfl, hrest⟩ := exists_of_paramNameAt? hat
  exact ⟨u, rest, by simp, by rwa [lastFrom_none] at hu, hrest⟩

end Signature

/-! ## The class -/

/-- The line without the blanks at its ends is a whole part of it. -/
theorem hasWord_strip (line : Text) : HasWord line.strip line := by
  obtain ⟨a, b, ha, hb, hline⟩ := strip_append_strip line
  exact ⟨a, b, hline.symm, (wordless_of_isBlank ha).endsApart,
    (wordless_of_isBlank hb).beginsApart⟩

/-- So is the line without the semicolon at its end. -/
theorem hasWord_dropSemicolon (line : Text) : HasWord (dropSemicolon line) line := by
  unfold dropSemicolon
  split
  · next h =>
    obtain ⟨t, rfl⟩ := List.getLast?_eq_some_iff.1 h
    exact ⟨[], [';'], by simp, endsApart_nil, by decide⟩
  · exact hasWord_self line

section

variable {w : Text} (hw : IsWord w)
include hw

theorem not_hasWord_block {lines : List Text} (h : ∀ l ∈ lines, ¬ HasWord w l) :
    ¬ HasWord w (block lines) := by
  rw [block, hasWord_join_iff hw (by decide) (by decide)]
  simpa using h

theorem not_hasWord_indented {code : Text} (h : ¬ HasWord w code) :
    ∀ l ∈ indented code, ¬ HasWord w l := by
  have hlines : ∀ l ∈ codeLines code, ¬ HasWord w l := by
    rw [← block_codeLines code, block, hasWord_join_iff hw (by decide) (by decide)] at h
    simpa using h
  simp only [indented, indentedBy, List.forall_mem_map]
  intro l hl
  split
  · exact not_hasWord_nil hw
  · have hindent : Wordless indent := by decide
    rw [hasWord_append_of_left hw hindent.endsApart]
    exact not_or.2 ⟨hindent.not_hasWord hw, hlines l hl⟩

end

namespace Settings

/-- None of the names that the class is given has `w` as a whole word. -/
structure NamesLack (s : Settings) (w : Text) : Prop where
  package : ¬ HasWord w s.package
  className : ¬ HasWord w s.className
  interfaceName : ¬ HasWord w s.interfaceName
  libraryName : ¬ HasWord w s.libraryName

section

variable {s : Settings} (hs : s.NamesLack reservedWord)
include hs

/-- A call has the reserved word only if the name of the function or of a parameter has it. -/
theorem NamesLack.nativeCall {sig : Signature} (hname : ¬ HasWord reservedWord sig.name)
    (hparams : ∀ n ∈ sig.paramNames, ¬ HasWord reservedWord n) :
    ¬ HasWord reservedWord (s.nativeCall sig) := by
  have hjoin : ¬ HasWord reservedWord (join ", ".toList sig.paramNames) := by
    rw [hasWord_join_iff isWord_reservedWord (by decide) (by decide)]
    simpa using hparams
  unfold Settings.nativeCall
  simp +decide (disch := decide) only [hasWord_append_of_right, hasWord_append_cons_iff,
    hs.interfaceName, hs.libraryName, hname, hjoin]

/-- A forwarding method has the reserved word only if the line has it. -/
theorem NamesLack.forwardingMethod {line : Text} (hline : ¬ HasWord reservedWord line) :
    ¬ HasWord reservedWord (s.forwardingMethod line (Signature.ofLine line)) := by
  have hheader : ¬ HasWord reservedWord (dropSemicolon line.strip) := fun h =>
    hline (h.trans ((hasWord_dropSemicolon _).trans (hasWord_strip line)))
  have hname : ¬ HasWord reservedWord (Signature.readName line) := by
    rcases Signature.hasWord_readName line with hn | hn
    · rw [hn]
      exact not_hasWord_nil isWord_reservedWord
    · exact fun h => hline (h.trans hn)
  have hcall : ¬ HasWord reservedWord (s.nativeCall (Signature.ofLine line)) :=
    hs.nativeCall hname fun n hn h =>
      hline (h.trans (Signature.hasWord_of_mem_readParamNames hn))
  refine not_hasWord_block isWord_reservedWord ?_
  cases (Signature.ofLine line).returnsVoid <;>
    simp +decide (disch := decide) only [List.forall_mem_cons, hasWord_append_of_right,
      hasWord_append_of_left, hheader, hcall]

/-- The interface has the reserved word only if one of its methods has it. -/
theorem NamesLack.interface {methods : List Text} (h : ∀ m ∈ methods, ¬ HasWord reservedWord m) :
    ¬ HasWord reservedWord (s.interface methods) := by
  have hname : ¬ HasWord reservedWord s.qualifiedName := by
    rw [qualifiedName, hasWord_append_cons_iff isWord_reservedWord (by decide)]
    exact not_or.2 ⟨hs.className, hs.interfaceName⟩
  have hmethods : ∀ m ∈ methods.map (indent ++ ·), ¬ HasWord reservedWord m := by
    simp +decide (disch := decide) only [List.forall_mem_map, hasWord_append_of_left]
    simpa using h
  refine not_hasWord_block isWord_reservedWord
    (List.forall_mem_append.2 ⟨List.forall_mem_append.2 ⟨?_, hmethods⟩, by decide⟩)
  simp +decide (disch := decide) only [List.forall_mem_cons, hasWord_append_of_right,
    hasWord_append_of_left, hasWord_between_iff, hasWord_append_cons_iff, hs.interfaceName,
    hs.libraryName, hname]

/-- The class has the reserved word only if its interface or a method of its own has it. -/
theorem NamesLack.unit {interface : Text} {functions : List Text}
    (hi : ¬ HasWord reservedWord interface) (hf : ∀ f ∈ functions, ¬ HasWord reservedWord f) :
    ¬ HasWord reservedWord (s.unit interface functions) := by
  have hinterface := not_hasWord_indented isWord_reservedWord hi
  have hfunctions : ∀ l ∈ functions.flatMap (fun f => [] :: indented f),
      ¬ HasWord reservedWord l := by
    simp +decide only [List.forall_mem_flatMap, List.forall_mem_cons, true_and]
    exact fun f hmem => not_hasWord_indented isWord_reservedWord (hf f hmem)
  have hfirst : ∀ l ∈ ["package ".toList ++ s.package ++ ";".toList, [],
      "import jnr.ffi.LibraryLoader;".toList, "import jnr.ffi.Pointer;".toList, [],
      "public class ".toList ++ s.className ++ " \x7b".toList], ¬ HasWord reservedWord l := by
    simp +decide (disch := decide) only [List.forall_mem_cons, hasWord_append_of_right,
      hasWord_append_of_left, hs.package, hs.className]
  rw [Settings.unit, hasWord_append_of_right isWord_reservedWord (by decide)]
  refine not_or.2 ⟨not_hasWord_block isWord_reservedWord ?_, by decide⟩
  simp only [List.forall_mem_append]
  exact ⟨⟨⟨hfirst, hinterface⟩, hfunctions⟩, by decide⟩

/-- The output of a run has the reserved word only if a line of it has it. -/
theorem NamesLack.output {d : Dictionary} {lines : List Text}
    (h : ∀ line ∈ lines, ¬ HasWord reservedWord line) :
    ¬ HasWord reservedWord (s.output (Survey.ofLines d lines)) := by
  refine hs.unit (hs.interface ?_) ?_
  · simp only [Survey.ofLines, List.forall_mem_map]
    exact fun line hline hw => h line hline (hw.trans (hasWord_strip line))
  · simp only [Survey.ofLines, List.zipWith_map_right, List.zipWith_self, List.forall_mem_map]
    exact fun line hline => hs.forwardingMethod (h line hline)

end

/-- The reserved word never reaches the generated class : whatever the lines are, the class has
it as a whole word only if a name that the class is given has it, or the target of a rule of
the dictionary by which the lines are read. -/
theorem not_hasWord_output_generate (s : Settings) (hs : s.NamesLack reservedWord)
    (typedefs declarations : List Text)
    (htargets : ∀ r ∈ (s.generate typedefs declarations).dictionary.rules,
      ¬ HasWord reservedWord (Rule.target r)) :
    ¬ HasWord reservedWord (s.generate typedefs declarations).output := by
  have hlines : ∀ line ∈ (s.dictionaryAfter typedefs).javaLines declarations,
      ¬ HasWord reservedWord line := by
    intro line hline
    obtain ⟨declaration, -, rfl⟩ := List.mem_map.1 (List.mem_filter.1 hline).1
    exact Dictionary.not_hasWord_javaLine htargets declaration
  have houtput : (s.generate typedefs declarations).output =
      s.output (Survey.ofLines (s.dictionaryAfter typedefs)
        ((s.dictionaryAfter typedefs).javaLines declarations)) :=
    congrArg s.output (survey_eq (s.dictionaryAfter typedefs) declarations)
  rw [houtput]
  exact hs.output hlines

/-- The name of a function and of its parameter is the reserved word, and their type an alias
in which it is no whole word. -/
theorem not_hasWord_output_generate_synchronized :
    let typedefs := ["typedef int32 synchronized_date;".toList]
    let declarations := ["extern synchronized_date synchronized(char *synchronized);".toList]
    (∀ line ∈ declarations, HasWord reservedWord line) ∧
      ¬ HasWord reservedWord (({} : Settings).generate typedefs declarations).output := by
  refine ⟨by decide +kernel, not_hasWord_output_generate {} ⟨?_, ?_, ?_, ?_⟩ _ _ ?_⟩
  all_goals decide +kernel

end Settings

end HeaderBridge
