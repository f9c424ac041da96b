import HeaderBridge.Proofs.DictionaryRun
import HeaderBridge.Proofs.WholeWords

/-!
# Typedefs of a header

A typedef of a header is written as one line, with the spelling of its type in the middle. The
spelling can be anything : a word, several words, a pointer, or nothing. As long as no semicolon
stands in it, the line is read back exactly if it is one word, and then as what was written
(`readTypedef_line_iff`). For the semicolon that is read is the one at the end, and the word
before it is the name.

`DictionaryState.perform_typedef_line` says what an open dictionary makes of such a line, and
`resolveTypedefs_lines` what it makes of all typedefs of a header.
-/

namespace HeaderBridge

open Text

/-! ## Reading the line back -/

namespace Text

/-- A text is cut at the start of its last part in one way only. -/
theorem append_cons_inj_last {p : Char → Bool} {u v s t : Text} {c d : Char}
    (hs : ∀ x ∈ s, p x = true) (hc : p c = false) (ht : ∀ x ∈ t, p x = true)
    (hd : p d = false) (h : u ++ c :: s = v ++ d :: t) : u = v ∧ c = d ∧ s = t := by
  have hreverse : s.reverse ++ c :: u.reverse = t.reverse ++ d :: v.reverse := by
    simpa using congrArg List.reverse h
  obtain ⟨hst, hcd, huv⟩ := append_cons_inj (fun x hx => hs x (List.mem_reverse.1 hx)) hc
    (fun x hx => ht x (List.mem_reverse.1 hx)) hd hreverse
  exact ⟨List.reverse_inj.1 huv, hcd, List.reverse_inj.1 hst⟩

/-- A text is cut at its first semicolon, and at the word before it, in one way only. -/
theorem append_word_semicolon_inj {u v w x s t : Text} {b c : Char} (hu : ';' ∉ u)
    (hv : ';' ∉ v) (hw : IsWord w) (hx : IsWord x) (hb : HeaderBridge.isBlank b = true)
    (hc : HeaderBridge.isBlank c = true)
    (h : u ++ b :: (w ++ ';' :: s) = v ++ c :: (x ++ ';' :: t)) : u = v ∧ w = x := by
  have hbefore : ∀ {u w : Text} {b : Char}, ';' ∉ u → IsWord w → HeaderBridge.isBlank b = true →
      ∀ d ∈ u ++ b :: w, (d != ';') = true := by
    intro u w b hu hw hb d hd
    have hne : ';' ≠ b := by
      rintro rfl
      exact absurd hb (by decide)
    have hword : ';' ∉ w := hw.notMem (by decide)
    have hnot : ';' ∉ u ++ b :: w := by simp [hu, hne, hword]
    simpa using ne_of_mem_of_not_mem hd hnot
  have hfirst : (u ++ b :: w) ++ ';' :: s = (v ++ c :: x) ++ ';' :: t := by simpa using h
  obtain ⟨hcut, -, -⟩ := append_cons_inj (p := (· != ';')) (hbefore hu hw hb) (by decide)
    (hbefore hv hx hc) (by decide) hfirst
  obtain ⟨huv, -, hwx⟩ := append_cons_inj_last hw.all (isWordChar_of_isBlank hb) hx.all
    (isWordChar_of_isBlank hc) hcut
  exact ⟨huv, hwx⟩

end Text

section

variable {a : TypeAlias}

/-- The line of a typedef is read back as the typedef or not at all, and it is read exactly if
the spelling of the type is one word. -/
theorem readTypedef_line_iff (hname : IsWord a.name) (hunderlying : ';' ∉ a.underlying)
    {type name : Text} :
    readTypedef a.line = some (type, name) ↔
      IsWord a.underlying ∧ type = a.underlying ∧ name = a.name := by
  constructor
  · intro h
    obtain ⟨htype, hname', b, b', rest, hb, hb', hline⟩ := readTypedef_eq_some_iff.1 h
    have hbehind : a.underlying ++ ' ' :: (a.name ++ [';']) =
        type ++ b' :: (name ++ ';' :: rest) :=
      (List.cons.inj (List.append_cancel_left (a.line_eq.symm.trans hline))).2
    obtain ⟨rfl, rfl⟩ := append_word_semicolon_inj hunderlying (htype.notMem (by decide)) hname
      hname' (by decide) hb' hbehind
    exact ⟨htype, rfl, rfl⟩
  · rintro ⟨htype, rfl, rfl⟩
    exact readTypedef_line htype hname

/-- What is read of the line of a typedef. -/
theorem readTypedef_line_eq (hname : IsWord a.name) (hunderlying : ';' ∉ a.underlying) :
    readTypedef a.line = if IsWord a.underlying then some (a.underlying, a.name) else none := by
  split
  · next h => exact readTypedef_line h hname
  · next h =>
    refine Option.eq_none_iff_forall_ne_some.2 fun r hr => h ?_
    exact ((readTypedef_line_iff hname hunderlying).1 hr).1

/-! ## One typedef -/

namespace DictionaryState

variable {s : DictionaryState}

theorem perform_line_of_isWord (hopen : s.dictionary.frozen = false)
    (htype : IsWord a.underlying) (hname : IsWord a.name) :
    s.perform (.typedef a.line) =
      ({ s with dictionary := s.dictionary.register a.underlying a.name },
        .added [(a.name, s.dictionary.resolve a.underlying)]) := by
  simp only [perform, Dictionary.registerTypedef_of_some hopen (readTypedef_line htype hname)]

theorem perform_line_of_not_isWord (htype : ¬ IsWord a.underlying) (hname : IsWord a.name)
    (hunderlying : ';' ∉ a.underlying) :
    s.perform (.typedef a.line) =
      ({ s with reports := s.reports ++ [unreadableTypedef a.line] }, .added []) := by
  have hread : readTypedef a.line = none := by
    rw [readTypedef_line_eq hname hunderlying, if_neg htype]
  simp only [perform, Dictionary.registerTypedef_of_none hread]

/-- The line of a typedef adds a rule to an open dictionary exactly if the spelling of the type
is one word. The rule puts in the place of the name what the dictionary has for the type, or the
type itself. Otherwise the line is reported and the dictionary is left as it is. -/
theorem perform_typedef_line (hopen : s.dictionary.frozen = false) (hname : IsWord a.name)
    (hunderlying : ';' ∉ a.underlying) :
    let answer := (s.perform (.typedef a.line)).2
    let after := (s.perform (.typedef a.line)).1
    let target := (s.dictionary.lookup a.underlying).getD a.underlying
    ((∃ rule, answer = .added [rule]) ↔ IsWord a.underlying) ∧
      (IsWord a.underlying →
        answer = .added [(a.name, target)] ∧
          after.dictionary =
            { s.dictionary with rules := s.dictionary.rules.insert a.name target } ∧
          after.reports = s.reports) ∧
      (¬ IsWord a.underlying →
        answer = .added [] ∧ after.dictionary = s.dictionary ∧
          after.reports =
            s.reports ++ [warning ("Cannot extract type for row: ".toList ++ a.line)]) := by
  intro answer after target
  by_cases htype : IsWord a.underlying
  · have hstep := perform_line_of_isWord hopen htype hname
    have hanswer : answer = .added [(a.name, target)] := congrArg Prod.snd hstep
    exact ⟨iff_of_true ⟨_, hanswer⟩ htype,
      fun _ => ⟨hanswer, congrArg (fun p => p.1.dictionary) hstep,
        congrArg (fun p => p.1.reports) hstep⟩,
      absurd htype⟩
  · have hstep := perform_line_of_not_isWord (s := s) htype hname hunderlying
    have hanswer : answer = .added [] := congrArg Prod.snd hstep
    refine ⟨iff_of_false ?_ htype, fun h => absurd h htype,
      fun _ => ⟨hanswer, congrArg (fun p => p.1.dictionary) hstep,
        congrArg (fun p => p.1.reports) hstep⟩⟩
    rintro ⟨rule, hrule⟩
    simp [hanswer] at hrule

/-- A typedef of an integer is taken, one of a function pointer is reported. -/
theorem perform_typedef_line_samples :
    let s : DictionaryState := { dictionary := .builtin }
    let number : TypeAlias := { name := "TimestampTz".toList, underlying := "int64".toList }
    let order : TypeAlias := { name := "cmp".toList, underlying := "int (*)(int, int)".toList }
    s.dictionary.frozen = false ∧
      (IsWord number.name ∧ ';' ∉ number.underlying ∧
        (s.perform (.typedef number.line)).2 =
          .added [("TimestampTz".toList, "long".toList)]) ∧
      IsWord order.name ∧ ';' ∉ order.underlying ∧
        (s.perform (.typedef order.line)).1.reports =
          [warning "Cannot extract type for row: typedef int (*)(int, int) cmp;".toList] := by
  intro s number order
  have hopen : s.dictionary.frozen = false := rfl
  have hnumber : IsWord number.name ∧ ';' ∉ number.underlying := by decide
  have horder : IsWord order.name ∧ ';' ∉ order.underlying := by decide
  have htaken := (perform_typedef_line hopen hnumber.1 hnumber.2).2.1 (by decide)
  have hreported := (perform_typedef_line hopen horder.1 horder.2).2.2 (by decide)
  exact ⟨hopen, ⟨hnumber.1, hnumber.2, htaken.1⟩, horder.1, horder.2, hreported.2.2⟩

end DictionaryState

end

/-! ## All typedefs of a header -/

theorem TypeAlias.not_isBlank_line (a : TypeAlias) : a.line.isBlank = false := by
  rw [a.line_eq]
  simp [Text.isBlank, show isBlank 't' = false by decide]

section

variable {d : Dictionary} {aliases : List TypeAlias}

/-- Of the lines of typedefs those are read whose types are one word. -/
theorem filterMap_readTypedef_lines
    (h : ∀ a ∈ aliases, IsWord a.name ∧ ';' ∉ a.underlying) :
    (aliases.map TypeAlias.line).filterMap readTypedef =
      (aliases.filter fun a => IsWord a.underlying).map fun a => (a.underlying, a.name) := by
  induction aliases with
  | nil => rfl
  | cons a aliases ih =>
    obtain ⟨hname, hunderlying⟩ := h a (by simp)
    have ih' := ih fun b hb => h b (List.mem_cons_of_mem a hb)
    rw [List.map_cons, List.filterMap_cons, readTypedef_line_eq hname hunderlying]
    by_cases hword : IsWord a.underlying <;> simp [hword, ih']

/-- An open dictionary takes the typedefs of a header whose types are one word, in their order,
and the others are reported. -/
theorem resolveTypedefs_lines (hopen : d.frozen = false)
    (h : ∀ a ∈ aliases, IsWord a.name ∧ ';' ∉ a.underlying) :
    let r := resolveTypedefs d (aliases.map TypeAlias.line)
    r.dictionary =
        d.registerAll ((aliases.filter fun a => IsWord a.underlying).map fun a =>
          (a.underlying, a.name)) ∧
      r.reports =
        (aliases.filter fun a => ¬ IsWord a.underlying).map fun a => unreadableTypedef a.line := by
  intro r
  refine ⟨?_, ?_⟩
  · rw [show r.dictionary = _ from dictionary_resolveTypedefs hopen _,
      filterMap_readTypedef_lines h]
  · rw [show r.reports = _ from reports_resolveTypedefs hopen _, List.filter_map, List.map_map]
    refine congrArg (List.map _) (List.filter_congr fun a ha => ?_)
    obtain ⟨hname, hunderlying⟩ := h a ha
    rw [Function.comp_apply, a.not_isBlank_line, readTypedef_line_eq hname hunderlying]
    by_cases hword : IsWord a.underlying <;> simp [hword]

end

end HeaderBridge
