import HeaderBridge.Proofs.ReadingTypes
import HeaderBridge.Proofs.WholeWords

/-!
# The name of the function on any line

The reader of names looks for an ASCII identifier before a parenthesis, the reader of types for
a type and a word before one, whatever alphabet the word is written in. On a line with one
opening parenthesis both can only mean the last word before it (`Text.lastWord`), since neither
begins or ends inside a word.

So the readers speak of the same function. If the word is an identifier it is the name that is
read, and if it is not the line has no name and is reported (`readName_of_declares`).
-/

namespace HeaderBridge

open Text

/-! ## The last word -/

namespace Text

/-- The last word of the text, empty if there is none. -/
def lastWord (t : Text) : Text := (word (t.reverse.dropWhile fun c => !isWordChar c)).reverse

/-- The text before the first opening parenthesis. -/
def beforeParen (t : Text) : Text := t.takeWhile fun c => c != '('

theorem lastWord_append {u w b : Text} (hu : EndsApart u) (hw : IsWord w) (hb : Wordless b) :
    lastWord (u ++ (w ++ b)) = w := by
  have hreverse : IsWord w.reverse :=
    ⟨by simpa using hw.ne_nil, fun c hc => hw.all c (List.mem_reverse.1 hc)⟩
  have hblank : ∀ c ∈ b.reverse, (!isWordChar c) = true := fun c hc => by
    simpa using wordless_iff.1 hb c (List.mem_reverse.1 hc)
  have hdrop : (w.reverse ++ u.reverse).dropWhile (fun c => !isWordChar c) =
      w.reverse ++ u.reverse := by
    obtain ⟨c, v, hv, hc⟩ := hreverse.exists_cons
    simp [hv, hc]
  have hbegin : BeginsApart u.reverse := by simpa [BeginsApart, EndsApart] using hu
  rw [lastWord, List.reverse_append, List.reverse_append, List.append_assoc,
    List.dropWhile_append_of_pos hblank, hdrop, word_append hreverse hbegin, List.reverse_reverse]

/-- On a line with one opening parenthesis there is one text before it. -/
theorem beforeParen_eq {u v : Text} (h : (u ++ '(' :: v).count '(' = 1) :
    beforeParen (u ++ '(' :: v) = u := by
  have hcount : u.count '(' = 0 := by
    rw [List.count_append, List.count_cons_self] at h
    omega
  have hall : ∀ c ∈ u, (c != '(') = true := fun c hc =>
    bne_iff_ne.2 fun heq => List.count_eq_zero.1 hcount (heq ▸ hc)
  simp [beforeParen, List.takeWhile_append_of_pos hall]

end Text

namespace Signature

/-! ## Declarations on a line -/

/-- Somewhere on the line stand a type and the name of a function, and the parameters in
parentheses. -/
def Declares (line type name params : Text) : Prop :=
  ∃ u t : Text, line = u ++ t ∧ BeginsDeclaration t type name params

section

variable {line type name params : Text}

/-- The reader of types finds a declaration, and finds one wherever there is one. -/
theorem exists_declares (h : search typesAt? none line = some (type, params)) :
    ∃ name, Declares line type name params := by
  obtain ⟨u, t, rfl, ht⟩ := exists_of_search h
  obtain ⟨name, hname⟩ := typesAt?_eq_some_iff.1 ht
  exact ⟨name, u, t, rfl, hname⟩

theorem Declares.exists_search (h : Declares line type name params) :
    ∃ r, search typesAt? none line = some r := by
  obtain ⟨u, t, rfl, ht⟩ := h
  exact Text.exists_search (typesAt?_eq_some_iff.2 ⟨name, ht⟩)

/-- The name of the function is a word, and no word runs over into it. -/
theorem Declares.exists_cut (h : Declares line type name params) :
    ∃ u b v : Text, line = u ++ (name ++ (b ++ '(' :: v)) ∧ EndsApart u ∧ IsWord name ∧
      b.isBlank = true := by
  obtain ⟨before, _, rfl, gap, b, rest, rfl, -, hne, hgap, hname, hb, -⟩ := h
  refine ⟨before ++ (type ++ gap), b, params ++ ')' :: rest, by simp, ?_, hname, hb⟩
  rw [← List.append_assoc]
  exact (endsApart_append_iff hne).2 (wordless_of_isBlank hgap).endsApart

theorem lastWord_beforeParen {u w b v : Text} (hu : EndsApart u) (hw : IsWord w)
    (hb : b.isBlank = true) (hone : (u ++ (w ++ (b ++ '(' :: v))).count '(' = 1) :
    lastWord (beforeParen (u ++ (w ++ (b ++ '(' :: v)))) = w := by
  have hcut : u ++ (w ++ (b ++ '(' :: v)) = (u ++ (w ++ b)) ++ '(' :: v := by simp
  rw [hcut] at hone ⊢
  rw [beforeParen_eq hone, lastWord_append hu hw (wordless_of_isBlank hb)]

/-- On a line with one opening parenthesis the name of a declaration is the last word before
it. -/
theorem Declares.lastWord_eq (h : Declares line type name params) (hone : line.count '(' = 1) :
    lastWord (beforeParen line) = name := by
  obtain ⟨u, b, v, rfl, hu, hname, hb⟩ := h.exists_cut
  exact lastWord_beforeParen hu hname hb hone

/-- So is the name that is read, and it is an identifier. -/
theorem lastWord_of_search (h : search nameAt? none line = some name)
    (hone : line.count '(' = 1) :
    lastWord (beforeParen line) = name ∧ ∃ f : Identifier, f.text = name := by
  obtain ⟨u, t, rfl, ht⟩ := exists_of_search h
  obtain ⟨hu, ⟨f, rfl⟩, b, v, hb, rfl⟩ := nameAt?_eq_some_iff.1 ht
  rw [lastFrom_none] at hu
  exact ⟨lastWord_beforeParen hu f.isWord hb hone, f, rfl⟩

/-- An identifier that is declared is found. -/
theorem Declares.exists_search_nameAt? {f : Identifier} (h : Declares line type f.text params) :
    ∃ n, search nameAt? none line = some n := by
  obtain ⟨u, b, v, rfl, hu, -, hb⟩ := h.exists_cut
  have hbefore : (lastFrom none u).any isWordChar = false := by rwa [lastFrom_none]
  exact Text.exists_search (nameAt?_eq_some_iff.2 ⟨hbefore, ⟨f, rfl⟩, b, v, hb, rfl⟩)

/-! ## The two readers -/

/-- On a line with one opening parenthesis the reader of types finds a declaration exactly if
there is one, and the name of the declaration is the one that is read if it is an identifier. If
it is none no name is read, and the line is reported. -/
theorem readName_of_declares (line : Text) (hone : line.count '(' = 1) :
    (∀ type params, search typesAt? none line = some (type, params) →
        ∃ name, Declares line type name params) ∧
      ∀ type name params, Declares line type name params →
        (∃ r, search typesAt? none line = some r) ∧
          ((∃ f : Identifier, f.text = name) → readName line = name) ∧
          ((¬ ∃ f : Identifier, f.text = name) →
            readName line = [] ∧ (ofLine line).check line = [unreadable line]) := by
  refine ⟨fun type params => exists_declares, fun type name params h =>
    ⟨h.exists_search, ?_, ?_⟩⟩
  · rintro ⟨f, rfl⟩
    obtain ⟨n, hn⟩ := h.exists_search_nameAt?
    have hname : n = f.text := (lastWord_of_search hn hone).1.symm.trans (h.lastWord_eq hone)
    rw [readName, hn, hname, Option.getD_some]
  · intro hno
    have hnone : search nameAt? none line = none := by
      refine Option.eq_none_iff_forall_ne_some.2 fun n hn => hno ?_
      obtain ⟨hlast, hident⟩ := lastWord_of_search hn hone
      have hname : n = name := hlast.symm.trans (h.lastWord_eq hone)
      exact hname ▸ hident
    have hread : readName line = [] := by rw [readName, hnone, Option.getD_none]
    have hempty : (ofLine line).name.isEmpty = true := by
      have hname : (ofLine line).name = [] := hread
      rw [hname, List.isEmpty_nil]
    exact ⟨hread, if_pos hempty⟩

/-- A declaration behind a keyword, with a name that is an identifier, and one with a name that is
not written in ASCII. -/
theorem readName_of_declares_sample :
    let line := "extern byte[] \tf_1 (int a, int b);".toList
    let foreign := "int größe(int x);".toList
    line.count '(' = 1 ∧ Declares line "byte[]".toList "f_1".toList "int a, int b".toList ∧
      readName line = "f_1".toList ∧
      foreign.count '(' = 1 ∧ Declares foreign "int".toList "größe".toList "int x".toList ∧
      readName foreign = [] ∧ (ofLine foreign).check foreign = [unreadable foreign] := by
  intro line foreign
  have hword : ∀ {w : Text}, w.isEmpty = false → w.all isWordChar = true → IsWord w := .of_all
  have hline : Declares line "byte[]".toList "f_1".toList "int a, int b".toList :=
    ⟨"extern ".toList, _, rfl, " \t".toList, [' '], [';'], rfl,
      ⟨"byte".toList, hword rfl (by decide), Or.inr rfl⟩, by simp, by decide,
      hword rfl (by decide), by decide, by decide⟩
  have hforeign : Declares foreign "int".toList "größe".toList "int x".toList :=
    ⟨[], _, rfl, [' '], [], [';'], rfl, ⟨_, hword rfl (by decide), Or.inl rfl⟩, by simp,
      by decide, hword rfl (by decide), by decide, by decide⟩
  have hident : ¬ ∃ f : Identifier, f.text = "größe".toList := by
    rintro ⟨f, hf⟩
    exact absurd (hf ▸ f.all) (by decide)
  have hone : line.count '(' = 1 := by decide
  have hone' : foreign.count '(' = 1 := by decide
  obtain ⟨-, hname, -⟩ := (readName_of_declares line hone).2 _ _ _ hline
  obtain ⟨-, -, hreport⟩ := (readName_of_declares foreign hone').2 _ _ _ hforeign
  exact ⟨hone, hline, hname ⟨⟨"f_1".toList, by decide, by decide⟩, rfl⟩, hone', hforeign,
    hreport hident⟩

end

end Signature

end HeaderBridge
