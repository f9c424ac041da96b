import HeaderBridge.Proofs.JavaLine

/-!
# Pointers to pointers

Under the built-in rules a pointer to pointers becomes a `Pointer`, unless its type ends in
`char` : then the pattern of a pointer to characters takes the end of the type with the first
star, and the declarator keeps two stars (`javaLine_doublePointers`). The other declarators do
not matter.
-/

namespace HeaderBridge

open Text

/-! ## The line -/

namespace Declared

variable (d : Declared)

/-- The token of the type on the line to which the rules are applied. -/
def lineToken : Text := if d.CharPointer then d.cutToken else d.token

/-- The declarator on the line with Java types. -/
def rewritten (dict : Dictionary) : Text := dict.image d.lineToken ++ ' ' :: d.javaName

theorem Keywordless.inLine_eq {d : Declared} (h : d.Keywordless) (dict : Dictionary) :
    d.inLine dict = d.rewritten dict := by
  rw [inLine, if_neg h.not_glued, javaToken, javaWord_token h.not_reserved]
  rfl

end Declared

/-- The line with Java types of a prototype none of whose types ends in a keyword : each
declarator is rewritten on its own, whatever the others are. -/
theorem Prototype.javaLine_line_of_keywordless {p : Prototype} (hp : p.Keywordless)
    {dict : Dictionary} (hd : dict.Plain) :
    dict.javaLine p.line =
      lineOf (p.function.rewritten dict) (p.params.map fun d => d.rewritten dict) :=
  javaLine_of_keywordless hp hd fun d hd' =>
    (List.forall_mem_cons.2 ⟨hp.function, hp.params⟩ d hd').inLine_eq dict

/-! ## Pointers to pointers -/

theorem Dictionary.plain_builtin : Dictionary.builtin.Plain := fun r hr =>
  plain_builtinRules r (Dictionary.mem_of_mem_ofRules hr)

/-- The built-in rules put a `Pointer` in the place of a pointer to pointers, unless its type
ends in `char`. -/
theorem Declared.image_lineToken_of_two {d : Declared} (hs : d.type.stars = .two) :
    Dictionary.builtin.image d.lineToken =
      if "char".toList <:+ d.type.base.text then javaWord d.stem ++ "**".toList
      else "Pointer".toList := by
  have hc : d.CharPointer ↔ "char".toList <:+ d.type.base.text := by simp [CharPointer, hs]
  simp only [lineToken, hc]
  split
  · have htoken : d.cutToken = javaWord d.stem ++ "**".toList := by simp [cutToken, hs]
    rw [htoken]
    refine Dictionary.image_eq_self fun r hr hraw => ?_
    have hnot : ∀ r ∈ Dictionary.builtin.rules, ¬ "**".toList <:+ Rule.raw r := by decide
    exact hnot r hr (hraw ▸ List.suffix_append _ _)
  · have hmarker : d.marker = pointerArrayMarker := by simp [marker, hs]
    have htoken : d.token = pointerArrayMarker := by
      rw [token, hmarker, if_neg fun h => absurd h.1 (by decide)]
    rw [htoken]
    decide

/-- On the line of a prototype none of whose types ends in a keyword every declarator is
rewritten on its own. A pointer to pointers becomes a `Pointer` by the same name, whatever the
others are, unless its type ends in `char` : then the end of the type is taken for a pointer to
characters, and the two stars stay. -/
theorem javaLine_doublePointers (p : Prototype) (hp : p.Keywordless) :
    Dictionary.builtin.javaLine p.line =
        lineOf (p.function.rewritten .builtin) (p.params.map fun d => d.rewritten .builtin) ∧
      ∀ d ∈ p.function :: p.params, d.type.stars = .two →
        d.rewritten .builtin =
          (if "char".toList <:+ d.type.base.text then javaWord d.stem ++ "**".toList
            else "Pointer".toList) ++ ' ' :: d.javaName := by
  refine ⟨Prototype.javaLine_line_of_keywordless hp Dictionary.plain_builtin, fun d _ hs => ?_⟩
  rw [Declared.rewritten, Declared.image_lineToken_of_two hs]

/-- A pointer to pointers as result and as last parameter, between them one whose type ends in
`char` and a string. -/
theorem javaLine_doublePointers_sample :
    let p : Prototype :=
      { storage := .external
        function :=
          ⟨{ base := ⟨"Temporal".toList, rfl, rfl⟩, stars := .two }, ⟨"f".toList, rfl, rfl⟩⟩
        params :=
          [⟨{ base := ⟨"uchar".toList, rfl, rfl⟩, stars := .two },
              ⟨"chunks".toList, rfl, rfl⟩⟩,
            ⟨{ base := ⟨"char".toList, rfl, rfl⟩, stars := .one },
              ⟨"str".toList, rfl, rfl⟩⟩,
            ⟨{ base := ⟨"int".toList, rfl, rfl⟩, stars := .two },
              ⟨"counts".toList, rfl, rfl⟩⟩] }
    p.line = "extern Temporal **f(uchar **chunks, char *str, int **counts);".toList ∧
      Dictionary.builtin.javaLine p.line =
        "Pointer f(u** chunks, String str, Pointer counts);".toList := by
  intro p
  have hp : p.Keywordless :=
    ⟨⟨by decide, by decide, by decide⟩, by
      simp only [p, List.forall_mem_cons]
      exact ⟨⟨by decide, by decide, by decide⟩, ⟨by decide, by decide, by decide⟩,
        ⟨by decide, by decide, by decide⟩, by simp⟩⟩
  exact ⟨by decide +kernel, (javaLine_doublePointers p hp).1.trans (by decide +kernel)⟩

/-- A pointer to strings keeps its stars and is no `Pointer`. -/
theorem exists_doublePointer_kept :
    ∃ p : Prototype, p.Keywordless ∧ p.line = "int f(char **argv);".toList ∧
      Dictionary.builtin.javaLine p.line = "int f(** argv);".toList ∧
      Dictionary.builtin.javaLine p.line ≠ "int f(Pointer argv);".toList := by
  let p : Prototype :=
    { function :=
        ⟨{ base := ⟨"int".toList, rfl, rfl⟩ }, ⟨"f".toList, rfl, rfl⟩⟩
      params :=
        [⟨{ base := ⟨"char".toList, rfl, rfl⟩, stars := .two }, ⟨"argv".toList, rfl, rfl⟩⟩] }
  have hp : p.Keywordless :=
    ⟨⟨by decide, by decide, by decide⟩, by
      simp only [p, List.forall_mem_singleton]
      exact ⟨by decide, by decide, by decide⟩⟩
  refine ⟨p, hp, ?_, ?_, ?_⟩ <;> decide +kernel

end HeaderBridge
