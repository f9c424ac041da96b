import HeaderBridge.Proofs.DoublePointers

/-!
# Pointers with one star

What a pointer with one star becomes under the built-in rules depends on how the word of its
type ends and how its name begins (`javaLine_singlePointers`). A type that does not end in
`char` becomes a `Pointer`. The type `char` becomes a `String`, or an array of octets if the
name begins as the name of the time zone does, since that pattern does not ask where the name
ends. Any other type that ends in `char` is cut in two : what stands before `char` stays, with
a marker grown onto it for which there is no rule.
-/

namespace HeaderBridge

open Text

/-! ## The tokens -/

/-- No built-in rule is for a marker with something before it. -/
theorem Dictionary.image_builtin_append {u m : Text} (hu : u ≠ [])
    (hm : m ∈ [stringMarker, byteArray]) : builtin.image (u ++ m) = u ++ m := by
  have halone : ∀ m ∈ [stringMarker, byteArray], ∀ r ∈ builtin.rules,
      m <:+ Rule.raw r → Rule.raw r = m := by decide
  refine image_eq_self fun r hr hraw => hu ?_
  have hsuffix : m <:+ Rule.raw r := hraw ▸ List.suffix_append u m
  exact List.append_left_eq_self.1 (hraw.symm.trans (halone m hm r hr hsuffix))

theorem javaWord_ne_nil {w : Text} (hw : w ≠ []) : javaWord w ≠ [] := by
  unfold javaWord
  split
  · decide
  · exact hw

namespace Declared

variable {d : Declared} (hs : d.type.stars = .one)
include hs

theorem charPointer_iff_of_one : d.CharPointer ↔ "char".toList <:+ d.type.base.text := by
  simp [CharPointer, hs]

/-- A pointer whose type does not end in `char` is a `Pointer`, by whatever name. -/
theorem image_lineToken_of_one (h : ¬ "char".toList <:+ d.type.base.text) :
    Dictionary.builtin.image d.lineToken = "Pointer".toList := by
  have hbase : d.type.base.text ≠ "char".toList := fun heq => h (heq ▸ List.suffix_refl _)
  have hmarker : d.marker = pointerMarker := by
    simp only [marker, hs]
    exact if_neg hbase
  have htoken : d.token = pointerMarker := by
    rw [token, hmarker, if_neg fun hz => absurd hz.1 (by decide)]
  rw [lineToken, if_neg (mt (charPointer_iff_of_one hs).1 h), htoken]
  decide

/-- The octets of a time zone, or a string, have what is left of the type before them. -/
theorem lineToken_of_charPointer (h : "char".toList <:+ d.type.base.text) :
    d.lineToken =
      if "tz_str".toList <+: d.name.text then d.stem ++ byteArray
      else javaWord d.stem ++ stringMarker := by
  have htwo : d.type.stars ≠ .two := by simp [hs]
  rw [lineToken, if_pos ((charPointer_iff_of_one hs).2 h)]
  simp only [cutToken, ne_eq, htwo, not_false_eq_true, true_and, if_false]

/-- A pointer to `char` is a string, unless its name begins as that of the time zone. -/
theorem image_lineToken_of_char (h : d.type.base.text = "char".toList) :
    Dictionary.builtin.image d.lineToken =
      if "tz_str".toList <+: d.name.text then byteArray else "String".toList := by
  have hstem : d.stem = [] := by
    rw [stem, h]
    rfl
  rw [lineToken_of_charPointer hs (h ▸ List.suffix_refl _), hstem]
  split <;> decide

/-- A type that ends in `char` and is longer is cut, and no rule is for what is left. -/
theorem image_lineToken_of_longer (h : "char".toList <:+ d.type.base.text)
    (hne : d.type.base.text ≠ "char".toList) :
    Dictionary.builtin.image d.lineToken = d.lineToken := by
  have hstem : d.stem ≠ [] := fun hnil => hne <| by rw [← stem_append_char h, hnil]; rfl
  rw [lineToken_of_charPointer hs h]
  split
  · exact Dictionary.image_builtin_append hstem (by simp)
  · exact Dictionary.image_builtin_append (javaWord_ne_nil hstem) (by simp)

end Declared

/-! ## The line -/

/-- On the line of a prototype every declarator is rewritten on its own, and a parameter whose
type ends in no keyword is shown with all the others. A pointer with one star becomes a
`Pointer` if its type does not end in `char`, and the type `char` a `String`, but an array of
octets before a name that begins with `tz_str`. Of any other type that ends in `char` the front
stays, with the marker of a string or the octets behind it. The name is kept in each case. -/
theorem javaLine_singlePointers (p : Prototype) :
    Dictionary.builtin.javaLine p.line =
        lineOf (p.function.inLine .builtin) (p.shown.map fun d => d.inLine .builtin) ∧
      ((∃ d ∈ p.params, d.Keywordless) → p.shown = p.params) ∧
      ∀ d ∈ p.function :: p.params, d.Keywordless → d.type.stars = .one →
        (¬ "char".toList <:+ d.type.base.text →
          d.inLine .builtin = "Pointer".toList ++ ' ' :: d.javaName) ∧
        (d.type.base.text = "char".toList →
          d.inLine .builtin =
            (if "tz_str".toList <+: d.name.text then byteArray else "String".toList) ++
              ' ' :: d.javaName) ∧
        ("char".toList <:+ d.type.base.text → d.type.base.text ≠ "char".toList →
          d.inLine .builtin =
            (if "tz_str".toList <+: d.name.text then d.stem ++ byteArray
              else javaWord d.stem ++ stringMarker) ++ ' ' :: d.javaName) := by
  refine ⟨p.javaLine_declarators Dictionary.plain_builtin, ?_, fun d _ hd hs => ?_⟩
  · rintro ⟨d, hd, hkeywordless⟩
    exact Prototype.shown_eq_of_not_glued hd hkeywordless.not_glued
  · rw [hd.inLine_eq]
    unfold Declared.rewritten
    refine ⟨fun hother => ?_, fun hchar => ?_, fun hsuffix hne => ?_⟩
    · rw [Declared.image_lineToken_of_one hs hother]
    · rw [Declared.image_lineToken_of_char hs hchar]
    · rw [Declared.image_lineToken_of_longer hs hsuffix hne,
        Declared.lineToken_of_charPointer hs hsuffix]

/-- A string, the time zone, another name that begins like it, a type that ends in `char` and
a pointer of the common kind, beside a type that ends in a keyword. -/
theorem javaLine_singlePointers_sample :
    let pointer (w n : Identifier) : Declared := ⟨{ base := w, stars := .one }, n⟩
    let string := pointer ⟨"char".toList, rfl, rfl⟩ ⟨"str".toList, rfl, rfl⟩
    let p : Prototype :=
      { storage := .external
        function := pointer ⟨"Temporal".toList, rfl, rfl⟩ ⟨"f".toList, rfl, rfl⟩
        params :=
          [string,
            pointer ⟨"char".toList, rfl, rfl⟩ ⟨"tz_str".toList, rfl, rfl⟩,
            pointer ⟨"char".toList, rfl, rfl⟩ ⟨"tz_string".toList, rfl, rfl⟩,
            pointer ⟨"uchar".toList, rfl, rfl⟩ ⟨"synchronized".toList, rfl, rfl⟩,
            ⟨{ base := ⟨"myconst".toList, rfl, rfl⟩ }, ⟨"x".toList, rfl, rfl⟩⟩] }
    p.line = "extern Temporal *f(char *str, char *tz_str, char *tz_string, ".toList ++
        "uchar *synchronized, myconst x);".toList ∧
      string.Keywordless ∧ p.shown = p.params ∧
      string.inLine .builtin = "String str".toList ∧
      Dictionary.builtin.javaLine p.line = "Pointer f(String str, byte[] tz_str, ".toList ++
        "byte[] tz_string, u*char synchronize, myx);".toList := by
  intro pointer string p
  have hstring : string.Keywordless := by decide
  have hmem : string ∈ p.params := by simp [p]
  obtain ⟨hline, hshown, hpointers⟩ := javaLine_singlePointers p
  have htoken := (hpointers string (List.mem_cons_of_mem _ hmem) hstring rfl).2.1 rfl
  exact ⟨by decide +kernel, hstring, hshown ⟨string, hmem, hstring⟩, htoken.trans (by decide),
    hline.trans (by decide +kernel)⟩

/-- A type that ends in `char` is cut and no `Pointer`, and a string whose name is longer than
that of the time zone is no `String`. -/
theorem exists_singlePointer_cut :
    ∃ p : Prototype, p.Keywordless ∧ p.line = "int f(uchar *p, char *tz_string);".toList ∧
      Dictionary.builtin.javaLine p.line = "int f(u*char p, byte[] tz_string);".toList ∧
      Dictionary.builtin.javaLine p.line ≠ "int f(Pointer p, String tz_string);".toList := by
  let p : Prototype :=
    { function := ⟨{ base := ⟨"int".toList, rfl, rfl⟩ }, ⟨"f".toList, rfl, rfl⟩⟩
      params :=
        [⟨{ base := ⟨"uchar".toList, rfl, rfl⟩, stars := .one }, ⟨"p".toList, rfl, rfl⟩⟩,
          ⟨{ base := ⟨"char".toList, rfl, rfl⟩, stars := .one },
            ⟨"tz_string".toList, rfl, rfl⟩⟩] }
  refine ⟨p, by decide, ?_, ?_, ?_⟩ <;> decide +kernel

end HeaderBridge
