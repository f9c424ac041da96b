import HeaderBridge.Proofs.Substitution

/-!
# Every declarator on its own

The passes turn the declarators of a prototype one by one, whatever the others are
(`Prototype.javaLine_declarators`). This holds of every prototype, also of those whose types
the passes cut in two.

The pattern of a pointer to characters asks neither for a whole word nor that one star stands
alone. So it takes the end of any type that ends in `char`, with the first star behind it, and
what stands before it stays on the line (`Declared.cutToken`). Every other pointer becomes its
marker. A type that ends in a keyword has been glued to its name before, so no pattern finds a
pointer there and no rule a token, and the declarator is shown as one word with its stars
(`Declared.javaGlued`).
-/

namespace HeaderBridge

open Text

namespace Declared

variable (d : Declared)

/-! ## Types that are cut -/

/-- The type is a pointer and its word ends in `char`. -/
def CharPointer : Prop := d.type.stars ≠ .none ∧ "char".toList <:+ d.type.base.text

instance : Decidable d.CharPointer := inferInstanceAs (Decidable (_ ∧ _))

/-- What stands before `char` at the end of the type's word. -/
def stem : Text := d.type.base.text.take (d.type.base.text.length - 4)

/-- The stars behind the first one. -/
def furtherStars : Stars :=
  match d.type.stars with
  | .two => .one
  | _ => .none

/-- What the first pattern leaves of the type, as a declarator of its own. -/
def remainder : Declared where
  type := { base := ⟨"char".toList, rfl, rfl⟩, stars := d.furtherStars }
  name := d.name

/-- The marker of a type that is cut. -/
def cutMarker : Text := d.stem ++ if d.type.stars = .two then "**".toList else stringMarker

/-- The token of a type that is cut, before the names in Java. -/
def cutZone : Text :=
  if d.type.stars ≠ .two ∧ "tz_str".toList <+: d.name.text then d.stem ++ byteArray
  else d.cutMarker

/-- The token of a type that is cut. What is left of its word gets its spelling in Java, unless
the octets of a time zone have grown onto it. -/
def cutToken : Text :=
  if d.type.stars ≠ .two ∧ "tz_str".toList <+: d.name.text then d.stem ++ byteArray
  else javaWord d.stem ++ if d.type.stars = .two then "**".toList else stringMarker

theorem stem_append_char {d : Declared} (h : "char".toList <:+ d.type.base.text) :
    d.stem ++ "char".toList = d.type.base.text :=
  List.suffix_iff_eq_append.1 h

theorem isWordChar_of_mem_stem {c : Char} (hc : c ∈ d.stem) : isWordChar c = true :=
  d.type.base.isWord.all c (List.mem_of_mem_take hc)

theorem bare_of_charPointer {d : Declared} (h : d.CharPointer) :
    d.bare = d.stem ++ ("char *".toList ++ (d.furtherStars.text ++ d.name.text)) := by
  rw [bare, ← stem_append_char h.2, furtherStars]
  cases hs : d.type.stars with
  | none => exact absurd hs h.1
  | one => simp [Stars.text]
  | two => simp [Stars.text]

/-! ## The passes over a type that is cut -/

/-- What stands before the star stays. -/
theorem turns_stem {find : Option Char → Text → Option (Nat × Text)} (hf : WordLed find)
    {a b : Text} (hab : ∀ q, Turns find q a b) (p : Option Char) :
    Turns find p (d.stem ++ '*' :: a) (d.stem ++ '*' :: b) :=
  hf.turns_append_cons (by decide) (by decide) (fun _ hc => d.isWordChar_of_mem_stem hc) hab p

theorem turns_remainder_double (p : Option Char) :
    Turns doublePointer p (d.stem ++ '*' :: d.remainder.bare)
      (d.stem ++ '*' :: d.remainder.bare) := by
  refine d.turns_stem wordLed_doublePointer (d.remainder.turns_bare_of_ne_two ?_) p
  unfold remainder furtherStars
  split <;> simp

/-- A second star goes alone, with the end of the word that the first one has left. -/
theorem turns_remainder_single (p : Option Char) :
    Turns singlePointer p (d.stem ++ '*' :: d.remainder.bare)
      (d.cutMarker ++ ' ' :: d.name.text) := by
  unfold cutMarker
  split
  · next hs =>
    have hone : d.remainder.type.stars = .one := by simp [remainder, furtherStars, hs]
    have hsplit : "**".toList = '*' :: pointerMarker := by decide
    rw [hsplit, List.append_assoc]
    exact d.turns_stem wordLed_singlePointer (d.remainder.turns_bare_of_one hone) p
  · next hs =>
    have hnone : d.remainder.type.stars = .none := by
      unfold remainder furtherStars
      split
      · next h => exact absurd h hs
      · rfl
    have hbare := d.remainder.turns_bare_of_none wordLed_singlePointer
      asksForStar_singlePointer hnone
    have hleft : '*' :: d.remainder.bare = stringMarker ++ ' ' :: d.name.text := by
      rw [bare, hnone]
      rfl
    rw [List.append_assoc, ← hleft]
    exact d.turns_stem wordLed_singlePointer hbare p

/-- The end of the type's word goes with the first star. -/
theorem turns_bare_cut {d : Declared} (h : d.CharPointer) (p : Option Char) :
    Turns charPointer p d.bare (d.stem ++ '*' :: d.remainder.bare) := by
  have hmatch : ∀ q, Turns charPointer q ("char *".toList ++ (d.furtherStars.text ++ d.name.text))
      ('*' :: d.remainder.bare) := fun q =>
    Turns.match_append (n := stringMarker ++ [' ']) (by decide) (fun c t _ => rfl)
      (wordLed_charPointer.turns_append (fun c hc => d.furtherStars.isWordChar_of_mem hc)
        (wordLed_charPointer.turns_word d.name.isWord) _)
  rw [bare_of_charPointer h]
  exact Turns.cut (fun c hc => d.isWordChar_of_mem_stem hc) isWord_char
    (fun w hw hne q t => charPointer_eq_none hw q fun heq => absurd heq hne) hmatch p

theorem turns_cutMarker_cutZone (p : Option Char) :
    Turns timeZoneParameter p (d.cutMarker ++ ' ' :: d.name.text)
      (d.cutZone ++ ' ' :: d.name.text) := by
  have hstem : '*' ∉ d.stem := fun hm => absurd (d.isWordChar_of_mem_stem hm) (by decide)
  have hname : '*' ∉ d.name.text := d.name.isWord.notMem (by decide)
  unfold cutZone cutMarker
  by_cases hs : d.type.stars = .two
  · have hstar : ∀ q, Turns timeZoneParameter q ('*' :: ' ' :: d.name.text)
        ('*' :: ' ' :: d.name.text) :=
      fun q => turns_cons_self q (fun c t _ => rfl)
        (timeZoneParameter_of_mem (by simpa using hname))
    have hstars : ∀ q, Turns timeZoneParameter q ("**".toList ++ ' ' :: d.name.text)
        ("**".toList ++ ' ' :: d.name.text) := fun q => (hstar _).cons_of fun c t _ => rfl
    simpa [hs] using turns_starless hstem hstars p
  · -- Behind the stem stands a pointer to characters, by the same name.
    let chars : Declared :=
      { type := { base := ⟨"char".toList, rfl, rfl⟩, stars := .one }, name := d.name }
    have hmarker : chars.marker = stringMarker := rfl
    have hchars := turns_starless hstem chars.turns_marked_zoned p
    rw [marked, zoned, token, hmarker] at hchars
    by_cases hz : "tz_str".toList <+: d.name.text
    · rw [if_pos ⟨rfl, hz⟩] at hchars
      rw [if_neg hs, if_pos ⟨hs, hz⟩]
      simpa only [List.append_assoc] using hchars
    · rw [if_neg fun h => hz h.2] at hchars
      rw [if_neg hs, if_neg fun h => hz h.2]
      simpa only [List.append_assoc] using hchars

/-- What is left of the word gets its spelling in Java, and so does the name. -/
theorem turns_cutZone_cutToken {p : Option Char} (hp : p.any isWordChar = false) :
    Turns reservedName p (d.cutZone ++ ' ' :: d.name.text) (d.cutToken ++ ' ' :: d.javaName) := by
  have hname : Turns reservedName (some ' ') d.name.text d.javaName :=
    turns_reservedName d.name.isWord (by decide)
  have hspace : ∀ q, Turns reservedName q (' ' :: d.name.text) (' ' :: d.javaName) :=
    turns_reservedName_cons (by decide) hname
  have hstem : ∀ c ∈ d.stem, isWordChar c = true := fun c hc => d.isWordChar_of_mem_stem hc
  unfold cutZone cutToken cutMarker
  split
  · -- The octets have grown onto the word, which is not the reserved one.
    have hbyte : IsWord "byte".toList := .of_all (by decide) (by decide)
    have hword := hbyte.append_of_all hstem
    have hne : d.stem ++ "byte".toList ≠ reservedWord := fun heq => by
      have hsuffix : "byte".toList <:+ reservedWord := ⟨d.stem, heq⟩
      exact absurd hsuffix (by decide)
    have hoctets := turns_reservedName_append hword.all (o := '[') (by decide)
      (turns_reservedName_cons (o := ']') (by decide) (hspace _) _) hp
    have hsplit : byteArray = "byte".toList ++ ['[', ']'] := by decide
    rw [javaWord_of_ne hne] at hoctets
    simpa only [hsplit, List.append_assoc, List.cons_append, List.nil_append] using hoctets
  · by_cases hs : d.type.stars = .two
    · have hstars := turns_reservedName_append hstem (o := '*') (by decide)
        (turns_reservedName_cons (o := '*') (by decide) (hspace _) _) hp
      simpa [hs] using hstars
    · have hchars := turns_reservedName_append hstem (o := '*') (by decide)
        (turns_reservedName_append isWord_char.all (by decide) hname (by decide)) hp
      rw [javaWord_of_ne (w := "char".toList) (by decide)] at hchars
      have hsplit : stringMarker = '*' :: "char".toList := by decide
      simpa only [hsplit, if_neg hs, List.append_assoc, List.cons_append] using hchars

/-! ## Every declarator -/

/-- The declarator behind the pattern of a pointer to characters. -/
def lineCharMarked : Text :=
  if d.CharPointer then d.stem ++ '*' :: d.remainder.bare else d.charMarked

/-- The declarator behind the pattern of a pointer to pointers. -/
def lineArrayMarked : Text :=
  if d.CharPointer then d.stem ++ '*' :: d.remainder.bare else d.arrayMarked

/-- The declarator behind the three patterns. -/
def lineMarked : Text := (if d.CharPointer then d.cutMarker else d.marker) ++ ' ' :: d.name.text

/-- The token of the type before the names get their spelling in Java. -/
def lineZone : Text := if d.CharPointer then d.cutZone else d.token

theorem turns_bare_lineCharMarked (p : Option Char) :
    Turns charPointer p d.bare d.lineCharMarked := by
  unfold lineCharMarked
  split
  · next hc => exact turns_bare_cut hc p
  · next hc => exact d.turns_bare_charMarked (fun hs hchar => absurd ⟨hs, hchar⟩ hc) p

theorem turns_lineCharMarked_lineArrayMarked (p : Option Char) :
    Turns doublePointer p d.lineCharMarked d.lineArrayMarked := by
  unfold lineCharMarked lineArrayMarked
  split
  · exact d.turns_remainder_double p
  · exact d.turns_charMarked_arrayMarked p

theorem turns_lineArrayMarked_lineMarked (p : Option Char) :
    Turns singlePointer p d.lineArrayMarked d.lineMarked := by
  unfold lineArrayMarked lineMarked
  split
  · exact d.turns_remainder_single p
  · exact d.turns_arrayMarked_marked p

theorem turns_lineMarked_lineZone (p : Option Char) :
    Turns timeZoneParameter p d.lineMarked (d.lineZone ++ ' ' :: d.name.text) := by
  unfold lineMarked lineZone
  split
  · exact d.turns_cutMarker_cutZone p
  · exact d.turns_marked_zoned p

end Declared

/-! ## Tokens -/

theorem isTokenChar_of_mem_javaWord {w : Text} (hw : ∀ c ∈ w, isTokenChar c = true) :
    ∀ c ∈ javaWord w, isTokenChar c = true := by
  unfold javaWord
  split
  · exact List.all_eq_true.1 (by decide)
  · exact hw

theorem isToken_javaWord {w : Text} (hw : IsToken w) : IsToken (javaWord w) := by
  refine ⟨?_, isTokenChar_of_mem_javaWord hw.all⟩
  unfold javaWord
  split
  · decide
  · exact hw.ne_nil

theorem isToken_stars : IsToken "**".toList := .of_all (by decide) (by decide)

theorem isToken_stringMarker : IsToken stringMarker := .of_all (by decide) (by decide)

theorem isToken_byteArray : IsToken byteArray := .of_all (by decide) (by decide)

namespace Declared

variable (d : Declared)

theorem isTokenChar_of_mem_stem {c : Char} (hc : c ∈ d.stem) : isTokenChar c = true :=
  isTokenChar_of_isWordChar (d.isWordChar_of_mem_stem hc)

/-- What is left of a word makes a token with the stars or the marker behind it. -/
theorem isToken_cut {w : Text} (hw : ∀ c ∈ w, isTokenChar c = true) :
    IsToken (w ++ if d.type.stars = .two then "**".toList else stringMarker) := by
  refine IsToken.append_of_all ?_ hw
  split
  · exact isToken_stars
  · exact isToken_stringMarker

theorem isToken_lineZone : IsToken d.lineZone := by
  have hstem : ∀ c ∈ d.stem, isTokenChar c = true := fun _ hc => d.isTokenChar_of_mem_stem hc
  unfold lineZone cutZone
  split
  · split
    · exact isToken_byteArray.append_of_all hstem
    · exact d.isToken_cut hstem
  · exact d.isToken_token

/-- A name in Java is an identifier. -/
theorem exists_javaName : ∃ w : Identifier, w.text = d.javaName := by
  unfold javaName
  split
  · exact ⟨⟨"synchronize".toList, by decide, by decide⟩, rfl⟩
  · exact ⟨d.name, rfl⟩

theorem isWord_javaName : IsWord d.javaName := by
  obtain ⟨w, hw⟩ := d.exists_javaName
  exact hw ▸ w.isWord

theorem isToken_javaGlued : IsToken d.javaGlued := by
  have hfront : ∀ c ∈ javaWord d.front, isTokenChar c = true :=
    isTokenChar_of_mem_javaWord fun _ hc => d.isTokenChar_of_mem_front hc
  have hname : ∀ s : Stars, IsToken (s.text ++ d.javaName) := fun s =>
    d.isWord_javaName.isToken.append_of_all fun _ hc => s.isTokenChar_of_mem hc
  unfold javaGlued
  split
  · exact isToken_javaWord (d.name.isWord.isToken.append_of_all fun _ hc =>
      d.isTokenChar_of_mem_front hc)
  · exact (hname _).append_of_all hfront

end Declared

/-! ## The declarator in Java -/

namespace Declared

variable (d : Declared)

/-- The token of the type on the line to which the rules are applied. -/
def javaToken : Text := if d.CharPointer then d.cutToken else javaWord d.token

/-- The name on the line with Java types, with what is left before it of a type that ends in a
keyword. -/
def lineName : Text := if d.Glued then d.javaGlued else d.javaName

/-- The declarator on the line with Java types. -/
def inLine (dict : Dictionary) : Text :=
  if d.Glued then d.javaGlued else dict.image d.javaToken ++ ' ' :: d.javaName

theorem inLine_eq (dict : Dictionary) :
    d.inLine dict = withToken (decide d.Glued) (dict.image d.javaToken) d.lineName := by
  unfold inLine lineName
  by_cases h : d.Glued
  · rw [if_pos h, if_pos h, decide_eq_true h]
    rfl
  · rw [if_neg h, if_neg h, decide_eq_false h]
    rfl

theorem isToken_javaToken : IsToken d.javaToken := by
  have hstem : ∀ c ∈ d.stem, isTokenChar c = true := fun _ hc => d.isTokenChar_of_mem_stem hc
  unfold javaToken cutToken
  split
  · split
    · exact isToken_byteArray.append_of_all hstem
    · exact d.isToken_cut (isTokenChar_of_mem_javaWord hstem)
  · exact isToken_javaWord d.isToken_token

theorem isToken_lineName : IsToken d.lineName := by
  unfold lineName
  split
  · exact d.isToken_javaGlued
  · exact d.isWord_javaName.isToken

theorem turns_lineZone_javaToken {p : Option Char} (hp : p.any isWordChar = false) :
    Turns reservedName p (d.lineZone ++ ' ' :: d.name.text) (d.javaToken ++ ' ' :: d.javaName) := by
  unfold lineZone javaToken
  split
  · exact d.turns_cutZone_cutToken hp
  · exact d.turns_zoned_javaWord hp

theorem turns_unlessGlued_withToken {p : Option Char} (hp : p.any isWordChar = false) :
    Turns reservedName p (d.unlessGlued (d.lineZone ++ ' ' :: d.name.text))
      (withToken (decide d.Glued) d.javaToken d.lineName) := by
  unfold unlessGlued lineName
  by_cases h : d.Glued
  · rw [if_pos h, if_pos h, decide_eq_true h]
    exact d.turns_glued_javaGlued hp
  · rw [if_neg h, if_neg h, decide_eq_false h]
    exact d.turns_lineZone_javaToken hp

end Declared

/-! ## The line -/

theorem isBlank_lineOf (head : Text) (args : List Text) : (lineOf head args).isBlank = false := by
  simp [lineOf, Text.isBlank, show isBlank '(' = false from by decide]

namespace Prototype

variable (p : Prototype)

/-- A pattern that begins with a word turns the line of a prototype if it turns each declarator,
and leaves those whose type is glued to the name. -/
theorem replace_unlessGlued {find : Option Char → Text → Option (Nat × Text)} (hf : WordLed find)
    {f g : Declared → Text} (h : ∀ d q, Turns find q (f d) (g d)) :
    (lineOf (p.function.unlessGlued (f p.function)) (p.args fun d => d.unlessGlued (f d))).replace
        find =
      lineOf (p.function.unlessGlued (g p.function)) (p.args fun d => d.unlessGlued (g d)) :=
  p.replace_lineOf_args hf (fun q => Declared.turns_unlessGlued hf (h p.function q))
    fun d _ q => Declared.turns_unlessGlued hf (h d q)

/-- The pointer patterns turn each declarator on its own. -/
theorem markPointers_unqualified :
    markPointers (lineOf p.function.unqualified (p.args Declared.unqualified)) =
      lineOf (p.function.unlessGlued p.function.lineMarked)
        (p.args fun d => d.unlessGlued d.lineMarked) := by
  have hchar : (lineOf p.function.unqualified (p.args Declared.unqualified)).replace charPointer =
      lineOf (p.function.unlessGlued p.function.lineCharMarked)
        (p.args fun d => d.unlessGlued d.lineCharMarked) :=
    p.replace_unlessGlued (f := Declared.bare) wordLed_charPointer
      Declared.turns_bare_lineCharMarked
  rw [markPointers, hchar,
    p.replace_unlessGlued wordLed_doublePointer Declared.turns_lineCharMarked_lineArrayMarked,
    p.replace_unlessGlued wordLed_singlePointer Declared.turns_lineArrayMarked_lineMarked]

/-- So do the exceptions. -/
theorem settleExceptions_marked :
    settleExceptions (lineOf (p.function.unlessGlued p.function.lineMarked)
        (p.args fun d => d.unlessGlued d.lineMarked)) =
      lineOf (withToken (decide p.function.Glued) p.function.javaToken p.function.lineName)
        (p.shown.map fun d => withToken (decide d.Glued) d.javaToken d.lineName) := by
  have hzone : ∀ (d : Declared) q, Turns timeZoneParameter q (d.unlessGlued d.lineMarked)
      (d.unlessGlued (d.lineZone ++ ' ' :: d.name.text)) := by
    intro d q
    unfold Declared.unlessGlued
    split
    · exact d.turns_glued_timeZone q
    · exact d.turns_lineMarked_lineZone q
  rw [settleExceptions, p.replace_timeZone (f := fun d => d.unlessGlued d.lineMarked)
      (g := fun d => d.unlessGlued (d.lineZone ++ ' ' :: d.name.text)) (hzone p.function)
      fun d _ => hzone d,
    p.replace_void Declared.isToken_lineZone fun d => d.name.isWord]
  exact replace_reservedName_lineOf (p.function.turns_unlessGlued_withToken rfl)
    fun d _ q hq => d.turns_unlessGlued_withToken hq

/-- The line with Java types of a prototype : each declarator that is shown is rewritten on its
own, whatever the others are. -/
theorem javaLine_declarators {dict : Dictionary} (hd : dict.Plain) :
    dict.javaLine p.line =
      lineOf (p.function.inLine dict) (p.shown.map fun d => d.inLine dict) := by
  have hblank : p.line.isBlank = false := isBlank_lineOf _ _
  rw [Dictionary.javaLine_eq dict hblank, p.dropQualifiers_line, p.markPointers_unqualified,
    p.settleExceptions_marked, Dictionary.substitute_withToken hd p.function.isToken_javaToken
      p.function.isToken_lineName (fun d _ => d.isToken_javaToken) fun d _ => d.isToken_lineName]
  simp only [Declared.inLine_eq]

/-- If no type ends in a keyword, all parameters are shown. -/
theorem javaLine_of_keywordless {p : Prototype} (hp : p.Keywordless) {dict : Dictionary}
    (hd : dict.Plain) {f : Declared → Text}
    (hf : ∀ d ∈ p.function :: p.params, d.inLine dict = f d) :
    dict.javaLine p.line = lineOf (f p.function) (p.params.map f) := by
  obtain ⟨hfunction, hparams⟩ := List.forall_mem_cons.1 hf
  rw [p.javaLine_declarators hd, hp.shown_eq, hfunction, List.map_congr_left hparams]

end Prototype

end HeaderBridge
