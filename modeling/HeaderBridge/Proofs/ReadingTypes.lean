import HeaderBridge.Proofs.Reading
import HeaderBridge.Proofs.Substitution

/-!
# Reading the types of a line

The reader of types looks for a type with a name behind it and a parenthesis
(`typesAt?_eq_some_iff`). A word with another word behind it is passed over
(`search_typesAt?_word`), and the type before the name of the function is taken
(`typesAt?_of_isTypeWord`).

The text of the parameters is cut at the names. An argument is a token with names behind
it (`Cell`), a name takes the comma that follows it along, and a token without a name
keeps the comma. So `readParamTypes_join` finds the tokens of the arguments, with an empty
piece for every name too many, if each argument but the last has a name, and
`exists_comma_of_splitMatches` a token that a comma ends otherwise. On the line of a type
and a name for each declarator the readers find just these (`ofLine_typed`).
-/

namespace HeaderBridge

open Text

/-! ## Searching and splitting -/

namespace Text

section

variable {α : Type} {find : Option Char → Text → Option α}

theorem search_of_some {prev : Option Char} {t : Text} {a : α} (h : find prev t = some a) :
    search find prev t = some a := by
  cases t with
  | nil => exact h
  | cons c t => simp [search, h]

theorem search_of_none {prev : Option Char} {c : Char} {t : Text} (h : find prev (c :: t) = none) :
    search find prev (c :: t) = search find (some c) t := by
  simp [search, h]

end

section

variable {find : Text → Option Nat}

theorem splitMatches_skip (a rest : Text) :
    splitMatches find a.length (a ++ rest) = splitMatches find 0 rest := by
  induction a with
  | nil => rfl
  | cons c a ih => exact ih

/-- A match ends a piece. -/
theorem splitMatches_match {a rest : Text} (ha : a ≠ []) (h : find (a ++ rest) = some a.length) :
    splitMatches find 0 (a ++ rest) = [] :: splitMatches find 0 rest := by
  cases a with
  | nil => exact absurd rfl ha
  | cons c a =>
    rw [List.cons_append] at h ⊢
    simp only [splitMatches, h, List.length_cons, Nat.add_sub_cancel]
    rw [splitMatches_skip]

/-- Where the pattern matches at no character of a text, the text begins a piece. -/
theorem splitMatches_append {a rest p : Text} {l : List Text}
    (ha : ∀ c ∈ a, ∀ t, find (c :: t) = none) (h : splitMatches find 0 rest = p :: l) :
    splitMatches find 0 (a ++ rest) = (a ++ p) :: l := by
  induction a with
  | nil => exact h
  | cons c a ih =>
    have hc : find (c :: (a ++ rest)) = none := ha c (by simp) _
    have htail := ih fun c hc => ha c (List.mem_cons_of_mem _ hc)
    rw [List.cons_append, splitMatches]
    simp only [hc, htail, List.cons_append]

end

/-- A word is read whole if no word character follows it. -/
theorem word?_append {w r : Text} (hw : IsWord w) (hr : r.head?.any isWordChar = false) :
    word? (w ++ r) = some (w, r) := by
  cases r with
  | nil =>
    have hne : w.isEmpty = false := by simpa using hw.ne_nil
    have htake : (w ++ []).takeWhile isWordChar = w ++ [].takeWhile isWordChar :=
      List.takeWhile_append_of_pos hw.all
    have hdrop : (w ++ []).dropWhile isWordChar = [].dropWhile isWordChar :=
      List.dropWhile_append_of_pos hw.all
    simp only [List.append_nil, List.takeWhile_nil, List.dropWhile_nil] at htake hdrop
    simp [word?, word, afterWord, htake, hdrop, hne]
  | cons d r => exact word?_append_cons hw (by simpa using hr)

end Text

namespace Signature

/-! ## The return type -/

theorem brackets_of_isBlank {b : Text} (hne : b ≠ []) (hb : b.isBlank = true) (t : Text) :
    brackets (b ++ t) = ([], b ++ t) := by
  obtain ⟨d, b, rfl⟩ := List.exists_cons_of_ne_nil hne
  have hd : '[' ≠ d := by
    rintro rfl
    exact absurd (List.all_eq_true.1 hb '[' (by simp)) (by decide)
  have hno : "[]".toList.isPrefixOf? (d :: b ++ t) = none := isPrefixOf?_cons_of_ne hd _ _
  rw [brackets, hno]

theorem brackets_append (t : Text) : brackets ("[]".toList ++ t) = ("[]".toList, t) := by
  rw [brackets, isPrefixOf?_append]

/-- What stands behind the brackets of an array type, or behind no brackets. -/
theorem brackets_cases (t : Text) :
    ∃ suffix r, brackets t = (suffix, r) ∧ t = suffix ++ r ∧ (suffix = [] ∨ suffix = "[]".toList) := by
  unfold brackets
  split
  · next r h => exact ⟨_, r, rfl, isPrefixOf?_eq_some_iff.1 h, Or.inr rfl⟩
  · exact ⟨[], t, rfl, rfl, Or.inl rfl⟩

theorem dropBlanks_blank {w : Text} (hw : IsWord w) (t : Text) :
    dropBlanks (' ' :: (w ++ t)) = w ++ t := by
  obtain ⟨c, w', rfl, hc⟩ := hw.exists_cons
  have hspace : HeaderBridge.isBlank ' ' = true := rfl
  simp [dropBlanks, hspace, isBlank_of_isWordChar hc]

theorem exists_of_afterBlanks? {t r : Text} (h : afterBlanks? t = some r) :
    ∃ b : Text, b ≠ [] ∧ b.isBlank = true ∧ t = b ++ r := by
  unfold afterBlanks? at h
  split at h
  · simp at h
  · next hne =>
    refine ⟨t.leadingBlanks, by simpa using hne, List.all_takeWhile, ?_⟩
    rw [← Option.some.inj h, leadingBlanks_append_dropBlanks]

theorem afterBlanks?_append {b w : Text} (hne : b ≠ []) (hb : b.isBlank = true) (hw : IsWord w)
    (t : Text) : afterBlanks? (b ++ (w ++ t)) = some (w ++ t) := by
  obtain ⟨c, w, rfl, hc⟩ := hw.exists_cons
  obtain ⟨d, b, rfl⟩ := List.exists_cons_of_ne_nil hne
  have hd : HeaderBridge.isBlank d = true := List.all_eq_true.1 hb d (by simp)
  have hdrop : dropBlanks (c :: w ++ t) = c :: w ++ t :=
    dropBlanks_cons_of_not (isBlank_of_isWordChar hc)
  rw [afterBlanks?, dropBlanks_append hb, hdrop]
  simp [leadingBlanks, hd]

theorem untilParen?_append {u : Text} (hu : ')' ∉ u) (t : Text) :
    untilParen? (u ++ ')' :: t) = some u := by
  have hall : ∀ c ∈ u, (!decide (c = ')')) = true := by
    intro c hc
    have hne : c ≠ ')' := fun h => hu (h ▸ hc)
    simp [hne]
  simp [untilParen?, List.takeWhile_append_of_pos hall]

theorem exists_of_untilParen? {t u : Text} (h : untilParen? t = some u) :
    ∃ r, t = u ++ ')' :: r ∧ ')' ∉ u := by
  have hmem : ')' ∈ t := by
    refine Decidable.byContradiction fun hno => ?_
    simp [untilParen?, hno] at h
  obtain ⟨v, r, rfl, hnot⟩ := List.eq_append_cons_of_mem hmem
  rw [untilParen?_append hnot, Option.some.injEq] at h
  exact ⟨r, h ▸ rfl, h ▸ hnot⟩

/-- After a type and a name the reader asks for the parentheses. -/
theorem typesAt?_eq {t type suffix name r₁ r₂ r₃ r₄ : Text} (htype : word? t = some (type, r₁))
    (hsuffix : brackets r₁ = (suffix, r₂)) (hblank : afterBlanks? r₂ = some r₃)
    (hname : word? r₃ = some (name, r₄)) (prev : Option Char) :
    typesAt? prev t = (char? '(' (dropBlanks r₄)).bind fun rest =>
      (untilParen? rest).map fun params => (type ++ suffix, params) := by
  simp only [typesAt?, htype, hsuffix, hblank, hname, Option.bind_eq_bind, Option.bind_some,
    Option.pure_def]
  congr 1
  funext rest
  cases untilParen? rest <;> rfl

/-- No word runs on into blanks. -/
theorem head?_blanks {b : Text} (hne : b ≠ []) (hb : b.isBlank = true) (t : Text) :
    (b ++ t).head?.any isWordChar = false := by
  obtain ⟨d, b, rfl⟩ := List.exists_cons_of_ne_nil hne
  have hd : HeaderBridge.isBlank d = true := List.all_eq_true.1 hb d (by simp)
  simpa using isWordChar_of_isBlank hd

/-- The text begins with a type and the name of a function, and the parameters in parentheses.
Blanks stand before the name, and may stand behind it. -/
def BeginsDeclaration (t type name params : Text) : Prop :=
  ∃ gap gap' rest : Text,
    t = type ++ (gap ++ (name ++ (gap' ++ '(' :: (params ++ ')' :: rest)))) ∧ IsTypeWord type ∧
      gap ≠ [] ∧ gap.isBlank = true ∧ IsWord name ∧ gap'.isBlank = true ∧ ')' ∉ params

theorem typesAt?_eq_some_iff {p : Option Char} {t type params : Text} :
    typesAt? p t = some (type, params) ↔ ∃ name, BeginsDeclaration t type name params := by
  constructor
  · intro h
    simp only [typesAt?, Option.bind_eq_bind, Option.bind_eq_some_iff, Option.pure_def,
      Option.some.injEq, Prod.mk.injEq] at h
    obtain ⟨⟨w, r⟩, hw, r₂, hgap, ⟨name, r₃⟩, hname, r₄, hopen, _, hparams, htype, rfl⟩ := h
    obtain ⟨hword, rfl⟩ := word?_eq_some hw
    obtain ⟨suffix, r', hbrackets, rfl, hsuffix⟩ := brackets_cases r
    simp only [hbrackets] at hgap htype
    obtain ⟨gap, hne, hblank, rfl⟩ := exists_of_afterBlanks? hgap
    obtain ⟨hnameWord, rfl⟩ := word?_eq_some hname
    obtain ⟨rest, rfl, hclose⟩ := exists_of_untilParen? hparams
    refine ⟨name, gap, leadingBlanks r₃, rest, ?_, ⟨w, hword, ?_⟩, hne, hblank, hnameWord,
      List.all_takeWhile, hclose⟩
    · rw [← char?_eq_some_iff.1 hopen, leadingBlanks_append_dropBlanks, ← htype, List.append_assoc]
    · rcases hsuffix with rfl | rfl
      · exact Or.inl (by simpa using htype.symm)
      · exact Or.inr htype.symm
  · rintro ⟨name, gap, gap', rest, rfl, ⟨w, hw, htype⟩, hne, hblank, hname, hblank', hclose⟩
    have hstop : (gap' ++ '(' :: (params ++ ')' :: rest)).head?.any isWordChar = false := by
      by_cases hnil : gap' = []
      · simpa [hnil] using (by decide : isWordChar '(' = false)
      · exact head?_blanks hnil hblank' _
    have hread : word? (name ++ (gap' ++ '(' :: (params ++ ')' :: rest))) = some (name, _) :=
      word?_append hname hstop
    have hgap := afterBlanks?_append hne hblank hname (gap' ++ '(' :: (params ++ ')' :: rest))
    have hopen : dropBlanks (gap' ++ '(' :: (params ++ ')' :: rest)) =
        '(' :: (params ++ ')' :: rest) := by
      rw [dropBlanks_append hblank', dropBlanks_cons_of_not (by decide)]
    have hparams : ∀ suffix, (char? '(' (dropBlanks (gap' ++ '(' :: (params ++ ')' :: rest)))).bind
        (fun rest => (untilParen? rest).map fun params => (w ++ suffix, params)) =
          some (w ++ suffix, params) := by
      intro suffix
      simp [hopen, char?, untilParen?_append hclose]
    rcases htype with rfl | rfl
    · rw [typesAt?_eq (word?_append hw (head?_blanks hne hblank _))
        (brackets_of_isBlank hne hblank _) hgap hread, hparams, List.append_nil]
    · rw [List.append_assoc,
        typesAt?_eq (word?_append hw (by simp; decide)) (brackets_append _) hgap hread, hparams]
/-- A type before the name of the function is found. -/
theorem typesAt?_of_isTypeWord {type f params : Text} (ht : IsTypeWord type) (hf : IsWord f)
    (hp : ')' ∉ params) (prev : Option Char) (t : Text) :
    typesAt? prev (type ++ ' ' :: (f ++ '(' :: (params ++ ')' :: t))) = some (type, params) :=
  typesAt?_eq_some_iff.2 ⟨f, [' '], [], t, rfl, ht, by simp, rfl, hf, rfl, hp⟩

/-- A word before another one is not the type if a third one follows. -/
theorem typesAt?_eq_none {v w x : Text} (hv : IsWord v) (hw : IsWord w) (hx : IsWord x)
    (prev : Option Char) (t : Text) :
    typesAt? prev (v ++ ' ' :: (w ++ ' ' :: (x ++ t))) = none := by
  have hword := word?_append_cons hv (d := ' ') (t := w ++ ' ' :: (x ++ t)) (by decide)
  have hname := word?_append_cons hw (d := ' ') (t := x ++ t) (by decide)
  have hopen : char? '(' (x ++ t) = none := by
    obtain ⟨c, x', rfl, hc⟩ := hx.exists_cons
    exact char?_cons_of_ne (ne_of_isWordChar hc (by decide))
  rw [typesAt?_eq hword (brackets_of_isBlank (b := [' ']) (by simp) rfl _)
    (afterBlanks?_append (b := [' ']) (by simp) rfl hw _) hname, dropBlanks_blank hx, hopen]
  rfl

/-- Such a word is passed over. -/
theorem search_typesAt?_word {v w x : Text} (hv : ∀ c ∈ v, isWordChar c = true) (hw : IsWord w)
    (hx : IsWord x) (prev : Option Char) (t : Text) :
    search typesAt? prev (v ++ ' ' :: (w ++ ' ' :: (x ++ t))) =
      search typesAt? (some ' ') (w ++ ' ' :: (x ++ t)) := by
  induction v generalizing prev with
  | nil =>
    have hnone : typesAt? prev (' ' :: (w ++ ' ' :: (x ++ t))) = none := by
      simp [typesAt?, word?_cons_of_not (by decide : isWordChar ' ' = false)]
    exact search_of_none hnone
  | cons c v ih =>
    have hnone := typesAt?_eq_none ⟨by simp, hv⟩ hw hx prev t
    rw [List.cons_append] at hnone ⊢
    rw [search_of_none hnone]
    exact ih (fun c hc => hv c (List.mem_cons_of_mem _ hc)) (some c)

/-- The types of a line that begins with a type and the name of the function. -/
theorem readTypes_lineOf {type f : Text} (ht : IsTypeWord type) (hf : IsWord f) {args : List Text}
    (hargs : ∀ a ∈ args, ')' ∉ a) :
    readTypes (lineOf (type ++ ' ' :: f) args) =
      (type, readParamTypes (join ", ".toList args)) := by
  have hjoin : ')' ∉ join ", ".toList args := notMem_join (by decide) hargs
  have hline : lineOf (type ++ ' ' :: f) args =
      type ++ ' ' :: (f ++ '(' :: (join ", ".toList args ++ ')' :: [';'])) := by
    simp [lineOf]
  rw [readTypes, hline, search_of_some (typesAt?_of_isTypeWord ht hf hjoin none [';'])]

/-! ## The types of the parameters -/

/-- A token with words behind it, a blank before each of them. -/
structure Cell where
  token : Text
  names : List Text

/-- Words, each with a blank before it. -/
def spaced (ws : List Text) : Text := ws.flatMap fun w => ' ' :: w

namespace Cell

/-- The token and the words as they stand in a line. -/
def text (c : Cell) : Text := c.token ++ spaced c.names

/-- No blank cuts the token, and the names are words. -/
structure WellFormed (c : Cell) : Prop where
  token : ∀ x ∈ c.token, HeaderBridge.isBlank x = false
  ne_nil : c.token ≠ []
  names : ∀ w ∈ c.names, IsWord w

theorem text_join (c c' : Cell) (cs : List Cell) :
    join ", ".toList ((c :: c' :: cs).map text) =
      c.token ++ (spaced c.names ++ ',' :: ' ' :: join ", ".toList ((c' :: cs).map text)) := by
  simp [text, join_cons_cons]

/-- What remains of cells between their names : the tokens, and before the last one an
empty piece for each name of a cell that the comma does not take along. -/
def kept : List Cell → List Text
  | [] => []
  | [c] => [c.token]
  | c :: c' :: cs => c.token :: (List.replicate (c.names.length - 1) [] ++ kept (c' :: cs))

end Cell

theorem spaced_cons (w : Text) (ws : List Text) : spaced (w :: ws) = ' ' :: (w ++ spaced ws) := by
  simp [spaced]

/-- A name of a parameter does not begin at a character that is no blank. -/
theorem paramName?_cons {c : Char} (hc : HeaderBridge.isBlank c = false) (t : Text) :
    paramName? (c :: t) = none := by
  simp [paramName?, blank?_cons_of_not hc]

/-- A word behind a blank is a name. The comma and the blank behind it go with it. -/
theorem paramName?_comma {w : Text} (hw : IsWord w) (t : Text) :
    paramName? (' ' :: (w ++ ',' :: ' ' :: t)) = some (w.length + 3) := by
  have hblank : ∀ u, blank? (' ' :: u) = some u := fun u => rfl
  have hcomma : char? ',' (',' :: ' ' :: t) = some (' ' :: t) := rfl
  simp [paramName?, hblank, word?_append_cons hw (by decide : isWordChar ',' = false), hcomma]

/-- A name with no comma behind it goes alone. -/
theorem paramName?_open {w r : Text} (hw : IsWord w) (hr : r = [] ∨ ∃ t, r = ' ' :: t) :
    paramName? (' ' :: (w ++ r)) = some (w.length + 1) := by
  have hblank : ∀ u, blank? (' ' :: u) = some u := fun u => rfl
  have hcomma : char? ',' r = none := by
    rcases hr with rfl | ⟨t, rfl⟩ <;> rfl
  have hend : r.head?.any isWordChar = false := by
    rcases hr with rfl | ⟨t, rfl⟩
    · rfl
    · simp [show isWordChar ' ' = false from by decide]
  simp [paramName?, hblank, word?_append hw hend, hcomma]

theorem spaced_eq_nil_or_cons (ws : List Text) : spaced ws = [] ∨ ∃ t, spaced ws = ' ' :: t := by
  cases ws with
  | nil => exact Or.inl rfl
  | cons w ws => exact Or.inr ⟨_, spaced_cons w ws⟩

/-- A blank before a word ends a piece. -/
theorem exists_splitMatches_blank {w : Text} (hw : IsWord w) (r : Text) :
    ∃ ps, splitMatches paramName? 0 (' ' :: (w ++ r)) = [] :: ps := by
  obtain ⟨c, w', rfl, hc⟩ := hw.exists_cons
  have hblank : ∀ u, blank? (' ' :: u) = some u := fun u => rfl
  have hword : word? (c :: w' ++ r) = some (word (c :: w' ++ r), afterWord (c :: w' ++ r)) := by
    simp [word?, word, hc]
  have hread : ∃ n, paramName? (' ' :: (c :: w' ++ r)) = some n := by
    simp only [paramName?, hblank, hword, Option.bind_eq_bind, Option.bind_some, Option.pure_def]
    split <;> exact ⟨_, rfl⟩
  obtain ⟨n, hn⟩ := hread
  refine ⟨splitMatches paramName? (n - 1) (c :: w' ++ r), ?_⟩
  simp only [splitMatches, hn]

/-- Names up to a comma, and the comma with its blank, leave an empty piece each. -/
theorem splitMatches_spaced_comma {ws : List Text} (h : ∀ w ∈ ws, IsWord w) (hne : ws ≠ [])
    (rest : Text) :
    splitMatches paramName? 0 (spaced ws ++ ',' :: ' ' :: rest) =
      List.replicate ws.length [] ++ splitMatches paramName? 0 rest := by
  induction ws with
  | nil => exact absurd rfl hne
  | cons w ws ih =>
    have hw : IsWord w := h w (by simp)
    cases ws with
    | nil =>
      have hmatch : paramName? ((' ' :: w ++ [',', ' ']) ++ rest) =
          some (' ' :: w ++ [',', ' ']).length := by
        simpa using paramName?_comma hw rest
      have hsplit := splitMatches_match (by simp) hmatch
      simpa [spaced] using hsplit
    | cons v vs =>
      have hmatch : paramName? ((' ' :: w) ++ (spaced (v :: vs) ++ ',' :: ' ' :: rest)) =
          some (' ' :: w).length :=
        paramName?_open hw (Or.inr ⟨_, by rw [spaced_cons, List.cons_append]⟩)
      have hsplit := splitMatches_match (by simp) hmatch
      rw [ih (fun w hw => h w (List.mem_cons_of_mem _ hw)) (by simp)] at hsplit
      rw [spaced_cons w]
      simpa [List.replicate_succ] using hsplit

/-- Names at the end leave an empty piece each, and one behind them. -/
theorem splitMatches_spaced {ws : List Text} (h : ∀ w ∈ ws, IsWord w) :
    splitMatches paramName? 0 (spaced ws) = List.replicate (ws.length + 1) [] := by
  induction ws with
  | nil => rfl
  | cons w ws ih =>
    have hw : IsWord w := h w (by simp)
    have hmatch : paramName? ((' ' :: w) ++ spaced ws) = some (' ' :: w).length :=
      paramName?_open hw (spaced_eq_nil_or_cons ws)
    have hsplit := splitMatches_match (by simp) hmatch
    rw [ih fun w hw => h w (List.mem_cons_of_mem _ hw)] at hsplit
    rw [spaced_cons]
    simpa [List.replicate_succ] using hsplit

/-- No name of a parameter begins in the token of a cell. -/
theorem Cell.WellFormed.paramName?_token {c : Cell} (hc : c.WellFormed) :
    ∀ x ∈ c.token, ∀ t, paramName? (x :: t) = none :=
  fun x hx => paramName?_cons (hc.token x hx)

/-- A cell with names leaves its token, and an empty piece for each name but the one that
the comma goes with. -/
theorem splitMatches_cell {c : Cell} (hc : c.WellFormed) (hne : c.names ≠ []) (rest : Text) :
    splitMatches paramName? 0 (c.token ++ (spaced c.names ++ ',' :: ' ' :: rest)) =
      c.token :: (List.replicate (c.names.length - 1) [] ++ splitMatches paramName? 0 rest) := by
  obtain ⟨m, hm⟩ : ∃ m, c.names.length = m + 1 :=
    Nat.exists_eq_succ_of_ne_zero (by simpa using hne)
  have hspaced := splitMatches_spaced_comma hc.names hne rest
  rw [hm, List.replicate_succ, List.cons_append] at hspaced
  rw [splitMatches_append hc.paramName?_token hspaced, List.append_nil, hm, Nat.add_sub_cancel]

/-- The cells of a parameter list leave their tokens and empty pieces, if each cell but
the last has a name. -/
theorem splitMatches_join {cells : List Cell} (hne : cells ≠ []) (h : ∀ c ∈ cells, c.WellFormed)
    (hnames : ∀ c ∈ cells.dropLast, c.names ≠ []) :
    ∃ k, splitMatches paramName? 0 (join ", ".toList (cells.map Cell.text)) =
      Cell.kept cells ++ List.replicate k [] := by
  induction cells with
  | nil => exact absurd rfl hne
  | cons c cells ih =>
    have hc : c.WellFormed := h c (by simp)
    cases cells with
    | nil =>
      refine ⟨c.names.length, ?_⟩
      have hsplit := splitMatches_append (p := []) (l := List.replicate c.names.length [])
        hc.paramName?_token (splitMatches_spaced hc.names)
      simpa [Cell.text, Cell.kept] using hsplit
    | cons c' cs =>
      have hlast : (c :: c' :: cs).dropLast = c :: (c' :: cs).dropLast := rfl
      rw [hlast] at hnames
      obtain ⟨k, hk⟩ := ih (by simp) (fun c hc => h c (List.mem_cons_of_mem _ hc))
        fun c hc => hnames c (List.mem_cons_of_mem _ hc)
      refine ⟨k, ?_⟩
      rw [Cell.text_join, splitMatches_cell hc (hnames c (by simp)), hk]
      simp [Cell.kept]

/-- Empty pieces at the end are left out. -/
theorem dropWhile_isEmpty_reverse {l : List Text} (hl : ∀ t, l.getLast? = some t → t ≠ [])
    (k : Nat) :
    ((l ++ List.replicate k []).reverse.dropWhile List.isEmpty).reverse = l := by
  have hempty : ∀ t ∈ List.replicate k ([] : Text), t.isEmpty = true := by
    intro t ht
    rw [List.eq_of_mem_replicate ht]
    rfl
  rw [List.reverse_append, List.reverse_replicate, List.dropWhile_append_of_pos hempty]
  cases hr : l.reverse with
  | nil => simpa using hr
  | cons t r =>
    have hlast : l.getLast? = some t := by rw [← List.head?_reverse, hr, List.head?_cons]
    have ht : t.isEmpty = false := by simpa using hl t hlast
    have hstop : (t :: r).dropWhile List.isEmpty = t :: r := by simp [ht]
    rw [hstop, ← hr, List.reverse_reverse]

namespace Cell

variable {cells : List Cell}

theorem getLast?_kept (h : ∀ c ∈ cells, c.token ≠ []) :
    ∀ t, (kept cells).getLast? = some t → t ≠ [] := by
  intro t ht
  induction cells with
  | nil => simp [kept] at ht
  | cons c cells ih =>
    cases cells with
    | nil =>
      have hc : c.token = t := by simpa [kept] using ht
      exact hc ▸ h c (by simp)
    | cons c' cs =>
      refine ih (fun c hc => h c (List.mem_cons_of_mem _ hc)) ?_
      have hne : kept (c' :: cs) ≠ [] := by cases cs <;> simp [kept]
      cases hk : (kept (c' :: cs)).getLast? with
      | none => exact absurd (List.getLast?_eq_none_iff.1 hk) hne
      | some u => simpa [kept, List.getLast?_cons, List.getLast?_append, hk] using ht

/-- There are at least as many pieces as cells, and as many only if no name is too many. -/
theorem length_kept (hnames : ∀ c ∈ cells.dropLast, c.names ≠ []) :
    cells.length ≤ (kept cells).length ∧
      ((kept cells).length = cells.length ↔ ∀ c ∈ cells.dropLast, c.names.length = 1) := by
  induction cells with
  | nil => simp [kept]
  | cons c cells ih =>
    cases cells with
    | nil => simp [kept]
    | cons c' cs =>
      have hlast : (c :: c' :: cs).dropLast = c :: (c' :: cs).dropLast := rfl
      rw [hlast] at hnames ⊢
      obtain ⟨hle, hiff⟩ := ih fun c hc => hnames c (List.mem_cons_of_mem _ hc)
      have hc : c.names.length ≠ 0 := by simpa using hnames c (by simp)
      have hlength : (kept (c :: c' :: cs)).length =
          (c.names.length - 1) + (kept (c' :: cs)).length + 1 := by
        simp [kept]
      simp only [List.length_cons, List.forall_mem_cons, ← hiff] at hle hlength ⊢
      omega

/-- The pieces that are not blank are the tokens. -/
theorem filter_kept (h : ∀ c ∈ cells, c.token.isBlank = false) :
    ((kept cells).filter fun t => !t.isBlank) = cells.map token := by
  induction cells with
  | nil => rfl
  | cons c cells ih =>
    have hc := h c (by simp)
    cases cells with
    | nil => simp [kept, hc]
    | cons c' cs =>
      have hempty :
          (List.replicate (c.names.length - 1) []).filter (fun t => !Text.isBlank t) = [] := by
        rw [List.filter_eq_nil_iff]
        intro t ht
        rw [List.eq_of_mem_replicate ht]
        decide
      simp [kept, hc, hempty, ih fun c hc => h c (List.mem_cons_of_mem _ hc)]

/-- Cells with one name each leave their tokens. -/
theorem kept_of_length (h : ∀ c ∈ cells.dropLast, c.names.length = 1) :
    kept cells = cells.map token := by
  induction cells with
  | nil => rfl
  | cons c cells ih =>
    cases cells with
    | nil => rfl
    | cons c' cs =>
      have hlast : (c :: c' :: cs).dropLast = c :: (c' :: cs).dropLast := rfl
      rw [hlast] at h
      simp [kept, h c (by simp), ih fun c hc => h c (List.mem_cons_of_mem _ hc)]

end Cell

/-- The types of a parameter list are the tokens of its cells, with an empty piece for
every name too many, if each cell but the last has a name. -/
theorem readParamTypes_join {cells : List Cell} (h : ∀ c ∈ cells, c.WellFormed)
    (hnames : ∀ c ∈ cells.dropLast, c.names ≠ []) :
    readParamTypes (join ", ".toList (cells.map Cell.text)) = Cell.kept cells := by
  cases cells with
  | nil => rfl
  | cons c cs =>
    obtain ⟨k, hk⟩ := splitMatches_join (by simp) h hnames
    rw [readParamTypes, hk]
    exact dropWhile_isEmpty_reverse (Cell.getLast?_kept fun c hc => (h c hc).ne_nil) k

/-- A piece that is not empty is a type of the list. -/
theorem mem_readParamTypes {params t : Text} (ht : t ≠ [])
    (h : t ∈ splitMatches paramName? 0 params) : t ∈ readParamTypes params := by
  have hsplit := List.takeWhile_append_dropWhile (p := List.isEmpty)
    (l := (splitMatches paramName? 0 params).reverse)
  have hmem : t ∈ (splitMatches paramName? 0 params).reverse := List.mem_reverse.2 h
  rw [← hsplit] at hmem
  rcases List.mem_append.1 hmem with hmem | hmem
  · have hempty : t.isEmpty = true := List.all_eq_true.1 List.all_takeWhile t hmem
    exact absurd (List.isEmpty_iff.1 hempty) ht
  · exact List.mem_reverse.2 hmem

/-- The first cell without a name that is not the last one leaves its token with the
comma. -/
theorem exists_comma_of_splitMatches {cells : List Cell} (h : ∀ c ∈ cells, c.WellFormed)
    (hwords : ∀ c ∈ cells, IsWord c.token) (hnames : ∃ c ∈ cells.dropLast, c.names = []) :
    ∃ c ∈ cells.dropLast, c.names = [] ∧
      c.token ++ [','] ∈ splitMatches paramName? 0 (join ", ".toList (cells.map Cell.text)) := by
  induction cells with
  | nil => simp at hnames
  | cons c cells ih =>
    have hc : c.WellFormed := h c (by simp)
    cases cells with
    | nil => simp at hnames
    | cons c' cs =>
      have hlast : (c :: c' :: cs).dropLast = c :: (c' :: cs).dropLast := rfl
      rw [hlast] at hnames ⊢
      rw [Cell.text_join]
      by_cases hc' : c.names = []
      · -- The blank behind the comma begins a name, so the piece ends with the comma.
        have hcomma : ∀ x ∈ c.token ++ [','], ∀ t, paramName? (x :: t) = none := by
          intro x hx
          rcases List.mem_append.1 hx with hx | hx
          · exact hc.paramName?_token x hx
          · exact paramName?_cons (List.mem_singleton.1 hx ▸ by decide)
        obtain ⟨r, hr⟩ : ∃ r, join ", ".toList ((c' :: cs).map Cell.text) = c'.token ++ r := by
          obtain ⟨r, hr⟩ := exists_join_cons ", ".toList c'.text (cs.map Cell.text)
          exact ⟨spaced c'.names ++ r, by rw [List.map_cons, hr, Cell.text, List.append_assoc]⟩
        obtain ⟨ps, hps⟩ := exists_splitMatches_blank (hwords c' (by simp)) r
        have hsplit := splitMatches_append hcomma hps
        rw [← hr] at hsplit
        refine ⟨c, by simp, hc', ?_⟩
        have hpiece : c.token ++ [','] ∈ (c.token ++ [','] ++ []) :: ps := by simp
        rw [← hsplit] at hpiece
        simpa [hc', spaced] using hpiece
      · obtain ⟨b, hb, hb', hmem⟩ := ih (fun c hc => h c (List.mem_cons_of_mem _ hc))
          (fun c hc => hwords c (List.mem_cons_of_mem _ hc)) (by simpa [hc'] using hnames)
        refine ⟨b, List.mem_cons_of_mem c hb, hb', ?_⟩
        rw [splitMatches_cell hc hc']
        exact List.mem_cons_of_mem _ (List.mem_append_right _ hmem)

/-! ## Typed lines -/

section

variable {α : Type} {as : List α} {type : Text} {T N : α → Text}

theorem wellFormed_typed {t n : Text} (ht : IsTypeWord t) (hn : IsWord n) :
    (Cell.mk t [n]).WellFormed where
  token := by
    intro c hc
    have hall := ht.isToken.all c hc
    simp only [isTokenChar, Bool.and_eq_true, Bool.not_eq_true'] at hall
    exact hall.1.1.1
  ne_nil := ht.isToken.ne_nil
  names := by simpa using hn

/-- The types of parameters that are a type and a name each are those types. -/
theorem readParamTypes_typed (hT : ∀ a ∈ as, IsTypeWord (T a)) (hN : ∀ a ∈ as, IsWord (N a)) :
    readParamTypes (join ", ".toList (as.map fun a => T a ++ ' ' :: N a)) = as.map T := by
  have hcells : (as.map fun a => T a ++ ' ' :: N a) =
      (as.map fun a => Cell.mk (T a) [N a]).map Cell.text := by
    rw [List.map_map]
    exact List.map_congr_left fun a _ => by simp [Cell.text, spaced]
  have hwell : ∀ c ∈ as.map fun a => Cell.mk (T a) [N a], c.WellFormed := by
    rw [List.forall_mem_map]
    exact fun a ha => wellFormed_typed (hT a ha) (hN a ha)
  have hone : ∀ c ∈ (as.map fun a => Cell.mk (T a) [N a]).dropLast, c.names.length = 1 := by
    intro c hc
    obtain ⟨a, -, rfl⟩ := List.mem_map.1 (List.dropLast_subset _ hc)
    rfl
  have hnamed : ∀ c ∈ (as.map fun a => Cell.mk (T a) [N a]).dropLast, c.names ≠ [] := by
    intro c hc hnil
    simpa [hnil] using hone c hc
  rw [hcells, readParamTypes_join hwell hnamed, Cell.kept_of_length hone, List.map_map]
  rfl

/-- The readers of a line that is a type and the name of the function, and in parentheses a
type and a name for each parameter, find just these types and names. -/
theorem ofLine_typed (ht : IsTypeWord type) (f : Identifier) (hT : ∀ a ∈ as, IsTypeWord (T a))
    (hN : ∀ a ∈ as, IsWord (N a)) :
    ofLine (lineOf (type ++ ' ' :: f.text) (as.map fun a => T a ++ ' ' :: N a)) =
      { returnType := type
        name := f.text
        paramTypes := as.map T
        paramNames := as.map N } := by
  have hhead : Unclosed (type ++ ' ' :: f.text) :=
    (Unclosed.of_isToken ht.isToken).append_blank (.of_isToken f.isWord.isToken)
  have hargs : ∀ t ∈ as.map fun a => T a ++ ' ' :: N a, ')' ∉ t := by
    rw [List.forall_mem_map]
    intro a ha hm
    rcases List.mem_append.1 hm with hm | hm
    · exact (hT a ha).isToken.notMem (by decide) hm
    · rcases List.mem_cons.1 hm with h | hm
      · exact absurd h (by decide)
      · exact (hN a ha).notMem (by decide) hm
  have hends : ∀ a ∈ as, EndsIn (T a ++ ' ' :: N a) (N a) :=
    fun a ha => ⟨hN a ha, Or.inr ⟨T a, rfl, Unclosed.of_isToken (hT a ha).isToken⟩⟩
  have hparen : '(' ∉ type := ht.isToken.notMem (by decide)
  simp only [ofLine, readName_lineOf hparen, readParamNames_lineOf hhead hends,
    readTypes_lineOf ht f.isWord hargs, readParamTypes_typed hT hN]

end

end Signature

end HeaderBridge
