import HeaderBridge.Signature

/-!
# Words

A word is a run of word characters that is not empty, and an identifier an ASCII word
that does not begin with a digit. The lemmas here say what the readers of a text find
where a word stands before a character of another kind : the word is read whole
(`word?_append_cons`), and a text that begins with a word agrees with another one only
if the two words are the same (`append_cons_isPrefix_iff`). No blank is a word
character, so a word never runs over one.
-/

namespace HeaderBridge

/-! ## Blanks and word characters -/

/-- The code points of the blanks. -/
def blankCodes : List Nat :=
  [9, 10, 11, 12, 13, 28, 29, 30, 31, 32, 0x85, 0xa0, 0x1680, 0x2000, 0x2001, 0x2002, 0x2003,
   0x2004, 0x2005, 0x2006, 0x2007, 0x2008, 0x2009, 0x200a, 0x2028, 0x2029, 0x202f, 0x205f,
   0x3000]

theorem toNat_mem_blankCodes {c : Char} (h : isBlank c = true) : c.toNat ∈ blankCodes := by
  simp only [isBlank, Bool.or_eq_true, Bool.and_eq_true, decide_eq_true_eq, beq_iff_eq] at h
  simp only [blankCodes, List.mem_cons, List.not_mem_nil, or_false]
  omega

/-- A blank ends a word. -/
theorem isWordChar_of_isBlank {c : Char} (h : isBlank c = true) : isWordChar c = false := by
  have codes : ∀ n ∈ blankCodes, isWordChar (Char.ofNat n) = false := by decide +kernel
  have hc := codes c.toNat (toNat_mem_blankCodes h)
  rwa [Char.ofNat_toNat] at hc

theorem isBlank_of_isWordChar {c : Char} (h : isWordChar c = true) : isBlank c = false := by
  cases hb : isBlank c with
  | false => rfl
  | true => simp [isWordChar_of_isBlank hb] at h

theorem isWordChar_of_isIdentChar {c : Char} (h : Signature.isIdentChar c = true) :
    isWordChar c = true := by
  simp only [Signature.isIdentChar, Bool.or_eq_true, decide_eq_true_eq] at h
  rcases h with h | rfl
  · exact isWordChar_of_isAlphanum h
  · decide

/-- A word character is none of these. -/
theorem ne_of_isWordChar {c d : Char} (hc : isWordChar c = true) (hd : isWordChar d = false) :
    c ≠ d := by
  rintro rfl
  simp [hc] at hd

namespace Text

/-! ## Beginnings -/

theorem isPrefixOf?_nil (t : Text) : List.isPrefixOf? [] t = some t := rfl

theorem isPrefixOf?_cons_nil (c : Char) (u : Text) : List.isPrefixOf? (c :: u) [] = none := rfl

theorem isPrefixOf?_cons_cons (c d : Char) (u t : Text) :
    List.isPrefixOf? (c :: u) (d :: t) = if c == d then u.isPrefixOf? t else none := rfl

theorem isPrefixOf?_eq_some_iff {u t r : Text} : u.isPrefixOf? t = some r ↔ t = u ++ r := by
  induction u generalizing t with
  | nil => simp [isPrefixOf?_nil, eq_comm]
  | cons c u ih =>
    cases t with
    | nil => simp [isPrefixOf?_cons_nil]
    | cons d t =>
      by_cases h : c = d
      · simp [isPrefixOf?_cons_cons, h, ih]
      · have h' : ¬ d = c := fun hd => h hd.symm
        simp [isPrefixOf?_cons_cons, h, h']

theorem isPrefixOf?_append (u r : Text) : u.isPrefixOf? (u ++ r) = some r :=
  isPrefixOf?_eq_some_iff.2 rfl

theorem isPrefixOf?_eq_none_iff {u t : Text} : u.isPrefixOf? t = none ↔ ¬ u <+: t := by
  constructor
  · rintro h ⟨r, rfl⟩
    simp [isPrefixOf?_append] at h
  · intro h
    cases hr : u.isPrefixOf? t with
    | none => rfl
    | some r => exact absurd ⟨r, (isPrefixOf?_eq_some_iff.1 hr).symm⟩ h

theorem beginsWith_iff {u t : Text} : beginsWith u t = true ↔ u <+: t :=
  List.isPrefixOf_iff_prefix

theorem isPrefixOf?_cons_of_ne {c d : Char} (h : c ≠ d) (u t : Text) :
    List.isPrefixOf? (c :: u) (d :: t) = none := by
  simp [isPrefixOf?_cons_cons, h]

/-- Two texts whose first parts have the property `p`, each with a character after it
that has not, agree only if their first parts do. -/
theorem append_cons_isPrefix_iff {p : Char → Bool} {u v s t : Text} {c d : Char}
    (hu : ∀ x ∈ u, p x = true) (hc : p c = false) (hv : ∀ x ∈ v, p x = true)
    (hd : p d = false) : u ++ c :: s <+: v ++ d :: t ↔ u = v ∧ c = d ∧ s <+: t := by
  induction u generalizing v with
  | nil =>
    cases v with
    | nil => simp
    | cons y v =>
      have hy : ¬ c = y := by
        rintro rfl
        simp [hv c (by simp)] at hc
      simp [hy]
  | cons x u ih =>
    cases v with
    | nil =>
      have hx : ¬ x = d := by
        rintro rfl
        simp [hu x (by simp)] at hd
      simp [hx]
    | cons y v =>
      have ih' := ih (v := v) (fun z hz => hu z (by simp [hz])) (fun z hz => hv z (by simp [hz]))
      simp [ih', and_assoc]

/-- A text with the property `p` begins a text only if it begins its first part. -/
theorem isPrefix_of_append_cons {p : Char → Bool} {u v t : Text} {d : Char}
    (hu : ∀ x ∈ u, p x = true) (hd : p d = false) (h : u <+: v ++ d :: t) : u <+: v := by
  rcases List.prefix_or_prefix_of_prefix h (List.prefix_append v (d :: t)) with h' | ⟨r, rfl⟩
  · exact h'
  · cases r with
    | nil => exact ⟨[], by simp⟩
    | cons c r =>
      rw [List.prefix_append_right_inj, List.cons_prefix_cons] at h
      have hc := hu c (by simp)
      rw [h.1, hd] at hc
      exact absurd hc (by decide)

/-- A text is cut at the end of its first part in one way only. -/
theorem append_cons_inj {p : Char → Bool} {u v s t : Text} {c d : Char}
    (hu : ∀ x ∈ u, p x = true) (hc : p c = false) (hv : ∀ x ∈ v, p x = true)
    (hd : p d = false) (h : u ++ c :: s = v ++ d :: t) : u = v ∧ c = d ∧ s = t := by
  have hp : u ++ c :: s <+: v ++ d :: t := h ▸ List.prefix_refl _
  obtain ⟨rfl, rfl, -⟩ := (append_cons_isPrefix_iff hu hc hv hd).1 hp
  exact ⟨rfl, rfl, (List.cons.inj (List.append_cancel_left h)).2⟩

theorem blank?_eq_some_iff {t r : Text} :
    blank? t = some r ↔ ∃ b, HeaderBridge.isBlank b = true ∧ t = b :: r := by
  cases t with
  | nil => simp [blank?]
  | cons c t =>
    constructor
    · intro h
      by_cases hc : HeaderBridge.isBlank c = true
      · rw [blank?, if_pos hc, Option.some.injEq] at h
        exact ⟨c, hc, by rw [h]⟩
      · simp [blank?, hc] at h
    · rintro ⟨b, hb, ht⟩
      obtain ⟨rfl, rfl⟩ := List.cons.inj ht
      simp [blank?, hb]

theorem char?_eq_some_iff {c : Char} {t r : Text} : char? c t = some r ↔ t = c :: r := by
  cases t with
  | nil => simp [char?]
  | cons d t => by_cases h : d = c <;> simp [char?, h]

/-! ## Words -/

/-- One or more word characters. -/
structure IsWord (t : Text) : Prop where
  ne_nil : t ≠ []
  all : ∀ c ∈ t, isWordChar c = true

namespace IsWord

variable {w : Text}

theorem of_all (hne : w.isEmpty = false) (h : w.all isWordChar = true) : IsWord w :=
  ⟨by simpa using hne, List.all_eq_true.1 h⟩

theorem exists_cons (h : IsWord w) : ∃ c t, w = c :: t ∧ isWordChar c = true := by
  cases w with
  | nil => exact absurd rfl h.ne_nil
  | cons c t => exact ⟨c, t, rfl, h.all c (by simp)⟩

/-- What is left of a word is a word. -/
theorem of_suffix (h : IsWord w) {v : Text} (hv : v <:+ w) (hne : v ≠ []) : IsWord v :=
  ⟨hne, fun c hc => h.all c (hv.subset hc)⟩

/-- Word characters before a word make a longer word. -/
theorem append_of_all (h : IsWord w) {v : Text} (hv : ∀ c ∈ v, isWordChar c = true) :
    IsWord (v ++ w) :=
  ⟨by simp [h.ne_nil], fun c hc => (List.mem_append.1 hc).elim (hv c) (h.all c)⟩

/-- A word holds no character of another kind. -/
theorem notMem (h : IsWord w) {c : Char} (hc : isWordChar c = false) : c ∉ w := by
  intro hm
  simp [h.all c hm] at hc

/-- A text that begins with a word begins with none of the other characters. -/
theorem head?_append_ne (h : IsWord w) (t : Text) {c : Char} (hc : isWordChar c = false) :
    (w ++ t).head? ≠ some c := by
  obtain ⟨d, v, rfl, hd⟩ := h.exists_cons
  have hne : d ≠ c := ne_of_isWordChar hd hc
  simpa using hne

end IsWord

section

variable {w t : Text} {d : Char}

theorem word_append_cons (hw : ∀ c ∈ w, isWordChar c = true) (hd : isWordChar d = false) :
    word (w ++ d :: t) = w := by
  simp [word, List.takeWhile_append_of_pos hw, hd]

theorem afterWord_append_cons (hw : ∀ c ∈ w, isWordChar c = true) (hd : isWordChar d = false) :
    afterWord (w ++ d :: t) = d :: t := by
  simp [afterWord, List.dropWhile_append_of_pos hw, hd]

/-- A word before a character of another kind is read whole. -/
theorem word?_append_cons (hw : IsWord w) (hd : isWordChar d = false) :
    word? (w ++ d :: t) = some (w, d :: t) := by
  have hne : w.isEmpty = false := by simpa using hw.ne_nil
  simp [word?, word_append_cons hw.all hd, afterWord_append_cons hw.all hd, hne]

theorem word?_eq_some {r : Text} (h : word? t = some (w, r)) : IsWord w ∧ t = w ++ r := by
  unfold word? at h
  split at h
  · simp at h
  · next hne =>
    obtain ⟨rfl, rfl⟩ := Prod.mk.inj (Option.some.inj h)
    refine ⟨⟨by simpa using hne, ?_⟩, (word_append_afterWord t).symm⟩
    exact fun c hc => List.all_eq_true.1 List.all_takeWhile c hc

theorem word?_cons_of_not (hd : isWordChar d = false) : word? (d :: t) = none := by
  simp [word?, word, hd]

theorem dropBlanks_cons_of_not (hd : HeaderBridge.isBlank d = false) :
    dropBlanks (d :: t) = d :: t := by
  simp [dropBlanks, hd]

/-- Blanks at the front are dropped. -/
theorem dropBlanks_append {b : Text} (hb : b.isBlank = true) (t : Text) :
    dropBlanks (b ++ t) = dropBlanks t :=
  List.dropWhile_append_of_pos (List.all_eq_true.1 hb)

theorem blank?_cons_of_not (hd : HeaderBridge.isBlank d = false) : blank? (d :: t) = none := by
  simp [blank?, hd]

theorem char?_cons_of_ne {c : Char} (h : d ≠ c) : char? c (d :: t) = none := by
  simp [char?, h]

end

/-! ## Tokens -/

/-- A character that separates no tokens and stands for no part of a line's layout. -/
def isTokenChar (c : Char) : Bool :=
  !HeaderBridge.isBlank c && c != '(' && c != ')' && c != ','

/-- One or more characters of a token. -/
structure IsToken (t : Text) : Prop where
  ne_nil : t ≠ []
  all : ∀ c ∈ t, isTokenChar c = true

theorem IsToken.of_all {t : Text} (hne : t.isEmpty = false) (h : t.all isTokenChar = true) :
    IsToken t :=
  ⟨by simpa using hne, List.all_eq_true.1 h⟩

/-- No other character stands in a token. -/
theorem IsToken.notMem {t : Text} (h : IsToken t) {c : Char} (hc : isTokenChar c = false) :
    c ∉ t := by
  intro hm
  simp [h.all c hm] at hc

/-- Characters of tokens before a token make a longer token. -/
theorem IsToken.append_of_all {t u : Text} (h : IsToken t) (hu : ∀ c ∈ u, isTokenChar c = true) :
    IsToken (u ++ t) :=
  ⟨by simp [h.ne_nil], fun c hc => (List.mem_append.1 hc).elim (hu c) (h.all c)⟩

theorem isTokenChar_of_isWordChar {c : Char} (h : isWordChar c = true) :
    isTokenChar c = true := by
  have hopen : c ≠ '(' := ne_of_isWordChar h (by decide)
  have hclose : c ≠ ')' := ne_of_isWordChar h (by decide)
  have hcomma : c ≠ ',' := ne_of_isWordChar h (by decide)
  simp [isTokenChar, isBlank_of_isWordChar h, hopen, hclose, hcomma]

theorem IsWord.isToken {w : Text} (h : IsWord w) : IsToken w :=
  ⟨h.ne_nil, fun c hc => isTokenChar_of_isWordChar (h.all c hc)⟩

theorem IsToken.not_isBlank {t : Text} (h : IsToken t) : Text.isBlank t = false := by
  obtain ⟨c, r, rfl⟩ := List.exists_cons_of_ne_nil h.ne_nil
  have hc := h.all c (by simp)
  simp only [isTokenChar, Bool.and_eq_true, Bool.not_eq_true'] at hc
  simp [Text.isBlank, hc.1.1.1]

/-- A word, or a word with the brackets of an array behind it. -/
def IsTypeWord (t : Text) : Prop := ∃ w, IsWord w ∧ (t = w ∨ t = w ++ "[]".toList)

theorem IsWord.isTypeWord {w : Text} (h : IsWord w) : IsTypeWord w := ⟨w, h, Or.inl rfl⟩

theorem IsTypeWord.isToken {t : Text} (h : IsTypeWord t) : IsToken t := by
  obtain ⟨w, hw, rfl | rfl⟩ := h
  · exact hw.isToken
  · refine ⟨by simp, fun c hc => ?_⟩
    rcases List.mem_append.1 hc with hc | hc
    · exact hw.isToken.all c hc
    · have hbrackets : IsToken "[]".toList := .of_all (by decide) (by decide)
      exact hbrackets.all c hc

/-! ## The character before a place -/

/-- The character before what follows the text, if `prev` stands before the text. -/
def lastFrom (prev : Option Char) : Text → Option Char
  | [] => prev
  | c :: t => lastFrom (some c) t

theorem lastFrom_append (prev : Option Char) (u v : Text) :
    lastFrom prev (u ++ v) = lastFrom (lastFrom prev u) v := by
  induction u generalizing prev with
  | nil => rfl
  | cons c u ih => exact ih (some c)

/-- Behind a text that is not empty stands one of its characters. -/
theorem exists_lastFrom (prev : Option Char) {t : Text} (h : t ≠ []) :
    ∃ c ∈ t, lastFrom prev t = some c := by
  induction t generalizing prev with
  | nil => exact absurd rfl h
  | cons c t ih =>
    cases t with
    | nil => exact ⟨c, by simp, rfl⟩
    | cons d t =>
      obtain ⟨e, he, hl⟩ := ih (some c) (by simp)
      exact ⟨e, List.mem_cons_of_mem c he, hl⟩

/-- Behind the first character there is always a character before a place. -/
theorem exists_lastFrom_some (x : Char) (t : Text) : ∃ y, lastFrom (some x) t = some y := by
  induction t generalizing x with
  | nil => exact ⟨x, rfl⟩
  | cons c t ih => exact ih c

/-! ## Searching -/

section

variable {α : Type} {find : Option Char → Text → Option α} {p : Option Char} {t : Text} {a : α}

theorem exists_of_search (h : search find p t = some a) :
    ∃ u v, t = u ++ v ∧ find (lastFrom p u) v = some a := by
  induction t generalizing p with
  | nil => exact ⟨[], [], rfl, h⟩
  | cons c t ih =>
    rw [search] at h
    split at h
    · next b hb =>
      exact ⟨[], c :: t, rfl, by rw [← h]; exact hb⟩
    · obtain ⟨u, v, rfl, hfind⟩ := ih h
      exact ⟨c :: u, v, rfl, hfind⟩

/-- Where the pattern matches at some place of a text, it is found. -/
theorem exists_search {u v : Text} (h : find (lastFrom p u) v = some a) :
    ∃ b, search find p (u ++ v) = some b := by
  induction u generalizing p with
  | nil =>
    cases v with
    | nil => exact ⟨a, h⟩
    | cons c v =>
      have hfind : find p (c :: v) = some a := h
      exact ⟨a, by simp [search, hfind]⟩
  | cons c u ih =>
    obtain ⟨b, hb⟩ := ih h
    rw [List.cons_append, search]
    split
    · next b' _ => exact ⟨b', rfl⟩
    · exact ⟨b, hb⟩

end

end Text

/-! ## Identifiers -/

/-- An ASCII word that does not begin with a digit. -/
structure Identifier where
  text : Text
  start : text.head?.any Signature.isIdentStart = true
  all : text.all Signature.isIdentChar = true
  deriving DecidableEq

namespace Identifier

theorem ne_nil (w : Identifier) : w.text ≠ [] := by
  intro h
  have hs := w.start
  simp [h] at hs

theorem text_injective {v w : Identifier} (h : v.text = w.text) : v = w := by
  cases v
  cases w
  cases h
  rfl

theorem isIdentChar_of_mem (w : Identifier) {c : Char} (hc : c ∈ w.text) :
    Signature.isIdentChar c = true :=
  List.all_eq_true.1 w.all c hc

theorem isWord (w : Identifier) : Text.IsWord w.text :=
  ⟨w.ne_nil, fun _ hc => isWordChar_of_isIdentChar (w.isIdentChar_of_mem hc)⟩

end Identifier

end HeaderBridge
