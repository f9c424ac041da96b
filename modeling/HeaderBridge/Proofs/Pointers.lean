import HeaderBridge.Proofs.Qualifiers

/-!
# Marking the pointers of a declarator

Each of the three pointer patterns matches a word with a blank and stars behind it. A
declarator whose type no pattern cuts is followed through the three passes
(`Declared.charMarked`, `Declared.arrayMarked`, `Declared.marked`) : the pointers to
characters become their marker first, then the pointers to pointers, then the others.
-/

namespace HeaderBridge

open Text

/-! ## The shape of a match -/

section

variable {p : Option Char} {t : Text} {m : Nat × Text}

theorem charPointer_eq_some_iff : charPointer p t = some m ↔
    ∃ b r, isBlank b = true ∧ t = "char".toList ++ b :: '*' :: r ∧
      m = (6, stringMarker ++ [' ']) := by
  simp only [charPointer, Option.bind_eq_bind, Option.bind_eq_some_iff, isPrefixOf?_eq_some_iff,
    blank?_eq_some_iff, char?_eq_some_iff]
  constructor
  · rintro ⟨_, rfl, _, ⟨b, hb, rfl⟩, r, rfl, hm⟩
    exact ⟨b, r, hb, rfl, (Option.some.inj hm).symm⟩
  · rintro ⟨b, r, hb, rfl, rfl⟩
    exact ⟨_, rfl, _, ⟨b, hb, rfl⟩, r, rfl, rfl⟩

theorem doublePointer_eq_some_iff : doublePointer p t = some m ↔
    ∃ w b r, IsWord w ∧ isBlank b = true ∧ t = w ++ b :: '*' :: '*' :: r ∧
      m = (w.length + 3, pointerArrayMarker ++ [' ']) := by
  simp only [doublePointer, Option.bind_eq_bind, Option.bind_eq_some_iff, blank?_eq_some_iff,
    char?_eq_some_iff]
  constructor
  · rintro ⟨⟨w, _⟩, hw, _, ⟨b, hb, hr⟩, _, rfl, r, rfl, hm⟩
    obtain ⟨hword, rfl⟩ := word?_eq_some hw
    exact ⟨w, b, r, hword, hb, by rw [← hr], (Option.some.inj hm).symm⟩
  · rintro ⟨w, b, r, hword, hb, rfl, rfl⟩
    exact ⟨_, word?_append_cons hword (isWordChar_of_isBlank hb), _, ⟨b, hb, rfl⟩, _, rfl, r, rfl,
      rfl⟩

theorem singlePointer_eq_some_iff : singlePointer p t = some m ↔
    ∃ w b r, IsWord w ∧ isBlank b = true ∧ t = w ++ b :: '*' :: r ∧ r.head? ≠ some '*' ∧
      m = (w.length + 2, pointerMarker ++ [' ']) := by
  simp only [singlePointer, Option.bind_eq_bind, Option.bind_eq_some_iff, blank?_eq_some_iff,
    char?_eq_some_iff, Option.ite_none_left_eq_some]
  constructor
  · rintro ⟨⟨w, _⟩, hw, _, ⟨b, hb, hr⟩, r, rfl, hstar, hm⟩
    obtain ⟨hword, rfl⟩ := word?_eq_some hw
    exact ⟨w, b, r, hword, hb, by rw [← hr], hstar, (Option.some.inj hm).symm⟩
  · rintro ⟨w, b, r, hword, hb, rfl, hstar, rfl⟩
    exact ⟨_, word?_append_cons hword (isWordChar_of_isBlank hb), _, ⟨b, hb, rfl⟩, r, rfl, hstar,
      rfl⟩

end

theorem isWord_char : IsWord "char".toList := .of_all (by decide) (by decide)

/-- A pattern all of whose matches are a word with a blank behind it begins with a word. -/
theorem wordLed_of_shape {find : Option Char → Text → Option (Nat × Text)}
    (h : ∀ p t m, find p t = some m →
      ∃ w b r, IsWord w ∧ isBlank b = true ∧ t = w ++ b :: r) : WordLed find where
  nonword := by
    intro c hc p t
    cases hf : find p (c :: t) with
    | none => rfl
    | some m =>
      obtain ⟨w, b, r, hw, -, ht⟩ := h p _ m hf
      obtain ⟨x, w', rfl, hx⟩ := hw.exists_cons
      exact absurd (List.cons.inj ht).1.symm (ne_of_isWordChar hx hc)
  unspaced := by
    intro v c hv hc hb p t
    cases hf : find p (v ++ c :: t) with
    | none => rfl
    | some m =>
      obtain ⟨w, b, r, hw, hblank, ht⟩ := h p _ m hf
      obtain ⟨-, rfl, -⟩ := append_cons_inj hv.all hc hw.all (isWordChar_of_isBlank hblank) ht
      simp [hblank] at hb

theorem wordLed_charPointer : WordLed charPointer :=
  wordLed_of_shape fun p t m h => by
    obtain ⟨b, r, hb, rfl, -⟩ := charPointer_eq_some_iff.1 h
    exact ⟨_, b, '*' :: r, isWord_char, hb, rfl⟩

theorem wordLed_doublePointer : WordLed doublePointer :=
  wordLed_of_shape fun p t m h => by
    obtain ⟨w, b, r, hw, hb, rfl, -⟩ := doublePointer_eq_some_iff.1 h
    exact ⟨w, b, '*' :: '*' :: r, hw, hb, rfl⟩

theorem wordLed_singlePointer : WordLed singlePointer :=
  wordLed_of_shape fun p t m h => by
    obtain ⟨w, b, r, hw, hb, rfl, -⟩ := singlePointer_eq_some_iff.1 h
    exact ⟨w, b, '*' :: r, hw, hb, rfl⟩

/-! ## Where the patterns match and where not -/

section

variable {v x : Text} (hv : IsWord v) (p : Option Char)
include hv

theorem charPointer_eq_none (h : v = "char".toList → x.head? ≠ some '*') :
    charPointer p (v ++ ' ' :: x) = none := by
  cases hf : charPointer p (v ++ ' ' :: x) with
  | none => rfl
  | some m =>
    obtain ⟨b, r, hb, ht, -⟩ := charPointer_eq_some_iff.1 hf
    obtain ⟨hvc, -, rfl⟩ :=
      append_cons_inj hv.all (by decide) isWord_char.all (isWordChar_of_isBlank hb) ht
    exact absurd rfl (h hvc)

theorem doublePointer_eq_none (h : ¬ ['*', '*'] <+: x) :
    doublePointer p (v ++ ' ' :: x) = none := by
  cases hf : doublePointer p (v ++ ' ' :: x) with
  | none => rfl
  | some m =>
    obtain ⟨w, b, r, hw, hb, ht, -⟩ := doublePointer_eq_some_iff.1 hf
    obtain ⟨-, -, rfl⟩ := append_cons_inj hv.all (by decide) hw.all (isWordChar_of_isBlank hb) ht
    exact absurd ⟨r, rfl⟩ h

theorem singlePointer_eq_none (h : x.head? ≠ some '*') :
    singlePointer p (v ++ ' ' :: x) = none := by
  cases hf : singlePointer p (v ++ ' ' :: x) with
  | none => rfl
  | some m =>
    obtain ⟨w, b, r, hw, hb, ht, -⟩ := singlePointer_eq_some_iff.1 hf
    obtain ⟨-, -, rfl⟩ := append_cons_inj hv.all (by decide) hw.all (isWordChar_of_isBlank hb) ht
    exact absurd rfl h

theorem doublePointer_match (t : Text) :
    doublePointer p (v ++ ' ' :: '*' :: '*' :: t) =
      some ((v ++ " **".toList).length, pointerArrayMarker ++ [' ']) :=
  doublePointer_eq_some_iff.2 ⟨v, ' ', t, hv, rfl, rfl, by simp⟩

theorem singlePointer_match {t : Text} (ht : t.head? ≠ some '*') :
    singlePointer p (v ++ ' ' :: '*' :: t) =
      some ((v ++ " *".toList).length, pointerMarker ++ [' ']) :=
  singlePointer_eq_some_iff.2 ⟨v, ' ', t, hv, rfl, rfl, ht, by simp⟩

end

/-- Behind a word and a blank the pattern asks for a star. -/
def AsksForStar (find : Option Char → Text → Option (Nat × Text)) : Prop :=
  ∀ v x p, IsWord v → x.head? ≠ some '*' → find p (v ++ ' ' :: x) = none

theorem asksForStar_doublePointer : AsksForStar doublePointer := by
  intro v x p hv hx
  refine doublePointer_eq_none hv p fun hstars => hx ?_
  obtain ⟨r, rfl⟩ := hstars
  rfl

theorem asksForStar_singlePointer : AsksForStar singlePointer :=
  fun _ _ p hv hx => singlePointer_eq_none hv p hx

/-! ## The passes over a declarator -/

namespace Declared

variable (d : Declared)

/-- The declarator with a marker for a pointer to characters. -/
def charMarked : Text :=
  if d.type.stars = .one ∧ d.type.base.text = "char".toList then
    stringMarker ++ ' ' :: d.name.text
  else d.bare

/-- The declarator with a marker also for a pointer to pointers. -/
def arrayMarked : Text :=
  if d.type.stars = .two then pointerArrayMarker ++ ' ' :: d.name.text else d.charMarked

/-- The declarator with a marker for every pointer. -/
def marked : Text := d.marker ++ ' ' :: d.name.text

section

variable {find : Option Char → Text → Option (Nat × Text)} (hf : WordLed find)
  (hm : AsksForStar find)
include hf hm

/-- A pattern that asks for a star does not match where a word stands right before a name. -/
theorem turns_spaced {w n : Text} (hw : IsWord w) (hn : IsWord n) (p : Option Char) :
    Turns find p (w ++ ' ' :: n) (w ++ ' ' :: n) := by
  refine Turns.word_append hw ?_ (hf.turns_cons (by decide) (hf.turns_word hn) _)
  intro v hv _ q c t _
  exact hm v _ q hv (hn.head?_append_ne _ (by decide))

theorem turns_bare_of_none (hstars : d.type.stars = .none) (p : Option Char) :
    Turns find p d.bare d.bare := by
  have hbare : d.bare = d.type.base.text ++ ' ' :: d.name.text := by
    simp [bare, hstars, Stars.text]
  rw [hbare]
  exact turns_spaced hf hm d.type.base.isWord d.name.isWord p

theorem turns_stringMarker (p : Option Char) :
    Turns find p (stringMarker ++ ' ' :: d.name.text) (stringMarker ++ ' ' :: d.name.text) :=
  hf.turns_cons (o := '*') (by decide) (turns_spaced hf hm isWord_char d.name.isWord) p

end

theorem turns_bare_charMarked
    (h : d.type.stars ≠ .none → "char".toList <:+ d.type.base.text →
      d.type.base.text = "char".toList ∧ d.type.stars = .one) (p : Option Char) :
    Turns charPointer p d.bare d.charMarked := by
  unfold charMarked
  split
  · next hc =>
    have hbare : d.bare = "char *".toList ++ d.name.text := by simp [bare, hc, Stars.text]
    rw [hbare]
    exact Turns.match_append (n := stringMarker ++ [' ']) (by decide) (fun c t _ => rfl)
      (wordLed_charPointer.turns_word d.name.isWord _)
  · next hc =>
    refine d.turns_bare wordLed_charPointer ?_ p
    intro v hv hs q c t _
    refine charPointer_eq_none hv q fun hvc => ?_
    cases hstars : d.type.stars with
    | none => simpa [Stars.text] using d.name.isWord.head?_append_ne (c :: t) (by decide)
    | one =>
      have := h (by simp [hstars]) (hvc ▸ hs)
      exact absurd ⟨hstars, this.1⟩ hc
    | two =>
      have := h (by simp [hstars]) (hvc ▸ hs)
      exact absurd ⟨this.2, this.1⟩ hc

/-- The pattern asks for two stars. -/
theorem turns_bare_of_ne_two (hstars : d.type.stars ≠ .two) (p : Option Char) :
    Turns doublePointer p d.bare d.bare := by
  refine d.turns_bare wordLed_doublePointer (fun v hv _ q c t _ => ?_) p
  refine doublePointer_eq_none hv q fun hp => ?_
  have hname := d.name.isWord.head?_append_ne (c :: t) (c := '*') (by decide)
  obtain ⟨r, hr⟩ := hp
  cases hs : d.type.stars with
  | none =>
    rw [hs] at hr
    exact hname (congrArg List.head? hr).symm
  | one =>
    rw [hs] at hr
    exact hname (congrArg (List.head? ∘ List.tail) hr).symm
  | two => exact hstars hs

/-- A word with one star becomes the marker of a pointer. -/
theorem turns_bare_of_one (hstars : d.type.stars = .one) (p : Option Char) :
    Turns singlePointer p d.bare (pointerMarker ++ ' ' :: d.name.text) := by
  have hbare : d.bare = (d.type.base.text ++ " *".toList) ++ d.name.text := by
    simp [bare, hstars, Stars.text]
  have hmatch := Turns.match_append (m := d.type.base.text ++ " *".toList) (a := d.name.text)
    (b := d.name.text) (n := pointerMarker ++ [' ']) (p := p) (by simp)
    (fun c t _ => by
      simpa using singlePointer_match d.type.base.isWord p
        (d.name.isWord.head?_append_ne (c :: t) (c := '*') (by decide)))
    (wordLed_singlePointer.turns_word d.name.isWord _)
  simpa only [hbare, List.append_assoc, List.cons_append, List.nil_append] using hmatch

theorem turns_charMarked_arrayMarked (p : Option Char) :
    Turns doublePointer p d.charMarked d.arrayMarked := by
  unfold arrayMarked charMarked
  cases hstars : d.type.stars with
  | none => simpa using d.turns_bare_of_ne_two (by simp [hstars]) p
  | one =>
    by_cases hc : d.type.base.text = "char".toList
    · simpa [hc] using d.turns_stringMarker wordLed_doublePointer asksForStar_doublePointer p
    · simpa only [reduceCtorEq, true_and, if_false, hc] using
        d.turns_bare_of_ne_two (by simp [hstars]) p
  | two =>
    have hbare : d.bare = (d.type.base.text ++ " **".toList) ++ d.name.text := by
      simp [bare, hstars, Stars.text]
    have hmatch := Turns.match_append (m := d.type.base.text ++ " **".toList) (a := d.name.text)
      (b := d.name.text) (n := pointerArrayMarker ++ [' ']) (p := p) (by simp)
      (fun c t _ => by simpa using doublePointer_match d.type.base.isWord p (d.name.text ++ c :: t))
      (wordLed_doublePointer.turns_word d.name.isWord _)
    simpa [hbare] using hmatch

theorem turns_arrayMarked_marked (p : Option Char) :
    Turns singlePointer p d.arrayMarked d.marked := by
  unfold arrayMarked charMarked marked marker
  cases hstars : d.type.stars with
  | none =>
    have hbare := d.turns_bare_of_none wordLed_singlePointer asksForStar_singlePointer hstars p
    simpa [bare, hstars, Stars.text] using hbare
  | one =>
    by_cases hc : d.type.base.text = "char".toList
    · simpa [hc] using d.turns_stringMarker wordLed_singlePointer asksForStar_singlePointer p
    · simpa only [reduceCtorEq, true_and, if_false, hc] using d.turns_bare_of_one hstars p
  | two =>
    have hmarker : ∀ c ∈ "*[] ".toList, isWordChar c = false := by
      have hall : "*[] ".toList.all (fun c => !isWordChar c) = true := by decide
      intro c hc
      simpa using List.all_eq_true.1 hall c hc
    simpa [pointerArrayMarker] using wordLed_singlePointer.turns_append hmarker
      (wordLed_singlePointer.turns_word d.name.isWord) p

end Declared

end HeaderBridge
