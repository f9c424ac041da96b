import HeaderBridge.Proofs.Replacing

/-!
# Reading a line

Two readers of a signature, each on a line that is a head and its arguments.
`readName_lineOf` finds the identifier before the parenthesis, and `readParamNames_lineOf`
the word in which each argument ends.

A name of a parameter is a word with a comma or a closing parenthesis behind it. So text
that holds neither (`Unclosed`) is passed over, however many words stand in it.
-/

namespace HeaderBridge

open Text

namespace Signature

/-- Behind blanks a text shows one of its characters, or the one that follows it. -/
theorem head?_dropBlanks_ne {c d : Char} {u : Text} (hu : c ∉ u)
    (hd : HeaderBridge.isBlank d = false) (hc : d ≠ c) (t : Text) :
    (dropBlanks (u ++ d :: t)).head? ≠ some c := by
  induction u with
  | nil =>
    rw [List.nil_append, dropBlanks_cons_of_not hd]
    simpa using hc
  | cons x u ih =>
    have hx : x ≠ c := fun hx => hu (by simp [hx])
    have hu' : c ∉ u := fun hm => hu (List.mem_cons_of_mem x hm)
    cases hb : HeaderBridge.isBlank x with
    | true => simpa [dropBlanks, hb] using ih hu'
    | false =>
      rw [List.cons_append, dropBlanks_cons_of_not hb]
      simpa using hx

theorem dropWhile_append_cons {p : Char → Bool} {d : Char} (hd : p d = false) (u t : Text) :
    (u ++ d :: t).dropWhile p = u.dropWhile p ++ d :: t := by
  rw [List.dropWhile_append]
  split
  · next h => simp [List.isEmpty_iff.1 h, hd]
  · rfl

theorem notMem_dropWhile {c : Char} {u : Text} (hu : c ∉ u) (p : Char → Bool) :
    c ∉ u.dropWhile p :=
  fun hc => hu ((List.dropWhile_suffix p).subset hc)

/-! ## The name of the function -/

/-- Before a blank no name of a function ends. -/
theorem nameAt?_eq_none {u w : Text} (hu : '(' ∉ u) (hw : IsWord w) (prev : Option Char)
    (t : Text) : nameAt? prev (u ++ ' ' :: (w ++ t)) = none := by
  obtain ⟨d, w', rfl, hd⟩ := hw.exists_cons
  have hnext : (dropBlanks ((u ++ ' ' :: (d :: w' ++ t)).dropWhile isIdentChar)).head? ≠
      some '(' := by
    have hcut := head?_dropBlanks_ne (c := '(') (d := d) (u := u.dropWhile isIdentChar ++ [' '])
      (by simpa using notMem_dropWhile hu isIdentChar) (isBlank_of_isWordChar hd)
      (ne_of_isWordChar hd (by decide)) (w' ++ t)
    rw [dropWhile_append_cons (by decide)]
    simpa using hcut
  simp only [nameAt?, hnext, decide_false, Bool.and_false, Bool.false_eq_true, if_false]

/-- The name of a function is an identifier with a parenthesis behind it that is not cut out of
a word. Blanks may stand before the parenthesis. -/
theorem nameAt?_eq_some_iff {p : Option Char} {t name : Text} :
    nameAt? p t = some name ↔ p.any isWordChar = false ∧ (∃ f : Identifier, f.text = name) ∧
      ∃ b r : Text, b.isBlank = true ∧ t = name ++ (b ++ '(' :: r) := by
  constructor
  · intro h
    simp only [nameAt?, Option.ite_none_right_eq_some, Bool.and_eq_true, Bool.not_eq_true',
      decide_eq_true_eq, Option.some.injEq] at h
    obtain ⟨⟨⟨hstart, hp⟩, hparen⟩, rfl⟩ := h
    obtain ⟨r, hr⟩ := List.head?_eq_some_iff.1 hparen
    refine ⟨hp, ⟨⟨_, hstart, List.all_takeWhile⟩, rfl⟩, leadingBlanks (t.dropWhile isIdentChar),
      r, List.all_takeWhile, ?_⟩
    rw [← hr, leadingBlanks_append_dropBlanks, List.takeWhile_append_dropWhile]
  · rintro ⟨hp, ⟨f, rfl⟩, b, r, hb, rfl⟩
    have hall : ∀ c ∈ f.text, isIdentChar c = true := fun c hc => f.isIdentChar_of_mem hc
    obtain ⟨c, u, hcu, hc⟩ : ∃ c u, b ++ '(' :: r = c :: u ∧ isIdentChar c = false := by
      cases b with
      | nil => exact ⟨'(', r, rfl, by decide⟩
      | cons c b =>
        have hblank : HeaderBridge.isBlank c = true := List.all_eq_true.1 hb c (by simp)
        refine ⟨c, b ++ '(' :: r, rfl, Bool.eq_false_iff.2 fun h => ?_⟩
        exact absurd (isWordChar_of_isIdentChar h) (by simp [isWordChar_of_isBlank hblank])
    have hopen : dropBlanks (b ++ '(' :: r) = '(' :: r := by
      rw [dropBlanks_append hb, dropBlanks_cons_of_not (by decide)]
    rw [hcu] at hopen ⊢
    simp [nameAt?, List.takeWhile_append_of_pos hall, List.dropWhile_append_of_pos hall, hc, hopen,
      f.start, hp]

/-- The identifier before the parenthesis is the name. -/
theorem nameAt?_identifier (f : Identifier) {p : Option Char}
    (hp : p.any isWordChar = false) (t : Text) :
    nameAt? p (f.text ++ '(' :: t) = some f.text :=
  nameAt?_eq_some_iff.2 ⟨hp, ⟨f, rfl⟩, [], t, rfl, rfl⟩

/-- The name of the function stands right before the parenthesis. -/
theorem readName_lineOf {u : Text} (hu : '(' ∉ u) (f : Identifier) (args : List Text) :
    readName (lineOf (u ++ ' ' :: f.text) args) = f.text := by
  have hsearch : ∀ prev t, search nameAt? prev (u ++ ' ' :: (f.text ++ '(' :: t)) =
      some f.text := by
    intro prev t
    induction u generalizing prev with
    | nil =>
      have hblank : nameAt? prev (' ' :: (f.text ++ '(' :: t)) = none :=
        nameAt?_eq_none (u := []) (by simp) f.isWord prev _
      obtain ⟨c, w, hc⟩ := List.exists_cons_of_ne_nil f.ne_nil
      have hname := nameAt?_identifier f (p := some ' ') (by decide) t
      simp only [hc, List.cons_append] at hname hblank
      simp only [List.nil_append, search, hc, List.cons_append, hblank, hname]
    | cons x u ih =>
      have hx := nameAt?_eq_none hu f.isWord prev ('(' :: t)
      have hu' : '(' ∉ u := fun hm => hu (List.mem_cons_of_mem x hm)
      rw [List.cons_append] at hx ⊢
      simp only [search, hx]
      exact ih hu' (some x)
  have hline : lineOf (u ++ ' ' :: f.text) args =
      u ++ ' ' :: (f.text ++ '(' :: (Text.join ", ".toList args ++ ");".toList)) := by
    simp [lineOf]
  rw [readName, hline, hsearch]
  rfl

/-! ## The names of the parameters -/

/-- No comma and no closing parenthesis ends a parameter in the text. -/
def Unclosed (u : Text) : Prop := ',' ∉ u ∧ ')' ∉ u

theorem Unclosed.append {u v : Text} (hu : Unclosed u) (hv : Unclosed v) : Unclosed (u ++ v) := by
  constructor
  · simp [hu.1, hv.1]
  · simp [hu.2, hv.2]

theorem Unclosed.of_isToken {t : Text} (h : IsToken t) : Unclosed t :=
  ⟨h.notMem (by decide), h.notMem (by decide)⟩

/-- A blank closes nothing. -/
theorem Unclosed.append_blank {u v : Text} (hu : Unclosed u) (hv : Unclosed v) :
    Unclosed (u ++ ' ' :: v) :=
  hu.append (Unclosed.append (u := [' ']) ⟨by decide, by decide⟩ hv)

theorem Unclosed.of_cons {c : Char} {u : Text} (h : Unclosed (c :: u)) : Unclosed u :=
  ⟨fun hm => h.1 (List.mem_cons_of_mem c hm), fun hm => h.2 (List.mem_cons_of_mem c hm)⟩

/-- The text ends in the word, alone or with a blank before it. -/
structure EndsIn (a n : Text) : Prop where
  isWord : IsWord n
  cut : a = n ∨ ∃ u, a = u ++ ' ' :: n ∧ Unclosed u

section

variable {u w : Text} {d : Char} {p : Option Char}

theorem paramNameAt?_of_next {t : Text}
    (h : ∀ c, c = ',' ∨ c = ')' → (dropBlanks (afterWord t)).head? ≠ some c)
    (p : Option Char) : paramNameAt? p t = none := by
  simp [paramNameAt?, h ',' (by simp), h ')' (by simp)]

theorem Unclosed.notMem {c : Char} (hu : Unclosed u) (hc : c = ',' ∨ c = ')') : c ∉ u := by
  rcases hc with rfl | rfl
  · exact hu.1
  · exact hu.2

/-- In a text that is not closed no parameter ends before the character that follows the
text, if something else stands behind that one. -/
theorem paramNameAt?_eq_none (hu : Unclosed u) (hd : isWordChar d = false) (hd' : Unclosed [d])
    {e : Char} (he : HeaderBridge.isBlank e = false) (he' : Unclosed [e]) (p : Option Char)
    (t : Text) : paramNameAt? p (u ++ d :: e :: t) = none := by
  refine paramNameAt?_of_next (fun c hc => ?_) p
  have hdrop : afterWord (u ++ d :: e :: t) = (u.dropWhile isWordChar ++ [d]) ++ e :: t := by
    rw [afterWord, dropWhile_append_cons hd, List.append_assoc]
    rfl
  rw [hdrop]
  refine head?_dropBlanks_ne ?_ he (fun h => he'.notMem hc (by simp [h])) t
  intro hm
  rcases List.mem_append.1 hm with hm | hm
  · exact notMem_dropWhile (hu.notMem hc) isWordChar hm
  · exact hd'.notMem hc hm

/-- Such a text is passed over. -/
theorem paramNamesFrom_append (hu : Unclosed u) (hd : isWordChar d = false) (hd' : Unclosed [d])
    {e : Char} (he : HeaderBridge.isBlank e = false) (he' : Unclosed [e]) (t : Text) :
    paramNamesFrom p (u ++ d :: e :: t) = paramNamesFrom (some d) (e :: t) := by
  induction u generalizing p with
  | nil =>
    have hnone := paramNameAt?_eq_none hu hd hd' he he' p t
    rw [List.nil_append] at hnone ⊢
    rw [paramNamesFrom]
    simp only [hnone]
  | cons x u ih =>
    have hnone := paramNameAt?_eq_none hu hd hd' he he' p t
    rw [List.cons_append] at hnone ⊢
    rw [paramNamesFrom]
    simp only [hnone]
    exact ih hu.of_cons

/-- Behind a word character no name of a parameter begins. -/
theorem paramNamesFrom_inside (hw : ∀ c ∈ w, isWordChar c = true) {x : Char}
    (hx : isWordChar x = true) (t : Text) :
    ∃ y, paramNamesFrom (some x) (w ++ t) = paramNamesFrom (some y) t := by
  induction w generalizing x with
  | nil => exact ⟨x, rfl⟩
  | cons c w ih =>
    have hnone : paramNameAt? (some x) (c :: (w ++ t)) = none := by simp [paramNameAt?, hx]
    obtain ⟨y, hy⟩ := ih (fun c hc => hw c (List.mem_cons_of_mem _ hc)) (hw c (by simp))
    refine ⟨y, ?_⟩
    rw [List.cons_append, paramNamesFrom]
    simpa only [hnone] using hy

/-- A word that is closed is the name of a parameter. -/
theorem paramNamesFrom_word (hw : IsWord w) (hp : p.any isWordChar = false) {c : Char}
    (hc : c = ',' ∨ c = ')') (t : Text) :
    ∃ y, paramNamesFrom p (w ++ c :: t) = w :: paramNamesFrom (some y) (c :: t) := by
  have hcw : isWordChar c = false := by rcases hc with rfl | rfl <;> decide
  have hcb : HeaderBridge.isBlank c = false := by rcases hc with rfl | rfl <;> decide
  have hread : paramNameAt? p (w ++ c :: t) = some w := by
    have hne : w.isEmpty = false := by simpa using hw.ne_nil
    have hnext : (dropBlanks (c :: t)).head? = some c := by
      rw [dropBlanks_cons_of_not hcb]
      rfl
    rcases hc with rfl | rfl <;>
      simp [paramNameAt?, word_append_cons hw.all hcw, afterWord_append_cons hw.all hcw, hnext, hne,
        hp]
  obtain ⟨x, w', rfl, hx⟩ := hw.exists_cons
  obtain ⟨y, hy⟩ := paramNamesFrom_inside (w := w')
    (fun c hc => hw.all c (List.mem_cons_of_mem x hc)) hx (c :: t)
  refine ⟨y, ?_⟩
  rw [List.cons_append] at hread ⊢
  rw [paramNamesFrom]
  simp only [hread, hy]

/-- A character that is no word character begins no name. -/
theorem paramNamesFrom_cons (hd : isWordChar d = false) (t : Text) :
    paramNamesFrom p (d :: t) = paramNamesFrom (some d) t := by
  have hnone : paramNameAt? p (d :: t) = none := by simp [paramNameAt?, word, hd]
  rw [paramNamesFrom]
  simp only [hnone]

end

/-- What stands before an argument and the argument end in the argument's word. -/
theorem EndsIn.exists_cut {a n : Text} (h : EndsIn a n) {u : Text} (hu : Unclosed u) {o : Char}
    (ho : o = '(' ∨ o = ' ') :
    ∃ v d, u ++ o :: a = v ++ d :: n ∧ Unclosed v ∧ isWordChar d = false ∧ Unclosed [d] := by
  have hclass : isWordChar o = false ∧ Unclosed [o] := by
    rcases ho with rfl | rfl <;> exact ⟨by decide, by decide, by decide⟩
  rcases h.cut with rfl | ⟨v, rfl, hv⟩
  · exact ⟨u, o, rfl, hu, hclass⟩
  · refine ⟨u ++ o :: v, ' ', by simp, ?_, by decide, by decide, by decide⟩
    have hov : Unclosed (o :: v) := Unclosed.append (u := [o]) hclass.2 hv
    exact hu.append hov

section

variable {α : Type} {f n : α → Text}

/-- The name of an argument is the word in which it ends. -/
theorem EndsIn.paramNamesFrom {a n : Text} (h : EndsIn a n) {u : Text} (hu : Unclosed u)
    {o : Char} (ho : o = '(' ∨ o = ' ') (prev : Option Char) {c : Char} (hc : c = ',' ∨ c = ')')
    (t : Text) : ∃ y, paramNamesFrom prev (u ++ o :: (a ++ c :: t)) =
      n :: paramNamesFrom (some y) (c :: t) := by
  obtain ⟨v, d, hcut, hv, hd, hd'⟩ := h.exists_cut hu ho
  obtain ⟨y, hy⟩ := paramNamesFrom_word h.isWord (p := some d) (by simpa using hd) hc t
  obtain ⟨e, w, rfl, he⟩ := h.isWord.exists_cons
  have heu : Unclosed [e] := by
    constructor
    · simpa using (ne_of_isWordChar he (d := ',') (by decide)).symm
    · simpa using (ne_of_isWordChar he (d := ')') (by decide)).symm
  refine ⟨y, ?_⟩
  have hline : u ++ o :: (a ++ c :: t) = v ++ d :: e :: (w ++ c :: t) := by
    rw [← List.cons_append, ← List.append_assoc, hcut]
    simp
  rw [hline, paramNamesFrom_append hv hd hd' (isBlank_of_isWordChar he) heu, ← hy]
  rfl

/-- The names of arguments are the words in which they end. -/
theorem paramNamesFrom_join {as : List α} (hne : as ≠ []) (hargs : ∀ a ∈ as, EndsIn (f a) (n a))
    {u : Text} (hu : Unclosed u) {o : Char} (ho : o = '(' ∨ o = ' ') (prev : Option Char) :
    paramNamesFrom prev (u ++ o :: (join ", ".toList (as.map f) ++ ");".toList)) = as.map n := by
  induction as generalizing u o prev with
  | nil => exact absurd rfl hne
  | cons a as ih =>
    cases as with
    | nil =>
      obtain ⟨y, hy⟩ := (hargs a (by simp)).paramNamesFrom hu ho prev (c := ')') (by simp) [';']
      simp only [List.map_cons, List.map_nil, join_singleton]
      refine hy.trans ?_
      rw [paramNamesFrom_cons (by decide), paramNamesFrom_cons (by decide)]
      rfl
    | cons b bs =>
      have hrest := ih (by simp) (fun a ha => hargs a (List.mem_cons_of_mem _ ha)) (u := [])
        ⟨by simp, by simp⟩ (o := ' ') (by simp) (some ',')
      obtain ⟨y, hy⟩ := (hargs a (by simp)).paramNamesFrom hu ho prev (c := ',') (by simp)
        (' ' :: (join ", ".toList ((b :: bs).map f) ++ ");".toList))
      rw [paramNamesFrom_cons (by decide)] at hy
      rw [List.nil_append] at hrest
      rw [hrest] at hy
      simpa [join_cons_cons] using hy

/-- Without arguments there are no names. -/
theorem paramNamesFrom_empty {u : Text} (hu : Unclosed u) (prev : Option Char) :
    paramNamesFrom prev (u ++ '(' :: [')', ';']) = [] := by
  induction u generalizing prev with
  | nil =>
    rw [List.nil_append, paramNamesFrom_cons (by decide), paramNamesFrom_cons (by decide),
      paramNamesFrom_cons (by decide)]
    rfl
  | cons x u ih =>
    have hnone : paramNameAt? prev (x :: u ++ '(' :: [')', ';']) = none := by
      refine paramNameAt?_of_next (fun c hc => ?_) prev
      have hparen : '(' ≠ c := by rcases hc with rfl | rfl <;> decide
      rw [afterWord, dropWhile_append_cons (by decide)]
      exact head?_dropBlanks_ne (notMem_dropWhile (hu.notMem hc) isWordChar) (by decide) hparen _
    rw [List.cons_append] at hnone ⊢
    rw [paramNamesFrom]
    simp only [hnone]
    exact ih hu.of_cons (some x)

/-- The names of the parameters of a line are the words in which its arguments end. -/
theorem readParamNames_lineOf {as : List α} {head : Text} (hhead : Unclosed head)
    (hargs : ∀ a ∈ as, EndsIn (f a) (n a)) :
    readParamNames (lineOf head (as.map f)) = as.map n := by
  cases as with
  | nil => exact paramNamesFrom_empty hhead none
  | cons a as => exact paramNamesFrom_join (by simp) hargs hhead (by simp) none

end

end Signature

end HeaderBridge
