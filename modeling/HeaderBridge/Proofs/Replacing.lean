import HeaderBridge.Proofs.Words

/-!
# Replacing in a line piece by piece

A declaration line is a head and, in parentheses, its arguments (`lineOf`). A pattern
that turns the head and every argument into another text, whatever closes them, turns
the line into the line of these texts (`replace_lineOf`). So a pass over a line is known
from what it does to one declarator.

An argument is looked at together with the character that opens it, since the rules of
the dictionary match that character too.
-/

namespace HeaderBridge

namespace Text

section

variable {find : Option Char → Text → Option (Nat × Text)}

/-! ## Steps -/

theorem replaceMatches_cons {prev : Option Char} {c : Char} {t : Text}
    (h : find prev (c :: t) = none) :
    replaceMatches find prev 0 (c :: t) = c :: replaceMatches find (some c) 0 t := by
  simp [replaceMatches, h]

/-- Where the pattern matches nowhere in a text, the text is kept. -/
theorem replaceMatches_append (a rest : Text) (prev : Option Char)
    (h : ∀ u v, a = u ++ v → v ≠ [] → find (lastFrom prev u) (v ++ rest) = none) :
    replaceMatches find prev 0 (a ++ rest) =
      a ++ replaceMatches find (lastFrom prev a) 0 rest := by
  induction a generalizing prev with
  | nil => rfl
  | cons c a ih =>
    have hc : find prev (c :: (a ++ rest)) = none := h [] (c :: a) rfl (by simp)
    have ha : ∀ u v, a = u ++ v → v ≠ [] → find (lastFrom (some c) u) (v ++ rest) = none :=
      fun u v huv hv => h (c :: u) v (by simp [huv]) hv
    rw [List.cons_append, replaceMatches_cons hc, ih (some c) ha]
    rfl

/-- The characters of a match are passed over. -/
theorem replaceMatches_skip (a rest : Text) (prev : Option Char) :
    replaceMatches find prev a.length (a ++ rest) =
      replaceMatches find (lastFrom prev a) 0 rest := by
  induction a generalizing prev with
  | nil => rfl
  | cons c a ih => exact ih (some c)

/-- A match is replaced by its text. -/
theorem replaceMatches_match {a rest new : Text} {prev : Option Char} (ha : a ≠ [])
    (h : find prev (a ++ rest) = some (a.length, new)) :
    replaceMatches find prev 0 (a ++ rest) =
      new ++ replaceMatches find (lastFrom prev a) 0 rest := by
  cases a with
  | nil => exact absurd rfl ha
  | cons c a =>
    rw [List.cons_append] at h ⊢
    simp only [replaceMatches, h, List.length_cons, Nat.add_sub_cancel]
    rw [replaceMatches_skip]
    rfl

/-- A word at no place of which the pattern matches is kept. -/
theorem replaceMatches_word {w rest : Text} (hw : IsWord w) (prev : Option Char)
    (h : ∀ v, IsWord v → v <:+ w → ∀ p, find p (v ++ rest) = none) :
    replaceMatches find prev 0 (w ++ rest) =
      w ++ replaceMatches find (lastFrom prev w) 0 rest := by
  apply replaceMatches_append
  intro u v huv hv
  have hs : v <:+ w := ⟨u, huv.symm⟩
  exact h v (hw.of_suffix hs hv) hs _

/-- A character that no replacement brings is not in the text behind the pass if it was not in
the text before it. -/
theorem notMem_replace {x : Char} {t : Text}
    (hfind : ∀ p t n new, find p t = some (n, new) → x ∉ t → x ∉ new) (ht : x ∉ t) :
    x ∉ t.replace find := by
  have hpass : ∀ p k, x ∉ replaceMatches find p k t := by
    induction t with
    | nil => intro p k; simp [replaceMatches]
    | cons c t ih =>
      have hrest := ih fun h => ht (List.mem_cons_of_mem c h)
      have hc : x ≠ c := fun h => ht (h ▸ List.mem_cons_self)
      intro p k
      cases k with
      | succ k => exact hrest (some c) k
      | zero =>
        rw [replaceMatches]
        split
        · next n new hm =>
          rw [List.mem_append, not_or]
          exact ⟨hfind p (c :: t) n new hm ht, hrest (some c) (n - 1)⟩
        · rw [List.mem_cons, not_or]
          exact ⟨hc, hrest (some c) 0⟩
  exact hpass none 0

/-- So it is where every match is replaced by the same text. -/
theorem notMem_replace_of_eq (new : Text) {x : Char} {t : Text}
    (hfind : ∀ p t m, find p t = some m → m.2 = new) (hx : x ∉ new) (ht : x ∉ t) :
    x ∉ t.replace find := by
  refine notMem_replace (fun p t n new' hm _ => ?_) ht
  rwa [show new' = new from hfind p t (n, new') hm]

theorem notMem_replace_exactly {w new t : Text} {x : Char} (hx : x ∉ new) (ht : x ∉ t) :
    x ∉ t.replace (exactly w new) := by
  refine notMem_replace_of_eq new (fun p t m hm => ?_) hx ht
  simp only [exactly, Option.ite_none_right_eq_some, Option.some.injEq] at hm
  rw [← hm.2]

/-! ## Pieces of a line -/

/-- A character that closes a piece of a line. -/
def IsCloser (c : Char) : Prop := c = '(' ∨ c = ',' ∨ c = ')'

instance (c : Char) : Decidable (IsCloser c) := inferInstanceAs (Decidable (_ ∨ _))

theorem IsCloser.not_isWordChar {c : Char} (h : IsCloser c) : isWordChar c = false := by
  rcases h with rfl | rfl | rfl <;> decide

theorem IsCloser.not_isBlank {c : Char} (h : IsCloser c) : HeaderBridge.isBlank c = false := by
  rcases h with rfl | rfl | rfl <;> decide

/-- The pattern turns the piece `a`, met behind `prev`, into `b`, whatever closes the
piece. -/
def Turns (find : Option Char → Text → Option (Nat × Text)) (prev : Option Char)
    (a b : Text) : Prop :=
  ∀ c t, IsCloser c → ∃ last,
    replaceMatches find prev 0 (a ++ c :: t) = b ++ replaceMatches find (some last) 0 (c :: t)

/-- A character opens the piece, and the pattern does not match there before the piece. -/
theorem Turns.cons_of {a b : Text} {o : Char} (h : Turns find (some o) a b) {p : Option Char}
    (ho : ∀ c t, IsCloser c → find p (o :: (a ++ c :: t)) = none) :
    Turns find p (o :: a) (o :: b) := by
  intro c t hc
  obtain ⟨last, hl⟩ := h c t hc
  exact ⟨last, by rw [List.cons_append, replaceMatches_cons (ho c t hc), hl, List.cons_append]⟩

/-- A character at which the pattern does not match opens the piece. -/
theorem Turns.cons {a b : Text} {o : Char} (h : Turns find (some o) a b) {p : Option Char}
    (ho : ∀ t, find p (o :: t) = none) : Turns find p (o :: a) (o :: b) :=
  h.cons_of fun _ _ _ => ho _

/-- A text that holds no character at which the pattern matches is kept. -/
theorem turns_self {a : Text} (h : ∀ c ∈ a, ∀ y t, find (some y) (c :: t) = none) (x : Char) :
    Turns find (some x) a a := by
  intro c t _
  obtain ⟨last, hl⟩ := exists_lastFrom_some x a
  refine ⟨last, ?_⟩
  rw [replaceMatches_append a (c :: t) (some x), hl]
  intro u v huv hv
  obtain ⟨y, hy⟩ := exists_lastFrom_some x u
  cases v with
  | nil => exact absurd rfl hv
  | cons d v =>
    rw [hy]
    exact h d (by simp [huv]) y _

/-- A text is kept if the pattern matches neither at its front nor at any character
behind it. -/
theorem turns_cons_self {a : Text} {d : Char} (prev : Option Char)
    (hd : ∀ c t, IsCloser c → find prev (d :: (a ++ c :: t)) = none)
    (h : ∀ c ∈ a, ∀ y t, find (some y) (c :: t) = none) : Turns find prev (d :: a) (d :: a) :=
  (turns_self h d).cons_of hd

/-- A word at no place of which the pattern matches is kept, whatever follows it. -/
theorem Turns.word_append {w a b : Text} {p : Option Char} (hw : IsWord w)
    (hm : ∀ v, IsWord v → v <:+ w → ∀ q c t, IsCloser c → find q (v ++ (a ++ c :: t)) = none)
    (ha : Turns find (lastFrom p w) a b) : Turns find p (w ++ a) (w ++ b) := by
  intro c t hc
  obtain ⟨last, hl⟩ := ha c t hc
  refine ⟨last, ?_⟩
  rw [List.append_assoc, replaceMatches_word hw p fun v hv hs q => hm v hv hs q c t hc, hl,
    List.append_assoc]

/-- A match at the front of a piece is replaced. -/
theorem Turns.match_append {m n a b : Text} {p : Option Char} (hm : m ≠ [])
    (h : ∀ c t, IsCloser c → find p (m ++ (a ++ c :: t)) = some (m.length, n))
    (ha : Turns find (lastFrom p m) a b) : Turns find p (m ++ a) (n ++ b) := by
  intro c t hc
  obtain ⟨last, hl⟩ := ha c t hc
  exact ⟨last, by rw [List.append_assoc, replaceMatches_match hm (h c t hc), hl, List.append_assoc]⟩

/-- Of a word before a blank the pattern matches the end `u` and no other one : what stands
before this end is kept. -/
theorem Turns.cut {u v a b : Text} (hv : ∀ c ∈ v, isWordChar c = true) (hu : IsWord u)
    (hmiss : ∀ w, IsWord w → w ≠ u → ∀ q t, find q (w ++ ' ' :: t) = none)
    (h : ∀ q, Turns find q (u ++ ' ' :: a) b) (p : Option Char) :
    Turns find p (v ++ (u ++ ' ' :: a)) (v ++ b) := by
  by_cases hnil : v = []
  · simpa [hnil] using h p
  · refine Turns.word_append ⟨hnil, hv⟩ (fun w hw _ q c t _ => ?_) (h _)
    have hlonger : w ++ u ≠ u := fun heq => hw.ne_nil (List.append_left_eq_self.1 heq)
    simpa using hmiss (w ++ u) (hu.append_of_all hw.all) hlonger q (a ++ c :: t)

end

/-! ## Lines -/

theorem join_cons_cons (sep a b : Text) (ts : List Text) :
    join sep (a :: b :: ts) = a ++ sep ++ join sep (b :: ts) := by
  simp [join, List.intercalate_cons_cons]

@[simp] theorem join_singleton (sep a : Text) : join sep [a] = a :=
  List.intercalate_singleton

/-- Joined texts begin with the first of them. -/
theorem exists_join_cons (sep a : Text) (ts : List Text) : ∃ r, join sep (a :: ts) = a ++ r := by
  cases ts with
  | nil => exact ⟨[], by simp⟩
  | cons b ts => exact ⟨_, (join_cons_cons sep a b ts).trans (List.append_assoc a sep _)⟩

@[simp] theorem join_nil (sep : Text) : join sep [] = [] := rfl

theorem notMem_join {c : Char} {sep : Text} (hsep : c ∉ sep) {ts : List Text}
    (h : ∀ t ∈ ts, c ∉ t) : c ∉ join sep ts := by
  induction ts with
  | nil => simp
  | cons a ts ih =>
    have ih' := ih fun t ht => h t (List.mem_cons_of_mem a ht)
    cases ts with
    | nil => simpa using h a (by simp)
    | cons b ts =>
      rw [join_cons_cons]
      simp only [List.mem_append, not_or]
      exact ⟨⟨h a (by simp), hsep⟩, ih'⟩

end Text

/-- A head and, in parentheses, its arguments. -/
def lineOf (head : Text) (args : List Text) : Text :=
  head ++ '(' :: (Text.join ", ".toList args ++ ");".toList)

namespace Text

variable {α : Type} {find : Option Char → Text → Option (Nat × Text)} {f g : α → Text}

/-- The arguments that follow an opening character are turned one by one. -/
theorem replaceMatches_join {as : List α}
    (hargs : ∀ a ∈ as, ∀ o, o = '(' ∨ o = ' ' → ∀ x, Turns find (some x) (o :: f a) (o :: g a))
    (hclose : ∀ x c t, c = ',' ∨ c = ')' ∨ c = ';' → find (some x) (c :: t) = none)
    (hne : as ≠ []) {o : Char} (ho : o = '(' ∨ o = ' ') (x : Char) :
    replaceMatches find (some x) 0 (o :: join ", ".toList (as.map f) ++ ");".toList) =
      o :: join ", ".toList (as.map g) ++ ");".toList := by
  induction as generalizing o x with
  | nil => exact absurd rfl hne
  | cons a as ih =>
    cases as with
    | nil =>
      obtain ⟨last, hl⟩ := hargs a (by simp) o ho x ')' [';'] (by simp [IsCloser])
      simp only [List.map_cons, List.map_nil, join_singleton]
      refine hl.trans ?_
      rw [replaceMatches_cons (hclose _ _ _ (by simp)),
        replaceMatches_cons (hclose _ _ _ (by simp))]
      rfl
    | cons b bs =>
      simp only [List.map_cons, join_cons_cons] at ih ⊢
      obtain ⟨last, hl⟩ := hargs a (by simp) o ho x ','
        (' ' :: join ", ".toList (f b :: bs.map f) ++ ");".toList) (by simp [IsCloser])
      have hrest := ih (fun a ha => hargs a (List.mem_cons_of_mem _ ha)) (by simp) (o := ' ')
        (by simp) ','
      rw [replaceMatches_cons (hclose _ _ _ (by simp)), hrest] at hl
      simpa using hl

/-- A pattern that turns the head and every argument of a line turns the line. -/
theorem replace_lineOf {head head' : Text} {l : List α} (hhead : Turns find none head head')
    (hargs : ∀ a ∈ l, ∀ o, o = '(' ∨ o = ' ' → ∀ x, Turns find (some x) (o :: f a) (o :: g a))
    (hclose : ∀ x c t, c = ',' ∨ c = ')' ∨ c = ';' → find (some x) (c :: t) = none)
    (hempty : ∀ x, find (some x) ['(', ')', ';'] = none) :
    (lineOf head (l.map f)).replace find = lineOf head' (l.map g) := by
  cases l with
  | nil =>
    obtain ⟨last, hl⟩ := hhead '(' ");".toList (by simp [IsCloser])
    have hopen : replaceMatches find (some last) 0 ['(', ')', ';'] = ['(', ')', ';'] := by
      rw [replaceMatches_cons (hempty last), replaceMatches_cons (hclose _ _ _ (by simp)),
        replaceMatches_cons (hclose _ _ _ (by simp))]
      rfl
    exact hl.trans (congrArg (head' ++ ·) hopen)
  | cons a l =>
    obtain ⟨last, hl⟩ := hhead '(' (join ", ".toList ((a :: l).map f) ++ ");".toList)
      (by simp [IsCloser])
    have hrest := replaceMatches_join hargs hclose (by simp) (o := '(') (by simp) last
    exact hl.trans (congrArg (head' ++ ·) hrest)

/-! ## Patterns that begin with a word -/

/-- The pattern matches nothing but a word with a blank behind it, and what follows. -/
structure WordLed (find : Option Char → Text → Option (Nat × Text)) : Prop where
  nonword : ∀ {c}, isWordChar c = false → ∀ p t, find p (c :: t) = none
  unspaced : ∀ {v c}, IsWord v → isWordChar c = false → HeaderBridge.isBlank c = false →
    ∀ p t, find p (v ++ c :: t) = none

namespace WordLed

variable {a b w : Text}

/-- The last word of a piece is kept. -/
theorem turns_word (hf : WordLed find) (hw : IsWord w) (p : Option Char) : Turns find p w w := by
  intro c t hc
  obtain ⟨last, -, hl⟩ := exists_lastFrom p hw.ne_nil
  refine ⟨last, ?_⟩
  rw [replaceMatches_word hw p fun v hv _ q => hf.unspaced hv hc.not_isWordChar hc.not_isBlank q t,
    hl]

/-- A character that is no word character is kept. -/
theorem turns_cons (hf : WordLed find) {o : Char} (ho : isWordChar o = false)
    (h : ∀ p, Turns find p a b) (p : Option Char) : Turns find p (o :: a) (o :: b) :=
  (h (some o)).cons fun t => hf.nonword ho p t

/-- Word characters are kept before a character that neither belongs to a word nor separates
words. -/
theorem turns_append_cons (hf : WordLed find) {o : Char} (ho : isWordChar o = false)
    (hb : HeaderBridge.isBlank o = false) (hw : ∀ c ∈ w, isWordChar c = true)
    (h : ∀ p, Turns find p a b) (p : Option Char) :
    Turns find p (w ++ o :: a) (w ++ o :: b) := by
  have hcons : ∀ q, Turns find q (o :: a) (o :: b) := hf.turns_cons ho h
  by_cases hnil : w = []
  · simpa [hnil] using hcons p
  · exact Turns.word_append ⟨hnil, hw⟩ (fun v hv _ q c t _ => hf.unspaced hv ho hb q (a ++ c :: t))
      (hcons _)

/-- Characters that are no word characters are kept. -/
theorem turns_append (hf : WordLed find) {x : Text} (hx : ∀ c ∈ x, isWordChar c = false)
    (h : ∀ p, Turns find p a b) (p : Option Char) : Turns find p (x ++ a) (x ++ b) := by
  induction x generalizing p with
  | nil => exact h p
  | cons o x ih =>
    exact hf.turns_cons (hx o (by simp)) (ih fun c hc => hx c (List.mem_cons_of_mem o hc)) p

/-- A pattern that begins with a word turns a line if it turns the head and every
argument. -/
theorem replace_lineOf (hf : WordLed find) {head head' : Text} {l : List α}
    (hhead : ∀ p, Turns find p head head') (hargs : ∀ x ∈ l, ∀ p, Turns find p (f x) (g x)) :
    (lineOf head (l.map f)).replace find = lineOf head' (l.map g) := by
  have hopen : ∀ o, o = '(' ∨ o = ' ' → isWordChar o = false := by
    rintro o (rfl | rfl) <;> decide
  have hclose : ∀ c, c = ',' ∨ c = ')' ∨ c = ';' → isWordChar c = false := by
    rintro c (rfl | rfl | rfl) <;> decide
  exact Text.replace_lineOf (hhead none)
    (fun x hx o ho q => hf.turns_cons (hopen o ho) (hargs x hx) (some q))
    (fun x c t hc => hf.nonword (hclose c hc) (some x) t)
    (fun x => hf.nonword (hopen '(' (Or.inl rfl)) (some x) _)

end WordLed

end Text

end HeaderBridge
