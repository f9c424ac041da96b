import HeaderBridge.Proofs.Prototype

/-!
# Dropping the qualifiers of a prototype

A keyword is removed wherever its letters stand before a blank. So a type that ends in them is
cut, and what is left of it is glued to the name (`Declared.glued`). This is all that happens to
a prototype besides the loss of its keywords (`Prototype.dropQualifiers_line`). Every identifier
survives exactly if no type ends in a keyword (`Prototype.dropQualifiers_eq_iff`).
-/

namespace HeaderBridge

namespace Text

variable {u s w new t : Text}

theorem exactly_eq_none (h : ¬ w <+: t) (p : Option Char) : exactly w new p t = none := by
  have hb : beginsWith w t = false := by
    cases hw : beginsWith w t with
    | false => rfl
    | true => exact absurd (beginsWith_iff.1 hw) h
  simp [exactly, hb]

theorem exactly_append (w new t : Text) (p : Option Char) :
    exactly w new p (w ++ t) = some (w.length, new) := by
  have hb : beginsWith w (w ++ t) = true := beginsWith_iff.2 (List.prefix_append w t)
  simp [exactly, hb]

theorem not_append_cons_isPrefix (hu : IsWord u) {v : Text} (hv : IsWord v) {c d : Char}
    (hc : isWordChar c = false) (hd : isWordChar d = false)
    (h : ¬ (u = v ∧ c = d ∧ s <+: t)) : ¬ u ++ c :: s <+: v ++ d :: t :=
  fun hp => h ((append_cons_isPrefix_iff hu.all hc hv.all hd).1 hp)

/-- A text that begins with a word and a blank is a pattern that begins with a word. -/
theorem wordLed_exactly (hu : IsWord u) (s new : Text) :
    WordLed (exactly (u ++ ' ' :: s) new) where
  nonword := by
    intro c hc p t
    obtain ⟨x, u', rfl, hx⟩ := hu.exists_cons
    refine exactly_eq_none (fun hp => ?_) p
    rw [List.cons_append, List.cons_prefix_cons] at hp
    exact ne_of_isWordChar hx hc hp.1
  unspaced := by
    intro v c hv hc hb p t
    refine exactly_eq_none (not_append_cons_isPrefix hu hv (by decide) hc ?_) p
    rintro ⟨-, rfl, -⟩
    exact absurd hb (by decide)

/-- The pattern does not match where another word stands, or the same word with
something else behind it. -/
theorem exactly_word_eq_none (hu : IsWord u) {v : Text} (hv : IsWord v)
    (h : u = v → ¬ s <+: t) (p : Option Char) :
    exactly (u ++ ' ' :: s) new p (v ++ ' ' :: t) = none := by
  refine exactly_eq_none (not_append_cons_isPrefix hu hv (by decide) (by decide) ?_) p
  rintro ⟨huv, -, hst⟩
  exact h huv hst

end Text

open Text

theorem isWord_external : IsWord "extern".toList := .of_all (by decide) (by decide)

theorem isWord_const : IsWord "const".toList := .of_all (by decide) (by decide)

theorem isWord_static : IsWord "static".toList := .of_all (by decide) (by decide)

theorem isWord_inline : IsWord "inline".toList := .of_all (by decide) (by decide)

theorem isWord_void : IsWord "void".toList := .of_all (by decide) (by decide)

theorem Stars.isWordChar_of_mem (s : Stars) {c : Char} (hc : c ∈ s.text) :
    isWordChar c = false := by
  cases s <;> simp_all [Stars.text] <;> decide

/-! ## One keyword -/

section

variable {find : Option Char → Text → Option (Nat × Text)} (d : Declared)

/-- A declarator is kept by a pattern that does not match at its type. -/
theorem Declared.turns_bare (hf : WordLed find)
    (hm : ∀ v, IsWord v → v <:+ d.type.base.text → ∀ q c t, IsCloser c →
      find q (v ++ ' ' :: (d.type.stars.text ++ d.name.text ++ c :: t)) = none)
    (p : Option Char) : Turns find p d.bare d.bare := by
  refine Turns.word_append d.type.base.isWord ?_ ?_
  · intro v hv hs q c t hc
    simpa using hm v hv hs q c t hc
  · exact hf.turns_cons (by decide)
      (hf.turns_append (fun c hc => d.type.stars.isWordChar_of_mem hc)
        (hf.turns_word d.name.isWord)) _

/-- A declarator is kept when a word is removed in which its type does not end. -/
theorem Declared.turns_bare_of_not_suffix {u : Text} (hu : IsWord u)
    (h : ¬ u <:+ d.type.base.text) (p : Option Char) :
    Turns (exactly (u ++ [' ']) []) p d.bare d.bare := by
  refine d.turns_bare (wordLed_exactly hu [] []) ?_ p
  intro v hv hs q c t _
  refine exactly_word_eq_none hu hv (fun huv => ?_) q
  exact absurd (huv ▸ hs) h

/-- The two keywords of a static function are not read into a declarator. -/
theorem Declared.turns_bare_static (p : Option Char) :
    Turns (exactly "static inline ".toList []) p d.bare d.bare := by
  refine d.turns_bare (wordLed_exactly isWord_static "inline ".toList []) ?_ p
  intro v hv _ q c t hc
  refine exactly_word_eq_none isWord_static hv (fun _ hp => ?_) q
  cases hs : d.type.stars with
  | none =>
    rw [hs] at hp
    have hn := (append_cons_isPrefix_iff (s := []) isWord_inline.all (by decide) d.name.isWord.all
      hc.not_isWordChar).1 hp
    exact absurd hc.not_isBlank (by rw [← hn.2.1]; decide)
  | one =>
    rw [hs] at hp
    exact absurd (List.cons_prefix_cons.1 hp).1 (by decide)
  | two =>
    rw [hs] at hp
    exact absurd (List.cons_prefix_cons.1 hp).1 (by decide)

end

section

variable {a b : Text} (t : PlainType)

/-- The keyword before a type is kept when `extern` is removed. -/
theorem turns_qualifier_external (h : ∀ p, Turns (exactly "extern ".toList []) p a b)
    (p : Option Char) :
    Turns (exactly "extern ".toList []) p (t.qualifier ++ a) (t.qualifier ++ b) := by
  have hf : WordLed (exactly "extern ".toList []) := wordLed_exactly isWord_external [] []
  unfold PlainType.qualifier
  cases t.isConst with
  | false => exact h p
  | true =>
    refine Turns.word_append (w := "const".toList) (a := ' ' :: a) (b := ' ' :: b)
      isWord_const ?_ (hf.turns_cons (by decide) h _)
    intro v hv hs q c t _
    refine exactly_word_eq_none isWord_external hv (fun huv => ?_) q
    rw [← huv] at hs
    exact absurd hs (by decide)

/-- The keyword before a type is dropped. -/
theorem turns_qualifier_const (h : ∀ p, Turns (exactly "const ".toList []) p a b)
    (p : Option Char) : Turns (exactly "const ".toList []) p (t.qualifier ++ a) b := by
  unfold PlainType.qualifier
  cases t.isConst with
  | false => exact h p
  | true =>
    exact Turns.match_append (n := []) (by decide) (fun c t _ => exactly_append _ _ _ p) (h _)

end

/-! ## Types that end in a keyword -/

namespace Declared

variable (d : Declared)

/-- The type ends in one of the keywords. -/
def Glued : Prop :=
  "extern".toList <:+ d.type.base.text ∨ "const".toList <:+ d.type.base.text

instance : Decidable d.Glued := inferInstanceAs (Decidable (_ ∨ _))

theorem Keywordless.not_glued {d : Declared} (h : d.Keywordless) : ¬ d.Glued :=
  fun hg => hg.elim h.not_external h.not_const

/-- What stands before the keyword at the end of the type. -/
def front : Text :=
  d.type.base.text.take <| d.type.base.text.length -
    if "extern".toList <:+ d.type.base.text then "extern".toList.length else "const".toList.length

/-- The name, with what is left of the type before it. -/
def glued : Text := d.front ++ (d.type.stars.text ++ d.name.text)

/-- A declarator of which a type that ends in a keyword leaves only the name, and else `t`. -/
def unlessGlued (t : Text) : Text := if d.Glued then d.glued else t

/-- The declarator without the keywords. -/
def unqualified : Text := d.unlessGlued d.bare

theorem isWordChar_of_mem_front {c : Char} (hc : c ∈ d.front) : isWordChar c = true :=
  d.type.base.isWord.all c (List.mem_of_mem_take hc)

variable {d}

theorem front_append_external (h : "extern".toList <:+ d.type.base.text) :
    d.front ++ "extern".toList = d.type.base.text := by
  rw [front, if_pos h]
  exact List.suffix_iff_eq_append.1 h

theorem front_append_const (hno : ¬ "extern".toList <:+ d.type.base.text)
    (h : "const".toList <:+ d.type.base.text) : d.front ++ "const".toList = d.type.base.text := by
  rw [front, if_neg hno]
  exact List.suffix_iff_eq_append.1 h

/-- The end of the type's word goes with the blank behind it. -/
theorem turns_bare_glued {u : Text} (hu : IsWord u) (h : d.front ++ u = d.type.base.text)
    (p : Option Char) : Turns (exactly (u ++ [' ']) []) p d.bare d.glued := by
  have hf : WordLed (exactly (u ++ [' ']) []) := wordLed_exactly hu [] []
  have hmatch : ∀ q, Turns (exactly (u ++ [' ']) []) q
      (u ++ ' ' :: (d.type.stars.text ++ d.name.text)) (d.type.stars.text ++ d.name.text) := by
    intro q
    have hturn := Turns.match_append (m := u ++ [' ']) (n := []) (p := q) (by simp)
      (fun c t _ => exactly_append _ _ _ q) (hf.turns_append
        (fun c hc => d.type.stars.isWordChar_of_mem hc) (hf.turns_word d.name.isWord) _)
    simpa using hturn
  have hmiss : ∀ w, IsWord w → w ≠ u → ∀ q t, exactly (u ++ [' ']) [] q (w ++ ' ' :: t) = none :=
    fun w hw hne q t => exactly_word_eq_none hu hw (fun heq => absurd heq.symm hne) q
  have hbare : d.bare = d.front ++ (u ++ ' ' :: (d.type.stars.text ++ d.name.text)) := by
    rw [bare, ← h, List.append_assoc]
  rw [hbare]
  exact Turns.cut (fun c hc => d.isWordChar_of_mem_front hc) hu hmiss hmatch p

/-- A name with what is left of the type before it has no blank, and is kept. -/
theorem turns_glued {find : Option Char → Text → Option (Nat × Text)} (hf : WordLed find)
    (p : Option Char) : Turns find p d.glued d.glued := by
  have hfront : ∀ c ∈ d.front, isWordChar c = true := fun c hc => d.isWordChar_of_mem_front hc
  have hname : ∀ q, Turns find q d.name.text d.name.text := hf.turns_word d.name.isWord
  unfold glued
  cases d.type.stars with
  | none => exact hf.turns_word (d.name.isWord.append_of_all hfront) p
  | one => exact hf.turns_append_cons (by decide) (by decide) hfront hname p
  | two =>
    exact hf.turns_append_cons (by decide) (by decide) hfront (hf.turns_cons (by decide) hname) p

/-- A pattern that begins with a word turns a declarator if it turns it for a type that ends in
no keyword. -/
theorem turns_unlessGlued {find : Option Char → Text → Option (Nat × Text)} (hf : WordLed find)
    {a b : Text} {p : Option Char} (h : Turns find p a b) :
    Turns find p (d.unlessGlued a) (d.unlessGlued b) := by
  unfold unlessGlued
  split
  · exact turns_glued hf p
  · exact h

/-- The declarator when `extern` has been removed. -/
def withoutExternal (d : Declared) : Text :=
  if "extern".toList <:+ d.type.base.text then d.glued else d.bare

theorem turns_spelled_external : ∀ p, Turns (exactly "extern ".toList []) p d.spelled
    (d.type.qualifier ++ d.withoutExternal) := by
  refine turns_qualifier_external d.type fun p => ?_
  unfold withoutExternal
  split
  · next h => exact turns_bare_glued isWord_external (front_append_external h) p
  · next h => exact d.turns_bare_of_not_suffix isWord_external h p

theorem turns_spelled_const : ∀ p, Turns (exactly "const ".toList []) p
    (d.type.qualifier ++ d.withoutExternal) d.unqualified := by
  refine turns_qualifier_const d.type fun p => ?_
  unfold withoutExternal unqualified unlessGlued
  by_cases hexternal : "extern".toList <:+ d.type.base.text
  · have hglued : d.Glued := Or.inl hexternal
    rw [if_pos hexternal, if_pos hglued]
    exact turns_glued (wordLed_exactly isWord_const [] []) p
  · rw [if_neg hexternal]
    by_cases hconst : "const".toList <:+ d.type.base.text
    · have hglued : d.Glued := Or.inr hconst
      rw [if_pos hglued]
      exact turns_bare_glued isWord_const (front_append_const hexternal hconst) p
    · have hkept : ¬ d.Glued := fun hg => hg.elim hexternal hconst
      rw [if_neg hkept]
      exact d.turns_bare_of_not_suffix isWord_const hconst p

end Declared

/-! ## The line -/

/-- The keywords of a static function are kept when a word is removed in which neither of
them ends. -/
theorem turns_static_inline {u a b : Text} (hu : IsWord u) (hstatic : ¬ u <:+ "static".toList)
    (hinline : ¬ u <:+ "inline".toList) (h : ∀ p, Turns (exactly (u ++ [' ']) []) p a b)
    (p : Option Char) :
    Turns (exactly (u ++ [' ']) []) p ("static inline ".toList ++ a)
      ("static inline ".toList ++ b) := by
  have hf : WordLed (exactly (u ++ [' ']) []) := wordLed_exactly hu [] []
  have hword : ∀ {w x y : Text}, IsWord w → ¬ u <:+ w →
      (∀ q, Turns (exactly (u ++ [' ']) []) q x y) →
      ∀ q, Turns (exactly (u ++ [' ']) []) q (w ++ ' ' :: x) (w ++ ' ' :: y) := by
    intro w x y hw hnot hx q
    refine Turns.word_append hw ?_ (hf.turns_cons (by decide) hx _)
    intro v hv hs r c t _
    refine exactly_word_eq_none hu hv (fun huv => ?_) r
    exact absurd (huv ▸ hs) hnot
  exact hword isWord_static hstatic (hword isWord_inline hinline h) p

/-- The keywords of a function that are left when `extern` is gone. -/
def Storage.inlineKeywords (s : Storage) : Text :=
  if s = .static then "static inline ".toList else []

theorem turns_keywords_external {a b : Text} (s : Storage)
    (h : ∀ p, Turns (exactly "extern ".toList []) p a b) (p : Option Char) :
    Turns (exactly "extern ".toList []) p (s.keywords ++ a) (s.inlineKeywords ++ b) := by
  cases s with
  | external =>
    exact Turns.match_append (n := []) (by decide) (fun c t _ => exactly_append _ _ _ p) (h _)
  | static =>
    exact turns_static_inline isWord_external (by decide) (by decide) h p
  | none => exact h p
  | privateExternal => exact h p
  | automatic => exact h p
  | invalid => exact h p

theorem turns_keywords_const {a b : Text} (s : Storage)
    (h : ∀ p, Turns (exactly "const ".toList []) p a b) (p : Option Char) :
    Turns (exactly "const ".toList []) p (s.inlineKeywords ++ a) (s.inlineKeywords ++ b) := by
  unfold Storage.inlineKeywords
  split
  · exact turns_static_inline isWord_const (by decide) (by decide) h p
  · exact h p

theorem turns_keywords_static {a b : Text} (s : Storage)
    (h : ∀ p, Turns (exactly "static inline ".toList []) p a b) (p : Option Char) :
    Turns (exactly "static inline ".toList []) p (s.inlineKeywords ++ a) b := by
  unfold Storage.inlineKeywords
  split
  · exact Turns.match_append (n := []) (by decide) (fun c t _ => exactly_append _ _ _ p) (h _)
  · exact h p

namespace Prototype

/-- A pattern that begins with a word turns the line of a prototype if it turns the head
and every parameter. -/
theorem replace_lineOf_args (p : Prototype) {find : Option Char → Text → Option (Nat × Text)}
    (hf : WordLed find) {head head' : Text} {f g : Declared → Text}
    (hhead : ∀ q, Turns find q head head') (hargs : ∀ d ∈ p.params, ∀ q, Turns find q (f d) (g d)) :
    (lineOf head (p.args f)).replace find = lineOf head' (p.args g) := by
  unfold args
  split
  · exact hf.replace_lineOf (l := ["void".toList]) (f := id) (g := id) hhead
      fun x hx q => by
        rw [List.mem_singleton.1 hx]
        exact hf.turns_word isWord_void q
  · exact hf.replace_lineOf hhead hargs

/-- The keywords of a prototype are dropped, and the end of each type that ends in one. -/
theorem dropQualifiers_line (p : Prototype) :
    dropQualifiers p.line = lineOf p.function.unqualified (p.args Declared.unqualified) := by
  let f (d : Declared) : Text := d.type.qualifier ++ d.withoutExternal
  have hexternal : removeAll "extern ".toList p.line =
      lineOf (p.storage.inlineKeywords ++ f p.function) (p.args f) :=
    p.replace_lineOf_args (wordLed_exactly isWord_external [] [])
      (turns_keywords_external _ Declared.turns_spelled_external)
      (fun d _ => Declared.turns_spelled_external)
  have hconst : removeAll "const ".toList
        (lineOf (p.storage.inlineKeywords ++ f p.function) (p.args f)) =
      lineOf (p.storage.inlineKeywords ++ p.function.unqualified) (p.args Declared.unqualified) :=
    p.replace_lineOf_args (wordLed_exactly isWord_const [] [])
      (turns_keywords_const _ Declared.turns_spelled_const)
      (fun d _ => Declared.turns_spelled_const)
  have hstatic : removeAll "static inline ".toList
        (lineOf (p.storage.inlineKeywords ++ p.function.unqualified)
          (p.args Declared.unqualified)) =
      lineOf p.function.unqualified (p.args Declared.unqualified) := by
    have hf := wordLed_exactly isWord_static "inline ".toList []
    have hbare : ∀ (d : Declared) q,
        Turns (exactly "static inline ".toList []) q d.unqualified d.unqualified :=
      fun d q => Declared.turns_unlessGlued hf (d.turns_bare_static q)
    exact p.replace_lineOf_args hf (turns_keywords_static _ (hbare p.function)) fun d _ => hbare d
  simp only [dropQualifiers, qualifiers, List.foldl_cons, List.foldl_nil]
  rw [hexternal, hconst, hstatic]

end Prototype

/-! ## What a line loses -/

section

variable {α : Type} {sep head head' : Text} {l : List α} {f g : α → Text}

theorem Text.length_join_map_le (h : ∀ a ∈ l, (f a).length ≤ (g a).length) :
    (join sep (l.map f)).length ≤ (join sep (l.map g)).length := by
  induction l with
  | nil => exact Nat.le_refl _
  | cons a l ih =>
    obtain ⟨ha, hl⟩ := List.forall_mem_cons.1 h
    cases l with
    | nil => simpa using ha
    | cons b l =>
      have hrest := ih hl
      simp only [List.map_cons, join_cons_cons, List.length_append] at hrest ⊢
      omega

/-- Texts that are no longer than others, one by one, are the same when joined only if they are
the same one by one. -/
theorem Text.eq_of_join_map_eq (h : ∀ a ∈ l, (f a).length ≤ (g a).length)
    (heq : join sep (l.map f) = join sep (l.map g)) : ∀ a ∈ l, f a = g a := by
  induction l with
  | nil => simp
  | cons a l ih =>
    obtain ⟨ha, hl⟩ := List.forall_mem_cons.1 h
    cases l with
    | nil => simpa using heq
    | cons b l =>
      have hrest : (join sep ((b :: l).map f)).length ≤ (join sep ((b :: l).map g)).length :=
        length_join_map_le hl
      simp only [List.map_cons, join_cons_cons] at heq hrest ih
      have hlength := congrArg List.length heq
      simp only [List.length_append] at hlength
      obtain ⟨hfront, hback⟩ := List.append_inj heq (by simp only [List.length_append]; omega)
      exact List.forall_mem_cons.2 ⟨List.append_cancel_right hfront, ih hl hback⟩

theorem eq_of_lineOf_eq (hhead : head.length ≤ head'.length)
    (hargs : ∀ a ∈ l, (f a).length ≤ (g a).length)
    (h : lineOf head (l.map f) = lineOf head' (l.map g)) : head = head' ∧ ∀ a ∈ l, f a = g a := by
  have hjoin : (join ", ".toList (l.map f)).length ≤ (join ", ".toList (l.map g)).length :=
    length_join_map_le hargs
  have hlength := congrArg List.length h
  simp only [lineOf, List.length_append, List.length_cons] at hlength
  obtain ⟨hhead', hrest⟩ := List.append_inj h (by omega)
  exact ⟨hhead', eq_of_join_map_eq hargs (List.append_cancel_right (List.cons.inj hrest).2)⟩

end

namespace Declared

variable {d : Declared}

/-- Of a type that ends in a keyword the keyword is lost, with the blank behind it. -/
theorem Glued.exists_keyword (h : d.Glued) : ∃ u ∈ ["extern".toList, "const".toList],
    d.bare = d.front ++ (u ++ ' ' :: (d.type.stars.text ++ d.name.text)) ∧
      d.unqualified = d.front ++ (d.type.stars.text ++ d.name.text) := by
  have hunqualified : d.unqualified = d.glued := if_pos h
  obtain ⟨u, hu, hfront⟩ : ∃ u ∈ ["extern".toList, "const".toList],
      d.front ++ u = d.type.base.text := by
    by_cases hexternal : "extern".toList <:+ d.type.base.text
    · exact ⟨_, by simp, front_append_external hexternal⟩
    · exact ⟨_, by simp, front_append_const hexternal (h.resolve_left hexternal)⟩
  exact ⟨u, hu, by rw [bare, ← hfront, List.append_assoc], hunqualified⟩

theorem length_unqualified_le (d : Declared) : d.unqualified.length ≤ d.bare.length := by
  by_cases h : d.Glued
  · obtain ⟨u, -, hbare, hunqualified⟩ := h.exists_keyword
    rw [hbare, hunqualified]
    simp only [List.length_append, List.length_cons]
    omega
  · exact Nat.le_of_eq (congrArg List.length (if_neg h))

/-- A declarator is kept exactly if its type ends in no keyword. -/
theorem unqualified_eq_bare_iff (d : Declared) : d.unqualified = d.bare ↔ ¬ d.Glued := by
  refine ⟨fun heq h => ?_, fun h => if_neg h⟩
  obtain ⟨u, -, hbare, hunqualified⟩ := h.exists_keyword
  have hlength := congrArg List.length heq
  rw [hbare, hunqualified] at hlength
  simp only [List.length_append, List.length_cons] at hlength
  omega

end Declared

namespace Prototype

/-- The line of a prototype loses its keywords and nothing else exactly if no type ends in
`extern` or `const`. A type that does is cut : the keyword at its end is lost, and what is left
of it is glued to the name. -/
theorem dropQualifiers_eq_iff (p : Prototype) :
    (dropQualifiers p.line = lineOf p.function.bare (p.args Declared.bare) ↔
        ∀ d ∈ p.function :: p.params, ¬ d.Glued) ∧
      dropQualifiers p.line = lineOf p.function.unqualified (p.args Declared.unqualified) ∧
      ∀ d : Declared, (¬ d.Glued → d.unqualified = d.bare) ∧
        (d.Glued → ∃ u ∈ ["extern".toList, "const".toList],
          d.bare = d.front ++ (u ++ ' ' :: (d.type.stars.text ++ d.name.text)) ∧
            d.unqualified = d.front ++ (d.type.stars.text ++ d.name.text)) := by
  refine ⟨?_, p.dropQualifiers_line, fun d => ⟨d.unqualified_eq_bare_iff.2, fun h =>
    h.exists_keyword⟩⟩
  rw [p.dropQualifiers_line]
  simp only [← Declared.unqualified_eq_bare_iff, List.forall_mem_cons]
  constructor
  · intro h
    unfold args at h
    split at h
    · next hvoid =>
      have hvoidArgs := eq_of_lineOf_eq (l := ["void".toList]) (f := id) (g := id)
        p.function.length_unqualified_le (fun _ _ => Nat.le_refl _) h
      exact ⟨hvoidArgs.1, by simp [hvoid.1]⟩
    · exact eq_of_lineOf_eq p.function.length_unqualified_le
        (fun d _ => d.length_unqualified_le) h
  · rintro ⟨hfunction, hparams⟩
    have hargs : p.args Declared.unqualified = p.args Declared.bare := by
      unfold args
      rw [List.map_congr_left hparams]
    rw [hfunction, hargs]

/-- A type that is no keyword, but ends in one, is cut. -/
theorem exists_type_cut : ∃ p : Prototype,
    (∀ d ∈ p.function :: p.params, d.type.stars = .none ∧
      ∀ w ∈ ["extern", "const", "static", "inline"],
        d.type.base.text ≠ w.toList ∧ d.name.text ≠ w.toList) ∧
      p.line = "int f(myconst x);".toList ∧
      lineOf p.function.bare (p.args Declared.bare) = p.line ∧
      dropQualifiers p.line = "int f(myx);".toList := by
  let int : Identifier := ⟨"int".toList, rfl, rfl⟩
  let myconst : Identifier := ⟨"myconst".toList, rfl, rfl⟩
  exact ⟨{ function := ⟨{ base := int }, ⟨['f'], rfl, rfl⟩⟩
           params := [⟨{ base := myconst }, ⟨['x'], rfl, rfl⟩⟩] },
    by decide, by decide, by decide, by decide⟩

end Prototype

end HeaderBridge
