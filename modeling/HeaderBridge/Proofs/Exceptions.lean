import HeaderBridge.Proofs.Pointers
import HeaderBridge.Proofs.WholeWords

/-!
# The exceptions on a prototype

The three exceptions are followed through a declarator with its marker, and through one whose
type is glued to its name : the string with the name of the time zone becomes an array of octets
(`Declared.turns_marked_zoned`), the mark of an empty parameter list goes
(`Prototype.replace_void`), and a type, a function or a parameter that bears the reserved word
gets its spelling in Java (`Declared.turns_zoned_javaWord`). No other declarator is touched.
-/

namespace HeaderBridge

open Text

namespace Declared

variable (d : Declared)

/-- The declarator with the token that the dictionary is asked for. -/
def zoned : Text := d.token ++ ' ' :: d.name.text

theorem marker_cases :
    d.marker = d.type.base.text ∨ d.marker = stringMarker ∨ d.marker = pointerMarker ∨
      d.marker = pointerArrayMarker := by
  unfold marker
  cases d.type.stars with
  | none => exact Or.inl rfl
  | one =>
    by_cases hc : d.type.base.text = "char".toList
    · exact Or.inr (Or.inl (if_pos hc))
    · exact Or.inr (Or.inr (Or.inl (if_neg hc)))
  | two => exact Or.inr (Or.inr (Or.inr rfl))

theorem token_cases :
    d.token = d.type.base.text ∨ d.token = stringMarker ∨ d.token = pointerMarker ∨
      d.token = pointerArrayMarker ∨ d.token = byteArray := by
  unfold token
  split
  · exact Or.inr (Or.inr (Or.inr (Or.inr rfl)))
  · rcases d.marker_cases with h | h | h | h
    · exact Or.inl h
    · exact Or.inr (Or.inl h)
    · exact Or.inr (Or.inr (Or.inl h))
    · exact Or.inr (Or.inr (Or.inr (Or.inl h)))

end Declared

theorem Declared.isToken_token (d : Declared) : IsToken d.token := by
  rcases d.token_cases with h | h | h | h | h
  · rw [h]
    exact d.type.base.isWord.isToken
  all_goals rw [h]; exact .of_all (by decide) (by decide)

theorem Stars.isTokenChar_of_mem (s : Stars) {c : Char} (hc : c ∈ s.text) :
    isTokenChar c = true := by
  cases s <;> simp_all [Stars.text] <;> decide

theorem Declared.isTokenChar_of_mem_front (d : Declared) {c : Char} (hc : c ∈ d.front) :
    isTokenChar c = true :=
  isTokenChar_of_isWordChar (d.isWordChar_of_mem_front hc)

theorem Declared.isToken_glued (d : Declared) : IsToken d.glued :=
  (d.name.isWord.isToken.append_of_all fun _ hc => d.type.stars.isTokenChar_of_mem hc).append_of_all
    fun _ hc => d.isTokenChar_of_mem_front hc

/-! ## The time zone -/

section

/-- The pattern matches nothing but the marker of a string before the name of the time zone. -/
theorem timeZoneParameter_eq_some_iff {p : Option Char} {t : Text} {m : Nat × Text} :
    timeZoneParameter p t = some m ↔
      ∃ b r, isBlank b = true ∧ t = stringMarker ++ b :: ("tz_str".toList ++ r) ∧
        m = (12, byteArray ++ " tz_str".toList) := by
  simp only [timeZoneParameter, Option.bind_eq_bind, Option.bind_eq_some_iff,
    isPrefixOf?_eq_some_iff, blank?_eq_some_iff]
  constructor
  · rintro ⟨_, rfl, _, ⟨b, hb, rfl⟩, r, rfl, hm⟩
    exact ⟨b, r, hb, rfl, (Option.some.inj hm).symm⟩
  · rintro ⟨b, r, hb, rfl, rfl⟩
    exact ⟨_, rfl, _, ⟨b, hb, rfl⟩, r, rfl, rfl⟩

theorem timeZoneParameter_cons {c : Char} (hc : c ≠ '*') (p : Option Char) (t : Text) :
    timeZoneParameter p (c :: t) = none := by
  refine Option.eq_none_iff_forall_ne_some.2 fun m hm => hc ?_
  obtain ⟨b, r, -, ht, -⟩ := timeZoneParameter_eq_some_iff.1 hm
  exact (List.cons.inj ht).1

/-- The pattern does not match at a string with another name. -/
theorem timeZoneParameter_stringMarker {n : Text} {c : Char} (hc : isWordChar c = false)
    (hn : ¬ "tz_str".toList <+: n) (p : Option Char) (t : Text) :
    timeZoneParameter p (stringMarker ++ ' ' :: (n ++ c :: t)) = none := by
  refine Option.eq_none_iff_forall_ne_some.2 fun m hm => hn ?_
  obtain ⟨b, r, -, ht, -⟩ := timeZoneParameter_eq_some_iff.1 hm
  have hname := (List.cons.inj (List.append_cancel_left ht)).2
  exact isPrefix_of_append_cons (p := isWordChar) (List.all_eq_true.1 (by decide)) hc ⟨r, hname.symm⟩

/-- Nor does it match at a character of a text without stars. -/
theorem timeZoneParameter_of_mem {a : Text} (ha : '*' ∉ a) :
    ∀ c ∈ a, ∀ y t, timeZoneParameter (some y) (c :: t) = none :=
  fun _ hc y t => timeZoneParameter_cons (fun h => ha (h ▸ hc)) (some y) t

/-- A text without stars before a piece is kept. -/
theorem turns_starless {u a b : Text} (hu : '*' ∉ u) (h : ∀ q, Turns timeZoneParameter q a b)
    (p : Option Char) : Turns timeZoneParameter p (u ++ a) (u ++ b) := by
  induction u generalizing p with
  | nil => exact h p
  | cons c u ih =>
    have hc : c ≠ '*' := fun heq => hu (by simp [heq])
    exact (ih (fun hm => hu (List.mem_cons_of_mem c hm)) _).cons (timeZoneParameter_cons hc p)

theorem turns_timeZone_word {n : Text} (hn : IsWord n) (p : Option Char) :
    Turns timeZoneParameter p n n := by
  have hstar : '*' ∉ n := hn.notMem (by decide)
  obtain ⟨x, w, rfl, -⟩ := hn.exists_cons
  exact turns_cons_self p (fun c t _ => timeZoneParameter_cons (fun h => hstar (by simp [h])) p _)
    (timeZoneParameter_of_mem fun hm => hstar (List.mem_cons_of_mem x hm))

/-- A star right before a name begins no string, since no blank stands behind the name. -/
theorem timeZoneParameter_star {n : Text} (hn : IsWord n) {c : Char} (hc : IsCloser c)
    (p : Option Char) (t : Text) : timeZoneParameter p ('*' :: (n ++ c :: t)) = none := by
  refine Option.eq_none_iff_forall_ne_some.2 fun m hm => ?_
  obtain ⟨b, r, hb, hmark, -⟩ := timeZoneParameter_eq_some_iff.1 hm
  have hname : n ++ c :: t = "char".toList ++ b :: ("tz_str".toList ++ r) :=
    (List.cons.inj hmark).2
  obtain ⟨-, rfl, -⟩ := append_cons_inj hn.all hc.not_isWordChar
    (List.all_eq_true.1 (by decide)) (isWordChar_of_isBlank hb) hname
  simp [hc.not_isBlank] at hb

/-- A name with what is left of the type before it is kept. -/
theorem Declared.turns_glued_timeZone (d : Declared) (p : Option Char) :
    Turns timeZoneParameter p d.glued d.glued := by
  have hfront : '*' ∉ d.front := fun hm => absurd (d.isWordChar_of_mem_front hm) (by decide)
  have hname := turns_timeZone_word d.name.isWord
  have hstar : ∀ q, Turns timeZoneParameter q ('*' :: d.name.text) ('*' :: d.name.text) :=
    fun q => (hname _).cons_of fun c t hc => timeZoneParameter_star d.name.isWord hc q t
  refine turns_starless hfront (fun q => ?_) p
  cases d.type.stars with
  | none => exact hname q
  | one => exact hstar q
  | two => exact (hstar _).cons_of fun c t _ => rfl

theorem Declared.turns_marked_zoned (d : Declared) (p : Option Char) :
    Turns timeZoneParameter p d.marked d.zoned := by
  have hname : '*' ∉ d.name.text := d.name.isWord.notMem (by decide)
  have hspaced : ∀ {w : Text}, '*' ∉ w → '*' ∉ w ++ ' ' :: d.name.text :=
    fun hw => by simp [hw, hname]
  unfold marked zoned token
  split
  · next h =>
    obtain ⟨hmarker, r, hr⟩ := h
    have hmarked : d.marker ++ ' ' :: d.name.text = "*char tz_str".toList ++ r := by
      rw [hmarker, ← hr]
      rfl
    have hzoned : byteArray ++ ' ' :: d.name.text = "byte[] tz_str".toList ++ r := by
      rw [← hr]
      rfl
    rw [hmarked, hzoned]
    have hrest : '*' ∉ r := fun hm => hname (hr ▸ List.mem_append_right _ hm)
    exact Turns.match_append (by decide) (fun c t _ => rfl)
      (turns_self (timeZoneParameter_of_mem hrest) 'r')
  · next h =>
    rcases d.marker_cases with hm | hm | hm | hm
    · obtain ⟨x, w, hw, -⟩ := d.type.base.isWord.exists_cons
      have hstar : '*' ∉ x :: w := hw ▸ d.type.base.isWord.notMem (by decide)
      have hx : x ≠ '*' := fun h => hstar (by simp [h])
      rw [hm, hw]
      exact turns_cons_self p (fun c t _ => timeZoneParameter_cons hx p _)
        (timeZoneParameter_of_mem (hspaced fun hc => hstar (List.mem_cons_of_mem x hc)))
    · rw [hm]
      refine turns_cons_self p (fun c t hc => ?_)
        (timeZoneParameter_of_mem (hspaced (w := "char".toList) (by decide)))
      exact timeZoneParameter_stringMarker hc.not_isWordChar (fun hn => h ⟨hm, hn⟩) p t
    · rw [hm]
      exact turns_cons_self p (fun c t _ => rfl)
        (timeZoneParameter_of_mem (hspaced (w := []) (by simp)))
    · rw [hm]
      exact turns_cons_self p (fun c t _ => rfl)
        (timeZoneParameter_of_mem (hspaced (w := "[]".toList) (by decide)))

/-- The pattern turns a prototype if it turns each of its declarators. -/
theorem Prototype.replace_timeZone (p : Prototype) {f g : Declared → Text}
    (hfunction : ∀ q, Turns timeZoneParameter q (f p.function) (g p.function))
    (hparams : ∀ d ∈ p.params, ∀ q, Turns timeZoneParameter q (f d) (g d)) :
    (lineOf (f p.function) (p.args f)).replace timeZoneParameter =
      lineOf (g p.function) (p.args g) := by
  have hopen : ∀ {a b : Text} {o : Char}, o = '(' ∨ o = ' ' → ∀ x : Char,
      (∀ q, Turns timeZoneParameter q a b) →
      Turns timeZoneParameter (some x) (o :: a) (o :: b) := by
    rintro a b o (rfl | rfl) x hab
    · exact (hab _).cons (timeZoneParameter_cons (by decide) _)
    · exact (hab _).cons (timeZoneParameter_cons (by decide) _)
  have hclose : ∀ x c t, c = ',' ∨ c = ')' ∨ c = ';' →
      timeZoneParameter (some x) (c :: t) = none := by
    rintro x c t (rfl | rfl | rfl) <;> exact timeZoneParameter_cons (by decide) _ t
  have hempty : ∀ x, timeZoneParameter (some x) ['(', ')', ';'] = none :=
    fun x => timeZoneParameter_cons (by decide) _ _
  unfold args
  split
  · refine Text.replace_lineOf (l := ["void".toList]) (f := id) (g := id) (hfunction none) ?_
      hclose hempty
    intro a ha o ho x
    rw [List.mem_singleton.1 ha]
    refine hopen ho x fun q => turns_cons_self q (fun c t _ => ?_) ?_
    · exact timeZoneParameter_cons (by decide) q _
    · exact timeZoneParameter_of_mem (a := "oid".toList) (by decide)
  · exact Text.replace_lineOf (hfunction none) (fun d hd o ho x => hopen ho x (hparams d hd))
      hclose hempty

end

/-! ## The empty parameter list -/

theorem exactly_void_cons {c : Char} (hc : c ≠ '(') (p : Option Char) (t : Text) :
    exactly "(void)".toList "()".toList p (c :: t) = none := by
  refine exactly_eq_none (fun h => hc ?_) p
  exact (List.cons_prefix_cons.1 h).1.symm

/-- A text without an opening parenthesis is kept. -/
theorem replaceMatches_void_append {a : Text} (ha : '(' ∉ a) (rest : Text) (p : Option Char) :
    replaceMatches (exactly "(void)".toList "()".toList) p 0 (a ++ rest) =
      a ++ replaceMatches (exactly "(void)".toList "()".toList) (lastFrom p a) 0 rest := by
  refine replaceMatches_append a rest p fun u v huv hv => ?_
  obtain ⟨c, v, rfl⟩ := List.exists_cons_of_ne_nil hv
  exact exactly_void_cons (fun hc => ha (by simp [huv, hc])) _ _

/-- Joined texts are the one word only if there is no other text. -/
theorem Text.join_eq_void_iff {ts : List Text} :
    join ", ".toList ts = "void".toList ↔ ts = ["void".toList] := by
  constructor
  · intro h
    match ts with
    | [] => simp at h
    | [a] => rw [← h, join_singleton]
    | a :: b :: ts =>
      rw [join_cons_cons] at h
      have hcomma : ',' ∈ "void".toList := by simp [← h]
      exact absurd hcomma (by decide)
  · rintro rfl
    exact join_singleton _ _

/-- The mark of an empty parameter list goes from a line, and nothing else. -/
theorem Text.replace_void_lineOf {head : Text} {args : List Text} (hhead : '(' ∉ head)
    (hargs : ∀ a ∈ args, '(' ∉ a ∧ ')' ∉ a) :
    (lineOf head args).replace (exactly "(void)".toList "()".toList) =
      lineOf head (if args = ["void".toList] then [] else args) := by
  have hline : (lineOf head args).replace (exactly "(void)".toList "()".toList) = head ++
      replaceMatches (exactly "(void)".toList "()".toList) (lastFrom none head) 0
        ('(' :: (join ", ".toList args ++ ");".toList)) :=
    replaceMatches_void_append hhead _ none
  rw [hline, lineOf]
  split
  · next h =>
    subst h
    rfl
  · next h =>
    have hopen : '(' ∉ join ", ".toList args := notMem_join (by decide) fun a ha => (hargs a ha).1
    have hvoid : ∀ c ∈ "void".toList, (c != ')') = true := List.all_eq_true.1 (by decide)
    have hclose : ∀ c ∈ join ", ".toList args, (c != ')') = true := by
      have hnot : ')' ∉ join ", ".toList args :=
        notMem_join (by decide) fun a ha => (hargs a ha).2
      exact fun c hc => bne_iff_ne.2 fun heq => hnot (heq ▸ hc)
    have hmiss : exactly "(void)".toList "()".toList (lastFrom none head)
        ('(' :: (join ", ".toList args ++ ");".toList)) = none := by
      refine exactly_eq_none (fun hmatch => h (join_eq_void_iff.1 ?_)) _
      have hlit : "(void)".toList = '(' :: ("void".toList ++ [')']) := rfl
      rw [hlit, List.cons_prefix_cons] at hmatch
      exact ((append_cons_isPrefix_iff hvoid (by decide) hclose (by decide)).1 hmatch.2).1.symm
    rw [replaceMatches_cons hmiss, replaceMatches_void_append hopen]
    rfl

/-- The mark of an empty parameter list goes, and so does a single parameter of which `f` leaves
nothing but this mark. -/
theorem Prototype.replace_void_args (p : Prototype) {f : Declared → Text}
    (hf : ∀ d, '(' ∉ f d ∧ ')' ∉ f d) :
    (lineOf (f p.function) (p.args f)).replace (exactly "(void)".toList "()".toList) =
      lineOf (f p.function)
        (if p.params.map f = ["void".toList] then [] else p.params.map f) := by
  have hargs : ∀ a ∈ p.args f, '(' ∉ a ∧ ')' ∉ a := by
    unfold args
    split
    · simp
    · exact List.forall_mem_map.2 fun d _ => hf d
  rw [replace_void_lineOf (hf p.function).1 hargs]
  unfold args
  split
  · next h => simp [h.1]
  · rfl

/-- What is left of a single parameter is the mark of an empty list only if its type is glued to
its name. -/
theorem Prototype.map_unlessGlued_eq_void_iff (p : Prototype) {T N : Declared → Text} :
    p.params.map (fun d => d.unlessGlued (T d ++ ' ' :: N d)) = ["void".toList] ↔
      ∃ d, p.params = [d] ∧ d.Glued ∧ d.glued = "void".toList := by
  rw [List.map_eq_singleton_iff]
  refine exists_congr fun d => and_congr_right fun _ => ?_
  unfold Declared.unlessGlued
  split
  · next h => simp [h]
  · next h =>
    refine iff_of_false (fun heq => ?_) fun hg => h hg.1
    have hblank : ' ' ∈ "void".toList := by simp [← heq]
    exact absurd hblank (by decide)

/-- The parameters that are shown : all of them, but a single one of which nothing is left but
the mark of an empty list. -/
def Prototype.shown (p : Prototype) : List Declared :=
  if p.params.map Declared.unqualified = ["void".toList] then [] else p.params

theorem Prototype.shown_eq_of_not_glued {p : Prototype} {d : Declared} (hd : d ∈ p.params)
    (h : ¬ d.Glued) : p.shown = p.params := by
  refine if_neg fun hvoid => h ?_
  obtain ⟨e, he, hglued, -⟩ := p.map_unlessGlued_eq_void_iff.1 hvoid
  rw [he, List.mem_singleton] at hd
  exact hd ▸ hglued

theorem Prototype.Keywordless.shown_eq {p : Prototype} (h : p.Keywordless) :
    p.shown = p.params := by
  by_cases hnil : p.params = []
  · simp [shown, hnil]
  · obtain ⟨d, hd⟩ := List.exists_mem_of_ne_nil _ hnil
    exact shown_eq_of_not_glued hd (h.params d hd).not_glued

/-- The mark of an empty parameter list goes. -/
theorem Prototype.replace_void (p : Prototype) {T N : Declared → Text} (hT : ∀ d, IsToken (T d))
    (hN : ∀ d, IsWord (N d)) :
    (lineOf (p.function.unlessGlued (T p.function ++ ' ' :: N p.function))
        (p.args fun d => d.unlessGlued (T d ++ ' ' :: N d))).replace
        (exactly "(void)".toList "()".toList) =
      lineOf (p.function.unlessGlued (T p.function ++ ' ' :: N p.function))
        (p.shown.map fun d => d.unlessGlued (T d ++ ' ' :: N d)) := by
  have hkept : ∀ {c}, isTokenChar c = false → c ≠ ' ' →
      ∀ d : Declared, c ∉ d.unlessGlued (T d ++ ' ' :: N d) := by
    intro c hc hne d
    unfold Declared.unlessGlued
    split
    · exact d.isToken_glued.notMem hc
    · simp [(hT d).notMem hc, hne, (hN d).isToken.notMem hc]
  have hshown : p.params.map (fun d => d.unlessGlued (T d ++ ' ' :: N d)) = ["void".toList] ↔
      p.params.map Declared.unqualified = ["void".toList] :=
    p.map_unlessGlued_eq_void_iff.trans p.map_unlessGlued_eq_void_iff.symm
  rw [p.replace_void_args (f := fun d => d.unlessGlued (T d ++ ' ' :: N d))
    fun d => ⟨hkept (by decide) (by decide) d, hkept (by decide) (by decide) d⟩, shown]
  simp only [hshown]
  split <;> rfl

/-! ## The reserved word -/

theorem isWord_reservedWord : IsWord reservedWord := .of_all (by decide) (by decide)

theorem reservedName_cons {c : Char} (hc : c ≠ 's') (p : Option Char) (t : Text) :
    reservedName p (c :: t) = none := by
  have h : reservedWord.isPrefixOf? (c :: t) = none :=
    isPrefixOf?_cons_of_ne hc.symm "ynchronized".toList t
  rw [reservedName, h]
  rfl

/-- The pattern matches nothing but the reserved word where it is a word of its own. -/
theorem reservedName_eq_some_iff {p : Option Char} {t : Text} {m : Nat × Text} :
    reservedName p t = some m ↔ p.any isWordChar = false ∧
      (∃ r, t = reservedWord ++ r ∧ BeginsApart r) ∧
        (reservedWord.length, "synchronize".toList) = m := by
  have hbefore : ∀ r, atWordBoundary p (reservedWord ++ r) = !p.any isWordChar := fun r => by
    have hs : (reservedWord ++ r).head?.any isWordChar = true := rfl
    rw [atWordBoundary, hs, Bool.bne_true]
  have hbehind : ∀ r, atWordBoundary (some 'd') r = true ↔ BeginsApart r := fun r => by
    have hd : (some 'd').any isWordChar = true := rfl
    rw [atWordBoundary, hd, BeginsApart, Bool.true_bne, Bool.not_eq_true']
  cases hr : reservedWord.isPrefixOf? t with
  | none =>
    have hno := isPrefixOf?_eq_none_iff.1 hr
    simp only [reservedName, hr, Option.bind_eq_bind, Option.bind_none]
    refine iff_of_false (by simp) ?_
    rintro ⟨-, ⟨r, rfl, -⟩, -⟩
    exact hno (List.prefix_append _ r)
  | some r =>
    obtain rfl := isPrefixOf?_eq_some_iff.1 hr
    simp only [reservedName, hr, Option.bind_eq_bind, Option.bind_some, Bool.and_eq_true, hbefore,
      hbehind, Bool.not_eq_true', List.append_cancel_left_eq, exists_eq_left']
    split
    · next h => simp [h]
    · next h => exact iff_of_false (by simp) fun hm => h ⟨hm.1, hm.2.1⟩

/-- The word in Java : the reserved word gets another spelling. -/
def javaWord (w : Text) : Text := if w = reservedWord then "synchronize".toList else w

theorem javaWord_of_ne {w : Text} (h : w ≠ reservedWord) : javaWord w = w := if_neg h

/-- A word of its own gets its spelling in Java. -/
theorem replaceMatches_reservedName_word {w t : Text} (hw : IsWord w) (ht : BeginsApart t)
    {p : Option Char} (hp : p.any isWordChar = false) :
    replaceMatches reservedName p 0 (w ++ t) =
      javaWord w ++ replaceMatches reservedName (lastFrom p w) 0 t := by
  unfold javaWord
  split
  · next h =>
    subst h
    exact replaceMatches_match hw.ne_nil (reservedName_eq_some_iff.2 ⟨hp, ⟨t, rfl, ht⟩, rfl⟩)
  · next hne =>
    refine replaceMatches_append w t p fun u v huv hv => Option.eq_none_iff_forall_ne_some.2 ?_
    intro m hm
    obtain ⟨hbefore, ⟨r, hr, hrest⟩, -⟩ := reservedName_eq_some_iff.1 hm
    cases u with
    | nil =>
      have hwv : w = v := huv
      have hword := congrArg Text.word hr
      rw [← hwv, word_append hw ht, word_append isWord_reservedWord hrest] at hword
      exact hne hword
    | cons c u =>
      -- Inside the word there is no boundary.
      obtain ⟨x, hx, hlast⟩ := exists_lastFrom p (List.cons_ne_nil c u)
      have hxw : isWordChar x = true := hw.all x (huv ▸ List.mem_append_left v hx)
      simp [hlast, hxw] at hbefore

theorem turns_reservedName {w : Text} (hw : IsWord w) {p : Option Char}
    (hp : p.any isWordChar = false) : Turns reservedName p w (javaWord w) := by
  intro c t hc
  obtain ⟨last, -, hl⟩ := exists_lastFrom p hw.ne_nil
  have ht : BeginsApart (c :: t) := beginsApart_cons.2 hc.not_isWordChar
  exact ⟨last, by rw [replaceMatches_reservedName_word hw ht hp, hl]⟩

/-- A character that is no word character is kept. -/
theorem turns_reservedName_cons {a b : Text} {o : Char} (ho : isWordChar o = false)
    (h : Turns reservedName (some o) a b) (p : Option Char) :
    Turns reservedName p (o :: a) (o :: b) :=
  h.cons (reservedName_cons (ne_of_isWordChar (by decide) ho).symm p)

/-- A word, or none, gets its spelling in Java before a character that is no word character. -/
theorem turns_reservedName_append {w a b : Text} (hw : ∀ c ∈ w, isWordChar c = true) {o : Char}
    (ho : isWordChar o = false) (h : Turns reservedName (some o) a b) {p : Option Char}
    (hp : p.any isWordChar = false) :
    Turns reservedName p (w ++ o :: a) (javaWord w ++ o :: b) := by
  by_cases hnil : w = []
  · rw [hnil]
    exact turns_reservedName_cons ho h p
  · intro c t hc
    obtain ⟨last, hl⟩ := turns_reservedName_cons ho h (lastFrom p w) c t hc
    have ht : BeginsApart (o :: a ++ c :: t) := beginsApart_cons.2 ho
    exact ⟨last, by rw [List.append_assoc, replaceMatches_reservedName_word ⟨hnil, hw⟩ ht hp, hl,
      List.append_assoc]⟩

/-- The token and the name get their spelling in Java. -/
theorem Declared.turns_zoned_javaWord (d : Declared) {p : Option Char}
    (hp : p.any isWordChar = false) :
    Turns reservedName p d.zoned (javaWord d.token ++ ' ' :: d.javaName) := by
  have hname : Turns reservedName (some ' ') d.name.text d.javaName :=
    turns_reservedName d.name.isWord (by decide)
  have hkept : ∀ m ∈ [stringMarker, pointerMarker, pointerArrayMarker, byteArray],
      javaWord m = m := by decide
  unfold zoned
  rcases d.token_cases with ht | ht | ht | ht | ht
  · rw [ht]
    exact turns_reservedName_append d.type.base.isWord.all (by decide) hname hp
  · rw [ht, hkept _ (by simp)]
    exact turns_reservedName_cons (by decide)
      (turns_reservedName_append isWord_char.all (by decide) hname (by decide)) p
  · rw [ht, hkept _ (by simp)]
    exact turns_reservedName_cons (by decide) (turns_reservedName_cons (by decide) hname _) p
  · rw [ht, hkept _ (by simp)]
    exact turns_reservedName_cons (by decide) (turns_reservedName_cons (by decide)
      (turns_reservedName_cons (by decide) (turns_reservedName_cons (by decide) hname _) _) _) p
  · rw [ht, hkept _ (by simp)]
    exact turns_reservedName_append (w := "byte".toList) (o := '[')
      (List.all_eq_true.1 (by decide)) (by decide)
      (turns_reservedName_cons (by decide) (turns_reservedName_cons (by decide) hname _) _) hp

/-- No token is the reserved word, if no type is. -/
theorem Declared.javaWord_token {d : Declared} (h : d.type.base.text ≠ reservedWord) :
    javaWord d.token = d.token := by
  refine javaWord_of_ne ?_
  rcases d.token_cases with ht | ht | ht | ht | ht <;> rw [ht]
  · exact h
  all_goals decide

/-- A name with what is left of the type before it, in Java. -/
def Declared.javaGlued (d : Declared) : Text :=
  match d.type.stars with
  | .none => javaWord (d.front ++ d.name.text)
  | s => javaWord d.front ++ (s.text ++ d.javaName)

theorem Declared.turns_glued_javaGlued (d : Declared) {p : Option Char}
    (hp : p.any isWordChar = false) : Turns reservedName p d.glued d.javaGlued := by
  have hfront : ∀ c ∈ d.front, isWordChar c = true := fun c hc => d.isWordChar_of_mem_front hc
  have hname : Turns reservedName (some '*') d.name.text d.javaName :=
    turns_reservedName d.name.isWord (by decide)
  unfold glued javaGlued
  cases d.type.stars with
  | none => exact turns_reservedName (d.name.isWord.append_of_all hfront) hp
  | one => exact turns_reservedName_append hfront (by decide) hname hp
  | two =>
    exact turns_reservedName_append hfront (by decide)
      (turns_reservedName_cons (by decide) hname _) hp

/-- The pattern turns a line if it turns each of its declarators behind no word character. -/
theorem replace_reservedName_lineOf {head head' : Text} {α : Type} {l : List α} {f g : α → Text}
    (hhead : Turns reservedName none head head')
    (hargs : ∀ a ∈ l, ∀ q : Option Char, q.any isWordChar = false →
      Turns reservedName q (f a) (g a)) :
    (lineOf head (l.map f)).replace reservedName = lineOf head' (l.map g) := by
  refine Text.replace_lineOf hhead ?_ ?_ ?_
  · rintro a ha o (rfl | rfl) x <;>
      exact turns_reservedName_cons (by decide) (hargs a ha _ (by decide)) _
  · rintro x c t (rfl | rfl | rfl) <;> exact reservedName_cons (by decide) _ t
  · exact fun x => reservedName_cons (by decide) _ _

end HeaderBridge
