import HeaderBridge.Proofs.Declarators
import HeaderBridge.Proofs.ReservedWord
import HeaderBridge.Proofs.TokenLines

/-!
# The head of a line and its parameters

What stands before the parameter list of a line may be any text that ends in a word : keywords,
the spelling of any type, the name of the function. No match of a pattern runs over the
parenthesis behind the word (`Text.Confined`), so every pass rewrites the head without regard to
the parameters, and the parameters without regard to the head (`Text.Divides`,
`Dictionary.divides_javaLine`).

So the parameters of a line become what they become in a plain prototype, whatever stands before
them (`Dictionary.exists_head_javaLine`).
-/

namespace HeaderBridge

namespace Text

/-! ## Matches in a head -/

section

variable {find : Option Char → Text → Option (Nat × Text)}
  {S : Option Char → Text → Text → Prop} {L : Option Char → Prop}

/-- The pattern matches the texts `u` that are to be replaced by `new`, by `S`, where `L` holds of
the character behind them. No such text runs over the parenthesis behind a word, and one that
ends in a word is replaced by one that does. -/
structure Confined (find : Option Char → Text → Option (Nat × Text))
    (S : Option Char → Text → Text → Prop) (L : Option Char → Prop) : Prop where
  eq_some_iff : ∀ p t n new, find p t = some (n, new) ↔
    ∃ u r, t = u ++ r ∧ n = u.length ∧ S p u new ∧ L r.head?
  ne_nil : ∀ {p u new}, S p u new → u ≠ []
  uncut : ∀ {p u new h t}, S p u new → ¬ EndsApart h → u ≠ h ++ '(' :: t
  endsApart : ∀ {p u new}, S p u new → EndsApart new → EndsApart u
  closers : ∀ {p u new c}, S p u new → IsCloser c → c ∈ new → c ∈ u
  opening : ∀ {x u new}, S (some x) ('(' :: u) new →
    (∃ n, new = '(' :: n) ∧ ∀ y, S (some y) ('(' :: u) new

/-- A pattern none of whose matches has a parenthesis. -/
theorem Confined.of_notMem
    (hiff : ∀ p t n new, find p t = some (n, new) ↔
      ∃ u r, t = u ++ r ∧ n = u.length ∧ S p u new ∧ L r.head?)
    (hne : ∀ {p u new}, S p u new → u ≠ []) (hparen : ∀ {p u new}, S p u new → '(' ∉ u)
    (hends : ∀ {p u new}, S p u new → EndsApart new → EndsApart u)
    (hclosers : ∀ {p u new c}, S p u new → IsCloser c → c ∈ new → c ∈ u) : Confined find S L where
  eq_some_iff := hiff
  ne_nil := hne
  uncut := fun h _ heq => hparen h (by simp [heq])
  endsApart := hends
  closers := hclosers
  opening := fun h => absurd (by simp) (hparen h)

/-- The pattern turns the head `h` of a line, met behind `p`, into `h'`, whatever the parameters
are. -/
structure TurnsHead (find : Option Char → Text → Option (Nat × Text)) (p : Option Char)
    (h h' : Text) : Prop where
  not_endsApart : ¬ EndsApart h'
  closers : ∀ c, IsCloser c → c ∈ h' → c ∈ h
  turns : ∀ t, ∃ x, replaceMatches find p 0 (h ++ '(' :: t) =
    h' ++ replaceMatches find (some x) 0 ('(' :: t)

/-- A character at which the pattern does not match is kept. -/
theorem TurnsHead.cons {p : Option Char} {c : Char} {h h' : Text}
    (hturn : TurnsHead find (some c) h h') (hnone : ∀ t, find p (c :: (h ++ '(' :: t)) = none) :
    TurnsHead find p (c :: h) (c :: h') where
  not_endsApart := fun happart => hturn.not_endsApart (EndsApart.of_append (u := [c]) happart)
  closers := fun d hd hmem => by
    rcases List.mem_cons.1 hmem with rfl | hmem
    · simp
    · exact List.mem_cons_of_mem c (hturn.closers d hd hmem)
  turns := fun t => by
    obtain ⟨x, hx⟩ := hturn.turns t
    exact ⟨x, by rw [List.cons_append, replaceMatches_cons (hnone t), hx, List.cons_append]⟩

variable (hf : Confined find S L)
include hf

/-- In a head the pattern matches within the head, or it does not match, whatever the parameters
are. -/
theorem Confined.find_head {h : Text} (hh : ¬ EndsApart h) (p : Option Char) :
    (∀ t, find p (h ++ '(' :: t) = none) ∨ ∃ u r new, h = u ++ r ∧ S p u new ∧
      ∀ t, find p (u ++ (r ++ '(' :: t)) = some (u.length, new) := by
  by_cases hmatch : ∃ u r new, h = u ++ r ∧ S p u new ∧ L (r ++ ['(']).head?
  · obtain ⟨u, r, new, rfl, hS, hL⟩ := hmatch
    refine Or.inr ⟨u, r, new, rfl, hS, fun t => (hf.eq_some_iff _ _ _ _).2 ⟨u, _, rfl, rfl, hS, ?_⟩⟩
    cases r <;> exact hL
  · refine Or.inl fun t => Option.eq_none_iff_forall_ne_some.2 fun ⟨n, new⟩ hm => ?_
    obtain ⟨u, r, ht, -, hS, hL⟩ := (hf.eq_some_iff _ _ _ _).1 hm
    rcases List.append_eq_append_iff.1 ht with ⟨s, rfl, hs⟩ | ⟨s, rfl, rfl⟩
    · cases s with
      | nil =>
        rw [List.nil_append] at hs
        exact hmatch ⟨h, [], new, by simp, by simpa using hS, by simpa [← hs] using hL⟩
      | cons c s =>
        obtain ⟨rfl, -⟩ := List.cons.inj hs
        exact hf.uncut hS hh rfl
    · refine hmatch ⟨u, s, new, rfl, hS, ?_⟩
      cases s <;> exact hL

/-- A match with which the head ends is replaced. -/
theorem Confined.turnsHead_match {p : Option Char} {u new : Text} (hS : S p u new)
    (hu : ¬ EndsApart u)
    (hfind : ∀ t, find p (u ++ ([] ++ '(' :: t)) = some (u.length, new)) :
    TurnsHead find p u new where
  not_endsApart := fun hnew => hu (hf.endsApart hS hnew)
  closers := fun _ hc hmem => hf.closers hS hc hmem
  turns := fun t => by
    obtain ⟨x, -, hx⟩ := exists_lastFrom p (hf.ne_nil hS)
    exact ⟨x, hx ▸ replaceMatches_match (hf.ne_nil hS) (hfind t)⟩

/-- Any other match in the head is replaced before the rest of the head. -/
theorem Confined.turnsHead_append {p : Option Char} {u new r r' : Text} (hS : S p u new)
    (hfind : ∀ t, find p (u ++ (r ++ '(' :: t)) = some (u.length, new))
    (hturn : TurnsHead find (lastFrom p u) r r') : TurnsHead find p (u ++ r) (new ++ r') where
  not_endsApart := fun happart => hturn.not_endsApart happart.of_append
  closers := fun c hc hmem => (List.mem_append.1 hmem).elim
    (fun hm => List.mem_append_left r (hf.closers hS hc hm))
    (fun hm => List.mem_append_right u (hturn.closers c hc hm))
  turns := fun t => by
    obtain ⟨x, hx⟩ := hturn.turns t
    have hmatch := replaceMatches_match (hf.ne_nil hS) (hfind t)
    exact ⟨x, by rw [List.append_assoc, hmatch, hx, List.append_assoc]⟩

/-- The head of a line is rewritten without regard to the parameters. -/
theorem Confined.exists_turnsHead {h : Text} (hh : ¬ EndsApart h) (p : Option Char) :
    ∃ h', TurnsHead find p h h' := by
  -- The head is followed from match to match, so the induction is on its length.
  induction hn : h.length using Nat.strongRecOn generalizing h p with
  | ind n ih =>
    subst hn
    rcases hf.find_head hh p with hnone | ⟨u, r, new, rfl, hS, hfind⟩
    · obtain ⟨c, v, rfl⟩ : ∃ c v, h = c :: v :=
        List.exists_cons_of_ne_nil fun hnil => hh (hnil ▸ endsApart_nil)
      by_cases hv : v = []
      · subst hv
        exact ⟨[c], hh, fun _ _ hc => hc, fun t => ⟨c, replaceMatches_cons (hnone t)⟩⟩
      · have hends : ¬ EndsApart v := fun hv' => hh ((endsApart_append_iff (u := [c]) hv).2 hv')
        obtain ⟨v', hv'⟩ := ih v.length (by simp) hends (some c) rfl
        exact ⟨c :: v', hv'.cons hnone⟩
    · by_cases hr : r = []
      · subst hr
        rw [List.append_nil] at hh ⊢
        exact ⟨new, hf.turnsHead_match hS hh hfind⟩
      · have hends : ¬ EndsApart r := fun hr' => hh ((endsApart_append_iff hr).2 hr')
        have hshort : r.length < (u ++ r).length := by
          have hpos := List.length_pos_iff.2 (hf.ne_nil hS)
          simp only [List.length_append]
          omega
        obtain ⟨r', hr'⟩ := ih r.length hshort hends (lastFrom p u) rfl
        exact ⟨new ++ r', hf.turnsHead_append hS hfind hr'⟩

/-- The parameters are rewritten without regard to the head. -/
theorem Confined.exists_opened (t : Text) :
    ∃ t', ∀ x, replaceMatches find (some x) 0 ('(' :: t) = '(' :: t' := by
  by_cases hmatch : ∃ x u r new, '(' :: t = u ++ r ∧ S (some x) u new ∧ L r.head?
  · obtain ⟨x, u, r, new, ht, hS, hL⟩ := hmatch
    obtain ⟨c, v, rfl⟩ := List.exists_cons_of_ne_nil (hf.ne_nil hS)
    obtain ⟨rfl, rfl⟩ := List.cons.inj ht
    obtain ⟨⟨n, rfl⟩, hS⟩ := hf.opening hS
    refine ⟨n ++ replaceMatches find (lastFrom none ('(' :: v)) 0 r, fun y => ?_⟩
    exact replaceMatches_match (a := '(' :: v) (by simp)
      ((hf.eq_some_iff _ _ _ _).2 ⟨_, r, rfl, rfl, hS y, hL⟩)
  · refine ⟨replaceMatches find (some '(') 0 t, fun x => replaceMatches_cons ?_⟩
    refine Option.eq_none_iff_forall_ne_some.2 fun ⟨n, new⟩ hm => hmatch ?_
    obtain ⟨u, r, ht, -, hS, hL⟩ := (hf.eq_some_iff _ _ _ _).1 hm
    exact ⟨x, u, r, new, ht, hS, hL⟩

end

/-! ## Passes over a line -/

/-- The pass rewrites the head of a line and its parameters apart from one another. -/
def Divides (pass : Text → Text) : Prop :=
  ∃ behind : Text → Text, ∀ h, ¬ EndsApart h → ∃ h', ¬ EndsApart h' ∧
    (∀ c, IsCloser c → c ∈ h' → c ∈ h) ∧ ∀ t, pass (h ++ '(' :: t) = h' ++ '(' :: behind t

theorem Divides.comp {f g : Text → Text} (hg : Divides g) (hf : Divides f) :
    Divides fun t => g (f t) := by
  obtain ⟨F, hF⟩ := hf
  obtain ⟨G, hG⟩ := hg
  refine ⟨fun t => G (F t), fun h hh => ?_⟩
  obtain ⟨h₁, hh₁, hclosers₁, hturn₁⟩ := hF h hh
  obtain ⟨h₂, hh₂, hclosers₂, hturn₂⟩ := hG h₁ hh₁
  refine ⟨h₂, hh₂, fun c hc hmem => hclosers₁ c hc (hclosers₂ c hc hmem), fun t => ?_⟩
  exact (congrArg g (hturn₁ t)).trans (hturn₂ (F t))

theorem divides_foldl {α : Type} {f : Text → α → Text} {l : List α}
    (h : ∀ a ∈ l, Divides fun t => f t a) : Divides fun t => l.foldl f t := by
  induction l with
  | nil => exact ⟨id, fun h hh => ⟨h, hh, fun _ _ hc => hc, fun _ => rfl⟩⟩
  | cons a l ih => exact (ih fun b hb => h b (List.mem_cons_of_mem a hb)).comp (h a (by simp))

theorem Confined.divides {find : Option Char → Text → Option (Nat × Text)}
    {S : Option Char → Text → Text → Prop} {L : Option Char → Prop} (hf : Confined find S L) :
    Divides fun t => t.replace find := by
  obtain ⟨behind, hbehind⟩ := Classical.axiomOfChoice hf.exists_opened
  refine ⟨behind, fun h hh => ?_⟩
  obtain ⟨h', hturn⟩ := hf.exists_turnsHead hh none
  refine ⟨h', hturn.not_endsApart, hturn.closers, fun t => ?_⟩
  obtain ⟨x, hx⟩ := hturn.turns t
  exact hx.trans (by rw [hbehind])

end Text

open Text

/-! ## The patterns -/

theorem Text.IsToken.not_isCloser {t : Text} (h : IsToken t) {c : Char} (hc : c ∈ t) :
    ¬ IsCloser c := fun hcloser => h.notMem hcloser.not_isTokenChar hc

theorem exactly_eq_some_iff {w new' : Text} (p : Option Char) (t : Text) (n : Nat) (new : Text) :
    exactly w new' p t = some (n, new) ↔
      ∃ u r, t = u ++ r ∧ n = u.length ∧ (u = w ∧ new = new') ∧ True := by
  simp only [exactly, Option.ite_none_right_eq_some, beginsWith_iff, Option.some.injEq,
    Prod.mk.injEq]
  constructor
  · rintro ⟨⟨r, rfl⟩, rfl, rfl⟩
    exact ⟨w, r, rfl, rfl, ⟨rfl, rfl⟩, trivial⟩
  · rintro ⟨_, r, rfl, rfl, ⟨rfl, rfl⟩, -⟩
    exact ⟨List.prefix_append _ r, rfl, rfl⟩

/-- A keyword goes with the blank behind it. -/
theorem confined_qualifier {w : Text} (hw : w ∈ qualifiers) :
    Confined (exactly w []) (fun _ u new => u = w ∧ new = []) fun _ => True := by
  have hkind : w ≠ [] ∧ '(' ∉ w ∧ EndsApart w := by
    revert w
    decide
  refine .of_notMem exactly_eq_some_iff ?_ ?_ ?_ ?_
  · rintro _ _ _ ⟨rfl, -⟩
    exact hkind.1
  · rintro _ _ _ ⟨rfl, -⟩
    exact hkind.2.1
  · rintro _ _ _ ⟨rfl, -⟩ -
    exact hkind.2.2
  · rintro _ _ _ _ ⟨-, rfl⟩ - hc
    simp at hc

/-- The mark of an empty parameter list begins with a parenthesis, and so does what it becomes. -/
theorem confined_void : Confined (exactly "(void)".toList "()".toList)
    (fun _ u new => u = "(void)".toList ∧ new = "()".toList) fun _ => True where
  eq_some_iff := exactly_eq_some_iff
  ne_nil := by
    rintro _ _ _ ⟨rfl, -⟩
    decide
  uncut := by
    rintro _ _ _ h t ⟨rfl, -⟩ hh heq
    obtain ⟨c, v, rfl⟩ : ∃ c v, h = c :: v :=
      List.exists_cons_of_ne_nil fun hnil => hh (hnil ▸ endsApart_nil)
    have hrest : "void)".toList = v ++ '(' :: t := (List.cons.inj heq).2
    have hmem : '(' ∈ "void)".toList := hrest ▸ by simp
    exact absurd hmem (by decide)
  endsApart := by
    rintro _ _ _ ⟨rfl, -⟩ -
    decide
  closers := by
    rintro _ _ _ c ⟨rfl, rfl⟩ - hc
    have hkind : c = '(' ∨ c = ')' := by simpa using hc
    rcases hkind with rfl | rfl <;> decide
  opening := by
    rintro _ _ _ ⟨hu, rfl⟩
    exact ⟨⟨[')'], rfl⟩, fun _ => ⟨hu, rfl⟩⟩

/-- The texts that a pointer pattern matches : a word by `W`, a blank and the stars, in the place
of which the marker is put with a space behind it. -/
def IsPointer (W : Text → Prop) (stars marker : Text) (_ : Option Char) (u new : Text) : Prop :=
  ∃ w b, W w ∧ isBlank b = true ∧ u = w ++ b :: stars ∧ new = marker ++ [' ']

theorem confined_isPointer {find : Option Char → Text → Option (Nat × Text)} {W : Text → Prop}
    {stars marker : Text} {L : Option Char → Prop}
    (hiff : ∀ p t m, find p t = some m ↔ ∃ w b r, W w ∧ isBlank b = true ∧
      t = w ++ b :: (stars ++ r) ∧ L r.head? ∧ m = (w.length + (stars.length + 1), marker ++ [' ']))
    (hW : ∀ w, W w → IsWord w) (hstars : ∀ c ∈ stars, c = '*') (hmarker : IsToken marker) :
    Confined find (IsPointer W stars marker) L := by
  refine .of_notMem (fun p t n new => (hiff p t _).trans ⟨?_, ?_⟩) ?_ ?_ ?_ ?_
  · rintro ⟨w, b, r, hw, hb, rfl, hL, hm⟩
    obtain ⟨rfl, rfl⟩ := Prod.mk.inj hm
    exact ⟨w ++ b :: stars, r, by simp, by simp, ⟨w, b, hw, hb, rfl, rfl⟩, hL⟩
  · rintro ⟨_, r, rfl, rfl, ⟨w, b, hw, hb, rfl, rfl⟩, hL⟩
    exact ⟨w, b, r, hw, hb, by simp, hL, by simp⟩
  · rintro _ _ _ ⟨w, b, -, -, rfl, -⟩
    simp
  · rintro _ _ _ ⟨w, b, hw, hb, rfl, -⟩ hmem
    rcases List.mem_append.1 hmem with hmem | hmem
    · exact (hW w hw).notMem (by decide) hmem
    · rcases List.mem_cons.1 hmem with rfl | hmem
      · exact absurd hb (by decide)
      · exact absurd (hstars _ hmem) (by decide)
  · rintro _ _ _ ⟨w, b, -, hb, rfl, -⟩ -
    refine (endsApart_append_iff (by simp)).2 (Wordless.endsApart (wordless_iff.2 ?_))
    exact List.forall_mem_cons.2
      ⟨isWordChar_of_isBlank hb, fun c hc => hstars c hc ▸ (by decide)⟩
  · rintro _ _ _ c ⟨w, b, -, -, -, rfl⟩ hc hmem
    rcases List.mem_append.1 hmem with hmem | hmem
    · exact absurd hc (hmarker.not_isCloser hmem)
    · rw [List.mem_singleton.1 hmem] at hc
      exact absurd hc.not_isBlank (by decide)

theorem confined_charPointer :
    Confined charPointer (IsPointer (· = "char".toList) ['*'] stringMarker) fun _ => True :=
  confined_isPointer (fun p t m => by simp [charPointer_eq_some_iff])
    (fun w hw => hw ▸ isWord_char) (by simp) isToken_stringMarker

theorem confined_doublePointer :
    Confined doublePointer (IsPointer IsWord ['*', '*'] pointerArrayMarker) fun _ => True :=
  confined_isPointer (fun p t m => by simp [doublePointer_eq_some_iff]) (fun w hw => hw) (by simp)
    (.of_all (by decide) (by decide))

theorem confined_singlePointer :
    Confined singlePointer (IsPointer IsWord ['*'] pointerMarker) (· ≠ some '*') :=
  confined_isPointer (fun p t m => by simp [singlePointer_eq_some_iff]) (fun w hw => hw) (by simp)
    (.of_all (by decide) (by decide))

/-- A pattern that takes texts without a parenthesis and puts in one that ends in a word. -/
theorem confined_of_not_endsApart {find : Option Char → Text → Option (Nat × Text)}
    {K : Option Char → Text → Prop} {L : Option Char → Prop} {new : Text}
    (hiff : ∀ p t n new', find p t = some (n, new') ↔
      ∃ u r, t = u ++ r ∧ n = u.length ∧ (K p u ∧ new' = new) ∧ L r.head?)
    (hK : ∀ {p u}, K p u → u ≠ [] ∧ '(' ∉ u) (hnew : ¬ EndsApart new)
    (hclosers : '(' ∉ new ∧ ',' ∉ new ∧ ')' ∉ new) :
    Confined find (fun p u new' => K p u ∧ new' = new) L := by
  refine .of_notMem hiff (fun h => (hK h.1).1) (fun h => (hK h.1).2) ?_ ?_
  · rintro _ _ _ ⟨-, rfl⟩ happart
    exact absurd happart hnew
  · rintro _ _ _ c ⟨-, rfl⟩ (rfl | rfl | rfl) hmem
    · exact absurd hmem hclosers.1
    · exact absurd hmem hclosers.2.1
    · exact absurd hmem hclosers.2.2

theorem confined_timeZoneParameter : Confined timeZoneParameter (fun _ u new =>
    (∃ b, isBlank b = true ∧ u = stringMarker ++ b :: "tz_str".toList) ∧
      new = byteArray ++ " tz_str".toList) fun _ => True := by
  refine confined_of_not_endsApart (fun p t n new => ?_) ?_ (by decide) (by decide)
  · rw [timeZoneParameter_eq_some_iff]
    constructor
    · rintro ⟨b, r, hb, rfl, hm⟩
      obtain ⟨rfl, rfl⟩ := Prod.mk.inj hm
      exact ⟨_, r, by simp, by simp [stringMarker], ⟨⟨b, hb, rfl⟩, rfl⟩, trivial⟩
    · rintro ⟨_, r, rfl, rfl, ⟨⟨b, hb, rfl⟩, rfl⟩, -⟩
      exact ⟨b, r, hb, by simp, by simp [stringMarker]⟩
  · rintro _ _ ⟨b, hb, rfl⟩
    have hparen : '(' ≠ b := by
      rintro rfl
      exact absurd hb (by decide)
    simp [hparen, stringMarker]

theorem confined_reservedName : Confined reservedName (fun p u new =>
    (p.any isWordChar = false ∧ u = reservedWord) ∧ new = "synchronize".toList)
    fun o => o.any isWordChar = false := by
  refine confined_of_not_endsApart (fun p t n new => ?_) ?_ (by decide) (by decide)
  · rw [reservedName_eq_some_iff]
    constructor
    · rintro ⟨hp, ⟨r, rfl, hr⟩, hm⟩
      obtain ⟨rfl, rfl⟩ := Prod.mk.inj hm
      exact ⟨_, r, rfl, rfl, ⟨⟨hp, rfl⟩, rfl⟩, hr⟩
    · rintro ⟨_, r, rfl, rfl, ⟨⟨hp, rfl⟩, rfl⟩, hr⟩
      exact ⟨hp, ⟨r, rfl, hr⟩, rfl⟩
  · rintro _ _ ⟨-, rfl⟩
    exact ⟨by decide, by decide⟩

/-! ## The rules -/

namespace Rule

variable {r : Rule}

/-- What a rule matches, and what it puts in : characters that open a type, of which there are
none only at the start of the line, the token and a blank. -/
def IsMatch (r : Rule) (p : Option Char) (u new : Text) : Prop :=
  ∃ o b, u = o ++ r.raw ++ [b] ∧ new = o ++ r.target ++ [' '] ∧ isBlank b = true ∧
    (∀ c ∈ o, opensType c = true) ∧ (o = [] → p = none)

theorem Plain.whole (hr : r.Plain) : r.Whole where
  raw_ne_nil := hr.raw.ne_nil
  raw := fun c hc => not_opensType (hr.raw.all c hc)
  target := fun c hc => not_opensType (hr.target.isToken.all c hc)

theorem match?_eq_some_iff (hr : r.Whole) (p : Option Char) (t : Text) (n : Nat) (new : Text) :
    r.match? p t = some (n, new) ↔
      ∃ u rest, t = u ++ rest ∧ n = u.length ∧ r.IsMatch p u new ∧ True := by
  constructor
  · intro h
    obtain ⟨o, b, rest, rfl, rfl, rfl, hb, ho, hstart⟩ := exists_of_match? h
    exact ⟨_, rest, rfl, rfl, ⟨o, b, rfl, rfl, hb, ho, hstart⟩, trivial⟩
  · rintro ⟨_, rest, rfl, rfl, ⟨o, b, rfl, rfl, hb, ho, hstart⟩, -⟩
    have hplace : p = none ∨ o ≠ [] := Decidable.or_iff_not_imp_right.2 fun ho' =>
      hstart (Decidable.not_not.1 ho')
    have hmatch := match?_separators hr ho
      (hr.raw.head?_append hr.raw_ne_nil (b :: rest)) hplace
    rw [rawAt_raw r hb] at hmatch
    simpa [Nat.add_assoc] using hmatch

/-- No parenthesis stands in the token of a rule, nor is the blank behind it one. -/
theorem paren_notMem_raw (hr : r.Whole) {b : Char} (hb : isBlank b = true) :
    '(' ∉ r.raw ++ [b] := by
  intro hmem
  rcases List.mem_append.1 hmem with hmem | hmem
  · exact absurd (hr.raw _ hmem) (by decide)
  · rw [← List.mem_singleton.1 hmem] at hb
    exact absurd hb (by decide)

/-- Behind a word no type begins, so no match runs over the parenthesis behind one. -/
theorem confined_match? (hr : r.Plain) : Confined r.match? r.IsMatch fun _ => True where
  eq_some_iff := match?_eq_some_iff hr.whole
  ne_nil := by
    rintro _ _ _ ⟨o, b, rfl, -⟩
    simp
  uncut := by
    rintro _ _ _ h t ⟨o, b, rfl, -, hb, ho, -⟩ hh heq
    rw [List.append_assoc] at heq
    rcases List.append_eq_append_iff.1 heq with ⟨s, rfl, hs⟩ | ⟨s, rfl, -⟩
    · exact paren_notMem_raw hr.whole hb (hs ▸ by simp)
    · refine hh (Wordless.endsApart (wordless_iff.2 fun c hc => ?_))
      exact not_isWordChar_of_opensType (ho c (by simp [hc]))
  endsApart := by
    rintro _ _ _ ⟨o, b, rfl, -, hb, -⟩ -
    have hblank : EndsApart [b] := by simp [EndsApart, isWordChar_of_isBlank hb]
    exact (endsApart_append_iff (by simp)).2 hblank
  closers := by
    rintro _ _ _ c ⟨o, b, rfl, rfl, -⟩ hc hmem
    simp only [List.append_assoc, List.mem_append, List.mem_singleton] at hmem
    rcases hmem with hmem | hmem | rfl
    · simp [hmem]
    · exact absurd hc (hr.target.isToken.not_isCloser hmem)
    · exact absurd hc (by decide)
  opening := by
    rintro x u new ⟨o, b, hu, rfl, hb, ho, hstart⟩
    cases o with
    | nil => exact absurd (hu ▸ by simp) (paren_notMem_raw hr.whole hb)
    | cons c o =>
      obtain ⟨rfl, rfl⟩ := List.cons.inj hu
      exact ⟨⟨_, rfl⟩, fun y => ⟨_, b, rfl, rfl, hb, ho, fun hnil => by simp at hnil⟩⟩

end Rule

/-! ## The four passes -/

theorem divides_dropQualifiers : Divides dropQualifiers :=
  divides_foldl fun _ hw => (confined_qualifier hw).divides

theorem divides_markPointers : Divides markPointers :=
  confined_singlePointer.divides.comp
    (confined_doublePointer.divides.comp confined_charPointer.divides)

theorem divides_settleExceptions : Divides settleExceptions :=
  confined_reservedName.divides.comp
    (confined_void.divides.comp confined_timeZoneParameter.divides)

/-- The declarator on the line with Java types holds no comma and no parenthesis. -/
theorem Declared.not_isCloser_of_mem_inLine (d : Declared) {dict : Dictionary} (hd : dict.Plain)
    {c : Char} (hc : c ∈ d.inLine dict) : ¬ IsCloser c := by
  unfold inLine at hc
  split at hc
  · exact d.isToken_javaGlued.not_isCloser hc
  · rcases List.mem_append.1 hc with hc | hc
    · exact (Dictionary.isToken_image hd d.isToken_javaToken).not_isCloser hc
    · rcases List.mem_cons.1 hc with rfl | hc
      · decide
      · exact d.isWord_javaName.isToken.not_isCloser hc

namespace Dictionary

variable {dict : Dictionary} (hd : dict.Plain)
include hd

theorem divides_substitute : Divides dict.substitute :=
  divides_foldl fun r hr => (Rule.confined_match? (hd r hr)).divides

/-- The rewriting of a line takes the head and the parameters apart from one another. -/
theorem divides_javaLine : Divides dict.javaLine := by
  obtain ⟨behind, hbehind⟩ := (divides_substitute hd).comp
    (divides_settleExceptions.comp (divides_markPointers.comp divides_dropQualifiers))
  refine ⟨behind, fun h hh => ?_⟩
  obtain ⟨h', hh', hclosers, hturn⟩ := hbehind h hh
  refine ⟨h', hh', hclosers, fun t => ?_⟩
  have hblank : (h ++ '(' :: t).isBlank = false := by
    simp [Text.isBlank, show isBlank '(' = false from by decide]
  rw [dict.javaLine_eq hblank]
  exact hturn t

/-- The parameters become what they become in a plain prototype, whatever stands before them. The
head of the line becomes a text that ends in a word again, and no comma or parenthesis comes
in. -/
theorem exists_head_javaLine {head : Text} (hhead : ¬ EndsApart head) :
    ∃ head', ¬ EndsApart head' ∧ (∀ c, IsCloser c → c ∈ head' → c ∈ head) ∧
      ∀ p : Prototype, dict.javaLine (lineOf head (p.args Declared.spelled)) =
        lineOf head' (p.shown.map fun d => d.inLine dict) := by
  obtain ⟨behind, hbehind⟩ := divides_javaLine hd
  obtain ⟨head', hhead', hclosers, hturn⟩ := hbehind head hhead
  refine ⟨head', hhead', hclosers, fun p => (hturn _).trans ?_⟩
  -- Behind the head stands what stands there in a prototype with the same parameters.
  let f : Declared := { type := { base := ⟨"int".toList, by decide, by decide⟩ }
                        name := ⟨"f".toList, by decide, by decide⟩ }
  let q : Prototype := { p with storage := .none, function := f }
  obtain ⟨h, -, hclosers₂, hturn₂⟩ := hbehind "int f".toList (by decide)
  have hq : h ++ '(' :: behind (join ", ".toList (p.args Declared.spelled) ++ ");".toList) =
      lineOf (f.inLine dict) (p.shown.map fun d => d.inLine dict) :=
    (hturn₂ _).symm.trans (q.javaLine_declarators hd)
  have hopen : ∀ {t : Text}, '(' ∉ t → ∀ c ∈ t, (c != '(') = true := fun ht c hc =>
    bne_iff_ne.2 fun heq => ht (heq ▸ hc)
  have hh : '(' ∉ h := fun hmem => absurd (hclosers₂ '(' (Or.inl rfl) hmem) (by decide)
  have hf : '(' ∉ f.inLine dict := fun hmem => f.not_isCloser_of_mem_inLine hd hmem (Or.inl rfl)
  rw [(append_cons_inj (hopen hh) (by decide) (hopen hf) (by decide) hq).2.2]
  rfl

end Dictionary

end HeaderBridge
