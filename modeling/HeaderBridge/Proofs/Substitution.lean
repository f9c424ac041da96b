import HeaderBridge.Proofs.Exceptions

/-!
# Applying the rules to a line of tokens and names

In a line each of whose declarators is a token, a space and a name, or a name alone, a rule
replaces the tokens that equal its raw token and nothing else (`Rule.apply_lineOf`), and the
rules of a dictionary replace each token by its image (`Dictionary.substitute_lineOf`).

`Dictionary.image` is what the rules make of one token, one rule after the other. A
token that is some rule's raw token ends as the target of a rule, however the later
rules go on with it (`produces_image`), and any other token is its own image
(`image_eq_self`).
-/

namespace HeaderBridge

open Text

theorem not_opensType {c : Char} (h : isTokenChar c = true) : opensType c = false := by
  simp only [isTokenChar, Bool.and_eq_true, Bool.not_eq_true', bne_iff_ne] at h
  simp [opensType, h.1.1.1, h.1.1.2]

theorem not_isTokenChar_of_isBlank (b : Char) (h : isBlank b = true) : isTokenChar b = false := by
  simp [isTokenChar, h]

theorem Text.IsCloser.not_isTokenChar {c : Char} (h : IsCloser c) : isTokenChar c = false := by
  rcases h with rfl | rfl | rfl <;> decide

/-- A name with a token before it, or alone. -/
def withToken : Bool → Text → Text → Text
  | true, _, name => name
  | false, token, name => token ++ ' ' :: name

/-! ## Where a rule matches -/

namespace Rule

/-- The rule's token for a token. -/
def image (r : Rule) (t : Text) : Text := if t = r.raw then r.target else t

variable {r : Rule}

/-- The raw token of the rule with a blank behind it, at the front of a text. -/
def rawAt (r : Rule) (k : Nat) (new start : Text) : Option (Nat × Text) := do
  let rest ← r.raw.isPrefixOf? start
  let _ ← Text.blank? rest
  return (k + r.raw.length + 1, new ++ r.target ++ [' '])

/-- Behind characters of one kind, of which its raw token is made too, the rule sees whether
they are that token. -/
theorem rawAt_eq_none {p : Char → Bool} (hp : ∀ b, isBlank b = true → p b = false)
    (hr : ∀ c ∈ r.raw, p c = true) {a : Text} (ha : ∀ c ∈ a, p c = true) {c : Char}
    (hc : p c = false) (h : r.raw ≠ a ∨ isBlank c = false) (k : Nat) (new t : Text) :
    rawAt r k new (a ++ c :: t) = none := by
  cases hraw : r.raw.isPrefixOf? (a ++ c :: t) with
  | none => simp [rawAt, hraw]
  | some rest =>
    cases hb : Text.blank? rest with
    | none => simp [rawAt, hraw, hb]
    | some rest' =>
      obtain ⟨b, hblank, rfl⟩ := blank?_eq_some_iff.1 hb
      obtain ⟨heq, rfl, -⟩ :=
        append_cons_inj ha hc hr (hp b hblank) (isPrefixOf?_eq_some_iff.1 hraw)
      rcases h with h | h
      · exact absurd heq.symm h
      · simp [hblank] at h

theorem rawAt_raw (r : Rule) {b : Char} (hb : isBlank b = true) (k : Nat) (new t : Text) :
    rawAt r k new (r.raw ++ b :: t) = some (k + r.raw.length + 1, new ++ r.target ++ [' ']) := by
  simp [rawAt, isPrefixOf?_append, blank?, hb]

/-- Inside a line a rule matches only where a type may begin. -/
theorem match?_of_not_opensType (r : Rule) {c : Char} (hc : opensType c = false) (x : Char)
    (t : Text) : r.match? (some x) (c :: t) = none := by
  simp [match?, typeStarts, typePlaces, hc]

/-- Behind a character that opens a type. -/
theorem match?_opening (r : Rule) {o d : Char} (ho : opensType o = true)
    (hd : opensType d = false) (x : Char) (t : Text) :
    r.match? (some x) (o :: d :: t) = rawAt r 1 [o] (d :: t) := by
  simp [match?, typeStarts, typePlaces, ho, hd, rawAt]

/-- At the start of the line. -/
theorem match?_start (r : Rule) {d : Char} (hd : opensType d = false) (t : Text) :
    r.match? none (d :: t) = rawAt r 0 [] (d :: t) := by
  simp [match?, typeStarts, typePlaces, hd, rawAt]

/-! ## One rule on a line -/

theorem match?_of_isTokenChar (r : Rule) {c : Char} (hc : isTokenChar c = true) (y : Char)
    (t : Text) : r.match? (some y) (c :: t) = none :=
  match?_of_not_opensType r (not_opensType hc) y t

/-- Characters of tokens are kept inside a line. -/
theorem turns_tokenChars (r : Rule) {a : Text} (ha : ∀ c ∈ a, isTokenChar c = true) (x : Char) :
    Turns r.match? (some x) a a :=
  turns_self (fun c hc y t => match?_of_isTokenChar r (ha c hc) y t) x

section

variable {tok name : Text} (hr : IsToken r.raw) (hn : IsToken name)
include hr hn

/-- What stands right before the end of a declarator is no token of the rule, since no
blank follows it. -/
theorem turns_opened_name {o : Char} (ho : opensType o = true) (x : Char) :
    Turns r.match? (some x) (o :: name) (o :: name) := by
  intro c t hc
  obtain ⟨d, v, hdv⟩ := List.exists_cons_of_ne_nil hn.ne_nil
  have hd : opensType d = false := not_opensType (hn.all d (by simp [hdv]))
  have hmiss : r.match? (some x) (o :: (name ++ c :: t)) = none := by
    rw [hdv, List.cons_append, match?_opening r ho hd, ← List.cons_append, ← hdv]
    exact rawAt_eq_none not_isTokenChar_of_isBlank hr.all hn.all hc.not_isTokenChar
      (Or.inr hc.not_isBlank) 1 [o] t
  obtain ⟨last, hl⟩ := turns_tokenChars r hn.all o c t hc
  exact ⟨last, by rw [List.cons_append, replaceMatches_cons hmiss, hl, List.cons_append]⟩

/-- Nor is it one at the start of the line. -/
theorem turns_start_name : Turns r.match? none name name := by
  obtain ⟨d, v, rfl⟩ := List.exists_cons_of_ne_nil hn.ne_nil
  have hd : opensType d = false := not_opensType (hn.all d (by simp))
  refine (turns_tokenChars r (fun c hc => hn.all c (by simp [hc])) d).cons_of fun c t hc => ?_
  rw [match?_start r hd, ← List.cons_append]
  exact rawAt_eq_none not_isTokenChar_of_isBlank hr.all hn.all hc.not_isTokenChar
    (Or.inr hc.not_isBlank) 0 [] t

/-- The characters of a token are kept inside a line, and the name behind it. -/
theorem turns_token_name {a : Text} (ha : ∀ c ∈ a, isTokenChar c = true) (x : Char) :
    Turns r.match? (some x) (a ++ ' ' :: name) (a ++ ' ' :: name) := by
  intro c t hc
  obtain ⟨y, hy⟩ := exists_lastFrom_some x a
  obtain ⟨last, hl⟩ := turns_opened_name hr hn (o := ' ') rfl y c t hc
  refine ⟨last, ?_⟩
  rw [List.append_assoc, replaceMatches_append a _ (some x), hy, hl, List.append_assoc]
  intro u v huv hv
  obtain ⟨z, hz⟩ := exists_lastFrom_some x u
  obtain ⟨d, v', rfl⟩ := List.exists_cons_of_ne_nil hv
  rw [hz]
  exact match?_of_isTokenChar r (ha d (by simp [huv])) z _

variable (ht : IsToken tok)
include ht

/-- Where the rule looks for its raw token right behind the text `b`, a token gets the
rule's target for its own. -/
theorem turns_at {p : Option Char} {b w : Text} {x : Char} (hw : b ++ tok = x :: w)
    (hchars : ∀ c ∈ w, isTokenChar c = true)
    (hat : ∀ t, r.match? p (b ++ (tok ++ ' ' :: t)) = rawAt r b.length b (tok ++ ' ' :: t)) :
    Turns r.match? p (b ++ (tok ++ ' ' :: name)) (b ++ (r.image tok ++ ' ' :: name)) := by
  unfold image
  split
  · next h =>
    have hmatch : ∀ t, r.match? p ((b ++ (tok ++ [' '])) ++ t) =
        some ((b ++ (tok ++ [' '])).length, b ++ r.target ++ [' ']) := by
      intro t
      rw [List.append_assoc, List.append_assoc, List.singleton_append, hat, h, rawAt_raw r rfl]
      simp [Nat.add_assoc]
    have hlast : lastFrom p (b ++ (tok ++ [' '])) = some ' ' := by
      rw [lastFrom_append, lastFrom_append]
      rfl
    have hname : Turns r.match? (lastFrom p (b ++ (tok ++ [' ']))) name name := by
      rw [hlast]
      exact turns_tokenChars r hn.all ' '
    have hturn := Turns.match_append (by simp) (fun c t _ => hmatch (name ++ c :: t)) hname
    simpa using hturn
  · next h =>
    have hfront : ∀ u, b ++ (tok ++ u) = x :: (w ++ u) := by
      intro u
      rw [← List.append_assoc, hw, List.cons_append]
    intro c t hc
    have hmiss : r.match? p (x :: (w ++ ' ' :: name ++ c :: t)) = none := by
      rw [List.append_assoc, List.cons_append, ← hfront, hat]
      exact rawAt_eq_none not_isTokenChar_of_isBlank hr.all ht.all (by decide)
        (Or.inl (Ne.symm h)) _ b _
    obtain ⟨last, hl⟩ := turns_token_name hr hn hchars x c t hc
    refine ⟨last, ?_⟩
    rw [hfront, List.cons_append, replaceMatches_cons hmiss, hl, List.cons_append]

/-- The head of a line gets the rule's token for its own. -/
theorem turns_start :
    Turns r.match? none (tok ++ ' ' :: name) (r.image tok ++ ' ' :: name) := by
  obtain ⟨d, v, hdv⟩ := List.exists_cons_of_ne_nil ht.ne_nil
  have hd : opensType d = false := not_opensType (ht.all d (by simp [hdv]))
  refine turns_at (b := []) hr hn ht hdv (fun c hc => ht.all c (by simp [hdv, hc])) ?_
  intro t
  rw [List.nil_append, hdv, List.cons_append, match?_start r hd]
  rfl

/-- A parameter gets the rule's token for its own. -/
theorem turns_opened {o : Char} (ho : o = '(' ∨ o = ' ') (x : Char) :
    Turns r.match? (some x) (o :: (tok ++ ' ' :: name)) (o :: (r.image tok ++ ' ' :: name)) := by
  obtain ⟨d, v, hdv⟩ := List.exists_cons_of_ne_nil ht.ne_nil
  have hd : opensType d = false := not_opensType (ht.all d (by simp [hdv]))
  have hopens : opensType o = true := by rcases ho with rfl | rfl <;> rfl
  refine turns_at (b := [o]) hr hn ht rfl ht.all ?_
  intro t
  rw [List.singleton_append, hdv, List.cons_append, match?_opening r hopens hd]
  rfl

end

/-- On a line of names, some of them with a token before them, a rule replaces the tokens that
equal its own. -/
theorem apply_lineOf (hr : IsToken r.raw) {tok name : Text} (ht : IsToken tok)
    (hn : IsToken name) {α : Type} {as : List α} {T N : α → Text}
    (hT : ∀ a ∈ as, IsToken (T a)) (hN : ∀ a ∈ as, IsToken (N a)) (b : Bool) (alone : α → Bool) :
    r.apply (lineOf (withToken b tok name) (as.map fun a => withToken (alone a) (T a) (N a))) =
      lineOf (withToken b (r.image tok) name)
        (as.map fun a => withToken (alone a) (r.image (T a)) (N a)) := by
  refine Text.replace_lineOf ?_ (fun a ha o ho x => ?_) ?_ ?_
  · cases b with
    | true => exact turns_start_name hr hn
    | false => exact turns_start hr hn ht
  · cases alone a with
    | true =>
      have hopens : opensType o = true := by rcases ho with rfl | rfl <;> rfl
      exact turns_opened_name hr (hN a ha) hopens x
    | false => exact turns_opened hr (hN a ha) (hT a ha) ho x
  · rintro x c t (rfl | rfl | rfl) <;> exact match?_of_not_opensType r (by decide) x t
  · intro x
    rw [match?_opening r (by decide) (by decide)]
    exact rawAt_eq_none not_isTokenChar_of_isBlank hr.all (a := []) (by simp) (by decide)
      (Or.inr (by decide)) 1 ['('] [';']

/-! ## All rules on a line -/

/-- The raw token is a token and the target a word or an array of a word. -/
structure Plain (r : Rule) : Prop where
  raw : IsToken r.raw
  target : IsTypeWord r.target

theorem isToken_image (hr : r.Plain) {t : Text} (ht : IsToken t) : IsToken (r.image t) := by
  unfold image
  split
  · exact hr.target.isToken
  · exact ht

/-- What the rules make of a token, one after the other. -/
def images (rules : List Rule) (t : Text) : Text := rules.foldl (fun t r => r.image t) t

theorem images_cons (r : Rule) (rules : List Rule) (t : Text) :
    images (r :: rules) t = images rules (r.image t) := rfl

/-- The rules replace each token of a line by what they make of it. -/
theorem foldl_apply_lineOf {rules : List Rule} (h : ∀ r ∈ rules, r.Plain) {tok name : Text}
    (ht : IsToken tok) (hn : IsToken name) {α : Type} {as : List α} {T N : α → Text}
    (hT : ∀ a ∈ as, IsToken (T a)) (hN : ∀ a ∈ as, IsToken (N a)) (b : Bool) (alone : α → Bool) :
    rules.foldl (fun t r => r.apply t)
        (lineOf (withToken b tok name) (as.map fun a => withToken (alone a) (T a) (N a))) =
      lineOf (withToken b (images rules tok) name)
        (as.map fun a => withToken (alone a) (images rules (T a)) (N a)) := by
  induction rules generalizing tok T with
  | nil => rfl
  | cons r rules ih =>
    have hr : r.Plain := h r (by simp)
    rw [List.foldl_cons, apply_lineOf hr.raw ht hn hT hN]
    exact ih (fun r hr => h r (List.mem_cons_of_mem _ hr)) (isToken_image hr ht)
      fun a ha => isToken_image hr (hT a ha)

/-- A token that no rule has for its own is kept. -/
theorem images_eq_self {rules : List Rule} {t : Text} (h : ∀ r ∈ rules, r.raw ≠ t) :
    images rules t = t := by
  induction rules with
  | nil => rfl
  | cons r rules ih =>
    have hr : r.image t = t := if_neg fun heq => h r (by simp) heq.symm
    rw [images_cons, hr]
    exact ih fun r hr => h r (List.mem_cons_of_mem _ hr)

/-- What the rules make of a token is the token itself or the target of a rule. -/
theorem images_eq_self_or_target (rules : List Rule) (t : Text) :
    images rules t = t ∨ ∃ r ∈ rules, images rules t = r.target := by
  induction rules generalizing t with
  | nil => exact Or.inl rfl
  | cons r rules ih =>
    rw [images_cons]
    rcases ih (r.image t) with hkept | ⟨r', hmem, htarget⟩
    · rw [hkept]
      unfold image
      split
      · exact Or.inr ⟨r, by simp, rfl⟩
      · exact Or.inl rfl
    · exact Or.inr ⟨r', List.mem_cons_of_mem _ hmem, htarget⟩

/-- A token that some rule has for its own ends as the target of a rule, however the
rules behind that rule go on with it. -/
theorem images_eq_target {rules : List Rule} {t : Text} (h : ∃ r ∈ rules, r.raw = t) :
    ∃ r ∈ rules, images rules t = r.target := by
  induction rules with
  | nil => simp at h
  | cons r rules ih =>
    by_cases hr : t = r.raw
    · have himage : r.image t = r.target := if_pos hr
      rw [images_cons, himage]
      rcases images_eq_self_or_target rules r.target with hkept | ⟨r', hmem, htarget⟩
      · exact ⟨r, by simp, hkept⟩
      · exact ⟨r', List.mem_cons_of_mem _ hmem, htarget⟩
    · have himage : r.image t = t := if_neg hr
      obtain ⟨r', hmem, hraw⟩ := h
      have hmem' : r' ∈ rules := by
        rcases List.mem_cons.1 hmem with rfl | hmem'
        · exact absurd hraw.symm hr
        · exact hmem'
      obtain ⟨r'', hin, htarget⟩ := ih ⟨r', hmem', hraw⟩
      rw [images_cons, himage]
      exact ⟨r'', List.mem_cons_of_mem _ hin, htarget⟩

end Rule

namespace Dictionary

/-- Every rule of the dictionary is plain. -/
def Plain (d : Dictionary) : Prop := ∀ r ∈ d.rules, Rule.Plain r

/-- The Java token for a token : each rule in its turn puts its target in the place of its
raw token. -/
def image (d : Dictionary) (t : Text) : Text := Rule.images d.rules t

variable {d : Dictionary} {t : Text}

/-- The token is the raw token or the target of some rule. -/
def knows (d : Dictionary) (t : Text) : Bool := d.rules.any fun r => r.1 = t || r.2 = t

theorem knows_iff : d.knows t = true ↔ ∃ r ∈ d.rules, Rule.raw r = t ∨ Rule.target r = t := by
  simp [knows]

theorem produces_iff : d.produces t = true ↔ ∃ r ∈ d.rules, Rule.target r = t := by
  simp [produces]

section

variable (hd : d.Plain) {tok name : Text} (ht : IsToken tok) (hn : IsToken name) {α : Type}
  {as : List α} {T N : α → Text} (hT : ∀ a ∈ as, IsToken (T a)) (hN : ∀ a ∈ as, IsToken (N a))
include hd ht hn hT hN

/-- The rules of a dictionary replace each token of a line by its image, and leave the names
that stand alone. -/
theorem substitute_withToken (b : Bool) (alone : α → Bool) :
    d.substitute
        (lineOf (withToken b tok name) (as.map fun a => withToken (alone a) (T a) (N a))) =
      lineOf (withToken b (d.image tok) name)
        (as.map fun a => withToken (alone a) (d.image (T a)) (N a)) :=
  Rule.foldl_apply_lineOf hd ht hn hT hN b alone

/-- The rules of a dictionary replace each token of a line by its image. -/
theorem substitute_lineOf :
    d.substitute (lineOf (tok ++ ' ' :: name) (as.map fun a => T a ++ ' ' :: N a)) =
      lineOf (d.image tok ++ ' ' :: name) (as.map fun a => d.image (T a) ++ ' ' :: N a) :=
  substitute_withToken hd ht hn hT hN false fun _ => false

end

/-- The image of a token that is no rule's is the token. -/
theorem image_eq_self (h : ∀ r ∈ d.rules, Rule.raw r ≠ t) : d.image t = t :=
  Rule.images_eq_self h

/-- The image of a token is a token. -/
theorem isToken_image (hd : d.Plain) (ht : IsToken t) : IsToken (d.image t) := by
  rcases Rule.images_eq_self_or_target d.rules t with hself | ⟨r, hr, htarget⟩
  · rwa [image, hself]
  · rw [image, htarget]
    exact (hd r hr).target.isToken

/-- The image of a token that is some rule's own is the target of a rule. -/
theorem produces_image (h : ∃ r ∈ d.rules, Rule.raw r = t) : d.produces (d.image t) = true := by
  obtain ⟨r, hmem, htarget⟩ := Rule.images_eq_target h
  exact produces_iff.2 ⟨r, hmem, htarget.symm⟩

/-- The image of a token is the target of a rule exactly if the dictionary knows the
token. -/
theorem produces_image_eq_knows : d.produces (d.image t) = d.knows t := by
  rw [Bool.eq_iff_iff, knows_iff]
  constructor
  · intro h
    by_cases hraw : ∃ r ∈ d.rules, Rule.raw r = t
    · obtain ⟨r, hmem, hr⟩ := hraw
      exact ⟨r, hmem, Or.inl hr⟩
    · rw [image_eq_self fun r hr hrt => hraw ⟨r, hr, hrt⟩] at h
      obtain ⟨r, hmem, hr⟩ := produces_iff.1 h
      exact ⟨r, hmem, Or.inr hr⟩
  · rintro ⟨r, hmem, hraw | htarget⟩
    · exact produces_image ⟨r, hmem, hraw⟩
    · rcases Rule.images_eq_self_or_target d.rules t with hkept | ⟨r', hmem', htarget'⟩
      · exact produces_iff.2 ⟨r, hmem, by rw [htarget, image, hkept]⟩
      · exact produces_iff.2 ⟨r', hmem', by rw [image, htarget']⟩

end Dictionary

end HeaderBridge
