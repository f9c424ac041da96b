import HeaderBridge.Proofs.Substitution

/-!
# Lines cut into tokens

Any line at all is cut at the blanks and the opening parentheses into tokens, some of which may
be empty : `Text.separated` has each token with the separator behind it, `Text.lastToken` the
token behind the last separator, and `rejoin_separated` puts them together again.

A rule whose raw token and target hold no separator goes over a line token by token
(`Rule.apply_rejoin`). It replaces its own token where a blank follows, but the blank goes
with the match, and a match has to begin with a separator. So a token right behind one that has
been replaced is left, whatever it is, and `Rule.sweep` keeps account of this from one token to
the next. No separator but the blank of a match is touched, and no token is divided or joined.
-/

namespace HeaderBridge

open Text

/-! ## Tokens and separators -/

/-- No character of the text separates tokens. -/
def Text.Unseparated (t : Text) : Prop := ∀ c ∈ t, opensType c = false

instance (t : Text) : Decidable t.Unseparated :=
  decidable_of_iff (t.all (!opensType ·) = true) (by simp [Unseparated])

@[simp] theorem Text.unseparated_nil : Text.Unseparated [] := by simp [Unseparated]

/-- The tokens of the text but the last one, each with the separator behind it. -/
def Text.separated (t : Text) : List (Text × Char) :=
  (t.splitOnP opensType).zip (t.filter opensType)

/-- The token behind the last separator. -/
def Text.lastToken (t : Text) : Text := (t.splitOnP opensType).getLastD []

/-- Tokens with the separators behind them, and a last token, as one text. -/
def rejoin : List (Text × Char) → Text → Text
  | [], last => last
  | (t, c) :: es, last => t ++ c :: rejoin es last

/-- Each token is without separators, and a separator stands behind it. -/
def Separated (es : List (Text × Char)) : Prop :=
  ∀ e ∈ es, e.1.Unseparated ∧ opensType e.2 = true

section

variable {es : List (Text × Char)} {last : Text}

@[simp] theorem rejoin_nil (last : Text) : rejoin [] last = last := rfl

@[simp] theorem rejoin_cons (t : Text) (c : Char) (es : List (Text × Char)) (last : Text) :
    rejoin ((t, c) :: es) last = t ++ c :: rejoin es last := rfl

theorem Separated.of_cons {e : Text × Char} (h : Separated (e :: es)) : Separated es :=
  fun e he => h e (List.mem_cons_of_mem _ he)

theorem splitOnP_rejoin (h : Separated es) (hlast : last.Unseparated) :
    (rejoin es last).splitOnP opensType = es.map Prod.fst ++ [last] := by
  induction es with
  | nil => exact List.splitOnP_eq_singleton hlast
  | cons e es ih =>
    obtain ⟨t, c⟩ := e
    have he := h (t, c) (by simp)
    rw [rejoin_cons, List.splitOnP_append_cons _ _ he.2, List.splitOnP_eq_singleton he.1,
      ih h.of_cons]
    rfl

theorem filter_rejoin (h : Separated es) (hlast : last.Unseparated) :
    (rejoin es last).filter opensType = es.map Prod.snd := by
  have hnone : ∀ {t : Text}, t.Unseparated → t.filter opensType = [] := fun ht =>
    List.filter_eq_nil_iff.2 fun c hc => by simp [ht c hc]
  induction es with
  | nil => exact hnone hlast
  | cons e es ih =>
    obtain ⟨t, c⟩ := e
    have he := h (t, c) (by simp)
    simp only [rejoin_cons, List.filter_append, hnone he.1, List.filter_cons_of_pos he.2,
      ih h.of_cons, List.nil_append, List.map_cons]

/-- Joined tokens are cut at their separators again. -/
theorem separated_rejoin (h : Separated es) (hlast : last.Unseparated) :
    (rejoin es last).separated = es := by
  have hlength : (es.map Prod.fst).length = (es.map Prod.snd).length := by simp
  rw [separated, splitOnP_rejoin h hlast, filter_rejoin h hlast,
    ← List.append_nil (es.map Prod.snd), List.zip_append hlength, List.zip_nil_right,
    List.append_nil, List.zip_map']
  exact List.map_id es

theorem lastToken_rejoin (h : Separated es) (hlast : last.Unseparated) :
    (rejoin es last).lastToken = last := by
  rw [lastToken, splitOnP_rejoin h hlast, List.getLastD_concat]

/-- Every text is made of tokens and separators. -/
theorem exists_rejoin (t : Text) :
    ∃ es last, Separated es ∧ last.Unseparated ∧ t = rejoin es last := by
  induction t with
  | nil => exact ⟨[], [], by simp [Separated], unseparated_nil, rfl⟩
  | cons c t ih =>
    obtain ⟨es, last, hes, hlast, rfl⟩ := ih
    by_cases hc : opensType c = true
    · refine ⟨([], c) :: es, last, ?_, hlast, rfl⟩
      exact List.forall_mem_cons.2 ⟨⟨unseparated_nil, hc⟩, hes⟩
    · have hcons : ∀ {u : Text}, u.Unseparated → Unseparated (c :: u) := fun hu =>
        List.forall_mem_cons.2 ⟨by simpa using hc, hu⟩
      cases es with
      | nil => exact ⟨[], c :: last, hes, hcons hlast, rfl⟩
      | cons e es =>
        obtain ⟨u, d⟩ := e
        have he := hes (u, d) (by simp)
        refine ⟨(c :: u, d) :: es, last, ?_, hlast, rfl⟩
        exact List.forall_mem_cons.2 ⟨⟨hcons he.1, he.2⟩, hes.of_cons⟩

/-- A text is the tokens and separators into which it is cut. -/
theorem rejoin_separated (t : Text) : rejoin t.separated t.lastToken = t := by
  obtain ⟨es, last, hes, hlast, rfl⟩ := exists_rejoin t
  rw [separated_rejoin hes hlast, lastToken_rejoin hes hlast]

theorem separated_separated (t : Text) : Separated t.separated ∧ t.lastToken.Unseparated := by
  obtain ⟨es, last, hes, hlast, rfl⟩ := exists_rejoin t
  rw [separated_rejoin hes hlast, lastToken_rejoin hes hlast]
  exact ⟨hes, hlast⟩

end

/-- A token that is not empty shows none of the separators. -/
theorem Text.Unseparated.head?_append {t : Text} (h : t.Unseparated) (hne : t ≠ []) (rest : Text) :
    ∀ d, (t ++ rest).head? = some d → opensType d = false := by
  obtain ⟨x, w, rfl⟩ := List.exists_cons_of_ne_nil hne
  intro d hd
  obtain rfl : x = d := by simpa using hd
  exact h x (by simp)

/-! ## Where a rule matches -/

theorem opensType_of_isBlank {c : Char} (h : isBlank c = true) : opensType c = true := by
  simp [opensType, h]

/-- Behind separators a type may begin where they end, and else only at one of them. -/
theorem exists_typePlaces {seps rest : Text} (hseps : ∀ c ∈ seps, opensType c = true)
    (hrest : ∀ d, rest.head? = some d → opensType d = false) (n : Nat) :
    ∃ l, typePlaces n (seps ++ rest) = l ++ [(n + seps.length, rest)] ∧
      l.length = seps.length ∧ ∀ p ∈ l, ∃ c u, p.2 = c :: u ∧ opensType c = true := by
  induction seps generalizing n with
  | nil =>
    refine ⟨[], ?_, rfl, by simp⟩
    cases rest with
    | nil => rfl
    | cons d rest => simp [typePlaces, hrest d rfl]
  | cons c seps ih =>
    obtain ⟨l, hl, hlength, hopen⟩ := ih (fun c hc => hseps c (List.mem_cons_of_mem _ hc)) (n + 1)
    have hc := hseps c (by simp)
    refine ⟨(n, c :: (seps ++ rest)) :: l, ?_, by simp [hlength], ?_⟩
    · simp [typePlaces, hc, hl, Nat.add_comm, Nat.add_left_comm]
    · exact List.forall_mem_cons.2 ⟨⟨c, _, rfl, hc⟩, hopen⟩

namespace Rule

/-- The raw token is a token that is not empty, and no separator stands in the target. -/
structure Whole (r : Rule) : Prop where
  raw_ne_nil : r.raw ≠ []
  raw : r.raw.Unseparated
  target : r.target.Unseparated

instance (r : Rule) : Decidable r.Whole :=
  decidable_of_iff (r.raw ≠ [] ∧ r.raw.Unseparated ∧ r.target.Unseparated)
    ⟨fun h => ⟨h.1, h.2.1, h.2.2⟩, fun h => ⟨h.raw_ne_nil, h.raw, h.target⟩⟩

/-- The token is the rule's own and a blank stands behind it. -/
def takes (r : Rule) (e : Text × Char) : Bool := e.1 = r.raw && isBlank e.2

/-- Without a blank behind it no token is the rule's. -/
theorem rawAt_unseparated (r : Rule) {a : Text} (ha : a.Unseparated) (k : Nat) (new : Text) :
    rawAt r k new a = none := by
  cases hraw : r.raw.isPrefixOf? a with
  | none => simp [rawAt, hraw]
  | some rest =>
    cases hb : Text.blank? rest with
    | none => simp [rawAt, hraw, hb]
    | some rest' =>
      obtain ⟨b, hblank, rfl⟩ := blank?_eq_some_iff.1 hb
      obtain rfl := isPrefixOf?_eq_some_iff.1 hraw
      have hopen := ha b (by simp)
      simp [opensType_of_isBlank hblank] at hopen

variable {r : Rule} (hr : r.Whole)
include hr

theorem rawAt_of_opensType {c : Char} (hc : opensType c = true) (k : Nat) (new u : Text) :
    rawAt r k new (c :: u) = none := by
  obtain ⟨x, w, hw⟩ := List.exists_cons_of_ne_nil hr.raw_ne_nil
  have hx : x ≠ c := by
    rintro rfl
    simp [hr.raw x (by simp [hw])] at hc
  simp [rawAt, hw, isPrefixOf?_cons_of_ne hx]

/-- A run of separators is tried where it ends. -/
theorem match?_separators {seps rest : Text} (hseps : ∀ c ∈ seps, opensType c = true)
    (hrest : ∀ d, rest.head? = some d → opensType d = false) {prev : Option Char}
    (h : prev = none ∨ seps ≠ []) :
    r.match? prev (seps ++ rest) = rawAt r seps.length seps rest := by
  let find := fun p : Nat × Text => rawAt r p.1 ((seps ++ rest).take p.1) p.2
  have hmatch : r.match? prev (seps ++ rest) =
      (typeStarts prev (seps ++ rest)).findSome? find := rfl
  obtain ⟨l, hl, hlength, hopen⟩ := exists_typePlaces hseps hrest 0
  rw [Nat.zero_add] at hl
  have hskip : ∀ p ∈ l, find p = none := by
    rintro ⟨k, start⟩ hp
    obtain ⟨c, u, rfl, hc⟩ := hopen _ hp
    exact rawAt_of_opensType hr hc k _ u
  have hend : ∀ m, (∀ p ∈ m, find p = none) →
      ((seps.length, rest) :: m).findSome? find = rawAt r seps.length seps rest := by
    intro m hm
    have hfind : find (seps.length, rest) = rawAt r seps.length seps rest := by
      simp only [find, List.take_left]
    rw [List.findSome?_cons, hfind, List.findSome?_eq_none_iff.2 hm]
    cases rawAt r seps.length seps rest <;> rfl
  rw [hmatch, typeStarts, hl]
  cases l with
  | nil =>
    have hprev : prev = none :=
      h.resolve_right fun hne => hne (List.length_eq_zero_iff.1 hlength.symm)
    rw [hprev]
    exact hend [] (by simp)
  | cons p l =>
    have hbehind : ∀ q ∈ l.reverse, find q = none := fun q hq =>
      hskip q (List.mem_cons_of_mem _ (List.mem_reverse.1 hq))
    simp only [List.cons_append, List.reverse_append, List.reverse_cons, List.reverse_nil,
      List.nil_append]
    split
    · rw [List.findSome?_cons, hskip p (by simp)]
      exact hend _ hbehind
    · exact hend _ hbehind

/-- A token that is another one, or has a parenthesis behind it, is not the rule's. -/
theorem rawAt_of_takes {t : Text} {c : Char} (ht : t.Unseparated) (hc : opensType c = true)
    (h : r.takes (t, c) = false) (k : Nat) (new u : Text) :
    rawAt r k new (t ++ c :: u) = none := by
  refine rawAt_eq_none (p := fun c => !opensType c) (fun b hb => by simp [opensType_of_isBlank hb])
    (fun c hc => by simp [hr.raw c hc]) (fun c hc => by simp [ht c hc]) (by simp [hc]) ?_ k new u
  by_cases hraw : t = r.raw
  · exact Or.inr (by simpa [takes, hraw] using h)
  · exact Or.inl (Ne.symm hraw)

/-! ## One rule on a line -/

/-- The separators of a run with no token of the rule behind it are kept. -/
theorem replaceMatches_separators {seps rest : Text} (hseps : ∀ c ∈ seps, opensType c = true)
    (hrest : ∀ d, rest.head? = some d → opensType d = false)
    (hmiss : ∀ k new, rawAt r k new rest = none) (prev : Option Char) :
    replaceMatches r.match? prev 0 (seps ++ rest) =
      seps ++ replaceMatches r.match? (lastFrom prev seps) 0 rest := by
  refine replaceMatches_append seps rest prev fun u v huv hv => ?_
  have hv' : ∀ c ∈ v, opensType c = true := fun c hc => hseps c (by simp [huv, hc])
  rw [match?_separators hr hv' hrest (Or.inr hv), hmiss]

omit hr in
/-- The characters of a token are kept, but for a match at the start of the line. -/
theorem replaceMatches_token {a rest : Text} (ha : a.Unseparated) {prev : Option Char}
    (hstart : prev = none → r.match? none (a ++ rest) = none) :
    replaceMatches r.match? prev 0 (a ++ rest) =
      a ++ replaceMatches r.match? (lastFrom prev a) 0 rest := by
  refine replaceMatches_append a rest prev fun u v huv hv => ?_
  obtain ⟨d, v, rfl⟩ := List.exists_cons_of_ne_nil hv
  have hd : opensType d = false := ha d (by simp [huv])
  cases u with
  | nil =>
    cases prev with
    | none =>
      rw [List.nil_append] at huv
      exact huv ▸ hstart rfl
    | some x => exact match?_of_not_opensType r hd x _
  | cons c u =>
    obtain ⟨x, -, hx⟩ := exists_lastFrom prev (List.cons_ne_nil c u)
    rw [hx]
    exact match?_of_not_opensType r hd x _

/-- A run of separators with a token behind it that is not the rule's is kept. -/
theorem replaceMatches_kept {seps a rest : Text} (hseps : ∀ c ∈ seps, opensType c = true)
    (ha : a.Unseparated) (hrest : ∀ d, (a ++ rest).head? = some d → opensType d = false)
    (hmiss : ∀ k new, rawAt r k new (a ++ rest) = none) (prev : Option Char) :
    replaceMatches r.match? prev 0 (seps ++ (a ++ rest)) =
      seps ++ (a ++ replaceMatches r.match? (lastFrom (lastFrom prev seps) a) 0 rest) := by
  rw [replaceMatches_separators hr hseps hrest hmiss, replaceMatches_token ha]
  intro _
  have hnone : r.match? none ([] ++ (a ++ rest)) = rawAt r 0 [] (a ++ rest) :=
    match?_separators hr (by simp) hrest (Or.inl rfl)
  exact hnone.trans (hmiss 0 [])

end Rule

/-- One rule over the tokens of a line, the first of them behind a separator that is `free` to
go with a match, or with none left. A match takes the separator behind its token along. -/
def Rule.sweep (r : Rule) : Bool → List (Text × Char) → List (Text × Char)
  | _, [] => []
  | free, e :: es =>
    if free && r.takes e then (r.target, ' ') :: r.sweep false es else e :: r.sweep true es

namespace Rule

@[simp] theorem sweep_nil (r : Rule) (free : Bool) : r.sweep free [] = [] := by
  cases free <;> rfl

/-- At the start of the line, or at separators that are free, the rule goes over the tokens
`es` and the last one. -/
def SweepsFree (r : Rule) (es : List (Text × Char)) (last : Text) : Prop :=
  ∀ seps prev, (∀ c ∈ seps, opensType c = true) → prev = none ∨ seps ≠ [] →
    replaceMatches r.match? prev 0 (seps ++ rejoin es last) =
      seps ++ rejoin (r.sweep true es) last

/-- Right behind a match the rule goes over the tokens `es` and the last one. -/
def SweepsTaken (r : Rule) (es : List (Text × Char)) (last : Text) : Prop :=
  ∀ x, replaceMatches r.match? (some x) 0 (rejoin es last) = rejoin (r.sweep false es) last

variable {r : Rule} {es : List (Text × Char)} {last t : Text} {c : Char}

theorem sweepsTaken_nil (hlast : last.Unseparated) : r.SweepsTaken [] last := by
  intro x
  have hkept : replaceMatches r.match? (some x) 0 (last ++ []) =
      last ++ replaceMatches r.match? (lastFrom (some x) last) 0 [] :=
    replaceMatches_token hlast (by simp)
  simpa [replaceMatches] using hkept

theorem sweepsFree_nil (hr : r.Whole) (hlast : last.Unseparated) : r.SweepsFree [] last := by
  intro seps prev hseps _
  have hkept : replaceMatches r.match? prev 0 (seps ++ (last ++ [])) =
      seps ++ (last ++ replaceMatches r.match? (lastFrom (lastFrom prev seps) last) 0 []) :=
    replaceMatches_kept hr hseps hlast
      (fun d hd => hlast d (List.mem_of_head? (by simpa using hd)))
      (fun k new => by simpa using rawAt_unseparated r hlast k new) prev
  simpa [replaceMatches] using hkept

/-- The separator behind a token is free if the token is passed over. -/
theorem SweepsFree.behind (h : r.SweepsFree es last) (hc : opensType c = true) (x : Char) :
    replaceMatches r.match? (some x) 0 (c :: rejoin es last) =
      c :: rejoin (r.sweep true es) last :=
  h [c] (some x) (by simpa using hc) (by simp)

theorem SweepsFree.taken_cons (h : r.SweepsFree es last) (ht : t.Unseparated)
    (hc : opensType c = true) : r.SweepsTaken ((t, c) :: es) last := by
  intro x
  obtain ⟨y, hy⟩ := exists_lastFrom_some x t
  rw [rejoin_cons, replaceMatches_token ht (by simp), hy, h.behind hc]
  rfl

theorem SweepsFree.cons (hr : r.Whole) (h : r.SweepsFree es last) (h' : r.SweepsTaken es last)
    (ht : t.Unseparated) (hc : opensType c = true) : r.SweepsFree ((t, c) :: es) last := by
  intro seps prev hseps hprev
  cases htakes : r.takes (t, c) with
  | true =>
    -- The match is the separators, the token and the blank behind it.
    obtain ⟨rfl, hblank⟩ : t = r.raw ∧ isBlank c = true := by simpa [takes] using htakes
    have hmatch : r.match? prev (seps ++ (r.raw ++ [c]) ++ rejoin es last) =
        some ((seps ++ (r.raw ++ [c])).length, seps ++ r.target ++ [' ']) := by
      have hfind := match?_separators hr hseps
        (hr.raw.head?_append hr.raw_ne_nil (c :: rejoin es last)) hprev
      rw [rawAt_raw r hblank] at hfind
      simpa [Nat.add_assoc] using hfind
    have hlast : lastFrom prev (seps ++ (r.raw ++ [c])) = some c := by
      rw [lastFrom_append, lastFrom_append]
      rfl
    have hstep := replaceMatches_match (by simp) hmatch
    rw [hlast, h'] at hstep
    simpa [sweep, htakes] using hstep
  | false =>
    have hsweep : r.sweep true ((t, c) :: es) = (t, c) :: r.sweep true es := by
      simp [sweep, htakes]
    by_cases hnil : t = []
    · -- An empty token only makes the run of separators longer.
      have hrun := h (seps ++ [c]) prev (by simpa [or_imp, forall_and, hc] using hseps) (by simp)
      rw [hsweep, hnil]
      simpa using hrun
    · obtain ⟨y, hy, hlast⟩ := exists_lastFrom (lastFrom prev seps) hnil
      have hkept := replaceMatches_kept hr hseps ht (ht.head?_append hnil (c :: rejoin es last))
        (fun k new => rawAt_of_takes hr ht hc htakes k new _) prev
      rw [hlast, h.behind hc] at hkept
      rw [hsweep]
      exact hkept

theorem sweeps (hr : r.Whole) (h : Separated es) (hlast : last.Unseparated) :
    r.SweepsFree es last ∧ r.SweepsTaken es last := by
  induction es with
  | nil => exact ⟨sweepsFree_nil hr hlast, sweepsTaken_nil hlast⟩
  | cons e es ih =>
    obtain ⟨hfree, htaken⟩ := ih h.of_cons
    obtain ⟨ht, hc⟩ := h e (by simp)
    exact ⟨hfree.cons hr htaken ht hc, hfree.taken_cons ht hc⟩

/-- A rule goes over a line token by token. -/
theorem apply_rejoin (hr : r.Whole) (h : Separated es) (hlast : last.Unseparated) :
    r.apply (rejoin es last) = rejoin (r.sweep true es) last :=
  (sweeps hr h hlast).1 [] none (by simp) (Or.inl rfl)

/-- What comes out is tokens and separators again. -/
theorem separated_sweep (hr : r.Whole) (h : Separated es) (free : Bool) :
    Separated (r.sweep free es) := by
  induction es generalizing free with
  | nil => simpa using h
  | cons e es ih =>
    unfold sweep
    split
    · exact List.forall_mem_cons.2 ⟨⟨hr.target, rfl⟩, ih h.of_cons false⟩
    · exact List.forall_mem_cons.2 ⟨h e (by simp), ih h.of_cons true⟩

/-- The rules over the tokens of a line, one rule after the other. -/
def sweepAll (rules : List Rule) (es : List (Text × Char)) : List (Text × Char) :=
  rules.foldl (fun es r => r.sweep true es) es

theorem sweepAll_cons (r : Rule) (rules : List Rule) (es : List (Text × Char)) :
    sweepAll (r :: rules) es = sweepAll rules (r.sweep true es) := rfl

/-- The rules go over a line token by token. -/
theorem foldl_apply_rejoin {rules : List Rule} (hr : ∀ r ∈ rules, r.Whole) (h : Separated es)
    (hlast : last.Unseparated) :
    rules.foldl (fun t r => r.apply t) (rejoin es last) = rejoin (sweepAll rules es) last ∧
      Separated (sweepAll rules es) := by
  induction rules generalizing es with
  | nil => exact ⟨rfl, h⟩
  | cons r rules ih =>
    have hwhole : r.Whole := hr r (by simp)
    rw [List.foldl_cons, apply_rejoin hwhole h hlast]
    exact ih (fun r hr' => hr r (List.mem_cons_of_mem _ hr')) (separated_sweep hwhole h true)

end Rule

namespace Dictionary

/-- No separator stands in a raw token or a target, and no raw token is empty. -/
def Whole (d : Dictionary) : Prop := ∀ r ∈ d.rules, Rule.Whole r

instance (d : Dictionary) : Decidable d.Whole :=
  decidable_of_iff (d.rules.all (decide <| Rule.Whole ·) = true) (by simp [Whole])

variable {d : Dictionary} (hd : d.Whole) (line : Text)
include hd

/-- The tokens of a line, each with the separator behind it, are those that the rules leave of
the tokens of the line before. -/
theorem separated_substitute :
    (d.substitute line).separated = Rule.sweepAll d.rules line.separated := by
  obtain ⟨es, last, hes, hlast, rfl⟩ := exists_rejoin line
  obtain ⟨hline, hsweep⟩ := Rule.foldl_apply_rejoin hd hes hlast
  rw [substitute, hline, separated_rejoin hsweep hlast, separated_rejoin hes hlast]

/-- The last token of a line is kept, since no separator stands behind it. -/
theorem lastToken_substitute : (d.substitute line).lastToken = line.lastToken := by
  obtain ⟨es, last, hes, hlast, rfl⟩ := exists_rejoin line
  obtain ⟨hline, hsweep⟩ := Rule.foldl_apply_rejoin hd hes hlast
  rw [substitute, hline, lastToken_rejoin hsweep hlast, lastToken_rejoin hes hlast]

end Dictionary

end HeaderBridge
