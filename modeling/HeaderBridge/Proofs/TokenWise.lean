import HeaderBridge.Proofs.TokenLines

/-!
# Substitution token by token

The place of a token tells what a rule may do with it : `Rule.freeAt` says whether the separator
before it is free to go with a match, and `Rule.getElem?_sweep` what stands at the place then.
The separator is free unless the token before it has just been replaced (`Rule.freeAt_succ`).

So the rules of a dictionary make of each token that a blank follows what some of them make of
it, one after the other, and if the token before it is no rule's own, what all of them make of
it. Everything else on a line stays, but that a blank may become a space
(`Dictionary.substitute_tokenwise`). This holds of any line.
-/

namespace HeaderBridge

open Text

namespace Rule

variable {r : Rule} {es : List (Text × Char)} {e : Text × Char} {i : Nat}

/-! ## One rule -/

/-- The separator before the token at a place is free to go with a match. -/
def freeAt (r : Rule) : Bool → List (Text × Char) → Nat → Bool
  | free, _, 0 => free
  | _, [], _ + 1 => true
  | free, e :: es, i + 1 => r.freeAt (!(free && r.takes e)) es i

@[simp] theorem freeAt_zero (r : Rule) (free : Bool) (es : List (Text × Char)) :
    r.freeAt free es 0 = free := by
  cases es <;> rfl

theorem sweep_cons (r : Rule) (free : Bool) (e : Text × Char) (es : List (Text × Char)) :
    r.sweep free (e :: es) =
      (if free && r.takes e then (r.target, ' ') else e) ::
        r.sweep (!(free && r.takes e)) es := by
  cases h : free && r.takes e <;> simp [sweep, h]

@[simp] theorem length_sweep (r : Rule) (free : Bool) (es : List (Text × Char)) :
    (r.sweep free es).length = es.length := by
  induction es generalizing free with
  | nil => simp
  | cons e es ih => simp [sweep_cons, ih]

/-- A token is replaced if it is the rule's own and the separator before it is free. -/
theorem getElem?_sweep (r : Rule) (free : Bool) (es : List (Text × Char)) (i : Nat) :
    (r.sweep free es)[i]? =
      es[i]?.map fun e => if r.freeAt free es i && r.takes e then (r.target, ' ') else e := by
  induction es generalizing free i with
  | nil => simp
  | cons e es ih =>
    rw [sweep_cons]
    cases i with
    | zero => simp
    | succ i => simpa [freeAt] using ih _ i

/-- Where a blank follows and the separator is free, the token becomes the rule's token for it,
and a blank follows again. -/
theorem takes_of_isBlank (hblank : isBlank e.2 = true) :
    (if r.takes e then (r.target, ' ') else e).1 = r.image e.1 ∧
      isBlank (if r.takes e then (r.target, ' ') else e).2 = true := by
  have htakes : r.takes e = decide (e.1 = r.raw) := by rw [takes, hblank, Bool.and_true]
  unfold image
  by_cases hraw : e.1 = r.raw
  · rw [if_pos hraw, htakes, decide_eq_true hraw]
    exact ⟨rfl, rfl⟩
  · rw [if_neg hraw, htakes, decide_eq_false hraw]
    exact ⟨rfl, hblank⟩

/-- A token of the rule stands at a place. -/
def takesAt (r : Rule) (es : List (Text × Char)) (i : Nat) : Bool := es[i]?.any r.takes

theorem takesAt_of_getElem? (h : es[i]? = some e) : r.takesAt es i = r.takes e := by
  rw [takesAt, h, Option.any_some]

/-- A token that is not the rule's stays at its place. -/
theorem getElem?_sweep_of_not_takes {free : Bool} (h : r.takesAt es i = false) :
    (r.sweep free es)[i]? = es[i]? := by
  rw [getElem?_sweep]
  cases he : es[i]? with
  | none => rfl
  | some e =>
    rw [takesAt_of_getElem? he] at h
    rw [Option.map_some, h, Bool.and_false, if_neg Bool.false_ne_true]

/-- The separator behind a token is free unless the token has been replaced. -/
theorem freeAt_succ (r : Rule) (free : Bool) (es : List (Text × Char)) (i : Nat) :
    r.freeAt free es (i + 1) = !(r.freeAt free es i && r.takesAt es i) := by
  induction es generalizing free i with
  | nil => simp [freeAt, takesAt]
  | cons e es ih =>
    cases i with
    | zero => simp [freeAt, takesAt]
    | succ i => exact ih _ i

/-- The separator before a token is free if the token before it is not the rule's. -/
theorem freeAt_of_not_takes (h : ∀ j, i = j + 1 → r.takesAt es j = false) :
    r.freeAt true es i = true := by
  cases i with
  | zero => exact freeAt_zero r true es
  | succ j => rw [freeAt_succ, h j rfl, Bool.and_false, Bool.not_false]

/-! ## All rules -/

theorem length_sweepAll (rules : List Rule) (es : List (Text × Char)) :
    (sweepAll rules es).length = es.length := by
  induction rules generalizing es with
  | nil => rfl
  | cons r rules ih => rw [sweepAll_cons, ih, length_sweep]

/-- What rules may make of a token and the separator behind it. -/
structure Rewrites (rules : List Rule) (e e' : Text × Char) : Prop where
  separator : e'.2 = e.2 ∨ isBlank e.2 = true ∧ e'.2 = ' '
  unspaced : isBlank e.2 = false → e'.1 = e.1
  token : ∃ rs, rs.Sublist rules ∧ e'.1 = images rs e.1

theorem Rewrites.cons {rules : List Rule} {e' : Text × Char} (h : Rewrites rules e e') :
    Rewrites (r :: rules) e e' := by
  obtain ⟨rs, hrs, htoken⟩ := h.token
  exact ⟨h.separator, h.unspaced, rs, hrs.cons r, htoken⟩

theorem Rewrites.cons_of_takes {rules : List Rule} {e' : Text × Char} (htakes : r.takes e = true)
    (h : Rewrites rules (r.target, ' ') e') : Rewrites (r :: rules) e e' := by
  obtain ⟨hraw, hblank⟩ : e.1 = r.raw ∧ isBlank e.2 = true := by simpa [takes] using htakes
  have himage : r.image e.1 = r.target := if_pos hraw
  obtain ⟨rs, hrs, htoken⟩ := h.token
  refine ⟨Or.inr ⟨hblank, ?_⟩, fun hb => by simp [hblank] at hb, r :: rs, hrs.cons_cons r, ?_⟩
  · rcases h.separator with h | ⟨-, h⟩ <;> exact h
  · rw [images_cons, himage, htoken]

/-- What stands at the place of a token behind all rules. -/
theorem exists_getElem?_sweepAll (rules : List Rule) (h : es[i]? = some e) :
    ∃ e', (sweepAll rules es)[i]? = some e' ∧ Rewrites rules e e' := by
  induction rules generalizing es e with
  | nil => exact ⟨e, h, Or.inl rfl, fun _ => rfl, [], List.Sublist.slnil, rfl⟩
  | cons r rules ih =>
    have hsweep := getElem?_sweep r true es i
    rw [h, Option.map_some] at hsweep
    obtain ⟨e', he', hrewrites⟩ := ih hsweep
    refine ⟨e', he', ?_⟩
    split at hrewrites
    · next htakes => exact hrewrites.cons_of_takes (Bool.and_eq_true_iff.1 htakes).2
    · exact hrewrites.cons

/-- Behind a token that is no rule's own a token becomes what all rules make of it. -/
theorem fst_sweepAll {rules : List Rule} (h : es[i]? = some e) (hblank : isBlank e.2 = true)
    (hbefore : ∀ j f, i = j + 1 → es[j]? = some f → ∀ r ∈ rules, r.raw ≠ f.1) :
    (sweepAll rules es)[i]?.map Prod.fst = some (images rules e.1) := by
  induction rules generalizing es e with
  | nil => simp [sweepAll, h, images]
  | cons r rules ih =>
    have hmiss : ∀ j, i = j + 1 → r.takesAt es j = false := by
      intro j hj
      cases hf : es[j]? with
      | none => simp [takesAt, hf]
      | some f => simp [takesAt_of_getElem? hf, takes, (hbefore j f hj hf r (by simp)).symm]
    have hsweep := getElem?_sweep r true es i
    rw [h, Option.map_some, freeAt_of_not_takes hmiss, Bool.true_and] at hsweep
    obtain ⟨himage, hblank'⟩ := takes_of_isBlank (r := r) hblank
    rw [sweepAll_cons, ih hsweep hblank' ?_, images_cons, himage]
    -- The token before the place is not touched, so it is no rule's own further on.
    intro j f hj hf r' hr'
    rw [getElem?_sweep_of_not_takes (hmiss j hj)] at hf
    exact hbefore j f hj hf r' (List.mem_cons_of_mem r hr')

end Rule

/-! ## The line -/

/-- Of any line the tokens and their separators stay in their places. A token is kept if no
blank follows it, and otherwise becomes what some of the rules make of it, one after the other :
all rules, if it is the first token or if the token before it is no rule's own. A separator is
kept, or is a blank and becomes a space. -/
theorem Dictionary.substitute_tokenwise {d : Dictionary} (hd : d.Whole) (line : Text) :
    (d.substitute line).lastToken = line.lastToken ∧
    (d.substitute line).separated.length = line.separated.length ∧
    ∀ i t c, line.separated[i]? = some (t, c) →
      ∃ t' c', (d.substitute line).separated[i]? = some (t', c') ∧
        (c' = c ∨ isBlank c = true ∧ c' = ' ') ∧
        (isBlank c = false → t' = t) ∧
        (isBlank c = true →
          (∃ rules, rules.Sublist d.rules ∧ t' = Rule.images rules t) ∧
          ((∀ j s b, i = j + 1 → line.separated[j]? = some (s, b) →
              ∀ r ∈ d.rules, Rule.raw r ≠ s) →
            t' = d.image t)) := by
  rw [separated_substitute hd]
  refine ⟨lastToken_substitute hd line, Rule.length_sweepAll _ _, fun i t c h => ?_⟩
  obtain ⟨⟨t', c'⟩, hplace, hrewrites⟩ := Rule.exists_getElem?_sweepAll d.rules h
  refine ⟨t', c', hplace, hrewrites.separator, hrewrites.unspaced, fun hblank => ?_⟩
  refine ⟨hrewrites.token, fun hbefore => ?_⟩
  have hall := Rule.fst_sweepAll h hblank fun j f => hbefore j f.1 f.2
  rw [hplace] at hall
  exact Option.some.inj hall

/-- Of two neighbours the first is replaced, by one rule after another. The second is left, and
so is the token before a parenthesis. -/
theorem Dictionary.substitute_tokenwise_sample :
    let d := ofRules [("long".toList, "int64".toList), ("int64".toList, "Long".toList)]
    let line : Text := "long long long(\tlong\tlong)".toList
    d.Whole ∧ d.substitute line = "Long long long(\tLong long)".toList ∧
      line.separated[4]? = some ("long".toList, '\t') ∧
      ∃ c, (d.substitute line).separated[4]? = some ("Long".toList, c) := by
  intro d line
  have hd : d.Whole := by decide
  have hplace : line.separated[4]? = some ("long".toList, '\t') := by decide
  obtain ⟨t, c, hsub, -, -, hspaced⟩ := (substitute_tokenwise hd line).2.2 4 _ _ hplace
  have hbefore : ∀ j s b, 4 = j + 1 → line.separated[j]? = some (s, b) →
      ∀ r ∈ d.rules, Rule.raw r ≠ s := by
    intro j s b hj hs
    obtain rfl : j = 3 := by omega
    have hempty : line.separated[3]? = some ([], '\t') := by decide
    obtain ⟨rfl, -⟩ := Prod.mk.inj (Option.some.inj (hempty.symm.trans hs))
    decide
  have hall : t = "Long".toList := ((hspaced rfl).2 hbefore).trans (by decide)
  exact ⟨hd, by decide, hplace, c, hall ▸ hsub⟩

end HeaderBridge
