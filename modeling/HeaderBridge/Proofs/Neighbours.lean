import HeaderBridge.Proofs.TokenWise
import Mathlib.Data.List.Induction

/-!
# Neighbouring occurrences of a token

A raw token occurs in a line where a type may begin before it and a blank stands behind it
(`Rule.Occurs`). Two occurrences adjoin if the blank behind the first is what stands before the
second (`Rule.Adjoins`). A match of the rule takes this blank along, so the second occurrence is
left, the third is replaced again, and so on : what counts is the number of occurrences right
before a place (`Rule.freeAt_eq_even`).

So one rule leaves an occurrence in a line just if two of them adjoin there, and none of those
it leaves adjoin (`Dictionary.substitute_neighbours`). A second pass leaves none.
-/

namespace HeaderBridge

open Text

/-! ## Tokens inside a line -/

/-- A token may begin behind the text. -/
def Text.Opening (u : Text) : Prop := ∀ c, u.getLast? = some c → opensType c = true

section

variable {es fs : List (Text × Char)} {last t u v : Text} {c : Char}

theorem rejoin_append (es fs : List (Text × Char)) (last : Text) :
    rejoin (es ++ fs) last = rejoin es [] ++ rejoin fs last := by
  induction es with
  | nil => rfl
  | cons e es ih =>
    obtain ⟨t, c⟩ := e
    simp [ih]

theorem Separated.opening (h : Separated es) : Text.Opening (rejoin es []) := by
  intro c hc
  cases es using List.reverseRecOn with
  | nil => simp at hc
  | append_singleton es e =>
    obtain ⟨t, d⟩ := e
    obtain rfl : d = c := by simpa [rejoin_append] using hc
    exact (h (t, d) (by simp)).2

theorem Text.Opening.exists_rejoin (h : u.Opening) : ∃ es, Separated es ∧ u = rejoin es [] := by
  obtain ⟨es, last, hes, hlast, rfl⟩ := HeaderBridge.exists_rejoin u
  cases last using List.reverseRecOn with
  | nil => exact ⟨es, hes, rfl⟩
  | append_singleton t c =>
    have hlastChar : (rejoin es (t ++ [c])).getLast? = some c := by
      have hsplit := rejoin_append es [] (t ++ [c])
      rw [List.append_nil, rejoin_nil, ← List.append_assoc] at hsplit
      rw [hsplit, List.getLast?_concat]
    have hopen := h c hlastChar
    rw [hlast c (by simp)] at hopen
    exact absurd hopen Bool.false_ne_true

/-- Where a token may begin the line can be cut, and the tokens with it. -/
theorem separated_eq_append_iff {line : Text} :
    line.separated = es ++ fs ↔
      ∃ u v : Text, line = u ++ v ∧ u.Opening ∧ u.separated = es ∧ v.separated = fs := by
  constructor
  · intro h
    obtain ⟨hline, hlast⟩ := separated_separated line
    rw [h] at hline
    have hes : Separated es := fun e he => hline e (List.mem_append_left _ he)
    have hfs : Separated fs := fun e he => hline e (List.mem_append_right _ he)
    refine ⟨rejoin es [], rejoin fs line.lastToken, ?_, hes.opening, ?_, separated_rejoin hfs hlast⟩
    · rw [← rejoin_append, ← h, rejoin_separated]
    · exact separated_rejoin hes unseparated_nil
  · rintro ⟨u, v, rfl, hu, rfl, rfl⟩
    obtain ⟨es, hes, rfl⟩ := hu.exists_rejoin
    obtain ⟨fs, last, hfs, hlast, rfl⟩ := exists_rejoin v
    have happend : Separated (es ++ fs) := List.forall_mem_append.2 ⟨hes, hfs⟩
    rw [← rejoin_append, separated_rejoin happend hlast, separated_rejoin hfs hlast,
      separated_rejoin hes unseparated_nil]

/-- The first token of a line, with the separator behind it. -/
theorem separated_eq_cons_iff {line : Text} (ht : t.Unseparated) (hc : opensType c = true) :
    line.separated = (t, c) :: fs ↔
      ∃ v : Text, line = t ++ c :: v ∧ v.separated = fs := by
  constructor
  · intro h
    obtain ⟨hline, hlast⟩ := separated_separated line
    refine ⟨rejoin fs line.lastToken, ?_, ?_⟩
    · rw [← rejoin_cons, ← h, rejoin_separated]
    · exact separated_rejoin (h ▸ hline).of_cons hlast
  · rintro ⟨v, rfl, rfl⟩
    obtain ⟨fs, last, hfs, hlast, rfl⟩ := exists_rejoin v
    have hcons : Separated ((t, c) :: fs) := List.forall_mem_cons.2 ⟨⟨ht, hc⟩, hfs⟩
    rw [← rejoin_cons, separated_rejoin hcons hlast, separated_rejoin hfs hlast]

/-- A token inside a line, with the separator behind it. -/
theorem separated_eq_append_cons_iff {line : Text} (ht : t.Unseparated) (hc : opensType c = true) :
    line.separated = es ++ (t, c) :: fs ↔
      ∃ u v : Text, line = u ++ (t ++ c :: v) ∧ u.Opening ∧ u.separated = es ∧
        v.separated = fs := by
  rw [separated_eq_append_iff]
  constructor
  · rintro ⟨u, w, rfl, hu, hes, hw⟩
    obtain ⟨v, rfl, hv⟩ := (separated_eq_cons_iff ht hc).1 hw
    exact ⟨u, v, rfl, hu, hes, hv⟩
  · rintro ⟨u, v, rfl, hu, hes, hv⟩
    exact ⟨u, _, rfl, hu, hes, (separated_eq_cons_iff ht hc).2 ⟨v, rfl, hv⟩⟩

theorem drop_of_getElem? {e : Text × Char} {i : Nat} (h : es[i]? = some e) :
    es.drop i = e :: es.drop (i + 1) := by
  obtain ⟨hi, rfl⟩ := List.getElem?_eq_some_iff.1 h
  exact List.drop_eq_getElem_cons hi

end

namespace Rule

/-- The raw token stands where a type may begin, with a blank behind it. -/
def Occurs (r : Rule) (line : Text) : Prop :=
  ∃ u b v, line = u ++ (r.raw ++ b :: v) ∧ u.Opening ∧ isBlank b = true

/-- The raw token stands where a type may begin, and again behind the blank behind it. -/
def Adjoins (r : Rule) (line : Text) : Prop :=
  ∃ u b b' v, line = u ++ (r.raw ++ b :: (r.raw ++ b' :: v)) ∧ u.Opening ∧
    isBlank b = true ∧ isBlank b' = true

variable {r : Rule} {es : List (Text × Char)} {line : Text} {i : Nat}

theorem takesAt_iff :
    r.takesAt es i = true ↔ ∃ b, es[i]? = some (r.raw, b) ∧ isBlank b = true := by
  simp [takesAt, takes, Option.any_eq_true]

/-- An occurrence is a token of the rule at some place of the line. -/
theorem occurs_iff (hr : r.Whole) :
    r.Occurs line ↔ ∃ i, r.takesAt line.separated i = true := by
  constructor
  · rintro ⟨u, b, v, hline, hu, hb⟩
    have hcut := (separated_eq_append_cons_iff hr.raw (opensType_of_isBlank hb)).2
      ⟨u, v, hline, hu, rfl, rfl⟩
    exact ⟨u.separated.length, takesAt_iff.2 ⟨b, by simp [hcut], hb⟩⟩
  · rintro ⟨i, hi⟩
    obtain ⟨b, hplace, hb⟩ := takesAt_iff.1 hi
    have hcut := List.take_append_drop i line.separated
    rw [drop_of_getElem? hplace] at hcut
    obtain ⟨u, v, hline, hu, -, -⟩ :=
      (separated_eq_append_cons_iff hr.raw (opensType_of_isBlank hb)).1 hcut.symm
    exact ⟨u, b, v, hline, hu, hb⟩

/-- Two occurrences that adjoin are tokens of the rule at one place and the next. -/
theorem adjoins_iff (hr : r.Whole) :
    r.Adjoins line ↔
      ∃ i, r.takesAt line.separated i = true ∧ r.takesAt line.separated (i + 1) = true := by
  constructor
  · rintro ⟨u, b, b', v, hline, hu, hb, hb'⟩
    have hnext := (separated_eq_cons_iff hr.raw (opensType_of_isBlank hb')).2 ⟨v, rfl, rfl⟩
    have hcut := (separated_eq_append_cons_iff hr.raw (opensType_of_isBlank hb)).2
      ⟨u, _, hline, hu, rfl, hnext⟩
    exact ⟨u.separated.length, takesAt_iff.2 ⟨b, by simp [hcut], hb⟩,
      takesAt_iff.2 ⟨b', by simp [hcut], hb'⟩⟩
  · rintro ⟨i, hi, hi'⟩
    obtain ⟨b, hplace, hb⟩ := takesAt_iff.1 hi
    obtain ⟨b', hplace', hb'⟩ := takesAt_iff.1 hi'
    have hcut := List.take_append_drop i line.separated
    rw [drop_of_getElem? hplace, drop_of_getElem? hplace'] at hcut
    obtain ⟨u, w, hline, hu, -, hw⟩ :=
      (separated_eq_append_cons_iff hr.raw (opensType_of_isBlank hb)).1 hcut.symm
    obtain ⟨v, rfl, -⟩ := (separated_eq_cons_iff hr.raw (opensType_of_isBlank hb')).1 hw
    exact ⟨u, b, b', v, hline, hu, hb, hb'⟩

/-! ## What a sweep leaves -/

/-- How many tokens of the rule stand one after the other right before a place. -/
def neighbours (r : Rule) (es : List (Text × Char)) : Nat → Nat
  | 0 => 0
  | i + 1 => if r.takesAt es i then r.neighbours es i + 1 else 0

/-- The separator before a place is free if the tokens of the rule right before it are even in
number, since every second of them takes the separator behind it along. -/
theorem freeAt_eq_even (r : Rule) (es : List (Text × Char)) (i : Nat) :
    r.freeAt true es i = decide (r.neighbours es i % 2 = 0) := by
  induction i with
  | zero => exact freeAt_zero r true es
  | succ i ih =>
    rw [freeAt_succ, ih, neighbours]
    cases r.takesAt es i with
    | false =>
      rw [if_neg Bool.false_ne_true, Bool.and_false, Bool.not_false, Nat.zero_mod]
      rfl
    | true =>
      rw [if_pos rfl, Bool.and_true, ← decide_not, decide_eq_decide]
      omega

/-- A sweep leaves the tokens of the rule behind separators that are not free, and no other
token becomes the rule's. -/
theorem takesAt_sweep (hne : r.raw ≠ r.target) (free : Bool) (es : List (Text × Char)) (i : Nat) :
    r.takesAt (r.sweep free es) i = (r.takesAt es i && !r.freeAt free es i) := by
  have htarget : r.takes (r.target, ' ') = false := by simp [takes, hne.symm]
  rw [takesAt, takesAt, getElem?_sweep]
  cases es[i]? with
  | none => rfl
  | some e =>
    rw [Option.map_some, Option.any_some, Option.any_some]
    cases htakes : r.takes e with
    | false => rw [Bool.and_false, if_neg Bool.false_ne_true, htakes, Bool.false_and]
    | true => cases r.freeAt free es i <;> simp [htakes, htarget]

/-- A sweep leaves a token of the rule just if two of them stand at places next to each other. -/
theorem exists_takesAt_sweep_iff (hne : r.raw ≠ r.target) :
    (∃ i, r.takesAt (r.sweep true es) i = true) ↔
      ∃ i, r.takesAt es i = true ∧ r.takesAt es (i + 1) = true := by
  simp only [takesAt_sweep hne, Bool.and_eq_true, Bool.not_eq_true']
  constructor
  · rintro ⟨i, htakes, hfree⟩
    cases i with
    | zero => simp at hfree
    | succ i =>
      rw [freeAt_succ, Bool.not_eq_false', Bool.and_eq_true] at hfree
      exact ⟨i, hfree.2, htakes⟩
  · rintro ⟨i, htakes, hnext⟩
    cases hfree : r.freeAt true es i with
    | false => exact ⟨i, htakes, hfree⟩
    | true => exact ⟨i + 1, hnext, by rw [freeAt_succ, hfree, htakes]; rfl⟩

/-- Of two tokens of the rule next to each other a sweep leaves one at most. -/
theorem not_takesAt_sweep_succ (hne : r.raw ≠ r.target) (h : r.takesAt (r.sweep true es) i = true) :
    r.takesAt (r.sweep true es) (i + 1) = false := by
  rw [takesAt_sweep hne, Bool.and_eq_true, Bool.not_eq_true'] at h
  rw [takesAt_sweep hne, freeAt_succ, h.2, Bool.false_and, Bool.not_false, Bool.not_true,
    Bool.and_false]

end Rule

/-! ## The line -/

/-- Of any line one rule replaces the occurrences of its raw token before which an even number
of them stand one after the other, and nothing else. It leaves an occurrence just if two of the
line adjoin, and applied once more it leaves none. -/
theorem Dictionary.substitute_neighbours {d : Dictionary} {r : Rule} (hd : d.rules = [r])
    (hr : r.Whole) (hne : r.raw ≠ r.target) (line : Text) :
    (d.substitute line).lastToken = line.lastToken ∧
    (∀ i, (d.substitute line).separated[i]? =
      line.separated[i]?.map fun e =>
        if r.takes e ∧ r.neighbours line.separated i % 2 = 0 then (r.target, ' ') else e) ∧
    (r.Occurs (d.substitute line) ↔ r.Adjoins line) ∧
    ¬ r.Occurs (d.substitute (d.substitute line)) := by
  have hwhole : d.Whole := by simpa [Whole, hd] using hr
  have hsweep : ∀ t, (d.substitute t).separated = r.sweep true t.separated := fun t => by
    rw [separated_substitute hwhole, hd]
    rfl
  have hleft : ∀ t, r.Occurs (d.substitute t) ↔ r.Adjoins t := fun t => by
    rw [Rule.occurs_iff hr, Rule.adjoins_iff hr, hsweep, Rule.exists_takesAt_sweep_iff hne]
  refine ⟨lastToken_substitute hwhole line, fun i => ?_, hleft line, fun hagain => ?_⟩
  · rw [hsweep, Rule.getElem?_sweep, Rule.freeAt_eq_even]
    simp [and_comm]
  · obtain ⟨i, hi, hi'⟩ := (Rule.adjoins_iff hr).1 ((hleft _).1 hagain)
    rw [hsweep] at hi hi'
    rw [Rule.not_takesAt_sweep_succ hne hi] at hi'
    exact Bool.false_ne_true hi'

/-- Of three neighbours the second is left by a first pass, and not by a second one. -/
theorem Dictionary.substitute_neighbours_sample :
    let r : Rule := ⟨"long".toList, "NativeLong".toList⟩
    let d := ofRules [("long".toList, "NativeLong".toList)]
    let line : Text := "long long long f(long x);".toList
    d.rules = [r] ∧ r.Whole ∧ r.raw ≠ r.target ∧
      d.substitute line = "NativeLong long NativeLong f(NativeLong x);".toList ∧
      r.Occurs (d.substitute line) ∧ ¬ r.Occurs (d.substitute (d.substitute line)) := by
  intro r d line
  have hr : r.Whole := by decide
  have hadjoins : r.Adjoins line :=
    ⟨[], ' ', ' ', "long f(long x);".toList, rfl, by simp [Text.Opening], rfl, rfl⟩
  obtain ⟨-, -, hleft, hagain⟩ := substitute_neighbours (d := d) rfl hr (by decide) line
  exact ⟨rfl, hr, by decide, by decide, hleft.2 hadjoins, hagain⟩

/-- A rule may leave an occurrence of its raw token : of two neighbours the second is left. -/
theorem exists_occurs_substitute :
    ∃ (d : Dictionary) (r : Rule) (line : Text), d.rules = [r] ∧ r.Whole ∧ r.target ≠ [] ∧
      r.raw ≠ r.target ∧ r.Occurs (d.substitute line) := by
  refine ⟨.ofRules [("long".toList, "NativeLong".toList)], ⟨"long".toList, "NativeLong".toList⟩,
    "long long f(long x);".toList, rfl, by decide, by decide, by decide, ?_⟩
  have hline : (Dictionary.ofRules [("long".toList, "NativeLong".toList)]).substitute
      "long long f(long x);".toList = "NativeLong long f(NativeLong x);".toList := by
    decide +kernel
  have hopening : Text.Opening "NativeLong ".toList := by
    rintro c ⟨⟩
    rfl
  rw [hline]
  exact ⟨"NativeLong ".toList, ' ', "f(NativeLong x);".toList, rfl, hopening, rfl⟩

end HeaderBridge
