import HeaderBridge.Proofs.Neighbours
import HeaderBridge.Proofs.ReservedWord

/-!
# Lines that a rule changes

A rule matches in a line exactly if its raw token occurs there (`Rule.occurs_iff_match?`). So a
line without an occurrence is left as it is, and if the target is longer than the raw token,
every other line is changed (`Rule.apply_eq_self_iff`) : a pass that lengthens each match
lengthens the text (`Text.Lengthens.length_lt`).

This holds for a rule with an empty raw token as well, which occurs wherever a blank stands at
the start of a line or behind another opening character (`Rule.apply_eq_self_iff_of_raw_nil`).
-/

namespace HeaderBridge

open Text

/-! ## Passes that lengthen -/

namespace Text

section

variable {find : Option Char → Text → Option (Nat × Text)}

/-- The pass lengthens every match. -/
def Lengthens (find : Option Char → Text → Option (Nat × Text)) : Prop :=
  ∀ p t n new, find p t = some (n, new) → 0 < n ∧ n < new.length

/-- Nothing is lost but what is still to be passed over of the last match. -/
theorem Lengthens.length_le (hgrow : Lengthens find) (p : Option Char) (k : Nat) (t : Text) :
    t.length ≤ (replaceMatches find p k t).length + k := by
  induction t generalizing p k with
  | nil => simp
  | cons c t ih =>
    cases k with
    | succ k =>
      have hrest := ih (some c) k
      simp only [replaceMatches, List.length_cons]
      omega
    | zero =>
      cases hm : find p (c :: t) with
      | none =>
        have hrest := ih (some c) 0
        rw [replaceMatches_cons hm, List.length_cons, List.length_cons]
        omega
      | some m =>
        obtain ⟨n, new⟩ := m
        have hrest := ih (some c) (n - 1)
        obtain ⟨hpos, hnew⟩ := hgrow _ _ _ _ hm
        simp only [replaceMatches, hm, List.length_cons, List.length_append]
        omega

/-- A text is lengthened if a match begins at its start. -/
theorem Lengthens.length_lt_of_match (hgrow : Lengthens find) {p : Option Char} {c : Char}
    {t : Text} (hm : find p (c :: t) ≠ none) :
    (c :: t).length < (replaceMatches find p 0 (c :: t)).length := by
  obtain ⟨⟨n, new⟩, hm⟩ := Option.ne_none_iff_exists'.1 hm
  obtain ⟨hpos, hnew⟩ := hgrow _ _ _ _ hm
  have hrest := hgrow.length_le (some c) (n - 1) t
  simp only [replaceMatches, hm, List.length_cons, List.length_append]
  omega

/-- A text with a match is lengthened by a pass that lengthens every match. -/
theorem Lengthens.length_lt (hgrow : Lengthens find) {p : Option Char} {u v : Text} (hv : v ≠ [])
    (hm : find (lastFrom p u) v ≠ none) :
    (u ++ v).length < (replaceMatches find p 0 (u ++ v)).length := by
  induction u generalizing p with
  | nil =>
    obtain ⟨c, t, rfl⟩ := List.exists_cons_of_ne_nil hv
    exact hgrow.length_lt_of_match hm
  | cons c u ih =>
    -- Either a match begins here already, or the pass goes on to the one that is known.
    by_cases hfirst : find p (c :: (u ++ v)) = none
    · have hrest := ih (p := some c) hm
      rw [List.cons_append, replaceMatches_cons hfirst, List.length_cons, List.length_cons]
      omega
    · exact hgrow.length_lt_of_match hfirst

end

end Text

/-! ## Matches of a rule -/

namespace Rule

variable {r : Rule} {line : Text}

/-- Behind a character that opens a type a type may begin. -/
theorem mem_typeStarts {u t : Text} (hu : u.Opening) (ht : t ≠ []) :
    ∃ v w k, u = v ++ w ∧ (k, t) ∈ typeStarts (lastFrom none v) (w ++ t) := by
  obtain ⟨c, t, rfl⟩ := List.exists_cons_of_ne_nil ht
  cases u using List.reverseRecOn with
  | nil => exact ⟨[], [], 0, rfl, by simp [typeStarts, typePlaces, lastFrom]⟩
  | append_singleton u d =>
    have hd : opensType d = true := hu d (by simp)
    have hmem : (1, c :: t) ∈ (typePlaces 1 (c :: t)).reverse := by simp [typePlaces]
    refine ⟨u, [d], 1, rfl, ?_⟩
    simp only [typeStarts, typePlaces, List.singleton_append, hd, if_true]
    split
    · exact List.mem_cons_of_mem _ hmem
    · exact hmem

/-- The raw token occurs in a line exactly if there is a match. -/
theorem occurs_iff_match? :
    r.Occurs line ↔
      ∃ u v, line = u ++ v ∧ v ≠ [] ∧ r.match? (lastFrom none u) v ≠ none := by
  constructor
  · rintro ⟨u, b, rest, rfl, hu, hb⟩
    obtain ⟨v, w, k, rfl, hmem⟩ := mem_typeStarts hu (t := r.raw ++ b :: rest) (by simp)
    refine ⟨v, w ++ (r.raw ++ b :: rest), by simp, by simp, fun hnone => ?_⟩
    have hplace := List.findSome?_eq_none_iff.1 hnone _ hmem
    simp [isPrefixOf?_append, Text.blank?, hb] at hplace
  · rintro ⟨u, v, rfl, -, h⟩
    obtain ⟨⟨n, new⟩, hm⟩ := Option.ne_none_iff_exists'.1 h
    obtain ⟨o, b, rest, rfl, -, -, hb, ho, hstart⟩ := exists_of_match? hm
    refine ⟨u ++ o, b, rest, by simp, fun c hc => ?_, hb⟩
    cases o using List.reverseRecOn with
    | nil =>
      -- No character opens the type, so it begins at the start of the line.
      cases u with
      | nil => simp at hc
      | cons d u =>
        obtain ⟨y, hy⟩ := exists_lastFrom_some d u
        rw [show lastFrom none (d :: u) = some y from hy] at hstart
        exact absurd (hstart rfl) (by simp)
    | append_singleton o d =>
      obtain rfl : d = c := by simpa using hc
      exact ho d (by simp)

theorem lengthens_match? (hr : r.raw.length < r.target.length) : Lengthens r.match? := by
  intro p t n new hm
  obtain ⟨o, b, rest, -, rfl, rfl, -⟩ := exists_of_match? hm
  simp only [List.length_append, List.length_singleton]
  omega

/-- A rule whose target is longer than its raw token changes a line exactly if the token occurs
there. -/
theorem apply_eq_self_iff (hr : r.raw.length < r.target.length) :
    r.apply line = line ↔ ¬ r.Occurs line := by
  rw [occurs_iff_match?]
  constructor
  · rintro hself ⟨u, v, rfl, hv, hm⟩
    have hlength := (lengthens_match? hr).length_lt hv hm
    rw [show replaceMatches r.match? none 0 (u ++ v) = u ++ v from hself] at hlength
    exact absurd hlength (Nat.lt_irrefl _)
  · intro hnone
    have hmiss : ∀ u v, line = u ++ v → v ≠ [] → r.match? (lastFrom none u) (v ++ []) = none := by
      intro u v hline hv
      rw [List.append_nil]
      exact Decidable.not_not.1 fun hm => hnone ⟨u, v, hline, hv, hm⟩
    have hkept := replaceMatches_append line [] none hmiss
    rw [List.append_nil] at hkept
    exact hkept.trans (List.append_nil line)

/-- A rule with an empty raw token changes a line exactly if a blank stands at the start of the
line, or behind a blank or an opening parenthesis. -/
theorem apply_eq_self_iff_of_raw_nil (hraw : r.raw = []) (htarget : r.target ≠ []) :
    r.apply line = line ↔
      ∀ (u : Text) b v, line = u ++ b :: v → isBlank b = true → ¬ u.Opening := by
  have hr : r.raw.length < r.target.length := by
    rw [hraw]
    exact List.length_pos_iff.2 htarget
  rw [apply_eq_self_iff hr, Occurs, hraw]
  constructor
  · exact fun hnone u b v hline hb hu => hnone ⟨u, b, v, hline, hu, hb⟩
  · rintro hnone ⟨u, b, v, hline, hu, hb⟩
    exact hnone u b v hline hb hu

end Rule

end HeaderBridge
