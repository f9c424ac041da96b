import HeaderBridge.Proofs.Replacing

/-!
# Whole words of a text

A text has `w` as a whole word if `w` stands in it and no word character stands right before
or right behind it there (`HasWord`). Where two texts meet without a word running over from
the one into the other (`Apart`), the whole words of both together are those of the one and
those of the other (`hasWord_append_iff`), and so it is with joined texts
(`hasWord_join_iff`).

Two ways lead through a text. `runs_induction` takes it run by run, a word at a time, and
`Keeps.replace` takes the matches of a pattern from the left : what one replacement keeps is
kept by the whole pass.
-/

namespace HeaderBridge

namespace Text

instance (w : Text) : Decidable (IsWord w) :=
  decidable_of_iff (w ≠ [] ∧ w.all isWordChar = true)
    ⟨fun h => ⟨h.1, List.all_eq_true.1 h.2⟩, fun h => ⟨h.ne_nil, List.all_eq_true.2 h.all⟩⟩

/-! ## Words that run over -/

/-- No word character stands at the end of the text. -/
def EndsApart (u : Text) : Prop := u.getLast?.any isWordChar = false

/-- No word character stands at the front of the text. -/
def BeginsApart (v : Text) : Prop := v.head?.any isWordChar = false

/-- No word character stands anywhere in the text. -/
def Wordless (t : Text) : Prop := t.any isWordChar = false

/-- No word runs over from the first text into the second. -/
def Apart (u v : Text) : Prop := EndsApart u ∨ BeginsApart v

instance (u : Text) : Decidable (EndsApart u) := inferInstanceAs (Decidable (_ = _))

instance (v : Text) : Decidable (BeginsApart v) := inferInstanceAs (Decidable (_ = _))

instance (t : Text) : Decidable (Wordless t) := inferInstanceAs (Decidable (_ = _))

instance (u v : Text) : Decidable (Apart u v) := inferInstanceAs (Decidable (_ ∨ _))

section

variable {u v w : Text} {c : Char}

@[simp] theorem endsApart_nil : EndsApart [] := rfl

@[simp] theorem beginsApart_nil : BeginsApart [] := rfl

@[simp] theorem beginsApart_cons : BeginsApart (c :: v) ↔ isWordChar c = false := by
  simp [BeginsApart]

/-- A text ends as its last part does. -/
theorem endsApart_append_iff (hv : v ≠ []) : EndsApart (u ++ v) ↔ EndsApart v := by
  simp [EndsApart, List.getLast?_append, List.getLast?_eq_some_getLast hv]

/-- A text begins as its first part does. -/
theorem beginsApart_append_iff (hu : u ≠ []) : BeginsApart (u ++ v) ↔ BeginsApart u := by
  simp [BeginsApart, List.head?_append, List.head?_eq_some_head hu]

theorem EndsApart.append (hu : EndsApart u) (hv : EndsApart v) : EndsApart (u ++ v) := by
  by_cases h : v = []
  · rwa [h, List.append_nil]
  · exact (endsApart_append_iff h).2 hv

theorem BeginsApart.append (hu : BeginsApart u) (hv : BeginsApart v) : BeginsApart (u ++ v) := by
  by_cases h : u = []
  · rwa [h]
  · exact (beginsApart_append_iff h).2 hu

theorem EndsApart.of_append (h : EndsApart (u ++ v)) : EndsApart v := by
  by_cases hv : v = []
  · simp [hv]
  · exact (endsApart_append_iff hv).1 h

theorem BeginsApart.of_append (h : BeginsApart (u ++ v)) : BeginsApart u := by
  by_cases hu : u = []
  · simp [hu]
  · exact (beginsApart_append_iff hu).1 h

theorem wordless_iff : Wordless u ↔ ∀ c ∈ u, isWordChar c = false := by
  simp [Wordless, List.any_eq_false]

theorem Wordless.endsApart (h : Wordless u) : EndsApart u := by
  cases hl : u.getLast? with
  | none => simp [EndsApart, hl]
  | some c => simpa [EndsApart, hl] using wordless_iff.1 h c (List.mem_of_getLast? hl)

theorem Wordless.beginsApart (h : Wordless u) : BeginsApart u := by
  cases u with
  | nil => exact beginsApart_nil
  | cons c u => exact beginsApart_cons.2 (wordless_iff.1 h c (by simp))

theorem wordless_of_isBlank (h : u.isBlank = true) : Wordless u :=
  wordless_iff.2 fun c hc => isWordChar_of_isBlank (List.all_eq_true.1 h c hc)

/-- Behind a text stands its last character. -/
theorem lastFrom_none (u : Text) : lastFrom none u = u.getLast? := by
  cases u with
  | nil => rfl
  | cons c u =>
    show lastFrom (some c) u = _
    induction u generalizing c with
    | nil => rfl
    | cons d u ih =>
      rw [List.getLast?_cons_cons]
      exact ih d

theorem IsWord.of_subset (hw : IsWord w) (hv : v ⊆ w) (hne : v ≠ []) : IsWord v :=
  ⟨hne, fun c hc => hw.all c (hv hc)⟩

theorem IsWord.not_endsApart (hw : IsWord w) : ¬ EndsApart w := by
  have hlast : w.getLast? = some (w.getLast hw.ne_nil) := List.getLast?_eq_some_getLast hw.ne_nil
  simp [EndsApart, hlast, hw.all _ (List.getLast_mem hw.ne_nil)]

theorem IsWord.not_beginsApart (hw : IsWord w) : ¬ BeginsApart w := by
  obtain ⟨c, t, rfl, hc⟩ := hw.exists_cons
  simp [hc]

theorem beginsApart_afterWord (t : Text) : BeginsApart t.afterWord := by
  induction t with
  | nil => exact beginsApart_nil
  | cons c t ih =>
    cases hc : isWordChar c with
    | false => simp [afterWord, hc]
    | true => simpa [afterWord, hc] using ih

/-- A word that does not run over into what follows is read whole. -/
theorem word_append (hw : IsWord w) (hv : BeginsApart v) : word (w ++ v) = w := by
  have hnone : v.takeWhile isWordChar = [] := by
    cases v with
    | nil => rfl
    | cons c v => simp [beginsApart_cons.1 hv]
  rw [word, List.takeWhile_append_of_pos hw.all, hnone, List.append_nil]

end

/-! ## Whole words -/

/-- The text has `w` as a whole word. -/
def HasWord (w t : Text) : Prop := ∃ u v, t = u ++ w ++ v ∧ EndsApart u ∧ BeginsApart v

section

variable {u v w t : Text} {c : Char}

instance decidableHasWord (w t : Text) : Decidable (HasWord w t) :=
  decidable_of_iff (∃ i ∈ List.range (t.length + 1), EndsApart (t.take i) ∧ w <+: t.drop i ∧
      BeginsApart (t.drop (i + w.length))) <| by
    constructor
    · rintro ⟨i, -, hu, ⟨v, hv⟩, hrest⟩
      refine ⟨t.take i, v, by rw [List.append_assoc, hv, List.take_append_drop], hu, ?_⟩
      rwa [← List.drop_drop, ← hv, List.drop_left] at hrest
    · rintro ⟨u, v, rfl, hu, hv⟩
      have hlength : u.length ∈ List.range ((u ++ w ++ v).length + 1) :=
        List.mem_range.2 (by simp only [List.length_append]; omega)
      refine ⟨u.length, hlength, by simpa using hu, ⟨v, by simp⟩, ?_⟩
      simpa [← List.drop_drop] using hv

theorem hasWord_self (w : Text) : HasWord w w := ⟨[], [], by simp, endsApart_nil, beginsApart_nil⟩

/-- A whole word of a whole word is one of the text. -/
theorem HasWord.trans (huv : HasWord u v) (hvt : HasWord v t) : HasWord u t := by
  obtain ⟨a, b, rfl, ha, hb⟩ := huv
  obtain ⟨x, y, rfl, hx, hy⟩ := hvt
  exact ⟨x ++ a, b ++ y, by simp, hx.append ha, hb.append hy⟩

/-- The characters of a whole word stand in the text. -/
theorem HasWord.subset (h : HasWord w t) : w ⊆ t := by
  obtain ⟨u, v, rfl, -, -⟩ := h
  intro c hc
  simp [hc]

theorem not_hasWord_nil (hw : IsWord w) : ¬ HasWord w [] := fun h =>
  hw.ne_nil (List.subset_nil.1 h.subset)

theorem Wordless.not_hasWord (h : Wordless t) (hw : IsWord w) : ¬ HasWord w t := by
  intro ht
  obtain ⟨c, v, rfl, hc⟩ := hw.exists_cons
  simp [wordless_iff.1 h c (ht.subset (by simp))] at hc

/-- The only whole word of a word is the word. -/
theorem IsWord.hasWord_iff (ht : IsWord t) : HasWord w t ↔ w = t := by
  constructor
  · rintro ⟨u, v, rfl, hu, hv⟩
    have hnil : u = [] := Decidable.byContradiction fun hne =>
      (ht.of_subset (by simp) hne).not_endsApart hu
    have hnil' : v = [] := Decidable.byContradiction fun hne =>
      (ht.of_subset (by simp) hne).not_beginsApart hv
    simp [hnil, hnil']
  · rintro rfl
    exact hasWord_self w

/-- A whole word of the first text is one of both together. -/
theorem HasWord.append_right (h : HasWord w u) (hw : IsWord w) (ha : Apart u v) :
    HasWord w (u ++ v) := by
  obtain ⟨a, b, rfl, hleft, hright⟩ := h
  refine ⟨a, b ++ v, by simp, hleft, ?_⟩
  by_cases hb : b = []
  · subst hb
    have hend : ¬ EndsApart (a ++ w) := fun h => hw.not_endsApart h.of_append
    rw [List.append_nil] at ha
    exact ha.resolve_left hend
  · exact (beginsApart_append_iff hb).2 hright

/-- A whole word of the second text is one of both together. -/
theorem HasWord.append_left (h : HasWord w v) (hw : IsWord w) (ha : Apart u v) :
    HasWord w (u ++ v) := by
  obtain ⟨a, b, rfl, hleft, hright⟩ := h
  refine ⟨u ++ a, b, by simp, ?_, hright⟩
  by_cases hb : a = []
  · subst hb
    have hbegin : ¬ BeginsApart (w ++ b) := fun h => hw.not_beginsApart h.of_append
    rw [List.append_nil]
    exact ha.resolve_right hbegin
  · exact (endsApart_append_iff hb).2 hleft

/-- Where no word runs over from one text into the next, the whole words of both are those of
the one and those of the other. -/
theorem hasWord_append_iff (hw : IsWord w) (ha : Apart u v) :
    HasWord w (u ++ v) ↔ HasWord w u ∨ HasWord w v := by
  refine ⟨?_, fun h => h.elim (·.append_right hw ha) (·.append_left hw ha)⟩
  rintro ⟨a, b, hab, hleft, hright⟩
  rcases List.append_eq_append_iff.1 hab with ⟨x, hx, rfl⟩ | ⟨x, rfl, rfl⟩
  · rcases List.append_eq_append_iff.1 hx with ⟨y, rfl, rfl⟩ | ⟨y, rfl, rfl⟩
    · -- The seam cuts `w` into `y` and `x`, so one of the two is empty.
      by_cases hy : y = []
      · subst hy
        exact Or.inr ⟨[], b, by simp, endsApart_nil, hright⟩
      by_cases hx : x = []
      · subst hx
        exact Or.inl ⟨a, [], by simp, hleft, beginsApart_nil⟩
      rcases ha with ha | ha
      · exact absurd ha.of_append (hw.of_subset (by simp) hy).not_endsApart
      · exact absurd ha.of_append (hw.of_subset (by simp) hx).not_beginsApart
    · exact Or.inr ⟨y, b, by simp, hleft.of_append, hright⟩
  · exact Or.inl ⟨a, x, by simp, hleft, hright.of_append⟩

theorem hasWord_append_of_left (hw : IsWord w) (hu : EndsApart u) :
    HasWord w (u ++ v) ↔ HasWord w u ∨ HasWord w v :=
  hasWord_append_iff hw (Or.inl hu)

theorem hasWord_append_of_right (hw : IsWord w) (hv : BeginsApart v) :
    HasWord w (u ++ v) ↔ HasWord w u ∨ HasWord w v :=
  hasWord_append_iff hw (Or.inr hv)

/-- A text that begins and ends apart keeps the words before it and behind it apart. -/
theorem hasWord_between_iff (hw : IsWord w) (hne : v ≠ []) (hbegin : BeginsApart v)
    (hend : EndsApart v) :
    HasWord w (u ++ v ++ t) ↔ (HasWord w u ∨ HasWord w v) ∨ HasWord w t := by
  rw [hasWord_append_of_left hw ((endsApart_append_iff hne).2 hend),
    hasWord_append_of_right hw hbegin]

/-- A character that is no word character keeps the words before it and behind it apart. -/
theorem hasWord_append_cons_iff (hw : IsWord w) (hc : isWordChar c = false) :
    HasWord w (u ++ c :: v) ↔ HasWord w u ∨ HasWord w v := by
  have hone : Wordless [c] := by simpa [Wordless] using hc
  have hv : HasWord w ([c] ++ v) ↔ HasWord w v := by
    rw [hasWord_append_iff hw (Or.inl hone.endsApart)]
    simp [hone.not_hasWord hw]
  rw [hasWord_append_iff hw (Or.inr (beginsApart_cons.2 hc)), ← hv]
  rfl

theorem hasWord_cons_iff (hw : IsWord w) (hc : isWordChar c = false) :
    HasWord w (c :: v) ↔ HasWord w v := by
  simpa [not_hasWord_nil hw] using hasWord_append_cons_iff (u := []) hw hc

/-! ## Joined texts -/

/-- Joined texts have the whole words of the texts, if no word character is in what separates
them. -/
theorem hasWord_join_iff (hw : IsWord w) {sep : Text} (hne : sep ≠ [])
    (hsep : Wordless sep) {ts : List Text} :
    HasWord w (join sep ts) ↔ ∃ t ∈ ts, HasWord w t := by
  induction ts with
  | nil => simp [not_hasWord_nil hw]
  | cons t ts ih =>
    cases ts with
    | nil => simp
    | cons t' ts =>
      have hleft : Apart sep (join sep (t' :: ts)) := Or.inl hsep.endsApart
      have hright : Apart t (sep ++ join sep (t' :: ts)) :=
        Or.inr ((beginsApart_append_iff hne).2 hsep.beginsApart)
      rw [join_cons_cons, List.append_assoc, hasWord_append_iff hw hright,
        hasWord_append_iff hw hleft, ih]
      simp [hsep.not_hasWord hw]

end

/-! ## Ways through a text -/

/-- Induction over the runs of a text : the characters that are no word characters, one by
one, and the words, each of them whole. -/
theorem runs_induction {motive : Text → Prop} (nil : motive [])
    (cons : ∀ c t, isWordChar c = false → motive t → motive (c :: t))
    (word : ∀ w t, IsWord w → BeginsApart t → motive t → motive (w ++ t)) : ∀ t, motive t
  | [] => nil
  | c :: t => by
    cases hc : isWordChar c with
    | false => exact cons c t hc (runs_induction nil cons word t)
    | true =>
      have hw : IsWord (Text.word (c :: t)) :=
        ⟨by simp [Text.word, hc], fun d hd => List.all_eq_true.1 List.all_takeWhile d hd⟩
      have hrest : afterWord (c :: t) = afterWord t := by simp [afterWord, hc]
      rw [← word_append_afterWord (c :: t), hrest]
      exact word _ _ hw (beginsApart_afterWord t) (runs_induction nil cons word (afterWord t))
termination_by t => t.length
decreasing_by
  · simp
  · exact Nat.lt_succ_of_le (List.dropWhile_suffix _).length_le

/-- Each single replacement of a match keeps `P`, whatever stands before the match. Only at the
start of the line does nothing stand there. -/
def Keeps (P : Text → Prop) (find : Option Char → Text → Option (Nat × Text)) : Prop :=
  ∀ p t n new, find p t = some (n, new) → ∃ a rest, t = a ++ rest ∧ a ≠ [] ∧ n = a.length ∧
    ∀ pre, (p = none → pre = []) → P (pre ++ t) → P (pre ++ (new ++ rest))

theorem Keeps.replaceMatches {P : Text → Prop} {find : Option Char → Text → Option (Nat × Text)}
    (hfind : Keeps P find) (pre t : Text) (p : Option Char) (hp : p = none → pre = [])
    (h : P (pre ++ t)) : P (pre ++ replaceMatches find p 0 t) := by
  induction hlen : t.length using Nat.strongRecOn generalizing pre t p with
  | _ n ih =>
  cases t with
  | nil => exact h
  | cons c t =>
    cases hm : find p (c :: t) with
    | none =>
      have hnext := ih t.length (by simp [← hlen]) (pre ++ [c]) t (some c) (by simp)
        (by simpa using h) rfl
      rw [replaceMatches_cons hm]
      simpa using hnext
    | some m =>
      obtain ⟨a, rest, ht, ha, hn, hkeep⟩ := hfind p (c :: t) m.1 m.2 hm
      obtain ⟨x, -, hx⟩ := exists_lastFrom p ha
      have hshort : rest.length < n := by
        have hpos := List.length_pos_iff.2 ha
        rw [← hlen, ht, List.length_append]
        omega
      have hnext := ih rest.length hshort (pre ++ m.2) rest (some x) (by simp)
        (by simpa using hkeep pre hp h) rfl
      rw [ht, replaceMatches_match ha (by rw [← ht, hm, ← hn]), hx]
      simpa using hnext

/-- What every single replacement keeps is kept by a pass over the text. -/
theorem Keeps.replace {P : Text → Prop} {find : Option Char → Text → Option (Nat × Text)}
    (hfind : Keeps P find) {t : Text} (h : P t) : P (t.replace find) :=
  hfind.replaceMatches [] t none (fun _ => rfl) h

end Text

end HeaderBridge
