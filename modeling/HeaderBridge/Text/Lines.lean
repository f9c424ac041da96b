import HeaderBridge.Text

/-!
# Lines of a text

A carriage return, alone or before a line feed, is read as a line feed. Lines end at
every line break, the vertical tab, form feed and separator characters among them; the
break at the end of the text ends the last line and begins none. `splitLines_unlines`
says that lines without a break are read back as they were written.
-/

namespace HeaderBridge

/-- A character that ends a line. -/
def isLineBreak (c : Char) : Bool :=
  let n := c.toNat
  (10 ≤ n && n ≤ 13) || (28 ≤ n && n ≤ 30) || n == 0x85 || n == 0x2028 || n == 0x2029

namespace Text

/-- Reads each carriage return, alone or before a line feed, as a line feed. -/
def normalizeNewlines : Text → Text
  | '\r' :: '\n' :: cs => '\n' :: normalizeNewlines cs
  | c :: cs => (if c = '\r' then '\n' else c) :: normalizeNewlines cs
  | [] => []

/-- The lines of a text. -/
def splitLines : Text → List Text
  | [] => []
  | c :: cs =>
    if isLineBreak c then [] :: splitLines cs
    else
      match splitLines cs with
      | [] => [[c]]
      | l :: ls => (c :: l) :: ls

/-- The lines of a file's text. -/
def fileLines (t : Text) : List Text := splitLines (normalizeNewlines t)

theorem splitLines_append_break {l : Text} (h : ∀ c ∈ l, isLineBreak c = false) {b : Char}
    (hb : isLineBreak b = true) (t : Text) :
    splitLines (l ++ b :: t) = l :: splitLines t := by
  induction l with
  | nil => simp [splitLines, hb]
  | cons c l ih =>
    have hc : isLineBreak c = false := h c (by simp)
    have hl : ∀ c ∈ l, isLineBreak c = false := fun d hd => h d (by simp [hd])
    simp [splitLines, hc, ih hl]

/-- Lines without a break are read back as they were written. -/
theorem splitLines_unlines {ls : List Text} (h : ∀ l ∈ ls, ∀ c ∈ l, isLineBreak c = false) :
    splitLines (unlines ls) = ls := by
  induction ls with
  | nil => rfl
  | cons l ls ih =>
    have hl : ∀ c ∈ l, isLineBreak c = false := h l (by simp)
    have hls : ∀ l ∈ ls, ∀ c ∈ l, isLineBreak c = false := fun m hm => h m (by simp [hm])
    have hu : unlines (l :: ls) = l ++ '\n' :: unlines ls := by simp [unlines]
    rw [hu, splitLines_append_break hl (by decide), ih hls]

end Text

end HeaderBridge
