import HeaderBridge.Text.Blank
import HeaderBridge.Text.Word

/-!
# Text

Text is the list of its characters. Declarations, type tokens, names and messages are
all text, and every rule of the library reads its text from the left.

`strip` takes the blanks off both ends. `strip_append_strip` says that nothing but
blanks is taken, and `strip_eq_nil_iff` that blank text is what it takes whole.
-/

namespace HeaderBridge

/-- Text, as the list of its characters. -/
abbrev Text := List Char

/-- Texts are compared character by character. -/
instance : LawfulBEq Text := List.instLawfulBEq

namespace Text

/-- Every character is blank. -/
def isBlank (t : Text) : Bool := t.all HeaderBridge.isBlank

/-- The blanks at the front of the text. -/
def leadingBlanks (t : Text) : Text := t.takeWhile HeaderBridge.isBlank

/-- The text without the blanks at its front. -/
def dropBlanks (t : Text) : Text := t.dropWhile HeaderBridge.isBlank

/-- The text without the blanks at its end. -/
def dropTrailingBlanks (t : Text) : Text :=
  (dropBlanks t.reverse).reverse

/-- The text without the blanks at its two ends. -/
def strip (t : Text) : Text := (dropBlanks t).dropTrailingBlanks

/-- The word at the front of the text: its longest run of word characters there. -/
def word (t : Text) : Text := t.takeWhile isWordChar

/-- What follows the word at the front of the text. -/
def afterWord (t : Text) : Text := t.dropWhile isWordChar

/-- The word at the front of the text, if there is one, and what follows it. -/
def word? (t : Text) : Option (Text × Text) :=
  if t.word.isEmpty then none else some (t.word, t.afterWord)

/-- What follows the blank at the front of the text, if there is one. -/
def blank? : Text → Option Text
  | [] => none
  | c :: cs => if HeaderBridge.isBlank c then some cs else none

/-- What follows the character `c` at the front of the text, if it stands there. -/
def char? (c : Char) : Text → Option Text
  | [] => none
  | d :: cs => if d = c then some cs else none

/-- The texts one after another, with `sep` between neighbours. -/
def join (sep : Text) (ts : List Text) : Text := List.intercalate sep ts

/-- Each text followed by a line end. -/
def unlines (ts : List Text) : Text := ts.flatMap (· ++ ['\n'])

@[simp] theorem leadingBlanks_append_dropBlanks (t : Text) :
    t.leadingBlanks ++ t.dropBlanks = t :=
  List.takeWhile_append_dropWhile

@[simp] theorem word_append_afterWord (t : Text) : t.word ++ t.afterWord = t :=
  List.takeWhile_append_dropWhile

/-- Nothing is left of blank text once its leading blanks are dropped. -/
theorem dropBlanks_eq_nil {t : Text} (h : t.isBlank = true) : t.dropBlanks = [] := by
  induction t with
  | nil => rfl
  | cons c t ih =>
    simp only [isBlank, List.all_cons, Bool.and_eq_true] at h
    simpa [dropBlanks, h.1] using ih h.2

/-- What is taken off the end is blank. -/
theorem exists_dropTrailingBlanks (t : Text) :
    ∃ s : Text, s.isBlank = true ∧ t.dropTrailingBlanks ++ s = t := by
  refine ⟨(leadingBlanks t.reverse).reverse, ?_, ?_⟩
  · simp only [isBlank, leadingBlanks, List.all_reverse]
    exact List.all_takeWhile
  · rw [dropTrailingBlanks, ← List.reverse_append, leadingBlanks_append_dropBlanks,
      List.reverse_reverse]

/-- Nothing but blanks is stripped. -/
theorem strip_append_strip (t : Text) :
    ∃ s e : Text, s.isBlank = true ∧ e.isBlank = true ∧ s ++ t.strip ++ e = t := by
  obtain ⟨e, he, h⟩ := exists_dropTrailingBlanks t.dropBlanks
  refine ⟨t.leadingBlanks, e, List.all_takeWhile, he, ?_⟩
  rw [strip, List.append_assoc, h, leadingBlanks_append_dropBlanks]

/-- Stripping leaves nothing of blank text, and of blank text only. -/
theorem strip_eq_nil_iff {t : Text} : t.strip = [] ↔ t.isBlank = true := by
  constructor
  · intro h
    obtain ⟨s, e, hs, he, ht⟩ := strip_append_strip t
    rw [← ht, h]
    simp only [isBlank, List.append_nil, List.all_append, Bool.and_eq_true]
    exact ⟨hs, he⟩
  · intro h
    have h' : dropBlanks t = [] := dropBlanks_eq_nil h
    rw [strip, h', dropTrailingBlanks, List.reverse_nil]
    rfl

end Text

end HeaderBridge
