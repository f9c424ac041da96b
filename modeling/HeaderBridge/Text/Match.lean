import HeaderBridge.Text

/-!
# Matches in a text

A pattern looks at one place of a text: it is given the character before that place,
if there is one, and the text from there on. Matches are taken from the left, each
beginning where the one before it ended at the earliest. `search` finds the first
match, `replaceMatches` puts new text in the place of every match, and `splitMatches`
cuts the text at the matches, into one piece at least (`splitMatches_ne_nil`).
-/

namespace HeaderBridge

namespace Text

/-- The result of the pattern at the first place where it has one. -/
def search {α : Type} (find : Option Char → Text → Option α) :
    Option Char → Text → Option α
  | prev, [] => find prev []
  | prev, c :: cs =>
    match find prev (c :: cs) with
    | some a => some a
    | none => search find (some c) cs

/-- Replaces the matches of a pattern. A match `(n, new)` takes `n` characters, at
least one, and puts `new` in their place. The number counts the characters still to be
passed over as part of the last match. -/
def replaceMatches (find : Option Char → Text → Option (Nat × Text)) :
    Option Char → Nat → Text → Text
  | _, _, [] => []
  | _, k + 1, c :: cs => replaceMatches find (some c) k cs
  | prev, 0, c :: cs =>
    match find prev (c :: cs) with
    | some (n, new) => new ++ replaceMatches find (some c) (n - 1) cs
    | none => c :: replaceMatches find (some c) 0 cs

/-- Replaces every match of the pattern in the text. -/
def replace (find : Option Char → Text → Option (Nat × Text)) (t : Text) : Text :=
  replaceMatches find none 0 t

/-- Cuts the text at the matches of a pattern, given by their lengths. The pieces
between the matches are kept, empty ones too. -/
def splitMatches (find : Text → Option Nat) : Nat → Text → List Text
  | _, [] => [[]]
  | k + 1, _ :: cs => splitMatches find k cs
  | 0, c :: cs =>
    match find (c :: cs) with
    | some n => [] :: splitMatches find (n - 1) cs
    | none =>
      match splitMatches find 0 cs with
      | [] => [[c]]
      | p :: ps => (c :: p) :: ps

/-- The text begins with `w`. -/
def beginsWith (w t : Text) : Bool := w.isPrefixOf t

/-- The pattern that matches `w` itself. -/
def exactly (w new : Text) (_ : Option Char) (t : Text) : Option (Nat × Text) :=
  if beginsWith w t then some (w.length, new) else none

/-- The text without the occurrences of `w`, taken from the left. -/
def removeAll (w t : Text) : Text := t.replace (exactly w [])

/-- A place between a word character and something else, seen from the character
before it and the text after it. -/
def atWordBoundary (prev : Option Char) (t : Text) : Bool :=
  prev.any isWordChar != t.head?.any isWordChar

theorem splitMatches_ne_nil (find : Text → Option Nat) (k : Nat) (t : Text) :
    splitMatches find k t ≠ [] := by
  induction t generalizing k with
  | nil => cases k <;> simp [splitMatches]
  | cons c cs ih =>
    cases k with
    | succ k => simpa [splitMatches] using ih k
    | zero =>
      simp only [splitMatches]
      split
      · simp
      · split <;> simp

end Text

end HeaderBridge
