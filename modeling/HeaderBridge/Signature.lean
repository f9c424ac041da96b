import HeaderBridge.Diagnostic
import HeaderBridge.Dictionary
import HeaderBridge.Text.Digit
import HeaderBridge.Text.Match

/-!
# Signatures

The signature of a line with Java types is read by three readers that know nothing of
one another: one finds the name of the function, one the names of the parameters and
one the types. On a line that is no plain list of types and names they may disagree,
and `Signature.check` reports where they visibly do.

`check_eq_nil_iff` says which signatures are not reported.
-/

namespace HeaderBridge

/-- What is known of a function. -/
structure Signature where
  returnType : Text
  name : Text
  paramTypes : List Text := []
  paramNames : List Text := []
  deriving DecidableEq, Repr

namespace Signature

/-- The return type and the parameter types, blank ones left out. -/
def types (s : Signature) : List Text :=
  (s.returnType :: s.paramTypes).filter fun t => !t.isBlank

/-- The function has no result. -/
def returnsVoid (s : Signature) : Bool := s.returnType = voidType

/-! ## Names -/

/-- A character that may begin an ASCII identifier. -/
def isIdentStart (c : Char) : Bool := c.isAlpha || c = '_'

/-- A character that may stand in an ASCII identifier. -/
def isIdentChar (c : Char) : Bool := c.isAlphanum || c = '_'

/-- The ASCII identifier at this place, not within a word, with a parenthesis after it. -/
def nameAt? (prev : Option Char) (t : Text) : Option Text :=
  let name := t.takeWhile isIdentChar
  if name.head?.any isIdentStart && !prev.any isWordChar &&
      (Text.dropBlanks (t.dropWhile isIdentChar)).head? = some '(' then
    some name
  else none

/-- The name of the function, empty if there is none. -/
def readName (line : Text) : Text := (Text.search nameAt? none line).getD []

/-- The word at this place, not cut at either end, with a comma or a parenthesis
after it. -/
def paramNameAt? (prev : Option Char) (t : Text) : Option Text :=
  let next := (t.afterWord).dropBlanks.head?
  if !prev.any isWordChar && !t.word.isEmpty && (next = some ',' || next = some ')') then
    some t.word
  else none

/-- The parameter names from this place on. -/
def paramNamesFrom : Option Char → Text → List Text
  | _, [] => []
  | prev, c :: cs =>
    match paramNameAt? prev (c :: cs) with
    | some name => name :: paramNamesFrom (some c) cs
    | none => paramNamesFrom (some c) cs

/-- The names of the parameters. -/
def readParamNames (line : Text) : List Text := paramNamesFrom none line

/-! ## Types -/

/-- The brackets of an array type, if they stand here, and what follows. -/
def brackets (t : Text) : Text × Text :=
  match "[]".toList.isPrefixOf? t with
  | some rest => ("[]".toList, rest)
  | none => ([], t)

/-- What follows the blanks at the front of the text, if there are any. -/
def afterBlanks? (t : Text) : Option Text :=
  if t.leadingBlanks.isEmpty then none else some t.dropBlanks

/-- The text up to the first closing parenthesis, if there is one. -/
def untilParen? (t : Text) : Option Text :=
  if t.contains ')' then some (t.takeWhile (· ≠ ')')) else none

/-- The return type at this place and the text of the parameter list: a type, a name
and the parentheses. -/
def typesAt? (_ : Option Char) (t : Text) : Option (Text × Text) := do
  let (type, rest) ← Text.word? t
  let (suffix, rest) := brackets rest
  let rest ← afterBlanks? rest
  let (_, rest) ← Text.word? rest
  let rest ← Text.char? '(' rest.dropBlanks
  let params ← untilParen? rest
  return (type ++ suffix, params)

/-- The length of a parameter's name at this place: a blank and a word, with the comma
and the blank that end the parameter if they follow. -/
def paramName? (t : Text) : Option Nat := do
  let rest ← Text.blank? t
  let (name, rest) ← Text.word? rest
  match Text.char? ',' rest >>= Text.blank? with
  | some _ => return name.length + 3
  | none => return name.length + 1

/-- The types in the text of a parameter list: what stands between the names, without
the empty pieces at the end. -/
def readParamTypes (params : Text) : List Text :=
  ((Text.splitMatches paramName? 0 params).reverse.dropWhile List.isEmpty).reverse

/-- The return type and the parameter types, empty if the line has no signature. -/
def readTypes (line : Text) : Text × List Text :=
  match Text.search typesAt? none line with
  | some (type, params) => (type, readParamTypes params)
  | none => ([], [])

/-! ## Signatures of lines -/

/-- The signature that the readers find on a line. -/
def ofLine (line : Text) : Signature :=
  { returnType := (readTypes line).1
    name := readName line
    paramTypes := (readTypes line).2
    paramNames := readParamNames line }

/-- The report on a line without a function name. -/
def unreadable (line : Text) : Diagnostic :=
  warning ("Cannot extract function signature for row: ".toList ++ line)

/-- The report on a function whose parameters have not as many names as types. -/
def countMismatch (s : Signature) : Diagnostic :=
  warning ("Parameter count mismatch in ".toList ++ s.name ++ ": ".toList ++
    numeral s.paramNames.length ++ " names, ".toList ++
    numeral s.paramTypes.length ++ " types".toList)

/-- What is reported of the signature of a line. -/
def check (s : Signature) (line : Text) : Diagnostics :=
  if s.name.isEmpty then [unreadable line]
  else if s.paramNames.length = s.paramTypes.length then []
  else [s.countMismatch]

/-- A signature is not reported exactly if it has a name and as many parameter names
as parameter types. -/
theorem check_eq_nil_iff {s : Signature} {line : Text} :
    s.check line = [] ↔ s.name ≠ [] ∧ s.paramNames.length = s.paramTypes.length := by
  unfold check
  split
  · next h => simp [List.isEmpty_iff.1 h]
  · next h =>
    have hn : s.name ≠ [] := fun hn => h (by simp [hn])
    split <;> simp_all

end Signature

end HeaderBridge
