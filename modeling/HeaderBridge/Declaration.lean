import HeaderBridge.Dictionary
import HeaderBridge.Text.Match

/-!
# Declaration lines

A declaration line of a C header becomes a line with Java types in four steps: the
qualifiers that mean nothing across the foreign function interface are dropped, pointer
types become markers, a few spellings that no rule can express are put right, and at
last every rule of the dictionary is applied, one rule after the other, to the whole
line.

`javaLine_of_isBlank` says that a blank line is left as it is, and `javaLine_eq` what
happens to any other.
-/

namespace HeaderBridge

/-! ## Qualifiers -/

/-- The qualifiers that mean nothing across the interface. -/
def qualifiers : List Text :=
  ["extern ".toList, "const ".toList, "static inline ".toList]

/-- The line without its qualifiers. -/
def dropQualifiers (line : Text) : Text :=
  qualifiers.foldl (fun t q => Text.removeAll q t) line

/-! ## Pointers -/

/-- A pointer to characters: the type, a blank and a star. -/
def charPointer (_ : Option Char) (t : Text) : Option (Nat × Text) := do
  let rest ← "char".toList.isPrefixOf? t
  let rest ← Text.blank? rest
  let _ ← Text.char? '*' rest
  return (6, stringMarker ++ [' '])

/-- A pointer to pointers: a word, a blank and two stars. -/
def doublePointer (_ : Option Char) (t : Text) : Option (Nat × Text) := do
  let (type, rest) ← Text.word? t
  let rest ← Text.blank? rest
  let rest ← Text.char? '*' rest
  let _ ← Text.char? '*' rest
  return (type.length + 3, pointerArrayMarker ++ [' '])

/-- Any other pointer: a word, a blank and a star with no star after it. -/
def singlePointer (_ : Option Char) (t : Text) : Option (Nat × Text) := do
  let (type, rest) ← Text.word? t
  let rest ← Text.blank? rest
  let rest ← Text.char? '*' rest
  if rest.head? = some '*' then none else return (type.length + 2, pointerMarker ++ [' '])

/-- The line with markers in the place of pointer types. -/
def markPointers (line : Text) : Text :=
  ((line.replace charPointer).replace doublePointer).replace singlePointer

/-! ## Exceptions -/

/-- The time zone, which the library takes as octets and not as a string. -/
def timeZoneParameter (_ : Option Char) (t : Text) : Option (Nat × Text) := do
  let rest ← stringMarker.isPrefixOf? t
  let rest ← Text.blank? rest
  let _ ← "tz_str".toList.isPrefixOf? rest
  return (12, byteArray ++ " tz_str".toList)

/-- The word that Java keeps for itself. -/
def reservedWord : Text := "synchronized".toList

/-- The reserved word, standing as a word of its own. -/
def reservedName (prev : Option Char) (t : Text) : Option (Nat × Text) := do
  let rest ← reservedWord.isPrefixOf? t
  if Text.atWordBoundary prev t && Text.atWordBoundary (some 'd') rest then
    return (reservedWord.length, "synchronize".toList)
  else none

/-- The line with the spellings that no rule can express put right. -/
def settleExceptions (line : Text) : Text :=
  ((line.replace timeZoneParameter).replace
    (Text.exactly "(void)".toList "()".toList)).replace reservedName

/-! ## Types -/

/-- A character after which a type may begin. -/
def opensType (c : Char) : Bool := c = '(' || isBlank c

/-- The texts that remain behind the first characters of a text, as long as these open a
type, each with the number of characters passed over from `n` on. -/
def typePlaces (n : Nat) : Text → List (Nat × Text)
  | [] => [(n, [])]
  | c :: cs => (n, c :: cs) :: if opensType c then typePlaces (n + 1) cs else []

/-- Where a type may begin that is found from a place, in the order in which the places
are tried: at the place itself if it is the start of the line, and then as many characters
behind it as possible. -/
def typeStarts (prev : Option Char) (t : Text) : List (Nat × Text) :=
  match typePlaces 0 t with
  | [] => []
  | here :: behind => if prev.isNone then here :: behind.reverse else behind.reverse

/-- The raw token of the rule, after a character that opens a type or at the start of
the line, with a blank after it. The blank becomes a space. -/
def Rule.match? (r : Rule) (prev : Option Char) (t : Text) : Option (Nat × Text) :=
  (typeStarts prev t).findSome? fun (k, start) => do
    let rest ← r.raw.isPrefixOf? start
    let _ ← Text.blank? rest
    return (k + r.raw.length + 1, t.take k ++ r.target ++ [' '])

/-- The line with the rule applied from left to right. -/
def Rule.apply (r : Rule) (line : Text) : Text := line.replace r.match?

namespace Dictionary

/-- The line with every rule applied, in the order of the dictionary. -/
def substitute (d : Dictionary) (line : Text) : Text :=
  d.rules.foldl (fun t r => Rule.apply r t) line

/-- The line with Java types. -/
def javaLine (d : Dictionary) (line : Text) : Text :=
  if line.isBlank then line
  else d.substitute (settleExceptions (markPointers (dropQualifiers line)))

/-- A blank line is left as it is. -/
theorem javaLine_of_isBlank (d : Dictionary) {line : Text} (h : line.isBlank = true) :
    d.javaLine line = line := by
  simp [javaLine, h]

/-- The steps through which any other line goes. -/
theorem javaLine_eq (d : Dictionary) {line : Text} (h : line.isBlank = false) :
    d.javaLine line = d.substitute (settleExceptions (markPointers (dropQualifiers line))) := by
  simp [javaLine, h]

/-- A dictionary without rules substitutes nothing. -/
@[simp] theorem substitute_nil (frozen : Bool) (line : Text) :
    substitute ⟨[], frozen⟩ line = line := rfl

end Dictionary

end HeaderBridge
