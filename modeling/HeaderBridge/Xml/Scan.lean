import HeaderBridge.Text
import HeaderBridge.Xml.Name

/-!
# Scanning markup

A scanner looks at the front of a text. It finds what it looks for, or meets a character
that cannot stand there, or the text ends before it is done. Where the end of the text
may be the end of what it looks for, it says so, because what comes after the text may
still spoil it.

The scanners of this module are those for names, references, comments, instructions and
literals, which the prolog and the content of a document share.
-/

namespace HeaderBridge.Xml

/-! ## Results -/

/-- What a scanner comes to. -/
inductive Scan (α : Type) where
  /-- It is found, and this is what follows. -/
  | found (value : α) (rest : Text)
  /-- It is found if nothing follows the text. -/
  | last (value : α)
  /-- The first character of this cannot stand there. -/
  | broken (rest : Text)
  /-- The text ends too early. -/
  | unfinished

/-- Scans on behind what was found. -/
def Scan.andThen {α β : Type} (s : Scan α) (f : α → Text → Scan β) : Scan β :=
  match s with
  | .found value rest => f value rest
  | .last value => f value []
  | .broken rest => .broken rest
  | .unfinished => .unfinished

/-- The part of the text before its remainder `rest`. -/
def before (t rest : Text) : Text := t.take (t.length - rest.length)

/-- The one character that has to stand here. -/
def expect (c : Char) : Text → Scan Unit
  | [] => .unfinished
  | d :: rest => if d = c then .found () rest else .broken (d :: rest)

/-! ## Names -/

/-- The name at the front of the text, which has to begin with a letter. -/
def scanName : Text → Scan Text
  | [] => .unfinished
  | c :: rest =>
    if isNameStart c then .found (c :: rest.takeWhile isNameChar) (rest.dropWhile isNameChar)
    else .broken (c :: rest)

/-- What follows a qualified name, of which a part has been read. There is at most one
colon in it, with a name on either side. -/
def afterQualified (colon : Bool) : Text → Scan Unit
  | [] => .unfinished
  | c :: cs =>
    if isNameChar c then afterQualified colon cs
    else if c = ':' then
      if colon then .broken (c :: cs)
      else
        match cs with
        | [] => .unfinished
        | d :: ds => if isNameStart d then afterQualified true ds else .broken (d :: ds)
    else .found () (c :: cs)

/-- The qualified name at the front of the text. -/
def scanQualified : Text → Scan Text
  | [] => .unfinished
  | c :: cs =>
    if isNameStart c then
      (afterQualified false cs).andThen fun _ rest => .found (before (c :: cs) rest) rest
    else .broken (c :: cs)

/-! ## References -/

/-- What stands between an ampersand and a semicolon. -/
inductive Reference where
  | entity (name : Text)
  | character (number : Nat)
  deriving DecidableEq, Repr

/-- The value of a hexadecimal digit. -/
def hexDigit? (c : Char) : Option Nat :=
  if c.isDigit then some (c.toNat - 48)
  else if 'a' ≤ c && c ≤ 'f' then some (c.toNat - 87)
  else if 'A' ≤ c && c ≤ 'F' then some (c.toNat - 55)
  else none

/-- The value of a decimal digit. -/
def decimalDigit? (c : Char) : Option Nat := if c.isDigit then some (c.toNat - 48) else none

/-- The number of a character, of whose digits some have been read. -/
def scanDigits (base : Nat) (digit? : Char → Option Nat) (n : Nat) : Text → Scan Reference
  | [] => .unfinished
  | c :: rest =>
    match digit? c with
    | some d => scanDigits base digit? (n * base + d) rest
    | none => if c = ';' then .found (.character n) rest else .broken (c :: rest)

/-- The number of a character, with at least one digit. -/
def scanNumber (base : Nat) (digit? : Char → Option Nat) : Text → Scan Reference
  | [] => .unfinished
  | c :: rest =>
    match digit? c with
    | some d => scanDigits base digit? d rest
    | none => .broken (c :: rest)

/-- The reference whose ampersand has been read. -/
def scanReference : Text → Scan Reference
  | '#' :: 'x' :: rest => scanNumber 16 hexDigit? rest
  | '#' :: rest => scanNumber 10 decimalDigit? rest
  | t =>
    (scanName t).andThen fun name rest =>
      (expect ';' rest).andThen fun _ rest => .found (.entity name) rest

/-- The character with a number, if a document may hold it. -/
def characterOf? (n : Nat) : Option Char :=
  if n < 32 && n ≠ 9 && n ≠ 10 && n ≠ 13 then none
  else if 0xd800 ≤ n && n < 0xe000 || n = 0xfffe || n = 0xffff || 0x110000 ≤ n then none
  else some (Char.ofNat n)

/-- The character of an entity that needs no declaration. -/
def predefined? (name : Text) : Option Char :=
  if name = "lt".toList then some '<'
  else if name = "gt".toList then some '>'
  else if name = "amp".toList then some '&'
  else if name = "quot".toList then some '\x22'
  else if name = "apos".toList then some '\x27'
  else none

/-! ## Comments and instructions -/

/-- What follows a comment whose opening has been read. Two hyphens end it. -/
def afterComment : Text → Scan Unit
  | '-' :: '-' :: rest => expect '>' rest
  | _ :: rest => afterComment rest
  | [] => .unfinished

/-- What follows a comment of whose opening one hyphen has been read. -/
def scanComment (t : Text) : Scan Unit := (expect '-' t).andThen fun _ rest => afterComment rest

/-- What follows an instruction whose target has been read. -/
def afterInstruction : Text → Scan Unit
  | '?' :: '>' :: rest => .found () rest
  | _ :: rest => afterInstruction rest
  | [] => .unfinished

/-- The target that is kept for the declaration of the document. -/
def declarationTarget : Text := "xml".toList

/-- The instruction whose opening has been read, by its target and the text behind it.
A target that differs from that of the declaration in case only is not allowed. -/
def scanInstruction (t : Text) : Scan (Text × Text) :=
  (scanName t).andThen fun target rest =>
    match rest with
    | [] => .unfinished
    | c :: cs =>
      if !(isSpace c || c = '?') then .broken rest
      else if target.map Char.toLower = declarationTarget && target ≠ declarationTarget then
        .broken rest
      else if c = '?' then
        (expect '>' cs).andThen fun _ after => .found (target, []) after
      else
        (afterInstruction cs).andThen fun _ after =>
          .found (target, (before rest after).dropLast.dropLast) after

/-! ## Literals -/

/-- The text up to the quote, and what follows the quote. -/
def untilQuote (quote : Char) : Text → Scan Text
  | [] => .unfinished
  | c :: cs =>
    if c = quote then .found [] cs
    else
      match untilQuote quote cs with
      | .found value rest => .found (c :: value) rest
      | r => r

end HeaderBridge.Xml
