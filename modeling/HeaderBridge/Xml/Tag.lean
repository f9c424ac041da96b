import HeaderBridge.Xml.Scan

/-!
# Scanning tags

A start tag is a qualified name and attributes, each a qualified name and a value
between quotes. The values are kept as they are written, and so are the places of names
and values, because what is wrong with an attribute is reported where it stands.
-/

namespace HeaderBridge.Xml

/-- An attribute as it is written. -/
structure RawAttribute where
  name : Text
  /-- The number of characters left where the name begins. -/
  nameLeft : Nat
  /-- The text between the quotes. -/
  value : Text
  /-- The number of characters left where the value begins. -/
  valueLeft : Nat
  deriving DecidableEq, Repr

/-- A start tag as it is written. -/
structure RawTag where
  name : Text
  attributes : List RawAttribute
  /-- The tag ends its element, too. -/
  empty : Bool
  deriving DecidableEq, Repr

/-- What follows the sign between a name and a value, with space on either side. -/
def afterEquals (t : Text) : Scan Unit :=
  (expect '=' (dropSpaces t)).andThen fun _ rest =>
    match dropSpaces rest with
    | [] => .unfinished
    | rest => .found () rest

/-- What follows a value whose opening quote has been read. The references in it are
whole, and there is no opening of a tag in it. -/
def afterValue (quote : Char) : Text → Scan Unit
  | [] => .unfinished
  | c :: cs =>
    if c = quote then .found () cs
    else if c = '<' then .broken (c :: cs)
    else if c = '&' then
      match scanReference cs with
      | .broken rest => .broken rest
      | .unfinished => .unfinished
      | _ => afterValue quote cs
    else afterValue quote cs

/-- The value at the front of the text, between quotes of either kind, with the number of
characters left where it begins. -/
def scanValue : Text → Scan (Text × Nat)
  | [] => .unfinished
  | c :: cs =>
    if c = '\x22' || c = '\x27' then
      (afterValue c cs).andThen fun _ rest =>
        .found ((before cs rest).dropLast, cs.length) rest
    else .broken (c :: cs)

/-- The attribute at the front of the text. -/
def scanAttribute (t : Text) : Scan RawAttribute :=
  (scanQualified t).andThen fun name rest =>
    (afterEquals rest).andThen fun _ rest =>
      (scanValue rest).andThen fun (value, valueLeft) rest =>
        .found ⟨name, t.length, value, valueLeft⟩ rest

/-- The end of a start tag at the front of the text, if it stands there. The result says
whether the tag ends its element. -/
def scanTagClose : Text → Option (Scan Bool)
  | '>' :: rest => some (.found false rest)
  | '/' :: rest => some ((expect '>' rest).andThen fun _ rest => .found true rest)
  | _ => none

/-- The attributes of a start tag and its end. There is space before each attribute, and
there are at most `n` of them. -/
def scanAttributes : Nat → List RawAttribute → Text → Scan (List RawAttribute × Bool)
  | _, _, [] => .unfinished
  | n, found, c :: cs =>
    match scanTagClose (c :: cs) with
    | some r => r.andThen fun empty rest => .found (found.reverse, empty) rest
    | none =>
      if isSpace c then
        match dropSpaces cs with
        | [] => .unfinished
        | d :: ds =>
          match scanTagClose (d :: ds), n with
          | some r, _ => r.andThen fun empty rest => .found (found.reverse, empty) rest
          | none, 0 => .broken (d :: ds)
          | none, n + 1 =>
            (scanAttribute (d :: ds)).andThen fun a rest =>
              scanAttributes n (a :: found) rest
      else .broken (c :: cs)

/-- The start tag whose opening has been read. -/
def scanStartTag (t : Text) : Scan RawTag :=
  (scanQualified t).andThen fun name rest =>
    (scanAttributes rest.length [] rest).andThen fun (attributes, empty) rest =>
      .found ⟨name, attributes, empty⟩ rest

/-- The name of an end tag, in which there may be any number of colons. -/
def isTagNameChar (c : Char) : Bool := isNameChar c || c = ':'

/-- The end tag whose opening has been read. -/
def scanEndTag (t : Text) : Scan Text :=
  match t with
  | [] => .unfinished
  | c :: cs =>
    if isNameStart c then
      (expect '>' (dropSpaces (cs.dropWhile isTagNameChar))).andThen fun _ rest =>
        .found (c :: cs.takeWhile isTagNameChar) rest
    else .broken t

/-- The word that opens a section of plain characters. -/
def cdataOpening : Text := "CDATA[".toList

/-- What follows the opening of a section of plain characters, of which the first three
characters have been read. -/
def scanCdataOpening (t : Text) : Scan Unit :=
  if t.length < 6 then .unfinished
  else
    match cdataOpening.isPrefixOf? t with
    | some rest => .found () rest
    | none =>
      let same := ((cdataOpening.zip t).takeWhile fun p => p.1 = p.2).length
      .broken (t.drop same)

/-- Markup in the content of a document. -/
inductive Markup where
  | startTag (t : RawTag)
  | endTag (name : Text)
  | comment
  | instruction (target : Text)
  | cdata

/-- The markup whose opening has been read. -/
def scanMarkup : Text → Scan Markup
  | [] => .unfinished
  | '!' :: '-' :: rest => (scanComment rest).andThen fun _ rest => .found .comment rest
  | '!' :: '[' :: rest => (scanCdataOpening rest).andThen fun _ rest => .found .cdata rest
  | '!' :: [] => .unfinished
  | '!' :: rest => .broken rest
  | '?' :: rest =>
    (scanInstruction rest).andThen fun (target, _) rest => .found (.instruction target) rest
  | '/' :: rest => (scanEndTag rest).andThen fun name rest => .found (.endTag name) rest
  | t => (scanStartTag t).andThen fun tag rest => .found (.startTag tag) rest

end HeaderBridge.Xml
