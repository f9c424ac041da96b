import HeaderBridge.Text.Utf8
import HeaderBridge.Xml.CodePage

/-!
# Encodings of documents

The first octets of a document say in which family its encoding is, and a declaration
within the document may name the encoding. The characters of a document are read up to
the first one that no document may hold; what stands there is the ending of the source.
-/

namespace HeaderBridge.Xml

/-! ## Sources -/

/-- What comes after the characters that could be read. -/
inductive Ending where
  /-- Nothing. -/
  | complete
  /-- Octets that are no character of a document. -/
  | malformed
  /-- The beginning of a character. -/
  | truncated
  /-- Half of a unit of two octets. -/
  | half
  deriving DecidableEq, Repr

/-- The characters of a document. -/
structure Source where
  text : Text
  ending : Ending
  deriving DecidableEq, Repr

/-- A character that a document may hold. -/
def isXmlChar (c : Char) : Bool :=
  let n := c.toNat
  n == 9 || n == 10 || n == 13 || (32 ≤ n && n != 0xfffe && n != 0xffff)

/-- The source with a character before it. A character that no document may hold ends
the source. -/
def Source.cons (c : Char) (s : Source) : Source :=
  if isXmlChar c then { s with text := c :: s.text } else ⟨[], .malformed⟩

/-! ## Reading -/

/-- The encodings that are read. -/
inductive Encoding where
  | utf8
  | utf16 (bigEndian : Bool)
  /-- One octet for each character. -/
  | table (char? : UInt8 → Option Char)

/-- The characters of UTF-8 octets, of which there are at most as many as the number
says. -/
def readUtf8 : Nat → Octets → Source
  | 0, _ => ⟨[], .complete⟩
  | _, [] => ⟨[], .complete⟩
  | n + 1, b :: bs =>
    match decodeChar? b bs with
    | some c => Source.cons c (readUtf8 n (bs.drop (c.utf8Size - 1)))
    | none =>
      match continuationRanges b with
      | some rs => if bs.length < rs.length then ⟨[], .truncated⟩ else ⟨[], .malformed⟩
      | none => ⟨[], .malformed⟩

/-- The number of a unit of two octets. -/
def unit16 (bigEndian : Bool) (a b : UInt8) : Nat :=
  if bigEndian then a.toNat * 256 + b.toNat else b.toNat * 256 + a.toNat

/-- The characters of UTF-16 octets. -/
def readUtf16 (bigEndian : Bool) : Octets → Source
  | [] => ⟨[], .complete⟩
  | [_] => ⟨[], .half⟩
  | a :: b :: rest =>
    let n := unit16 bigEndian a b
    if 0xd800 ≤ n && n < 0xdc00 then
      match rest with
      | c :: d :: rest =>
        let m := unit16 bigEndian c d
        if 0xdc00 ≤ m && m < 0xe000 then
          Source.cons (Char.ofNat (0x10000 + (n - 0xd800) * 0x400 + (m - 0xdc00)))
            (readUtf16 bigEndian rest)
        else ⟨[], .malformed⟩
      | _ => ⟨[], .truncated⟩
    else if 0xdc00 ≤ n && n < 0xe000 then ⟨[], .malformed⟩
    else Source.cons (Char.ofNat n) (readUtf16 bigEndian rest)

/-- The characters of octets of which each is one. -/
def readTable (char? : UInt8 → Option Char) : Octets → Source
  | [] => ⟨[], .complete⟩
  | b :: bs =>
    match char? b with
    | some c => Source.cons c (readTable char? bs)
    | none => ⟨[], .malformed⟩

/-- The characters of the octets. -/
def Encoding.read (e : Encoding) (bs : Octets) : Source :=
  match e with
  | .utf8 => readUtf8 bs.length bs
  | .utf16 bigEndian => readUtf16 bigEndian bs
  | .table char? => readTable char? bs

/-- The number of octets of a character of ASCII. -/
def Encoding.unit : Encoding → Nat
  | .utf16 _ => 2
  | _ => 1

/-- The octets as they are counted in places : each one for itself, if each is a character. -/
def Encoding.counted (e : Encoding) (bs : Octets) : Text :=
  match e with
  | .table _ => bs.map fun b => Char.ofNat b.toNat
  | _ => (e.read bs).text

/-! ## Finding the encoding -/

/-- How a document begins. -/
structure Opening where
  encoding : Encoding
  /-- The byte order mark with which the document begins, if there is one. -/
  mark : Octets
  /-- The octets after the mark. -/
  octets : Octets

/-- How a document begins, or nothing if its first octets are too few to tell. -/
def opening? (bs : Octets) : Option Opening :=
  match bs with
  | [] => some ⟨.utf8, [], bs⟩
  | [b] =>
    if b = 0 || b = 0x3c || b = 0xef || b = 0xfe || b = 0xff then none
    else some ⟨.utf8, [], bs⟩
  | a :: b :: rest =>
    if a = 0xfe && b = 0xff then some ⟨.utf16 true, [a, b], rest⟩
    else if a = 0xff && b = 0xfe then some ⟨.utf16 false, [a, b], rest⟩
    else if a = 0xef && b = 0xbb then
      match rest with
      | [] => none
      | c :: rest =>
        if c = 0xbf then some ⟨.utf8, [a, b, c], rest⟩ else some ⟨.utf8, [], bs⟩
    else if a = 0 then some ⟨.utf16 true, [], bs⟩
    else if b = 0 then some ⟨.utf16 false, [], bs⟩
    else some ⟨.utf8, [], bs⟩

/-! ## Naming the encoding -/

/-- The encodings of which documents are told apart, as they are named in a document of the
given family. -/
def familiar? (family : Encoding) (name : Text) : Option Encoding :=
  let upper := name.map Char.toUpper
  if upper = "UTF-8".toList then some .utf8
  else if upper = "UTF-16".toList then
    match family with
    | .utf16 bigEndian => some (.utf16 bigEndian)
    | _ => some (.utf16 true)
  else if upper = "UTF-16BE".toList then some (.utf16 true)
  else if upper = "UTF-16LE".toList then some (.utf16 false)
  else if upper = "ISO-8859-1".toList then some (.table fun b => some (Char.ofNat b.toNat))
  else if upper = "US-ASCII".toList then
    some (.table fun b => if b < 128 then some (Char.ofNat b.toNat) else none)
  else none

/-- The encodings have units of the same size, in the same order. -/
def Encoding.agrees : Encoding → Encoding → Bool
  | .utf16 a, .utf16 b => a = b
  | .utf16 _, _ => false
  | _, .utf16 _ => false
  | _, _ => true

/-- What the name of an encoding stands for. -/
inductive Named where
  /-- An encoding with which the family of the document has to agree. -/
  | familiar (e : Encoding)
  | page (p : CodePage)
  /-- A page that disagrees with ASCII. -/
  | foreign
  /-- An encoding with several octets for one character. -/
  | wide
  /-- A coding that is not one of texts in octets. -/
  | other
  | strict (e : StrictEncoding)
  | unknown

/-- What the name of an encoding stands for, in a document of the given family. -/
def namedEncoding (family : Encoding) (name : Text) : Named :=
  let key := nameKey name
  match familiar? family name, codePages.find? (·.has key), strictEncoding? key with
  | some e, _, _ => .familiar e
  | none, some p, _ => .page p
  | none, none, some e => .strict e
  | none, none, none =>
    if foreignPages.has key then .foreign
    else if wideEncodings.has key then .wide
    else if otherCodings.has key then .other
    else .unknown

end HeaderBridge.Xml
