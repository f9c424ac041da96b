import HeaderBridge.Xml.Content

/-!
# Documents

A document is read from its octets: the encoding is found, the declaration of the
document is read, which may name another encoding, and then come the prolog, the root
and what follows the root. The root is delivered only if the document is in order to its
end.
-/

namespace HeaderBridge.Xml

/-! ## The declaration of a document -/

/-- An assignment in the declaration of a document. -/
structure Assignment where
  name : Text
  /-- The text from the name on. -/
  nameAt : Text
  value : Text
  /-- The text from the value on. -/
  valueAt : Text
  deriving DecidableEq, Repr

/-- A character that may stand in a value of the declaration. -/
def isAssignedChar (c : Char) : Bool := c.isAlphanum || c = '.' || c = '-' || c = '_'

/-- An ASCII character that is neither space nor the sign between name and value. -/
def isAssignmentName (c : Char) : Bool := c.toNat < 128 && !isSpace c && c ≠ '='

/-- The next assignment and what follows it, nothing if only space is left, or the text
from the place where something else stands. -/
def nextAssignment (t : Text) : Except Text (Option (Assignment × Text)) :=
  match t with
  | [] => .ok none
  | c :: _ =>
    if !isSpace c then .error t
    else
      let start := dropSpaces t
      if start.isEmpty then .ok none
      else
        let name := start.takeWhile isAssignmentName
        let rest := start.dropWhile isAssignmentName
        let sign := dropSpaces rest
        if sign.head? ≠ some '=' then
          .error (if rest.head?.any isSpace then sign else rest)
        else if name.isEmpty then .error rest
        else
          match dropSpaces (sign.drop 1) with
          | [] => .error []
          | q :: cs =>
            if q = '\x22' || q = '\x27' then
              let value := cs.takeWhile isAssignedChar
              let after := cs.dropWhile isAssignedChar
              if after.head? = some q then
                .ok (some (⟨name, start, value, cs⟩, after.drop 1))
              else .error after
            else .error (q :: cs)

/-- What the declaration of a document says. -/
structure Prelude where
  /-- The name of the encoding, and the number of characters of the declaration left
  where it stands. -/
  encoding : Option (Text × Nat) := none
  standalone : Bool := false
  deriving DecidableEq, Repr

/-- What the end of a declaration says: whether the document stands alone, or the text
from the place where something else stands. -/
def readStandalone (a : Assignment) (rest : Text) : Except Text Bool :=
  if a.name ≠ "standalone".toList then .error a.nameAt
  else if a.value ≠ "yes".toList && a.value ≠ "no".toList then .error a.valueAt
  else if !(dropSpaces rest).isEmpty then .error (dropSpaces rest)
  else .ok (a.value = "yes".toList)

/-- What the declaration says, or the text from the place where it is malformed. -/
def readPrelude (t : Text) : Except Text Prelude := do
  match ← nextAssignment t with
  | none => throw t
  | some (version, rest) =>
    if version.name ≠ "version".toList then throw version.nameAt
    match ← nextAssignment rest with
    | none => return {}
    | some (a, rest) =>
      if a.name = "encoding".toList then
        if !a.value.head?.any Char.isAlpha then throw a.valueAt
        match ← nextAssignment rest with
        | none => return { encoding := some (a.value, a.valueAt.length) }
        | some (b, rest) =>
          return { encoding := some (a.value, a.valueAt.length)
                   standalone := ← readStandalone b rest }
      else return { standalone := ← readStandalone a rest }

/-! ## Documents -/

/-- Why there is no tree. -/
inductive DocumentError where
  | malformed (f : Failure)
  /-- The document names an encoding that nobody knows. -/
  | unknownEncoding (name : Text)
  /-- The document names a coding that is not one of texts in octets. -/
  | notText (name : Text)
  /-- The document names an encoding with several octets for one character. -/
  | wideEncoding
  /-- The document names an encoding that fails at octets without a character. -/
  | strictEncoding (e : StrictEncoding) (name : Text)
  deriving DecidableEq, Repr

/-- The reason in words. -/
def DocumentError.message : DocumentError → Text
  | .malformed f => f.message
  | .unknownEncoding name => "unknown encoding: ".toList ++ name
  | .notText name =>
    ['\x27'] ++ name.take 400 ++
      "' is not a text encoding; use codecs.decode() to handle arbitrary codecs".toList
  | .wideEncoding => "multi-byte encodings are not supported".toList
  | .strictEncoding e name => e.message name

/-- The tree of a source, from a state of the prolog on. -/
def readTree (ending : Ending) (state : PrologState) (d : Declarations) (t : Text) :
    Except Refusal Node := do
  let (d, t) ← readProlog ending t.length state d t
  match ← readContent d ending d.entities.length t.length [] 0 {} t with
  | .root n rest =>
    readEpilog ending rest.length rest
    return n
  | .level _ => throw ⟨.noElement, 0⟩

/-- The place where so many characters of a text are left that stands behind `front`. -/
def placeOf (front t : Text) (left : Nat) : Position :=
  (Position.after ⟨1, 0⟩ front).after (t.take (t.length - left))

/-- The declaration at the front of a text, as the text within it and what follows it. -/
def declaration? (t : Text) : Option (Text × Text) :=
  match "<?".toList.isPrefixOf? t with
  | none => none
  | some rest =>
    match scanInstruction rest with
    | .found (target, inner) after =>
      if target = declarationTarget then some (inner, after) else none
    | _ => none

/-- The encoding in which the document goes on behind its declaration. -/
def continuedEncoding (family : Encoding) (p : Prelude) :
    Except (DocumentError ⊕ Refusal) Encoding :=
  match p.encoding with
  | none => .ok family
  | some (name, left) =>
    match namedEncoding family name with
    | .familiar e => if family.agrees e then .ok e else .error (.inr ⟨.wrongEncoding, left⟩)
    | .page p => .ok (.table p.char?)
    | .foreign => .error (.inr ⟨.unknownEncoding, left⟩)
    | .wide => .error (.inl .wideEncoding)
    | .other => .error (.inl (.notText name))
    | .strict e => .error (.inl (.strictEncoding e name))
    | .unknown => .error (.inl (.unknownEncoding name))

/-- A byte order mark as it is counted in places. -/
def Encoding.countedMark (e : Encoding) (mark : Octets) : Text :=
  match e with
  | .table _ => e.counted mark
  | _ => if mark.isEmpty then [] else ['\ufeff']

/-- The tree of a document. -/
def readDocument (bs : Octets) : Except DocumentError Node :=
  match opening? bs with
  | none => .error (.malformed ⟨.unclosedToken, ⟨1, 0⟩⟩)
  | some o =>
    let source := o.encoding.read o.octets
    let refuse {α : Type} (front t : Text) (r : Refusal) : Except DocumentError α :=
      .error (.malformed ⟨r.reason, placeOf front t r.left⟩)
    let mark := o.encoding.countedMark o.mark
    match declaration? source.text with
    | none =>
      match readTree source.ending .start {} source.text with
      | .ok n => .ok n
      | .error r => refuse mark source.text r
    | some (inner, after) =>
      match readPrelude inner with
      | .error rest =>
        refuse mark source.text ⟨.malformedDeclaration, after.length + 2 + rest.length⟩
      | .ok p =>
        match continuedEncoding o.encoding p with
        | .error (.inl e) => .error e
        | .error (.inr r) => refuse mark source.text { r with left := after.length + 2 + r.left }
        | .ok e =>
          let size := o.encoding.unit * (source.text.length - after.length)
          let front := e.countedMark o.mark ++ e.counted (o.octets.take size)
          let source' := e.read (o.octets.drop size)
          match readTree source'.ending .beforeDoctype { standalone := p.standalone }
              source'.text with
          | .ok n => .ok n
          | .error r => refuse front source'.text r

end HeaderBridge.Xml
