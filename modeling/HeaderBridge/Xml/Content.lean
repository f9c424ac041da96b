import HeaderBridge.Text.Match
import HeaderBridge.Xml.Encoding
import HeaderBridge.Xml.Namespace
import HeaderBridge.Xml.Node
import HeaderBridge.Xml.Prolog

/-!
# The content of a document

The root of a document is read from its opening on. The elements that are open stand on
a stack, the innermost first. The text of an entity is read in the place of the
reference to it, and has to close the elements that it opens and no others; what is
wrong within it is reported where the reference stands.
-/

namespace HeaderBridge.Xml

/-! ## Open elements -/

/-- An element whose end has not been read. -/
structure OpenElement where
  /-- The name as it is written. -/
  written : Text
  tag : Tag
  /-- The children so far, the last one first. -/
  children : List Node := []

/-- The elements that are open, and the text behind the last tag. -/
structure ContentState where
  /-- The open elements, the innermost first. -/
  stack : List OpenElement := []
  /-- The text, the last character first. -/
  text : Text := []

namespace ContentState

/-- A child of the innermost element. -/
def addChild (s : ContentState) (n : Node) : ContentState :=
  match s.stack with
  | [] => s
  | e :: es => { s with stack := { e with children := n :: e.children } :: es }

/-- The text so far made a child. -/
def flush (s : ContentState) : ContentState :=
  if s.text.isEmpty then s else { s.addChild (.text s.text.reverse) with text := [] }

/-- One more character of text. -/
def addChar (s : ContentState) (c : Char) : ContentState := { s with text := c :: s.text }

/-- The bindings within the innermost element. -/
def scope (s : ContentState) : Scope :=
  match s.stack with
  | [] => outerScope
  | e :: _ => e.tag.scope

/-- An element opened. -/
def enter (s : ContentState) (written : Text) (tag : Tag) : ContentState :=
  { s.flush with stack := { written, tag } :: s.flush.stack }

/-- The innermost element closed. The result is the root, if that was it. -/
def leave (s : ContentState) : Sum Node ContentState :=
  match s.flush.stack with
  | [] => .inr s
  | e :: es =>
    let n := Node.element e.tag.name e.tag.attributes e.children.reverse
    if es.isEmpty then .inl n else .inr ((⟨es, []⟩ : ContentState).addChild n)

end ContentState

/-! ## Sections of plain characters -/

/-- The characters up to the end of the section, and what follows it. -/
def scanCdata : Text → Scan Text
  | ']' :: ']' :: '>' :: rest => .found [] rest
  | '\r' :: '\n' :: cs =>
    match scanCdata cs with
    | .found t rest => .found ('\n' :: t) rest
    | r => r
  | c :: cs =>
    match scanCdata cs with
    | .found t rest => .found ((if c = '\r' then '\n' else c) :: t) rest
    | r => r
  | [] => .unfinished

/-- How many characters at the end of a section without an end might begin its end, or a
line end. -/
def pendingAtEnd (t : Text) : Nat :=
  match t.reverse with
  | ']' :: ']' :: _ => 2
  | ']' :: _ => 1
  | '\r' :: _ => 1
  | _ => 0

/-- Why a section is refused whose end is missing. -/
def cdataRefusal (ending : Ending) (t : Text) : Refusal :=
  match ending with
  | .complete => ⟨.unclosedCdata, pendingAtEnd t⟩
  | .half => ⟨.unclosedCdata, 0⟩
  | .malformed => ⟨.invalidToken, 0⟩
  | .truncated => ⟨.partialCharacter, 0⟩

/-! ## Content -/

/-- How far the content has been read. -/
inductive Progress where
  /-- To the end of the root. -/
  | root (n : Node) (rest : Text)
  /-- To the end of the text, which is that of an entity. -/
  | level (s : ContentState)

/-- The content of a document from `t` on. Within an entity, `base` elements were open at
its beginning, and at the top `base` is 0. `depth` bounds how far entities may hold one
another, and `fuel` is at least the number of characters; `opened` are the entities that
are being read. -/
def readContent (d : Declarations) (ending : Ending) (depth fuel : Nat)
    (opened : List Text) (base : Nat) (s : ContentState) (t : Text) :
    Except Refusal Progress :=
  match fuel, t with
  | _, [] =>
    if base = 0 then .error ⟨ending.refusal, 0⟩
    else if s.stack.length = base then .ok (.level s)
    else .error ⟨.unbalancedEntity, 0⟩
  | 0, _ => .error ⟨.noElement, 0⟩
  | fuel + 1, c :: cs =>
    let left := cs.length + 1
    if c = '<' then
      match (scanMarkup cs).settle ending left with
      | .error r => .error r
      | .ok (.comment, rest) => readContent d ending depth fuel opened base s rest
      | .ok (.instruction target, rest) =>
        if target = declarationTarget then .error ⟨.misplacedDeclaration, left⟩
        else readContent d ending depth fuel opened base s rest
      | .ok (.cdata, rest) =>
        match scanCdata rest with
        | .found t rest =>
          readContent d ending depth fuel opened base (t.foldl ContentState.addChar s) rest
        | _ => .error (cdataRefusal ending rest)
      | .ok (.startTag raw, rest) =>
        match readTag d s.scope raw with
        | .error (reason, place) => .error ⟨reason, place.getD left⟩
        | .ok tag =>
          let s := s.enter raw.name tag
          if raw.empty then
            match s.leave with
            | .inl n => .ok (.root n rest)
            | .inr s => readContent d ending depth fuel opened base s rest
          else readContent d ending depth fuel opened base s rest
      | .ok (.endTag name, rest) =>
        if s.stack.length = base then .error ⟨.unbalancedEntity, left⟩
        else if s.stack.head?.map OpenElement.written ≠ some name then
          .error ⟨.mismatchedTag, left - 2⟩
        else
          match s.leave with
          | .inl n => .ok (.root n rest)
          | .inr s => readContent d ending depth fuel opened base s rest
    else if c = '&' then
      match (scanReference cs).settle ending left with
      | .error r => .error r
      | .ok (.character n, rest) =>
        match characterOf? n with
        | some c => readContent d ending depth fuel opened base (s.addChar c) rest
        | none => .error ⟨.invalidCharacterNumber, left⟩
      | .ok (.entity name, rest) =>
        match predefined? name, d.entities.lookup name with
        | some c, _ => readContent d ending depth fuel opened base (s.addChar c) rest
        | none, none =>
          .error ⟨if d.mayMiss then .skippedEntity name else .undefinedEntity, left⟩
        | none, some .unparsed => .error ⟨.unparsedEntity, left⟩
        | none, some .external => .error ⟨.skippedEntity name, left⟩
        | none, some (.internal inner) =>
          if _h : name ∈ opened ∨ depth = 0 then .error ⟨.recursiveEntity, left⟩
          else
            match readContent d .complete (depth - 1) inner.length (name :: opened)
                s.stack.length s inner with
            | .error r => .error { r with left }
            | .ok (.level s) => readContent d ending depth fuel opened base s rest
            | .ok (.root _ _) => .error ⟨.unbalancedEntity, left⟩
    else if c = ']' && Text.beginsWith "]>".toList cs then .error ⟨.invalidToken, left - 2⟩
    else if c = '\r' then
      match cs with
      | '\n' :: rest => readContent d ending depth fuel opened base (s.addChar '\n') rest
      | [] =>
        if base = 0 && ending = .complete then .error ⟨.noElement, left⟩
        else readContent d ending depth fuel opened base (s.addChar '\n') []
      | rest => readContent d ending depth fuel opened base (s.addChar '\n') rest
    else readContent d ending depth fuel opened base (s.addChar c) cs
  termination_by (depth, fuel)

end HeaderBridge.Xml
