import HeaderBridge.Xml.Declarations
import HeaderBridge.Xml.Encoding

/-!
# The prolog

What comes before the root of a document: comments, instructions, and the document type
with the declarations of its internal subset. The prolog is a sequence of tokens, and
what a token means depends on the state that the tokens before it have led to.
-/

namespace HeaderBridge.Xml

/-! ## Tokens -/

/-- What kind of name a token is. -/
inductive NameKind where
  | plain
  | qualified
  /-- A token that is no name, since it does not begin as one or has colons too many. -/
  | loose
  deriving DecidableEq, Repr

/-- A token of the prolog. -/
inductive Token where
  | space
  | comment
  | instruction (target : Text)
  /-- The opening of a declaration, with its keyword. -/
  | opening (keyword : Text)
  | sectionOpening
  | sectionClosing
  /-- The opening of the root. -/
  | root
  | literal (value : Text)
  | percent
  | parameterReference
  | comma
  | bar
  | close
  | openBracket
  | closeBracket
  | openParen
  /-- A closing parenthesis, and whether a sign of repetition follows it. -/
  | closeParen (mark : Option Char)
  /-- A name behind a number sign. -/
  | pound (name : Text)
  | name (kind : NameKind) (name : Text)
  /-- A name with a sign of repetition. -/
  | marked (name : Text)
  deriving DecidableEq, Repr

/-- A sign of repetition. -/
def isMark (c : Char) : Bool := c = '+' || c = '*' || c = '?'

/-- A character that may stand behind a name. -/
def endsName (c : Char) : Bool :=
  isSpace c || c = '>' || c = ')' || c = ',' || c = '|' || c = '[' || c = '%'

/-- The kind of a name of which a part has been read, and the sign of repetition behind
it. -/
def afterNameToken (kind : NameKind) : Text → Scan (NameKind × Option Char)
  | [] => .last (kind, none)
  | c :: cs =>
    if isNameChar c then afterNameToken kind cs
    else if c = ':' then
      match kind, cs with
      | .plain, [] => .unfinished
      | .plain, d :: ds =>
        if isNameChar d then afterNameToken .qualified ds else afterNameToken .loose (d :: ds)
      | _, cs => afterNameToken .loose cs
    else if isMark c then
      if kind = .loose then .broken (c :: cs) else .found (kind, some c) cs
    else if endsName c then .found (kind, none) (c :: cs)
    else .broken (c :: cs)

/-- The name at the front of the text, whose first character is of the given kind. -/
def scanNameToken (kind : NameKind) (t : Text) : Scan Token :=
  match afterNameToken kind (t.drop 1) with
  | .found (_, some _) rest => .found (.marked (before t rest).dropLast) rest
  | .found (kind, none) rest => .found (.name kind (before t rest)) rest
  | .last (kind, _) => .last (.name kind t)
  | .broken rest => .broken rest
  | .unfinished => .unfinished

/-- The literal whose opening quote has been read. -/
def scanLiteral (quote : Char) (t : Text) : Scan Token :=
  match untilQuote quote t with
  | .found value [] => .last (.literal value)
  | .found value (c :: cs) =>
    if isSpace c || c = '>' || c = '%' || c = '[' then .found (.literal value) (c :: cs)
    else .broken (c :: cs)
  | _ => .unfinished

/-- What a percent sign begins. -/
def scanPercent : Text → Scan Token
  | [] => .unfinished
  | c :: cs =>
    if isSpace c || c = '%' then .found .percent (c :: cs)
    else
      (scanName (c :: cs)).andThen fun _ rest =>
        (expect ';' rest).andThen fun _ rest => .found .parameterReference rest

/-- The name behind a number sign. -/
def scanPound (t : Text) : Scan Token :=
  match scanName t with
  | .found name [] => .last (.pound name)
  | .found name (c :: cs) =>
    if isSpace c || c = ')' || c = '>' || c = '%' || c = '|' then .found (.pound name) (c :: cs)
    else .broken (c :: cs)
  | .broken rest => .broken rest
  | _ => .unfinished

/-- The keyword of a declaration. -/
def scanKeyword (t : Text) : Scan Token :=
  let isLetter (c : Char) : Bool := c.isAlpha || c = '_'
  match t.takeWhile isLetter, t.dropWhile isLetter with
  | [], [] => .unfinished
  | [], rest => .broken rest
  | _, [] => .unfinished
  | _, ['%'] => .unfinished
  | keyword, '%' :: c :: cs =>
    if isSpace c || c = '%' then .broken ('%' :: c :: cs)
    else .found (.opening keyword) ('%' :: c :: cs)
  | keyword, c :: cs =>
    if isSpace c then .found (.opening keyword) (c :: cs) else .broken (c :: cs)

/-- What an opening angle bracket begins. -/
def scanAngle (t : Text) : Scan Token :=
  match t with
  | [] => .unfinished
  | '!' :: '-' :: rest => (scanComment rest).andThen fun _ rest => .found .comment rest
  | '!' :: '[' :: rest => .found .sectionOpening rest
  | '!' :: rest => scanKeyword rest
  | '?' :: rest =>
    (scanInstruction rest).andThen fun (target, _) rest => .found (.instruction target) rest
  | c :: _ =>
    if isNameStart c || 128 ≤ c.toNat then .found .root ('<' :: t) else .broken t

/-- What a closing parenthesis begins. -/
def scanCloseParen : Text → Scan Token
  | [] => .last (.closeParen none)
  | c :: cs =>
    if isMark c then .found (.closeParen (some c)) cs
    else if isSpace c || c = '>' || c = ',' || c = '|' || c = ')' then
      .found (.closeParen none) (c :: cs)
    else .broken (c :: cs)

/-- What a closing bracket begins. -/
def scanCloseBracket : Text → Scan Token
  | [] => .last .closeBracket
  | [']'] => .unfinished
  | ']' :: '>' :: rest => .found .sectionClosing rest
  | t => .found .closeBracket t

/-- The token at the front of a text that is not empty. -/
def scanToken : Text → Scan Token
  | [] => .unfinished
  | c :: cs =>
    if isSpace c then .found .space (dropSpaces cs)
    else if c = '<' then scanAngle cs
    else if c = '\x22' || c = '\x27' then scanLiteral c cs
    else if c = '%' then scanPercent cs
    else if c = ',' then .found .comma cs
    else if c = '|' then .found .bar cs
    else if c = '>' then .found .close cs
    else if c = '[' then .found .openBracket cs
    else if c = ']' then scanCloseBracket cs
    else if c = '(' then .found .openParen cs
    else if c = ')' then scanCloseParen cs
    else if c = '#' then scanPound cs
    else if isNameStart c then scanNameToken .plain (c :: cs)
    else if isNameChar c || c = ':' then scanNameToken .loose (c :: cs)
    else .broken (c :: cs)

/-- What a scan of the text at hand comes to, given what comes after the whole text. -/
def Scan.settle {α : Type} (ending : Ending) (left : Nat) : Scan α → Except Refusal (α × Text)
  | .found value rest => .ok (value, rest)
  | .broken rest => .error ⟨.invalidToken, rest.length⟩
  | .last value =>
    match ending with
    | .complete => .ok (value, [])
    | .half => .ok (value, [])
    | .malformed => .error ⟨.invalidToken, 0⟩
    | .truncated => .error ⟨.partialCharacter, left⟩
  | .unfinished =>
    match ending with
    | .complete => .error ⟨.unclosedToken, left⟩
    | .half => .error ⟨.unclosedToken, left⟩
    | .malformed => .error ⟨.invalidToken, 0⟩
    | .truncated => .error ⟨.partialCharacter, left⟩

/-! ## Values in declarations -/

/-- The text of an entity whose value is written so. Characters given by their numbers
are put in, references to entities stay. At most `fuel` characters are read. -/
def entityText : Nat → Text → Except Refusal Text
  | 0, _ => .ok []
  | _, [] => .ok []
  | fuel + 1, '\r' :: '\n' :: cs => do return '\n' :: (← entityText fuel cs)
  | fuel + 1, c :: cs =>
    if c = '&' then
      match scanReference cs with
      | .found (.character n) rest =>
        match characterOf? n with
        | some c => do return c :: (← entityText fuel rest)
        | none => .error ⟨.invalidCharacterNumber, cs.length + 1⟩
      | .found (.entity _) rest => do return c :: before cs rest ++ (← entityText fuel rest)
      | .broken rest => .error ⟨.invalidToken, rest.length⟩
      | _ => .error ⟨.invalidToken, cs.length + 1⟩
    else if c = '%' then
      match scanPercent cs with
      | .found .parameterReference _ => .error ⟨.parameterEntity, cs.length + 1⟩
      | .found _ rest => .error ⟨.invalidToken, rest.length⟩
      | .broken rest => .error ⟨.invalidToken, rest.length⟩
      | _ => .error ⟨.invalidToken, cs.length + 1⟩
    else do return (if c = '\r' then '\n' else c) :: (← entityText fuel cs)

/-- A character that may stand in a public identifier. -/
def isPublicIdChar (c : Char) : Bool :=
  c.isAlphanum || c = ' ' || c = '\n' || c = '\r' || "-'()+,./:=?;!*#@$_%".toList.contains c

/-- The refusal of a public identifier that holds a character it may not hold. `left` is
the number of characters left where the identifier begins. -/
def checkPublicId (left : Nat) (value : Text) : Except Refusal Unit :=
  let good := (value.takeWhile isPublicIdChar).length
  if good = value.length then .ok () else .error ⟨.publicIdentifier, left - good⟩

/-! ## States -/

/-- What is expected in the prolog. An entity without a name is a parameter entity. -/
inductive PrologState where
  | start
  | beforeDoctype
  | afterDoctype
  | doctypeName
  | doctypeId
  | doctypePublic
  | doctypeSystem
  | doctypeSubset
  | doctypeEnd
  | subset
  | entityName
  | parameterName
  | entityBody (name : Option Text)
  | entityPublic (name : Option Text)
  | entitySystem (name : Option Text)
  | entityExternal (name : Option Text)
  | entityNotation (name : Text)
  | notationName
  | notationId
  | notationPublic
  | notationSystem
  | notationRest
  | attlistElement
  | attlistName (element : Text)
  | attlistType (element name : Text)
  | attlistChoice (element name : Text)
  | attlistChoiceNext (element name : Text)
  | attlistNotation (element name : Text)
  | attlistNotationChoice (element name : Text)
  | attlistNotationNext (element name : Text)
  | attlistDefault (element name : Text) (plain : Bool)
  | attlistFixed (element name : Text) (plain : Bool)
  | elementName
  | elementContent
  | elementGroup
  | mixedNext
  | mixedName
  | mixedAfterName
  /-- An item of a group, with the separators of the groups around it. -/
  | groupItem (separators : List (Option Char))
  | groupNext (separators : List (Option Char))
  | declarationEnd
  deriving DecidableEq, Repr

/-- The token is a name with at most one colon. -/
def Token.name? : Token → Option Text
  | .name .loose _ => none
  | .name _ n => some n
  | _ => none

/-- The token is this word. -/
def Token.isWord (t : Token) (word : Text) : Bool := t = .name .plain word

/-- The types of attributes that are lists of tokens. -/
def tokenTypes : List Text :=
  ["ID", "IDREF", "IDREFS", "ENTITY", "ENTITIES", "NMTOKEN", "NMTOKENS"].map String.toList

/-- A state and the declarations so far. -/
abbrev PrologPoint := PrologState × Declarations

/-- The default of an attribute, whose value begins where `left` characters are left. -/
def declareDefault (d : Declarations) (element name : Text) (plain : Bool) (left : Nat)
    (value : Text) : Except Refusal Declarations :=
  if d.skipping then .ok d
  else
    match d.value plain value with
    | .ok v => .ok (d.declareAttribute ⟨element, name, plain, some v⟩)
    | .error (reason, some place) => .error ⟨reason, left - (value.length - place)⟩
    | .error (reason, none) => .error ⟨reason, left + 1⟩

/-- The value of an entity, which begins where `left` characters are left. -/
def declareValue (d : Declarations) (name : Option Text) (left : Nat) (value : Text) :
    Except Refusal Declarations :=
  if d.skipping then .ok d
  else
    match entityText value.length value, name with
    | .ok text, some name => .ok (d.declareEntity name (.internal text))
    | .ok _, none => .ok d
    | .error r, _ => .error { r with left := left - (value.length - r.left) }

/-- The state after a token in a group. -/
def groupAfter (separators : List (Option Char)) : PrologState :=
  if separators.isEmpty then .declarationEnd else .groupNext separators

/-- The state after a separator in a group. All separators of a group are the same. -/
def groupSeparator (c : Char) : List (Option Char) → Option PrologState
  | some d :: outer => if c = d then some (.groupItem (some c :: outer)) else none
  | none :: outer => some (.groupItem (some c :: outer))
  | [] => none

/-- The state that a declaration in the internal subset begins with. -/
def subsetOpening? (keyword : Text) : Option PrologState :=
  if keyword = "ENTITY".toList then some .entityName
  else if keyword = "ATTLIST".toList then some .attlistElement
  else if keyword = "ELEMENT".toList then some .elementName
  else if keyword = "NOTATION".toList then some .notationName
  else none

/-- The declarations after a reference to a parameter entity, which is not read. What
follows it is passed over, unless the document stands alone. -/
def Declarations.afterParameterReference (d : Declarations) : Declarations :=
  { d with elsewhere := true, skipping := !d.standalone }

/-- The state after a token in the prolog that is not space, and nothing if the token
cannot stand there. `left` characters are left where the token begins. -/
def step? (d : Declarations) (left : Nat) (state : PrologState) (t : Token) :
    Except Refusal (Option PrologPoint) :=
  let go (s : PrologState) : Except Refusal (Option PrologPoint) := .ok (some (s, d))
  match state, t with
  | .start, .comment => go .beforeDoctype
  | .start, .instruction _ => go .beforeDoctype
  | .beforeDoctype, .comment => go .beforeDoctype
  | .beforeDoctype, .instruction _ => go .beforeDoctype
  | .start, .opening k => if k = "DOCTYPE".toList then go .doctypeName else .ok none
  | .beforeDoctype, .opening k => if k = "DOCTYPE".toList then go .doctypeName else .ok none
  | .afterDoctype, .comment => go .afterDoctype
  | .afterDoctype, .instruction _ => go .afterDoctype
  -- the document type
  | .doctypeName, t => if t.name?.isSome then go .doctypeId else .ok none
  | .doctypeId, .openBracket => go .subset
  | .doctypeId, .close => go .afterDoctype
  | .doctypeId, t =>
    if t.isWord "SYSTEM".toList then go .doctypeSystem
    else if t.isWord "PUBLIC".toList then go .doctypePublic
    else .ok none
  | .doctypePublic, .literal v => do checkPublicId (left - 1) v; go .doctypeSystem
  | .doctypeSystem, .literal _ => .ok (some (.doctypeSubset, { d with elsewhere := true }))
  | .doctypeSubset, .openBracket => go .subset
  | .doctypeSubset, .close => go .afterDoctype
  | .doctypeEnd, .close => go .afterDoctype
  | .subset, .opening k => .ok ((subsetOpening? k).map fun s => (s, d))
  | .subset, .comment => go .subset
  | .subset, .instruction _ => go .subset
  | .subset, .parameterReference => .ok (some (.subset, d.afterParameterReference))
  | .subset, .closeBracket => go .doctypeEnd
  -- entities
  | .entityName, .percent => go .parameterName
  | .entityName, .name .plain n => go (.entityBody (some n))
  | .parameterName, .name .plain _ => go (.entityBody none)
  | .entityBody n, .literal v => do
    return some (.declarationEnd, ← declareValue d n (left - 1) v)
  | .entityBody n, t =>
    if t.isWord "SYSTEM".toList then go (.entitySystem n)
    else if t.isWord "PUBLIC".toList then go (.entityPublic n)
    else .ok none
  | .entityPublic n, .literal v => do checkPublicId (left - 1) v; go (.entitySystem n)
  | .entitySystem n, .literal _ => go (.entityExternal n)
  | .entityExternal n, .close =>
    .ok (some (.subset, (n.map fun n => d.declareEntity n .external).getD d))
  | .entityExternal (some n), t =>
    if t.isWord "NDATA".toList then go (.entityNotation n) else .ok none
  | .entityNotation n, .name .plain _ =>
    .ok (some (.declarationEnd, d.declareEntity n .unparsed))
  -- notations
  | .notationName, .name .plain _ => go .notationId
  | .notationId, t =>
    if t.isWord "SYSTEM".toList then go .notationSystem
    else if t.isWord "PUBLIC".toList then go .notationPublic
    else .ok none
  | .notationPublic, .literal v => do checkPublicId (left - 1) v; go .notationRest
  | .notationSystem, .literal _ => go .declarationEnd
  | .notationRest, .literal _ => go .declarationEnd
  | .notationRest, .close => go .subset
  -- attributes
  | .attlistElement, t =>
    match t.name? with
    | some e => go (.attlistName e)
    | none => .ok none
  | .attlistName _, .close => go .subset
  | .attlistName e, t =>
    match t.name? with
    | some n => go (.attlistType e n)
    | none => .ok none
  | .attlistType e n, .openParen => go (.attlistChoice e n)
  | .attlistType e n, .name .plain type =>
    if type = "CDATA".toList then go (.attlistDefault e n true)
    else if type ∈ tokenTypes then go (.attlistDefault e n false)
    else if type = "NOTATION".toList then go (.attlistNotation e n)
    else .ok none
  | .attlistChoice e n, .name _ _ => go (.attlistChoiceNext e n)
  | .attlistChoiceNext e n, .closeParen none => go (.attlistDefault e n false)
  | .attlistChoiceNext e n, .bar => go (.attlistChoice e n)
  | .attlistNotation e n, .openParen => go (.attlistNotationChoice e n)
  | .attlistNotationChoice e n, .name .plain _ => go (.attlistNotationNext e n)
  | .attlistNotationNext e n, .closeParen none => go (.attlistDefault e n false)
  | .attlistNotationNext e n, .bar => go (.attlistNotationChoice e n)
  | .attlistDefault e n plain, .pound k =>
    if k = "IMPLIED".toList || k = "REQUIRED".toList then
      .ok (some (.attlistName e, d.declareAttribute ⟨e, n, plain, none⟩))
    else if k = "FIXED".toList then go (.attlistFixed e n plain)
    else .ok none
  | .attlistDefault e n plain, .literal v => do
    return some (.attlistName e, ← declareDefault d e n plain (left - 1) v)
  | .attlistFixed e n plain, .literal v => do
    return some (.attlistName e, ← declareDefault d e n plain (left - 1) v)
  -- elements
  | .elementName, t => if t.name?.isSome then go .elementContent else .ok none
  | .elementContent, .openParen => go .elementGroup
  | .elementContent, t =>
    if t.isWord "EMPTY".toList || t.isWord "ANY".toList then go .declarationEnd else .ok none
  | .elementGroup, .pound k => if k = "PCDATA".toList then go .mixedNext else .ok none
  | .elementGroup, .openParen => go (.groupItem [none, none])
  | .elementGroup, .marked _ => go (.groupNext [none])
  | .elementGroup, t => if t.name?.isSome then go (.groupNext [none]) else .ok none
  | .mixedNext, .closeParen none => go .declarationEnd
  | .mixedNext, .closeParen (some '*') => go .declarationEnd
  | .mixedNext, .bar => go .mixedName
  | .mixedName, t => if t.name?.isSome then go .mixedAfterName else .ok none
  | .mixedAfterName, .closeParen (some '*') => go .declarationEnd
  | .mixedAfterName, .bar => go .mixedName
  | .groupItem seps, .openParen => go (.groupItem (none :: seps))
  | .groupItem seps, .marked _ => go (.groupNext seps)
  | .groupItem seps, t => if t.name?.isSome then go (.groupNext seps) else .ok none
  | .groupNext seps, .closeParen _ => go (groupAfter seps.tail)
  | .groupNext seps, .comma => .ok ((groupSeparator ',' seps).map fun s => (s, d))
  | .groupNext seps, .bar => .ok ((groupSeparator '|' seps).map fun s => (s, d))
  | .declarationEnd, .close => go .subset
  | _, _ => .ok none

/-- The root may begin in this state. -/
def PrologState.allowsRoot : PrologState → Bool
  | .start => true
  | .beforeDoctype => true
  | .afterDoctype => true
  | _ => false

/-- The state after space. -/
def PrologState.afterSpace : PrologState → PrologState
  | .start => .beforeDoctype
  | s => s

/-- Why a token that cannot stand where it stands is refused. -/
def Token.refusal : Token → Reason
  | .parameterReference => .parameterEntity
  | .instruction target =>
    if target = declarationTarget then .misplacedDeclaration else .syntaxError
  | _ => .syntaxError

/-- The token is a declaration of the document, which may only stand at its front. -/
def Token.isDeclaration (t : Token) : Bool := t = .instruction declarationTarget

/-- Why a document ends where something has to follow. -/
def Ending.refusal (e : Ending) : Reason :=
  match e with
  | .complete => .noElement
  | .malformed => .invalidToken
  | .truncated => .partialCharacter
  | .half => .unclosedToken

/-- The prolog from a state on: the declarations, and the text from the root on. At most
`fuel` tokens are read. -/
def readProlog (ending : Ending) :
    Nat → PrologState → Declarations → Text → Except Refusal (Declarations × Text)
  | _, _, _, [] => .error ⟨ending.refusal, 0⟩
  | 0, _, _, _ => .error ⟨ending.refusal, 0⟩
  | fuel + 1, state, d, c :: cs => do
    let left := cs.length + 1
    let (token, rest) ← (scanToken (c :: cs)).settle ending left
    if token = .space then readProlog ending fuel state.afterSpace d rest
    else if token = .root && state.allowsRoot then return (d, c :: cs)
    else if token.isDeclaration then throw ⟨.misplacedDeclaration, left⟩
    else
      match ← step? d left state token with
      | some (state, d) => readProlog ending fuel state d rest
      | none => throw ⟨token.refusal, left⟩

/-- The end of a document, behind its root: space, comments and instructions. -/
def readEpilog (ending : Ending) : Nat → Text → Except Refusal Unit
  | _, [] => if ending = .complete then .ok () else .error ⟨ending.refusal, 0⟩
  | 0, _ => .ok ()
  | fuel + 1, c :: cs => do
    let left := cs.length + 1
    let (token, rest) ← (scanToken (c :: cs)).settle ending left
    if token.isDeclaration then throw ⟨.junkAfterRoot, left⟩
    match token with
    | .space => readEpilog ending fuel rest
    | .comment => readEpilog ending fuel rest
    | .instruction _ => readEpilog ending fuel rest
    | _ => throw ⟨.junkAfterRoot, left⟩

end HeaderBridge.Xml
