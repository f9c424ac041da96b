import HeaderBridge.Text.Digit
import HeaderBridge.Text

/-!
# Why a document is refused

The reasons for which a document is no well-formed XML, and the places where it stops
being so. While a document is read, a place is the number of characters that are left;
at the end it is a line, counted from 1, and a column, counted from 0.
-/

namespace HeaderBridge.Xml

/-- Why a document is refused. -/
inductive Reason where
  | noElement
  | invalidToken
  | unclosedToken
  | partialCharacter
  | mismatchedTag
  | duplicateAttribute
  | junkAfterRoot
  | syntaxError
  | undefinedEntity
  /-- An entity that may be declared elsewhere is not known here. -/
  | skippedEntity (name : Text)
  | recursiveEntity
  | unbalancedEntity
  | invalidCharacterNumber
  | unparsedEntity
  | externalEntityInAttribute
  | misplacedDeclaration
  | malformedDeclaration
  | unknownEncoding
  | wrongEncoding
  | unclosedCdata
  | parameterEntity
  | unboundPrefix
  | undeclaredPrefix
  | reservedXmlPrefix
  | reservedXmlnsPrefix
  | reservedNamespace
  | publicIdentifier
  deriving DecidableEq, Repr

/-- The reason in words. -/
def Reason.message : Reason → Text
  | .noElement => "no element found".toList
  | .invalidToken => "not well-formed (invalid token)".toList
  | .unclosedToken => "unclosed token".toList
  | .partialCharacter => "partial character".toList
  | .mismatchedTag => "mismatched tag".toList
  | .duplicateAttribute => "duplicate attribute".toList
  | .junkAfterRoot => "junk after document element".toList
  | .syntaxError => "syntax error".toList
  | .undefinedEntity => "undefined entity".toList
  | .skippedEntity name => "undefined entity &".toList ++ name ++ ";".toList
  | .recursiveEntity => "recursive entity reference".toList
  | .unbalancedEntity => "asynchronous entity".toList
  | .invalidCharacterNumber => "reference to invalid character number".toList
  | .unparsedEntity => "reference to binary entity".toList
  | .externalEntityInAttribute => "reference to external entity in attribute".toList
  | .misplacedDeclaration => "XML or text declaration not at start of entity".toList
  | .malformedDeclaration => "XML declaration not well-formed".toList
  | .unknownEncoding => "unknown encoding".toList
  | .wrongEncoding => "encoding specified in XML declaration is incorrect".toList
  | .unclosedCdata => "unclosed CDATA section".toList
  | .parameterEntity => "illegal parameter entity reference".toList
  | .unboundPrefix => "unbound prefix".toList
  | .undeclaredPrefix => "must not undeclare prefix".toList
  | .reservedXmlPrefix =>
    "reserved prefix (xml) must not be undeclared or bound to another namespace name".toList
  | .reservedXmlnsPrefix =>
    "reserved prefix (xmlns) must not be declared or undeclared".toList
  | .reservedNamespace =>
    "prefix must not be bound to one of the reserved namespace names".toList
  | .publicIdentifier => "illegal character(s) in public id".toList

/-- A reason, and the number of characters that are left where it was found. -/
structure Refusal where
  reason : Reason
  left : Nat
  deriving DecidableEq, Repr

/-- A place in a document. -/
structure Position where
  line : Nat
  column : Nat
  deriving DecidableEq, Repr

/-- The place after the text, beginning at a place. A carriage return, alone or before a
line feed, ends a line as a line feed does. -/
def Position.after : Position → Text → Position
  | p, [] => p
  | p, '\r' :: '\n' :: cs => after ⟨p.line + 1, 0⟩ cs
  | p, c :: cs =>
    after (if c = '\n' || c = '\r' then ⟨p.line + 1, 0⟩ else ⟨p.line, p.column + 1⟩) cs

/-- A reason with its place. -/
structure Failure where
  reason : Reason
  position : Position
  deriving DecidableEq, Repr

/-- The reason with its place in words. -/
def Failure.message (f : Failure) : Text :=
  f.reason.message ++ ": line ".toList ++ numeral f.position.line ++ ", column ".toList ++
    numeral f.position.column

end HeaderBridge.Xml
