import HeaderBridge.OrderedMap
import HeaderBridge.Xml.Reason
import HeaderBridge.Xml.Scan

/-!
# Declarations of a document type

The entities and the attributes that a document declares for itself, and the values of
attributes, which are read with the help of both.
-/

namespace HeaderBridge.Xml

/-- What an entity stands for. -/
inductive Entity where
  /-- The text of the entity. -/
  | internal (text : Text)
  /-- Something outside the document. -/
  | external
  /-- Something that is no XML. -/
  | unparsed
  deriving DecidableEq, Repr

/-- The declaration of an attribute of an element. -/
structure AttributeRule where
  element : Text
  name : Text
  /-- The value is plain text, and not a list of tokens. -/
  plain : Bool
  /-- The value that the attribute has where it is not written. -/
  default? : Option Text
  deriving DecidableEq, Repr

/-- What a document declares. -/
structure Declarations where
  entities : OrderedMap Text Entity := []
  /-- The attributes, in the order of their declarations. -/
  attributes : List AttributeRule := []
  /-- There may be declarations elsewhere. -/
  elsewhere : Bool := false
  /-- The document says that declarations elsewhere do not matter. -/
  standalone : Bool := false
  /-- Declarations are passed over, because something before them was not read. -/
  skipping : Bool := false
  deriving DecidableEq, Repr

namespace Declarations

/-- An entity that is not declared may be declared elsewhere. -/
def mayMiss (d : Declarations) : Bool := d.elsewhere && !d.standalone

/-- The declarations with one entity more. The first declaration of an entity counts, and
predefined entities are not declared anew. -/
def declareEntity (d : Declarations) (name : Text) (e : Entity) : Declarations :=
  if d.skipping || (predefined? name).isSome || decide (name ∈ d.entities.keys) then d
  else { d with entities := d.entities.insert name e }

/-- The rules for the attributes of an element. -/
def rulesOf (d : Declarations) (element : Text) : List AttributeRule :=
  d.attributes.filter fun r => r.element = element

/-- The declarations with one attribute more. Of several defaults for one attribute the
first counts. -/
def declareAttribute (d : Declarations) (r : AttributeRule) : Declarations :=
  if d.skipping ||
      (r.default?.isSome && (d.rulesOf r.element).any fun s => s.name = r.name) then
    d
  else { d with attributes := d.attributes ++ [r] }

/-- The value of the attribute of an element is plain text. -/
def isPlain (d : Declarations) (element name : Text) : Bool :=
  match (d.rulesOf element).find? fun r => r.name = name with
  | some r => r.plain
  | none => true

end Declarations

/-! ## Values of attributes -/

/-- A character in the value of an attribute, of which the last one comes first so far.
Space becomes a single space; in a list of tokens there is no space at the front and none
behind another. -/
def addToValue (plain : Bool) (acc : Text) (c : Char) : Text :=
  if isSpace c then addSpace plain acc else c :: acc
where
  /-- A space in the value. -/
  addSpace (plain : Bool) (acc : Text) : Text :=
    if !plain && (acc.isEmpty || acc.head? = some ' ') then acc else ' ' :: acc

/-- The character of a reference in the value of an attribute. It is kept as it is, but
for a space in a list of tokens. -/
def addReferenced (plain : Bool) (acc : Text) (c : Char) : Text :=
  if c = ' ' then addToValue.addSpace plain acc else c :: acc

/-- Why a value is refused, and the number of characters left in the value where a
reference stands that is reported in its own place. -/
abbrev ValueRefusal := Reason × Option Nat

/-- The value of an attribute from the given text on, the last character first. Entities
are read in their place. `depth` bounds how far entities may hold one another, and `fuel`
is at least the number of characters; `opened` are the entities that are being read. -/
def expandValue (d : Declarations) (plain : Bool) (depth fuel : Nat) (opened : List Text)
    (acc : Text) (t : Text) : Except ValueRefusal Text :=
  match fuel, t with
  | 0, _ => .ok acc
  | _, [] => .ok acc
  | fuel + 1, '\r' :: '\n' :: cs =>
    expandValue d plain depth fuel opened (addToValue plain acc '\n') cs
  | fuel + 1, c :: cs =>
    let place := if opened.isEmpty then some (cs.length + 1) else none
    if c = '<' then .error (.invalidToken, place)
    else if c = '&' then
      match scanReference cs with
      | .found (.character n) rest =>
        match characterOf? n with
        | some c => expandValue d plain depth fuel opened (addReferenced plain acc c) rest
        | none => .error (.invalidCharacterNumber, place)
      | .found (.entity name) rest =>
        match predefined? name, d.entities.lookup name with
        | some c, _ => expandValue d plain depth fuel opened (c :: acc) rest
        | none, none =>
          if d.mayMiss then expandValue d plain depth fuel opened acc rest
          else .error (.undefinedEntity, none)
        | none, some .unparsed => .error (.unparsedEntity, place)
        | none, some .external => .error (.externalEntityInAttribute, place)
        | none, some (.internal inner) =>
          if _h : name ∈ opened ∨ depth = 0 then .error (.recursiveEntity, none)
          else
            match expandValue d plain (depth - 1) inner.length (name :: opened) acc inner with
            | .ok acc => expandValue d plain depth fuel opened acc rest
            | .error (reason, _) => .error (reason, none)
      | .broken rest =>
        .error (.invalidToken, if opened.isEmpty then some rest.length else none)
      | _ => .error (.invalidToken, place)
    else expandValue d plain depth fuel opened (addToValue plain acc c) cs
  termination_by (depth, fuel)

/-- The value of an attribute that is written so. -/
def Declarations.value (d : Declarations) (plain : Bool) (t : Text) :
    Except ValueRefusal Text :=
  match expandValue d plain d.entities.length t.length [] [] t with
  | .ok acc =>
    .ok (if !plain && acc.head? = some ' ' then acc.tail.reverse else acc.reverse)
  | .error e => .error e

end HeaderBridge.Xml
