import HeaderBridge.Xml.Declarations
import HeaderBridge.Xml.Tag

/-!
# Namespaces

A prefix stands for the namespace that the nearest element around binds to it. A name
with a namespace is written with the namespace in braces before it, and a name without
one is left as it is; names of attributes take no part in the default namespace.
-/

namespace HeaderBridge.Xml

/-! ## Scopes -/

/-- The namespaces of the prefixes, the nearest binding first. The empty prefix stands
for the default namespace, which is undone by the empty name. -/
abbrev Scope := List (Text × Text)

/-- The name of a namespace that the format itself sets apart, by what tells it from the
others. -/
def reservedNamespace (place : Text) : Text :=
  "http:".toList ++ '/' :: '/' :: "www.w3.org".toList ++ '/' :: place

/-- The namespace of the prefix that needs no binding. -/
def xmlNamespace : Text := reservedNamespace "XML/1998/namespace".toList

/-- The namespace of the attributes that bind prefixes. -/
def xmlnsNamespace : Text := reservedNamespace "2000/xmlns/".toList

/-- The word that binds prefixes. -/
def xmlnsWord : Text := "xmlns".toList

/-- The bindings around the root. -/
def outerScope : Scope := [("xml".toList, xmlNamespace)]

/-- The namespace of a prefix. -/
def Scope.namespace? (s : Scope) (key : Text) : Option Text :=
  match s.find? fun b => b.1 = key with
  | some b => if b.2.isEmpty then none else some b.2
  | none => none

/-- The prefix of a qualified name, if it has one, and the rest of the name. -/
def splitQualified (name : Text) : Option Text × Text :=
  if name.contains ':' then
    (some (name.takeWhile (· ≠ ':')), (name.dropWhile (· ≠ ':')).drop 1)
  else (none, name)

/-- A name in a namespace. -/
def inNamespace (uri name : Text) : Text := '\x7b' :: uri ++ '\x7d' :: name

/-- The name of an element, with the namespace of its prefix or the default one. -/
def expandedName (s : Scope) (name : Text) : Except Reason Text :=
  match splitQualified name with
  | (none, name) =>
    match s.namespace? [] with
    | some uri => .ok (inNamespace uri name)
    | none => .ok name
  | (some key, rest) =>
    match s.namespace? key with
    | some uri => .ok (inNamespace uri rest)
    | none => .error .unboundPrefix

/-! ## Bindings -/

/-- The prefix that an attribute binds, if it binds one. -/
def boundPrefix? (name : Text) : Option Text :=
  if name = xmlnsWord then some []
  else
    match splitQualified name with
    | (some key, rest) => if key = xmlnsWord then some rest else none
    | (none, _) => none

/-- Why a prefix may not be bound to a namespace. -/
def bindingFault? (key uri : Text) : Option Reason :=
  let mustBeXml := key = "xml".toList
  if uri.isEmpty && !key.isEmpty then some .undeclaredPrefix
  else if key = xmlnsWord then some .reservedXmlnsPrefix
  else if uri.contains '\x7d' then some .syntaxError
  else if mustBeXml && uri ≠ xmlNamespace then some .reservedXmlPrefix
  else if !mustBeXml && (uri = xmlNamespace || uri = xmlnsNamespace) then
    some .reservedNamespace
  else none

/-! ## Attributes -/

/-- A start tag with its names and values read. -/
structure Tag where
  name : Text
  attributes : List (Text × Text)
  /-- The bindings within the element. -/
  scope : Scope
  deriving DecidableEq, Repr

/-- Why a tag is refused, and the number of characters that are left where the reason
lies, if that is not where the tag begins. -/
abbrev TagRefusal := Reason × Option Nat

/-- What has been read of the attributes of a tag. -/
structure TagState where
  /-- The names that were written, in the order of the tag. -/
  written : List Text := []
  /-- The attributes that bind nothing, in their order. -/
  attributes : List (Text × Text) := []
  scope : Scope

/-- An attribute with its value, which may bind a prefix. -/
def TagState.add (s : TagState) (name value : Text) : Except Reason TagState :=
  match boundPrefix? name with
  | some key =>
    match bindingFault? key value with
    | some reason => .error reason
    | none => .ok { s with written := s.written ++ [name], scope := (key, value) :: s.scope }
  | none =>
    .ok { s with written := s.written ++ [name], attributes := s.attributes ++ [(name, value)] }

/-- An attribute as it is written. -/
def TagState.addRaw (d : Declarations) (element : Text) (s : TagState) (a : RawAttribute) :
    Except TagRefusal TagState :=
  if a.name ∈ s.written then .error (.duplicateAttribute, some a.nameLeft)
  else
    match d.value (d.isPlain element a.name) a.value with
    | .error (reason, place) =>
      .error (reason, place.map fun left => a.valueLeft - (a.value.length - left))
    | .ok value =>
      match s.add a.name value with
      | .ok s => .ok s
      | .error reason => .error (reason, none)

/-- An attribute that is declared with a default and not written. -/
def TagState.addDefault (s : TagState) (r : AttributeRule) : Except TagRefusal TagState :=
  match r.default? with
  | none => .ok s
  | some value =>
    if r.name ∈ s.written then .ok s
    else
      match s.add r.name value with
      | .ok s => .ok s
      | .error reason => .error (reason, none)

/-- The attributes with their namespaces. Two of them may not come to the same name. -/
def expandAttributes (s : Scope) (done : List (Text × Text)) :
    List (Text × Text) → Except Reason (List (Text × Text))
  | [] => .ok done
  | (name, value) :: rest =>
    match splitQualified name with
    | (none, _) => expandAttributes s (done ++ [(name, value)]) rest
    | (some _, _) =>
      match expandedName s name with
      | .error reason => .error reason
      | .ok expanded =>
        if expanded ∈ done.map Prod.fst then .error .duplicateAttribute
        else expandAttributes s (done ++ [(expanded, value)]) rest

/-- A start tag, read in a scope. -/
def readTag (d : Declarations) (scope : Scope) (t : RawTag) : Except TagRefusal Tag := do
  let s ← t.attributes.foldlM (TagState.addRaw d t.name) { scope }
  let s ← (d.rulesOf t.name).foldlM TagState.addDefault s
  match expandAttributes s.scope [] s.attributes with
  | .error reason => .error (reason, none)
  | .ok attributes =>
    match expandedName s.scope t.name with
    | .error reason => .error (reason, none)
    | .ok name => .ok ⟨name, attributes, s.scope⟩

end HeaderBridge.Xml
