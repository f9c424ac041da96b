import HeaderBridge.HeaderUnit
import HeaderBridge.Declaration
import HeaderBridge.Proofs.Replacing

/-!
# Plain prototypes

A plain prototype declares a function by types that are one identifier each, with
`const` before it or not and up to two stars behind it, the stars glued to the name.
`Prototype.line_eq` says that it is written as a parsed header writes the function.

`Declared.token` is the token under which the dictionary looks for a type : the word of
a type without stars, and a marker for a pointer. `Declared.Plain` leaves out the words
that a pass over the line would cut in two, and `Prototype.Plain` asks this of every
type of a prototype.
-/

namespace HeaderBridge

/-! ## The declarations -/

/-- The stars behind the word of a type. -/
inductive Stars where
  | none
  | one
  | two
  deriving DecidableEq, Repr

/-- The stars as text. -/
def Stars.text : Stars → Text
  | .none => []
  | .one => ['*']
  | .two => ['*', '*']

/-- An identifier, with `const` before it or not and stars behind it. -/
structure PlainType where
  isConst : Bool := false
  base : Identifier
  stars : Stars := .none
  deriving DecidableEq

/-- The keyword before a type. -/
def PlainType.qualifier (t : PlainType) : Text :=
  if t.isConst then "const ".toList else []

/-- The type as a header spells it. -/
def PlainType.spelling (t : PlainType) : Text :=
  t.qualifier ++ t.base.text ++
    match t.stars with
    | .none => []
    | s => ' ' :: s.text

/-- A name with its type. -/
structure Declared where
  type : PlainType
  name : Identifier
  deriving DecidableEq

/-- A function, with the names and types of its parameters. -/
structure Prototype where
  storage : Storage := .none
  function : Declared
  params : List Declared := []
  /-- An empty parameter list is marked by `void`. -/
  voidMarked : Bool := true
  deriving DecidableEq

namespace Declared

/-- The name behind its type, without the keyword. -/
def bare (d : Declared) : Text :=
  d.type.base.text ++ ' ' :: (d.type.stars.text ++ d.name.text)

/-- The name behind its type. -/
def spelled (d : Declared) : Text := d.type.qualifier ++ d.bare

/-- A header glues a name to its type in this way. -/
theorem declarator_spelling (d : Declared) :
    declarator d.type.spelling d.name.text = d.spelled := by
  unfold declarator PlainType.spelling spelled bare
  cases d.type.stars with
  | none =>
    have hlast : d.type.base.text.getLast? ≠ some '*' := fun h =>
      d.type.base.isWord.notMem (by decide) (List.mem_of_getLast? h)
    simp [Stars.text, hlast, d.type.base.ne_nil]
  | one => simp [Stars.text]
  | two => simp [Stars.text]

end Declared

namespace Prototype

/-- What stands between the parentheses if each parameter is written by `f`. -/
def args (p : Prototype) (f : Declared → Text) : List Text :=
  if p.params = [] ∧ p.voidMarked then ["void".toList] else p.params.map f

/-- The prototype as one line. -/
def line (p : Prototype) : Text :=
  lineOf (p.storage.keywords ++ p.function.spelled) (p.args Declared.spelled)

/-- The function that a parsed header delivers. -/
def toFunction (p : Prototype) : Function :=
  { name := p.function.name.text
    result := p.function.type.spelling
    params := p.params.map fun d => ⟨d.type.spelling, d.name.text⟩
    storage := p.storage }

theorem declarator_params (p : Prototype) :
    (p.toFunction.params.mapIdx fun i q => q.declarator i) = p.params.map Declared.spelled := by
  rw [List.mapIdx_eq_iff]
  intro i
  cases h : p.params[i]? with
  | none => simp [toFunction, h]
  | some d =>
    simp [toFunction, h, Parameter.declarator, d.name.ne_nil, Declared.declarator_spelling]

/-- The line is the one that is written for the function of a parsed header. -/
theorem line_eq (p : Prototype) (h : p.voidMarked = true) : p.line = p.toFunction.line := by
  have hvariadic : p.toFunction.isVariadic = false := rfl
  have hhead : declarator p.toFunction.result p.toFunction.name = p.function.spelled :=
    p.function.declarator_spelling
  have hargs : p.toFunction.paramList = Text.join ", ".toList (p.args Declared.spelled) := by
    unfold Function.paramList args
    rw [declarator_params]
    cases hp : p.params <;> simp [toFunction, hp, h]
  have hstorage : p.toFunction.storage = p.storage := rfl
  simp [line, lineOf, Function.line, hvariadic, hhead, hargs, hstorage]

end Prototype

/-! ## The tokens -/

namespace Declared

/-- The marker of the type, or its word if it has no stars. -/
def marker (d : Declared) : Text :=
  match d.type.stars with
  | .none => d.type.base.text
  | .one => if d.type.base.text = "char".toList then stringMarker else pointerMarker
  | .two => pointerArrayMarker

/-- The token that the dictionary is asked for. The time zone is taken as octets. -/
def token (d : Declared) : Text :=
  if d.marker = stringMarker ∧ "tz_str".toList <+: d.name.text then byteArray else d.marker

/-- The name in Java. -/
def javaName (d : Declared) : Text :=
  if d.name.text = reservedWord then "synchronize".toList else d.name.text

/-- No pass over a line cuts the type in two. -/
structure Plain (d : Declared) : Prop where
  not_const : ¬ "const".toList <:+ d.type.base.text
  not_external : ¬ "extern".toList <:+ d.type.base.text
  not_reserved : d.type.base.text ≠ reservedWord
  charPointer : d.type.stars ≠ .none → "char".toList <:+ d.type.base.text →
    d.type.base.text = "char".toList ∧ d.type.stars = .one

/-- The type ends in no keyword that is dropped, and is not the word that Java keeps for
itself. -/
structure Keywordless (d : Declared) : Prop where
  not_const : ¬ "const".toList <:+ d.type.base.text
  not_external : ¬ "extern".toList <:+ d.type.base.text
  not_reserved : d.type.base.text ≠ reservedWord

theorem Plain.keywordless {d : Declared} (h : d.Plain) : d.Keywordless :=
  ⟨h.not_const, h.not_external, h.not_reserved⟩

instance (d : Declared) : Decidable d.Keywordless :=
  decidable_of_iff (¬ "const".toList <:+ d.type.base.text ∧ ¬ "extern".toList <:+ d.type.base.text ∧
      d.type.base.text ≠ reservedWord)
    ⟨fun h => ⟨h.1, h.2.1, h.2.2⟩, fun h => ⟨h.not_const, h.not_external, h.not_reserved⟩⟩

end Declared

namespace Prototype

/-- No pass over the line cuts a type in two. -/
structure Plain (p : Prototype) : Prop where
  function : p.function.Plain
  params : ∀ d ∈ p.params, d.Plain

/-- No type of the prototype ends in a keyword. -/
structure Keywordless (p : Prototype) : Prop where
  function : p.function.Keywordless
  params : ∀ d ∈ p.params, d.Keywordless

theorem Plain.keywordless {p : Prototype} (h : p.Plain) : p.Keywordless :=
  ⟨h.function.keywordless, fun d hd => (h.params d hd).keywordless⟩

instance (p : Prototype) : Decidable p.Keywordless :=
  decidable_of_iff (p.function.Keywordless ∧ ∀ d ∈ p.params, d.Keywordless)
    ⟨fun h => ⟨h.1, h.2⟩, fun h => ⟨h.function, h.params⟩⟩

end Prototype

end HeaderBridge
