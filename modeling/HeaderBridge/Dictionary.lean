import HeaderBridge.OrderedMap
import HeaderBridge.Text

/-!
# The type dictionary

A rule puts a target token in the place of a raw type token. The dictionary holds its
rules in the order in which their raw tokens were first added, and they are applied in
that order, so a later rule may apply to what an earlier one put in. Once the dictionary
is frozen no rule is added any more.

`insert?_eq_error_iff` says when a rule is refused, and `insert?_eq_ok_iff` what the
dictionary is otherwise.
-/

namespace HeaderBridge

/-- A raw type token and the token put in its place. -/
abbrev Rule := Text × Text

/-- The type token that the rule replaces. -/
abbrev Rule.raw (r : Rule) : Text := r.1

/-- The token that the rule puts in. -/
abbrev Rule.target (r : Rule) : Text := r.2

/-! ## Tokens -/

/-- The token of a pointer to characters. -/
def stringMarker : Text := "*char".toList

/-- The token of a pointer to pointers. -/
def pointerArrayMarker : Text := "*[]".toList

/-- The token of any other pointer. -/
def pointerMarker : Text := "*".toList

/-- The token of an array of octets. -/
def byteArray : Text := "byte[]".toList

/-- The token of a function without a result. -/
def voidType : Text := "void".toList

/-- The rules of every dictionary that is not given others. -/
def builtinRules : List Rule :=
  [(pointerMarker, "Pointer".toList),
   (pointerArrayMarker, "Pointer".toList),
   (byteArray, byteArray),
   (stringMarker, "String".toList),
   ("void".toList, voidType),
   ("bool".toList, "boolean".toList),
   ("float".toList, "float".toList),
   ("double".toList, "double".toList),
   ("int".toList, "int".toList),
   ("int32_t".toList, "int".toList),
   ("int32".toList, "int".toList),
   ("int64".toList, "long".toList),
   ("uint8_t".toList, "short".toList),
   ("uint16_t".toList, "short".toList),
   ("uint32".toList, "int".toList),
   ("uint64".toList, "long".toList),
   ("uintptr_t".toList, "long".toList),
   ("size_t".toList, "long".toList),
   ("interpType".toList, "int".toList)]

/-! ## The dictionary -/

/-- Rules in the order in which they apply. -/
structure Dictionary where
  /-- The target of each raw token. -/
  rules : OrderedMap Text Text := []
  /-- No rule is added any more. -/
  frozen : Bool := false
  deriving DecidableEq, Repr

/-- A rule for `raw` was refused by a frozen dictionary. -/
structure FrozenError where
  raw : Text
  deriving DecidableEq, Repr

/-- The refusal in words. -/
def FrozenError.message (e : FrozenError) : Text :=
  "Cannot add type '".toList ++ e.raw ++ "': type dictionary is frozen".toList

namespace Dictionary

/-- The dictionary of a list of rules, added one by one. -/
def ofRules (rules : List Rule) : Dictionary :=
  { rules := rules.foldl (fun m r => OrderedMap.insert m r.raw r.target) [] }

/-- The dictionary of the built-in rules. -/
def builtin : Dictionary := ofRules builtinRules

/-- The dictionary with a rule more. A rule for a raw token that is there replaces its
target in place. -/
def insert? (d : Dictionary) (raw target : Text) : Except FrozenError Dictionary :=
  if d.frozen then .error ⟨raw⟩ else .ok { d with rules := d.rules.insert raw target }

/-- The target of a raw token. -/
def lookup (d : Dictionary) (raw : Text) : Option Text := d.rules.lookup raw

/-- The token is the target of some rule. -/
def produces (d : Dictionary) (token : Text) : Bool := d.rules.any fun r => r.2 = token

/-- The dictionary, closed to further rules. -/
def freeze (d : Dictionary) : Dictionary := { d with frozen := true }

/-- A rule is refused exactly by a frozen dictionary. -/
theorem insert?_eq_error_iff {d : Dictionary} {raw target : Text} {e : FrozenError} :
    d.insert? raw target = .error e ↔ d.frozen = true ∧ e = ⟨raw⟩ := by
  unfold insert?
  split
  · next h => exact ⟨fun he => ⟨h, (Except.error.inj he).symm⟩, fun he => by rw [he.2]⟩
  · next h => exact ⟨fun he => (nomatch he), fun he => absurd he.1 h⟩

/-- Adding a rule changes the target of its raw token and nothing else. -/
theorem insert?_eq_ok_iff {d d' : Dictionary} {raw target : Text} :
    d.insert? raw target = .ok d' ↔
      d.frozen = false ∧ d' = { d with rules := d.rules.insert raw target } := by
  unfold insert?
  split
  · next h => exact ⟨fun he => (nomatch he), fun he => by simp [he.1] at h⟩
  · next h => exact ⟨fun he => ⟨by simpa using h, (Except.ok.inj he).symm⟩, fun he => by rw [he.2]⟩

end Dictionary

end HeaderBridge
