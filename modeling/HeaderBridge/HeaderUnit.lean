import HeaderBridge.Text.Digit
import HeaderBridge.Text

/-!
# Parsed headers

What a C parser says of a header: its complaints, and the top-level declarations with
the file in which each of them stands. A function or a typedef is written back as one
line of C.

`Function.line_eq_nil_iff` says which functions have no line.
-/

namespace HeaderBridge

/-- The storage class of a function. -/
inductive Storage where
  | none
  | external
  | static
  | privateExternal
  | automatic
  | invalid
  deriving DecidableEq, Repr

/-- A parameter of a function. Its name may be empty. -/
structure Parameter where
  type : Text
  name : Text
  deriving DecidableEq, Repr

/-- A function declaration. -/
structure Function where
  name : Text
  result : Text
  params : List Parameter := []
  storage : Storage := .none
  /-- The declaration says what the parameters are. -/
  prototyped : Bool := true
  /-- Further arguments may follow the parameters. -/
  variadic : Bool := false
  deriving DecidableEq, Repr

/-- A typedef. -/
structure TypeAlias where
  name : Text
  underlying : Text
  deriving DecidableEq, Repr

/-- A top-level declaration. -/
inductive Item where
  | function (f : Function)
  | typedef (t : TypeAlias)
  | other
  deriving DecidableEq, Repr

/-- A top-level declaration and the file in which it stands, if there is one. -/
structure Located where
  item : Item
  file : Option Text := none
  deriving DecidableEq, Repr

/-- A complaint of the parser. The higher the level, the graver it is. -/
structure Complaint where
  level : Int
  message : Text
  deriving DecidableEq, Repr

/-- The complaint is an error. -/
def Complaint.isError (c : Complaint) : Bool := 3 ≤ c.level

/-- After the complaint nothing that was parsed can be relied on. -/
def Complaint.isFatal (c : Complaint) : Bool := 4 ≤ c.level

/-- What the parser says of a header. -/
structure HeaderUnit where
  complaints : List Complaint := []
  items : List Located := []
  deriving DecidableEq, Repr

/-- A name behind its type. A star stands right before the name. -/
def declarator (type name : Text) : Text :=
  if type.getLast? = some '*' then type ++ name else type ++ ' ' :: name

/-- The parameter in place `i`, by its type and its name. A parameter without a name is
named after its place. -/
def Parameter.declarator (p : Parameter) (i : Nat) : Text :=
  HeaderBridge.declarator p.type (if p.name.isEmpty then "arg".toList ++ numeral i else p.name)

/-- The keywords before a function. -/
def Storage.keywords : Storage → Text
  | .external => "extern ".toList
  | .static => "static inline ".toList
  | _ => []

namespace Function

/-- Arguments of a function like this cannot be forwarded. -/
def isVariadic (f : Function) : Bool := f.prototyped && f.variadic

/-- What stands between the parentheses. -/
def paramList (f : Function) : Text :=
  if f.params.isEmpty then "void".toList
  else Text.join ", ".toList (f.params.mapIdx fun i p => p.declarator i)

/-- The function as one line of C, empty if its arguments cannot be forwarded. -/
def line (f : Function) : Text :=
  if f.isVariadic then []
  else f.storage.keywords ++ declarator f.result f.name ++ '(' :: f.paramList ++ ");".toList

/-- Only a variadic function has no line. -/
theorem line_eq_nil_iff {f : Function} : f.line = [] ↔ f.isVariadic = true := by
  unfold line
  split <;> simp_all

end Function

/-- The typedef as one line of C. -/
def TypeAlias.line (t : TypeAlias) : Text :=
  "typedef ".toList ++ t.underlying ++ ' ' :: t.name ++ ";".toList

end HeaderBridge
