import HeaderBridge.Text.Match

/-!
# Paths

A path is a root, if it has one, and the names on the way. Empty names and names that
stand for the place itself are dropped as the path is read; the name of the parent is
kept, for the place before it may be no directory. The empty path stands for the place
itself.
-/

namespace HeaderBridge

/-- The pieces of a text between the slashes. -/
def slashPieces (t : Text) : List Text :=
  Text.splitMatches (fun t => if t.head? = some '/' then some 1 else none) 0 t

/-- The name that stands for the place itself. -/
def hereName : Text := ['.']

/-- The name that stands for the parent. -/
def parentName : Text := ['.', '.']

/-- A path. -/
structure Path where
  /-- The slashes with which the path begins. -/
  root : Text
  /-- The names on the way. -/
  names : List Text
  deriving DecidableEq, Repr

namespace Path

/-- The root of a path as it is written. Exactly two slashes are a root of their own,
and more of them are one. -/
def rootOf (t : Text) : Text :=
  match (t.takeWhile (· = '/')).length with
  | 0 => []
  | 2 => ['/', '/']
  | _ => ['/']

/-- The name says where to go. -/
def isStep (name : Text) : Bool := !name.isEmpty && name ≠ hereName

/-- The path that is written so. -/
def ofText (t : Text) : Path := ⟨rootOf t, (slashPieces t).filter isStep⟩

/-- The path as it is spelled. -/
def text (p : Path) : Text :=
  if p.root.isEmpty && p.names.isEmpty then hereName else p.root ++ Text.join ['/'] p.names

/-- The last name, empty if there is none. -/
def name (p : Path) : Text := (p.names.getLast?).getD []

/-- The path without its last name. -/
def parent (p : Path) : Path := { p with names := p.names.dropLast }

end Path

/-- The spelling of a path that is written so. -/
def spelled (t : Text) : Text := (Path.ofText t).text

end HeaderBridge
