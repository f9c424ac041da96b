import HeaderBridge.OrderedMap
import HeaderBridge.Path
import HeaderBridge.Text.Quoted
import HeaderBridge.Text.Utf8

/-!
# The disk

Files and directories stand at locations in a tree. A path is followed name by name
from the working directory, or from the root, and every place that it leaves behind has
to be a directory. What cannot be done is refused with a fault, and nothing is changed.
-/

namespace HeaderBridge

/-! ## Steps that may fail -/

/-- What is done in two steps succeeds exactly if both of them do. -/
theorem bind_eq_ok_iff {α β ε : Type} {x : Except ε α} {f : α → Except ε β} {b : β} :
    (x >>= f) = .ok b ↔ ∃ a, x = .ok a ∧ f a = .ok b := by
  cases x <;> simp [bind, Except.bind]

/-! ## Faults -/

/-- Why the disk refuses. -/
inductive Fault where
  /-- There is nothing at the path. -/
  | missing
  /-- The place is in use. -/
  | busy
  /-- There is something at the path. -/
  | present
  /-- The path leads through a file. -/
  | notDirectory
  /-- There is a directory at the path. -/
  | isDirectory
  deriving DecidableEq, Repr

/-- The number of the fault. -/
def Fault.number : Fault → Nat
  | .missing => 2
  | .busy => 16
  | .present => 17
  | .notDirectory => 20
  | .isDirectory => 21

/-- The fault in words. -/
def Fault.reason : Fault → Text
  | .missing => "No such file or directory".toList
  | .busy => "Device or resource busy".toList
  | .present => "File exists".toList
  | .notDirectory => "Not a directory".toList
  | .isDirectory => "Is a directory".toList

/-- The fault with its number. -/
def Fault.message (f : Fault) : Text :=
  "[Errno ".toList ++ numeral f.number ++ "] ".toList ++ f.reason

/-- A refusal of the disk. -/
inductive DiskError where
  /-- The path holds the null character and names no place. -/
  | nullCharacter
  /-- The fault that was met with the path. -/
  | at (fault : Fault) (path : Text)
  /-- The file at the first path could not be moved to the second. -/
  | moving (fault : Fault) (source path : Text)
  deriving DecidableEq, Repr

/-- The refusal in words. -/
def DiskError.message : DiskError → Text
  | .nullCharacter => "embedded null byte".toList
  | .at fault path => fault.message ++ ": ".toList ++ path.quoted
  | .moving fault source path =>
    fault.message ++ ": ".toList ++ source.quoted ++ " -> ".toList ++ path.quoted

/-! ## The tree -/

/-- A place in the tree, as the names that lead to it from the root, the last one
first. -/
abbrev Location := List Text

/-- What stands at a location. -/
inductive Node where
  | directory
  | file (mode : Nat) (content : Octets)
  deriving DecidableEq, Repr

/-- The files and the directories below the root. -/
abbrev FileTree := OrderedMap Location Node

/-- The location to which a name leads from a location. -/
def Location.enter (l : Location) (name : Text) : Location :=
  if Path.isStep name then (if name = parentName then l.tail else name :: l) else l

namespace FileTree

/-- What stands at a location. There is always a directory at the root. -/
def node? (t : FileTree) : Location → Option Node
  | [] => some .directory
  | l => OrderedMap.lookup t l

/-- One step from a directory. -/
def step (t : FileTree) (l : Location) (name : Text) : Except Fault Location :=
  match t.node? l with
  | none => .error .missing
  | some (.file ..) => .error .notDirectory
  | some .directory => .ok (l.enter name)

/-- The location to which names lead, each of them from the place before it. -/
def follow (t : FileTree) (l : Location) (names : List Text) : Except Fault Location :=
  names.foldlM t.step l

/-- What keeps a file from being created in the directory at a location: on the way there is
a place with nothing or with a file. -/
def fault? (t : FileTree) : Location → Option Fault
  | [] => none
  | name :: l =>
    match t.node? (name :: l) with
    | some .directory => none
    | some (.file ..) => some .notDirectory
    | none => some ((t.fault? l).getD .missing)

/-- A name that nothing at a location has, with given text before and after it. Between them
stands the text that was drawn, and more if that name is taken. -/
def freshName (t : FileTree) (l : Location) (before drawn after : Text) : Text :=
  match t.node? ((before ++ drawn ++ after) :: l) with
  | none => before ++ drawn ++ after
  | some _ =>
    let longest := (t.map fun e => (e.1.headD []).length).foldr max 0
    before ++ (drawn ++ List.replicate (longest + 1) 'x') ++ after

end FileTree

/-! ## The disk -/

/-- A tree, seen from a working directory. -/
structure Disk where
  tree : FileTree
  /-- The working directory. -/
  here : Location := []
  /-- The permissions that new files do not get. -/
  umask : Nat := 0o022
  deriving DecidableEq, Repr

namespace Disk

/-- The mode of a new file. -/
def newMode (d : Disk) : Nat := 0o666 ^^^ (0o666 &&& d.umask)

/-- The location from which a path is followed. -/
def start (d : Disk) (path : Text) : Location := if path.head? = some '/' then [] else d.here

/-- The location of a path, found without a look at the tree. -/
def resolve (d : Disk) (path : Text) : Location :=
  (slashPieces path).foldl Location.enter (d.start path)

/-- The place to which a path leads. -/
def locate (d : Disk) (path : Text) : Except DiskError Location :=
  if path.contains '\x00' then .error .nullCharacter
  else if path.isEmpty then .error (.at .missing path)
  else
    match d.tree.follow (d.start path) (slashPieces path) with
    | .ok l => .ok l
    | .error f => .error (.at f path)

/-- What stands where a path leads. -/
def node? (d : Disk) (path : Text) : Option Node :=
  match d.locate path with
  | .ok l => d.tree.node? l
  | .error _ => none

/-- There is something where the path leads. -/
def holds (d : Disk) (path : Text) : Bool := (d.node? path).isSome

/-- There is a directory where the path leads. -/
def holdsDirectory (d : Disk) (path : Text) : Bool := d.node? path = some .directory

/-- The disk with `n` at a location. -/
def put (d : Disk) (l : Location) (n : Node) : Disk := { d with tree := d.tree.insert l n }

/-- The disk without what stands at a location. -/
def remove (d : Disk) (l : Location) : Disk := { d with tree := d.tree.erase l }

/-- The content of the file to which the path leads. -/
def read (d : Disk) (path : Text) : Except DiskError Octets := do
  let l ← d.locate path
  match d.tree.node? l with
  | none => throw (.at .missing path)
  | some .directory => throw (.at .isDirectory path)
  | some (.file _ content) => return content

/-- The disk with `content` in the file to which the path leads. The file is created if
there is none, and keeps its mode if there is. -/
def write (d : Disk) (path : Text) (content : Octets) : Except DiskError Disk := do
  let l ← d.locate path
  match d.tree.node? l with
  | none => return d.put l (.file d.newMode content)
  | some .directory => throw (.at .isDirectory path)
  | some (.file mode _) => return d.put l (.file mode content)

/-- The disk with a new directory where the path leads. -/
def createDirectory (d : Disk) (path : Text) : Except DiskError Disk := do
  let l ← d.locate path
  match d.tree.node? l with
  | some _ => throw (.at .present path)
  | none => return d.put l .directory

/-- The disk with a directory where the path leads, new or not. -/
def ensureDirectory (d : Disk) (path : Text) : Except DiskError Disk :=
  match d.createDirectory path with
  | .ok d => .ok d
  | .error e => if d.holdsDirectory path then .ok d else .error e

/-- The disk after a change, and the refusal if the change was refused. -/
def attempt (d : Disk) (change : Disk → Except DiskError Disk) : Disk × Option DiskError :=
  match change d with
  | .ok d => (d, none)
  | .error e => (d, some e)

/-- The disk with a directory at the end of the names, the last one first, and with one
at every place on the way to it. What was created before a refusal stays. -/
def ensureDirectories (root : Text) : List Text → Disk → Disk × Option DiskError
  | [], d => d.attempt (·.ensureDirectory (Path.text ⟨root, []⟩))
  | name :: names, d =>
    let path := Path.text ⟨root, (name :: names).reverse⟩
    match d.ensureDirectory path with
    | .ok d => (d, none)
    | .error (.at .missing _) =>
      match ensureDirectories root names d with
      | (d, none) => d.attempt (·.ensureDirectory path)
      | r => r
    | .error e => (d, some e)

/-! ## Replacing a file in one step -/

/-- A location, spelled from the root of a path. -/
def spellFrom (path : Path) (l : Location) : Text :=
  Path.text ⟨if path.root.length = 2 then path.root else ['/'], l.reverse⟩

/-- The mode that a file put at a location gets: that of the file there, or the mode of a new
file. -/
def modeAt (d : Disk) (l : Location) : Nat :=
  match d.tree.node? l with
  | some (.file mode _) => mode
  | _ => d.newMode

/-- The mode that a file put in the place of the target of a path gets. -/
def targetMode (d : Disk) (path : Text) : Except DiskError Nat :=
  match d.locate path with
  | .error (.at .missing _) => .ok d.newMode
  | .error e => .error e
  | .ok l => .ok (d.modeAt l)

/-- The disk with the file at `source` moved to the path. -/
def move (d : Disk) (source : Location) (path : Path) : Except DiskError Disk :=
  let refuse (fault : Fault) : Except DiskError Disk :=
    .error (.moving fault (spellFrom path source) path.text)
  match d.locate path.text with
  | .error (.at fault _) => refuse fault
  | .error e => .error e
  | .ok l =>
    if path.names.isEmpty || path.name = parentName then refuse .busy
    else
      match d.tree.node? l, d.tree.node? source with
      | some .directory, _ => refuse .isDirectory
      | _, some n => .ok ((d.remove source).put l n)
      | _, none => refuse .missing

/-- The mode of a temporary file. -/
def temporaryMode : Nat := 0o600

/-- The place of the temporary file for a path, beside the target. The parent of the path is
found without a look at the tree. -/
def temporary (d : Disk) (drawn : Text) (path : Path) : Location :=
  let parent := d.resolve path.parent.text
  d.tree.freshName parent ('.' :: path.name ++ ['.']) drawn ".tmp".toList :: parent

/-- The disk with an empty temporary file for the path. -/
def createTemporary (d : Disk) (drawn : Text) (path : Path) : Except DiskError Disk :=
  let l := d.temporary drawn path
  match d.tree.fault? l.tail with
  | some fault => .error (.at fault (spellFrom path l))
  | none => .ok (d.put l (.file temporaryMode []))

/-- The disk with `content` in the file at a location. -/
def fill (d : Disk) (l : Location) (content : Octets) : Disk :=
  match d.tree.node? l with
  | some (.file mode _) => d.put l (.file mode content)
  | _ => d

/-- The disk with another mode of the file at a location. -/
def setMode (d : Disk) (l : Location) (mode : Nat) : Disk :=
  match d.tree.node? l with
  | some (.file _ content) => d.put l (.file mode content)
  | _ => d

/-- The disk after the temporary file was to be filled, to be given the mode of the target
and to be moved there, and the refusal if there was one. -/
def moveFilled (d : Disk) (l : Location) (path : Path) (content : Octets) :
    Disk × Option DiskError :=
  let d := d.fill l content
  match d.targetMode path.text with
  | .error e => (d, some e)
  | .ok mode => (d.setMode l mode).attempt (·.move l path)

/-- The disk after `content` was to be put in the place of the file to which the path
leads, and the refusal if there was one. The content is written to a temporary file
first, which then takes the place of the target, so the target is never seen with a
part of the content. If that is refused the temporary file is removed again. The name of the
temporary file is drawn by the caller. -/
def replaceFile (d : Disk) (drawn : Text) (path : Path) (content : Octets) :
    Disk × Option DiskError :=
  if path.text.contains '\x00' then (d, some .nullCharacter)
  else
    let l := d.temporary drawn path
    match d.createTemporary drawn path with
    | .error e => (d, some e)
    | .ok d =>
      match d.moveFilled l path content with
      | (d, none) => (d, none)
      | (d, some e) => (d.remove l, some e)

end Disk

end HeaderBridge
