import HeaderBridge.CommandLine

/-!
# The program

The command, run on the files of the machine. The places that the command may look at
are read into a disk, the command runs on it, and what it has changed is written back.
There is no parser of C in the program, so headers are refused.
-/

namespace HeaderBridge

/-- The path of a location. -/
def locationPath (l : Location) : String :=
  String.intercalate "/" ("" :: l.reverse.map String.ofList)

/-- The tree with what stands at a location of the machine and on the way to it. -/
def loadLocation (t : FileTree) : Location → IO FileTree
  | [] => pure t
  | name :: l => do
    let t ← loadLocation t l
    let place := (← IO.currentDir) / locationPath (name :: l)
    if ← place.isDir then
      return OrderedMap.insert t (name :: l) .directory
    else if ← place.pathExists then
      let content ← IO.FS.readBinFile place
      return OrderedMap.insert t (name :: l) (.file 0o644 content.toList)
    else return t

/-- The disk with the places to which a path and its beginnings lead. -/
def Disk.load (d : Disk) (path : Text) : IO Disk := do
  let p := Path.ofText path
  let beginnings := (List.range (p.names.length + 1)).map fun n =>
    { p with names := p.names.take n }
  let places := beginnings.map fun (p : Path) => d.resolve p.text
  return { d with tree := ← places.foldlM loadLocation d.tree }

/-- The paths at which the command looks. -/
def Configuration.places (c : Configuration) : List Text :=
  c.header.toList ++ [c.paths.functions, c.paths.typedefs, c.paths.output]

/-- The disk with the places at which the command looks. -/
def Disk.loadFor (d : Disk) (args : List Text) : IO Disk :=
  match readArguments args with
  | .ok (.run a) => do
    let d ← d.load a.config
    match a.configuration d with
    | .ok c => (a.override c).places.foldlM Disk.load d
    | .error _ => return d
  | _ => return d

/-- Writes back what differs from the disk at the start. -/
def Disk.store (start final : Disk) : IO Unit := do
  for (l, n) in final.tree do
    if start.tree.node? l ≠ some n then
      match n with
      | .directory => IO.FS.createDirAll (locationPath l)
      | .file _ content => IO.FS.writeBinFile (locationPath l) content.toByteArray

/-- The parser of the program, which is none. -/
def noParser : HeaderParser where
  unavailable := some "this program holds no parser for C headers".toList
  parse _ _ := {}

/-- An error that passes the command by, in words. -/
def Unforeseen.message : Unforeseen → Text
  | .configuration e => e.message
  | .disk e => e.message

/-- Runs the command with the arguments of the program. -/
def runProgram (arguments : List String) : IO UInt32 := do
  let args := arguments.map String.toList
  let here := (Disk.mk [] [] 0).resolve (← IO.currentDir).toString.toList
  let start ← (Disk.mk [] here 0o022).load []
  let start ← start.loadFor args
  let drawn := numeral (← IO.rand 0 0xffffffff)
  let r := command noParser drawn args start
  start.store r.disk
  IO.print (String.ofList r.shown.out)
  IO.eprint (String.ofList r.shown.err)
  match r.outcome with
  | .status code => return code.toUInt32
  | .unforeseen e =>
    IO.eprintln (String.ofList e.message)
    return 1

end HeaderBridge

/-- The program. -/
def main (arguments : List String) : IO UInt32 := HeaderBridge.runProgram arguments
