import HeaderBridge.Disk
import HeaderBridge.Generation
import HeaderBridge.Text.Lines

/-!
# Runs over files

A run over files reads the typedef lines and the declaration lines, and puts what is
generated from them in the place of the output file. A file that cannot be read counts
as empty and is reported, and so is an output that cannot be written; a path that names
no place at all ends the run.
-/

namespace HeaderBridge

/-- The files of a run. -/
structure FilePaths where
  /-- The declaration lines. -/
  functions : Text := "tmp/functions.h".toList
  /-- The typedef lines. -/
  typedefs : Text := "tmp/types.h".toList
  /-- The generated class. -/
  output : Text := "../functions.java".toList
  deriving DecidableEq, Repr

/-- The report on a file that cannot be read. -/
def unreadableFile (path reason : Text) : Diagnostic :=
  error ("Cannot read file ".toList ++ path ++ ": ".toList ++ reason)

/-- The report on a file that cannot be written. -/
def unwritableFile (path reason : Text) : Diagnostic :=
  error ("Cannot create file ".toList ++ path ++ ": ".toList ++ reason)

/-- The remark that the output is written. -/
def writtenFile (path : Text) : Diagnostic :=
  info ("Generated bindings: ".toList ++ path)

/-- The lines of the file to which the path leads, and the report if it cannot be
read. -/
def Disk.readLines (d : Disk) (path : Text) : Except DiskError (List Text × Diagnostics) :=
  match d.read (spelled path) with
  | .error .nullCharacter => .error .nullCharacter
  | .error e => .ok ([], [unreadableFile path e.message])
  | .ok octets =>
    match decodeUtf8 octets with
    | .ok t => .ok (t.fileLines, [])
    | .error f => .ok ([], [unreadableFile path f.message])

/-- The disk with the text in the place of the output file, whether it was written, and
the report on it. A temporary file gets the name that was drawn. -/
def Disk.writeOutput (d : Disk) (drawn path output : Text) :
    Except DiskError (Disk × Bool × Diagnostic) :=
  match d.replaceFile drawn (.ofText path) (encodeUtf8 output) with
  | (d, none) => .ok (d, true, writtenFile path)
  | (_, some .nullCharacter) => .error .nullCharacter
  | (d, some e) => .ok (d, false, unwritableFile path e.message)

/-- What a run over files yields. -/
structure FileRun where
  /-- What was generated. -/
  generation : Generation
  /-- What was reported, the reading and the writing included. -/
  diagnostics : Diagnostics
  /-- The output is written. -/
  written : Bool
  /-- The disk after the run. -/
  disk : Disk
  deriving DecidableEq, Repr

/-- A run over files. -/
def Settings.generateFiles (s : Settings) (paths : FilePaths) (drawn : Text) (d : Disk) :
    Except DiskError FileRun := do
  let (typedefs, typedefReports) ← d.readLines paths.typedefs
  let (functions, functionReports) ← d.readLines paths.functions
  let g := s.generate typedefs functions
  let (disk, written, report) ← d.writeOutput drawn paths.output g.output
  return { generation := g
           diagnostics := typedefReports ++ functionReports ++ g.diagnostics ++ [report]
           written, disk }

/-- A run that does not fail has read both files, and has written the output or reported that
it cannot. -/
theorem Settings.exists_of_generateFiles {s : Settings} {paths : FilePaths} {drawn : Text}
    {d : Disk} {run : FileRun} (h : s.generateFiles paths drawn d = .ok run) :
    ∃ typedefs typedefReports functions functionReports report,
      d.readLines paths.typedefs = .ok (typedefs, typedefReports) ∧
      d.readLines paths.functions = .ok (functions, functionReports) ∧
      d.writeOutput drawn paths.output (s.generate typedefs functions).output =
        .ok (run.disk, run.written, report) ∧
      run =
        { generation := s.generate typedefs functions
          diagnostics := typedefReports ++ functionReports ++
            (s.generate typedefs functions).diagnostics ++ [report]
          written := run.written
          disk := run.disk } := by
  unfold generateFiles at h
  obtain ⟨readTypedefs, htypedefs, h⟩ := bind_eq_ok_iff.1 h
  obtain ⟨readFunctions, hfunctions, h⟩ := bind_eq_ok_iff.1 h
  obtain ⟨output, hwritten, h⟩ := bind_eq_ok_iff.1 h
  obtain rfl := Except.ok.inj h
  exact ⟨_, _, _, _, _, htypedefs, hfunctions, hwritten, rfl⟩

end HeaderBridge
