import HeaderBridge.FileRun

/-!
# Generators

A generator makes one run after another with the same settings. Between the runs it keeps
the dictionary, the unsupported types and the log of the last one, and every call begins with
new ones. The log of a run is handed out with what the run yields, and whoever holds it sees
what is noted there later. So a session keeps the logs apart from what refers to them, in the
order in which they were opened.

`performAll_append` says that calls are made one after another.
-/

namespace HeaderBridge

/-! ## Sessions -/

/-- A generator, with what its last run has left. -/
structure Generator where
  settings : Settings
  dictionary : Dictionary
  unsupported : Unsupported := []
  /-- The number of the log to which the generator notes. -/
  log : Nat
  deriving DecidableEq, Repr

/-- A generator as it is before a run, with a log of its own. -/
def Generator.ready (s : Settings) (log : Nat) : Generator :=
  { settings := s, dictionary := s.dictionary, log }

/-- A generator at work. -/
structure Session where
  generator : Generator
  /-- The logs, in the order in which they were opened. -/
  logs : List Diagnostics
  disk : Disk
  deriving DecidableEq, Repr

namespace Session

/-- A session with a new generator. -/
def start (s : Settings) (d : Disk) : Session :=
  { generator := .ready s 0, logs := [[]], disk := d }

/-- The generator made ready for another run. -/
def clear (b : Session) : Session :=
  { b with generator := .ready b.generator.settings b.logs.length, logs := b.logs ++ [[]] }

/-- Diagnostics at the end of the generator's log. -/
def note (b : Session) (entries : Diagnostics) : Session :=
  { b with logs := b.logs.modify b.generator.log (· ++ entries) }

/-- Another dictionary in the place of the generator's. -/
def setDictionary (b : Session) (d : Dictionary) : Session :=
  { b with generator := { b.generator with dictionary := d } }

/-- Other unsupported types in the place of the generator's. -/
def setUnsupported (b : Session) (u : Unsupported) : Session :=
  { b with generator := { b.generator with unsupported := u } }

end Session

/-! ## Work -/

/-- Why a call fails. -/
inductive CallError where
  /-- A typedef line came after the dictionary was closed. -/
  | frozen (e : FrozenError)
  /-- The disk refused, and the generator does not report it. -/
  | disk (e : DiskError)
  deriving DecidableEq, Repr

/-- The reason in words. -/
def CallError.message : CallError → Text
  | .frozen e => e.message
  | .disk e => e.message

/-- What a call hands out. -/
structure RunResult where
  output : Text
  lines : List Text
  signatures : List Signature
  unsupported : Unsupported
  /-- The number of the log of the run. -/
  log : Nat
  /-- The output is written to its file. -/
  written : Bool := false
  deriving DecidableEq, Repr

/-- Work in a session. What was done before a failure stays done. -/
abbrev Work := EStateM CallError Session

namespace Work

/-- Reads typedef lines into the dictionary. -/
def readTypedefs (lines : List Text) : Work Unit := fun b =>
  let r := resolveTypedefs b.generator.dictionary lines
  let b := (b.setDictionary r.dictionary).note r.reports
  match r.refused with
  | some e => .error (.frozen e) b
  | none => .ok () b

/-- Closes the dictionary. -/
def closeDictionary : Work Unit := modify fun b => b.setDictionary b.generator.dictionary.freeze

/-- Surveys declaration lines, with the unsupported types that are known. -/
def readDeclarations (lines : List Text) : Work Survey := fun b =>
  let v := surveyFrom { unsupported := b.generator.unsupported } b.generator.dictionary lines
  .ok v ((b.setUnsupported v.unsupported).note v.reports)

/-- Reports the unsupported types. -/
def reportUnsupported : Work Unit :=
  modify fun b => b.note [info b.generator.unsupported.report]

/-- A run from the state in which the generator is. -/
def run (typedefs declarations : List Text) : Work RunResult := do
  readTypedefs typedefs
  closeDictionary
  let v ← readDeclarations declarations
  reportUnsupported
  let g := (← get).generator
  return { output := g.settings.output v
           lines := v.lines
           signatures := v.signatures
           unsupported := g.unsupported
           log := g.log }

/-- Reads the lines of a file, none if it cannot be read. -/
def readFile (path : Text) : Work (List Text) := fun b =>
  match b.disk.readLines path with
  | .ok (lines, reports) => .ok lines (b.note reports)
  | .error e => .error (.disk e) b

/-- Writes the output, and says whether it is written. -/
def writeFile (drawn path output : Text) : Work Bool := fun b =>
  match b.disk.writeOutput drawn path output with
  | .ok (disk, written, report) => .ok written ({ b with disk }.note [report])
  | .error e => .error (.disk e) b

/-- A run over given lines. -/
def generate (typedefs declarations : List Text) : Work RunResult := do
  modify Session.clear
  run typedefs declarations

/-- A run over files. -/
def generateFiles (paths : FilePaths) (drawn : Text) : Work RunResult := do
  modify Session.clear
  let typedefs ← readFile paths.typedefs
  let functions ← readFile paths.functions
  let r ← run typedefs functions
  let written ← writeFile drawn paths.output r.output
  return { r with written }

end Work

/-! ## Calls -/

/-- A call of a generator. -/
inductive Call where
  | generate (typedefs declarations : List Text)
  /-- A run over files, with a name drawn for a temporary file. -/
  | generateFiles (paths : FilePaths) (drawn : Text)
  deriving DecidableEq, Repr

/-- The work for which the call asks. -/
def Call.work : Call → Work RunResult
  | .generate typedefs declarations => Work.generate typedefs declarations
  | .generateFiles paths drawn => Work.generateFiles paths drawn

/-- What a call comes to. -/
abbrev Answer := Except CallError RunResult

/-- What is seen of a result, its log included. -/
structure RunView where
  output : Text
  lines : List Text
  signatures : List Signature
  unsupported : Unsupported
  diagnostics : Diagnostics
  written : Bool
  deriving DecidableEq, Repr

namespace Session

/-- The session after a call, and what the call comes to. -/
def perform (b : Session) (c : Call) : Session × Answer :=
  match c.work b with
  | .ok r b => (b, .ok r)
  | .error e b => (b, .error e)

/-- The session after calls, and what each of them comes to. -/
def performAll (b : Session) : List Call → Session × List Answer
  | [] => (b, [])
  | c :: cs =>
    let (b, answer) := b.perform c
    let (b, answers) := b.performAll cs
    (b, answer :: answers)

/-- What is seen of a result in the session. -/
def view (b : Session) (r : RunResult) : RunView :=
  { output := r.output
    lines := r.lines
    signatures := r.signatures
    unsupported := r.unsupported
    diagnostics := b.logs.getD r.log []
    written := r.written }

theorem length_performAll (b : Session) (cs : List Call) :
    (b.performAll cs).2.length = cs.length := by
  induction cs generalizing b with
  | nil => rfl
  | cons c cs ih => exact congrArg (· + 1) (ih (b.perform c).1)

/-- The first calls are made before the others, and are answered before them. -/
theorem performAll_append (b : Session) (cs more : List Call) :
    b.performAll (cs ++ more) =
      (((b.performAll cs).1.performAll more).1,
        (b.performAll cs).2 ++ ((b.performAll cs).1.performAll more).2) := by
  induction cs generalizing b with
  | nil => rfl
  | cons c cs ih => simp only [List.cons_append, performAll, ih]

end Session

end HeaderBridge
