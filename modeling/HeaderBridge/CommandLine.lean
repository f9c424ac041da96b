import HeaderBridge.Arguments
import HeaderBridge.Configuration
import HeaderBridge.Extraction

/-!
# The command line

The command reads its arguments and its configuration, extracts the lines of a header if
it is given one, and generates the class. What the arguments say comes before what the
configuration says. Errors end the command with a message; a few of them are not
foreseen, and pass it by.
-/

namespace HeaderBridge

/-! ## Texts -/

/-- How the command is called. -/
def commandName : Text := "java-binding-generator".toList

/-- How to use the command. -/
def usage : Text :=
  Text.unlines
    ["usage: java-binding-generator [-h] [-C CONFIG_FILE] [-f FILE] [-t FILE]".toList,
     "                              [-o FILE] [-H HEADER] [-I DIRECTORY]".toList,
     "                              [--clang-path PATH]".toList]

/-- What the command does and what its options mean. -/
def help : Text :=
  usage ++ Text.unlines
    ["".toList,
     "Generate jnr-ffi Java bindings from extracted C declarations".toList,
     "".toList,
     "options:".toList,
     "  -h, --help            show this help message and exit".toList,
     "  -C CONFIG_FILE, --config CONFIG_FILE".toList,
     "                        XML configuration file".toList,
     "  -f FILE, --functions FILE".toList,
     "                        File with one C function declaration per line".toList,
     "  -t FILE, --typedefs FILE".toList,
     "                        File with one C typedef per line".toList,
     "  -o FILE, --output FILE".toList,
     "                        Generated Java file".toList,
     "  -H HEADER, --header HEADER".toList,
     "                        C header to extract the function and typedef files".toList,
     "                        from before generating".toList,
     "  -I DIRECTORY, --include DIRECTORY".toList,
     "                        Include directory used when extracting from a header".toList,
     "                        (repeatable)".toList,
     "  --clang-path PATH     Path to libclang library (if not in default location)".toList,
     "".toList,
     "Examples:".toList,
     "  java-binding-generator".toList,
     "  java-binding-generator -f tmp/functions.h -t tmp/types.h -o ../functions.java".toList,
     "  java-binding-generator -C bindings.xml -H /usr/local/include/meos.h".toList,
     "        ".toList]

/-- What is shown of a complaint about the arguments. -/
def showComplaint (complaint : Text) : Console :=
  ⟨[], usage ++ commandName ++ ": error: ".toList ++ complaint ++ ['\n']⟩

/-! ## Runs -/

/-- An error that passes the command by. -/
inductive Unforeseen where
  | configuration (e : ConfigurationError)
  | disk (e : DiskError)
  deriving DecidableEq, Repr

/-- How the command ends. -/
inductive Outcome where
  /-- With an exit status. -/
  | status (code : Nat)
  /-- With an error that nobody caught. -/
  | unforeseen (e : Unforeseen)
  deriving DecidableEq, Repr

/-- What a run of the command comes to. -/
structure CommandRun where
  outcome : Outcome
  /-- What was shown. -/
  shown : Console := {}
  /-- The questions to the parser of C. -/
  calls : List ParserCall := []
  /-- The place of the parser, if one was given. -/
  parserPath : Option Text := none
  /-- The disk after the run. -/
  disk : Disk
  deriving DecidableEq, Repr

/-- The command catches the error. A directory in the place of the file, a file on the
way to it and the name of something that is no encoding are not foreseen. -/
def ConfigurationError.isForeseen : ConfigurationError → Bool
  | .missing _ => true
  | .disk .nullCharacter => true
  | .disk _ => false
  | .document (.unknownEncoding _) => false
  | .document (.notText _) => false
  | .document _ => true
  | .content _ => true

/-- The configuration that the arguments name, or the default one. -/
def Arguments.configuration (a : Arguments) (d : Disk) :
    Except ConfigurationError Configuration :=
  if a.config.isEmpty then .ok {} else d.configuration a.config

/-- The value that the arguments give, or else that of the configuration. -/
def orElse (value default : Text) : Text := if value.isEmpty then default else value

/-- The configuration with what the arguments say put in its place. -/
def Arguments.override (a : Arguments) (c : Configuration) : Configuration :=
  { c with
    paths :=
      { functions := orElse a.functions c.paths.functions
        typedefs := orElse a.typedefs c.paths.typedefs
        output := orElse a.output c.paths.output }
    header := if a.header.isEmpty then c.header else some a.header
    includes := c.includes ++ a.includes }

/-- The place of the parser that the arguments give. -/
def Arguments.parserPath? (a : Arguments) : Option Text :=
  if a.parserPath.isEmpty then none else some a.parserPath

/-- The class is generated, after `r` has been done. -/
def CommandRun.generate (r : CommandRun) (c : Configuration) (drawn : Text) : CommandRun :=
  match c.settings.generateFiles c.paths drawn r.disk with
  | .error e => { r with outcome := .unforeseen (.disk e) }
  | .ok run =>
    { r with
      outcome := .status (if run.written then 0 else 1)
      shown := r.shown ++ run.diagnostics.console
      disk := run.disk }

/-- The lines of the header are extracted, if there is one, after `r` has been done. The
result says whether the command goes on. -/
def CommandRun.extract (r : CommandRun) (p : HeaderParser) (c : Configuration) :
    CommandRun × Bool :=
  match c.header with
  | none => (r, true)
  | some [] => (r, true)
  | some header =>
    let (e, disk) := extractTo p r.disk c.includes header c.paths.functions c.paths.typedefs
    let r := { r with calls := r.calls ++ e.calls, shown := r.shown ++ e.shown, disk }
    match e.result with
    | .ok _ => (r, true)
    | .error (.disk .nullCharacter) =>
      ({ r with outcome := .unforeseen (.disk .nullCharacter) }, false)
    | .error e =>
      ({ r with
        outcome := .status 1
        shown := r.shown ++ Console.errLine ("Error: ".toList ++ e.message) }, false)

/-- A run that the arguments ask for. -/
def runArguments (p : HeaderParser) (drawn : Text) (a : Arguments) (d : Disk) : CommandRun :=
  match a.configuration d with
  | .error e =>
    if e.isForeseen then
      { outcome := .status 1
        shown := Console.errLine ("Error reading config file: ".toList ++ e.message)
        disk := d }
    else { outcome := .unforeseen (.configuration e), disk := d }
  | .ok c =>
    let c := a.override c
    let start : CommandRun := { outcome := .status 0, parserPath := a.parserPath?, disk := d }
    match start.extract p c with
    | (r, true) => r.generate c drawn
    | (r, false) => r

/-- The command, with a name drawn for a temporary file. -/
def command (p : HeaderParser) (drawn : Text) (args : List Text) (d : Disk) : CommandRun :=
  match readArguments args with
  | .error complaint => { outcome := .status 2, shown := showComplaint complaint, disk := d }
  | .ok .help => { outcome := .status 0, shown := ⟨help, []⟩, disk := d }
  | .ok (.run a) => runArguments p drawn a d

end HeaderBridge
