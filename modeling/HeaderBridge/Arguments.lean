import HeaderBridge.Text.Digit
import HeaderBridge.Text.Match
import HeaderBridge.Text.Quoted

/-!
# Command line arguments

Every argument is first seen for itself: as an option, which may be abbreviated and may
hold its value, or as a value. Only then are the options given their values, from the
left. An ambiguous abbreviation is therefore reported before anything else, and a
request for help ends the reading where it stands.
-/

namespace HeaderBridge

/-! ## Options -/

/-- An option. -/
inductive Flag where
  | help
  | config
  | functions
  | typedefs
  | output
  | header
  | searchDirectory
  | parserPath
  deriving DecidableEq, Repr

/-- The options, in the order in which they are listed. -/
def flags : List Flag :=
  [.help, .config, .functions, .typedefs, .output, .header, .searchDirectory, .parserPath]

/-- The spellings of an option. -/
def Flag.spellings : Flag → List Text
  | .help => ["-h".toList, "--help".toList]
  | .config => ["-C".toList, "--config".toList]
  | .functions => ["-f".toList, "--functions".toList]
  | .typedefs => ["-t".toList, "--typedefs".toList]
  | .output => ["-o".toList, "--output".toList]
  | .header => ["-H".toList, "--header".toList]
  | .searchDirectory => ["-I".toList, "--include".toList]
  | .parserPath => ["--clang-path".toList]

/-- The spellings of all options, with the options. -/
def spellings : List (Text × Flag) := flags.flatMap fun f => f.spellings.map fun s => (s, f)

/-- The option that is spelled so. -/
def flagSpelled? (t : Text) : Option Flag := (spellings.find? fun s => s.1 = t).map Prod.snd

/-- The option in messages. -/
def Flag.title (f : Flag) : Text := Text.join ['/'] f.spellings

/-! ## Single arguments -/

/-- A value within the argument of its option. -/
inductive Held where
  /-- Behind a sign. -/
  | assigned (value : Text)
  /-- Right behind the letter of the option. -/
  | attached (value : Text)
  deriving DecidableEq, Repr

/-- The value itself. -/
def Held.value : Held → Text
  | .assigned value => value
  | .attached value => value

/-- What an argument is, seen for itself. -/
inductive Kind where
  /-- A value, or something that belongs nowhere. -/
  | value
  /-- The mark behind which there are no options. -/
  | mark
  /-- An option with the value that it holds. -/
  | flag (f : Flag) (held : Option Held)
  /-- Something that looks like an option. -/
  | unknown
  deriving DecidableEq, Repr

/-- The name and the value of an argument that holds a value behind a sign. -/
def splitAssigned (t : Text) : Text × Option Text :=
  if t.contains '=' then (t.takeWhile (· ≠ '='), some ((t.dropWhile (· ≠ '=')).drop 1))
  else (t, none)

/-- The spelling is one with a single hyphen. -/
def isShort (t : Text) : Bool := t.drop 1 |>.head? |>.any (· ≠ '-')

/-- The spellings that an argument may stand for, with the value that it holds. -/
def candidates (t : Text) : List (Text × Flag × Option Held) :=
  if isShort t then
    (spellings.filter fun s => s.1 = t.take 2).map fun s =>
      (s.1, s.2, some (.attached (t.drop 2)))
  else
    let (start, value) := splitAssigned t
    (spellings.filter fun s => Text.beginsWith start s.1).map fun s =>
      (s.1, s.2, value.map .assigned)

/-- Some digits and nothing else. -/
def isDigits (t : Text) : Bool := !t.isEmpty && t.all isDecimalDigit

/-- A negative number, whole or with a point. A line feed may stand at its end. -/
def isNegativeNumber (t : Text) : Bool :=
  let t := if t.getLast? = some '\n' then t.dropLast else t
  match t with
  | '-' :: rest =>
    isDigits rest ||
      (match rest.dropWhile isDecimalDigit with
        | '.' :: rest => isDigits rest
        | _ => false)
  | _ => false

/-- The complaint about an abbreviation of several options. -/
def ambiguous (t : Text) (matching : List Text) : Text :=
  "ambiguous option: ".toList ++ t ++ " could match ".toList ++ Text.join ", ".toList matching

/-- What an argument is, or the complaint about it. -/
def classify (t : Text) : Except Text Kind :=
  if t.head? ≠ some '-' || t.length = 1 then .ok .value
  else
    match flagSpelled? t, flagSpelled? (splitAssigned t).1, (splitAssigned t).2 with
    | some f, _, _ => .ok (.flag f none)
    | none, some f, some value => .ok (.flag f (some (.assigned value)))
    | none, _, _ =>
      match candidates t with
      | [] => .ok (if isNegativeNumber t || t.contains ' ' then .value else .unknown)
      | [(_, f, held)] => .ok (.flag f held)
      | several => .error (ambiguous t (several.map Prod.fst))

/-- What the arguments are. Behind the mark there are only values. -/
def classifyAll : List Text → Except Text (List (Text × Kind))
  | [] => .ok []
  | t :: ts =>
    if t = "--".toList then .ok ((t, .mark) :: ts.map fun t => (t, .value))
    else do
      let k ← classify t
      return (t, k) :: (← classifyAll ts)

/-! ## All arguments -/

/-- The values of the options. An empty value counts as none. -/
structure Arguments where
  config : Text := []
  functions : Text := []
  typedefs : Text := []
  output : Text := []
  header : Text := []
  /-- The directories to search, in their order. -/
  includes : List Text := []
  parserPath : Text := []
  deriving DecidableEq, Repr

/-- The arguments with the value of one option more. The last value of an option
counts, but directories are collected. -/
def Arguments.set (a : Arguments) (f : Flag) (value : Text) : Arguments :=
  match f with
  | .help => a
  | .config => { a with config := value }
  | .functions => { a with functions := value }
  | .typedefs => { a with typedefs := value }
  | .output => { a with output := value }
  | .header => { a with header := value }
  | .searchDirectory => { a with includes := a.includes ++ [value] }
  | .parserPath => { a with parserPath := value }

/-- What the arguments ask for. -/
inductive Request where
  /-- Help. -/
  | help
  /-- A run. -/
  | run (a : Arguments)
  deriving DecidableEq, Repr

/-- The complaint about a value that an option does not take. -/
def ignored (f : Flag) (held : Text) : Text :=
  "argument ".toList ++ f.title ++ ": ignored explicit argument ".toList ++ held.quoted

/-- The complaint about a value that is missing. -/
def valueExpected (f : Flag) : Text :=
  "argument ".toList ++ f.title ++ ": expected one argument".toList

/-- The complaint about arguments that belong nowhere. -/
def unrecognized (ts : List Text) : Text :=
  "unrecognized arguments: ".toList ++ Text.join [' '] ts

/-- The option behind a request for help that is left without a value, if there is one. The
letters right behind the request are options themselves as long as they ask for help. -/
def helpTail : Text → Except Text (Option Flag)
  | [] => .ok none
  | c :: cs =>
    if c = '-' then .error (ignored .help (c :: cs))
    else
      match flagSpelled? ['-', c] with
      | none => .ok none
      | some .help =>
        if cs.head? = some '=' then .error (ignored .help (cs.drop 1)) else helpTail cs
      | some f => .ok (if cs.isEmpty then some f else none)

/-- The arguments from the first one on, with those that belong nowhere so far. -/
def consume (a : Arguments) (extras : List Text) : List (Text × Kind) → Except Text Request
  | [] => if extras.isEmpty then .ok (.run a) else .error (unrecognized extras)
  | (_, .flag .help none) :: _ => .ok .help
  | (_, .flag .help (some (.assigned value))) :: _ => .error (ignored .help value)
  | (_, .flag .help (some (.attached letters))) :: rest =>
    match helpTail letters, rest with
    | .error e, _ => .error e
    | .ok none, _ => .ok .help
    | .ok (some _), (_, .value) :: _ => .ok .help
    | .ok (some f), _ => .error (valueExpected f)
  | (_, .flag f (some held)) :: rest => consume (a.set f held.value) extras rest
  | (_, .flag f none) :: (value, .value) :: rest => consume (a.set f value) extras rest
  | (_, .flag f none) :: _ => .error (valueExpected f)
  | (t, _) :: rest => consume a (extras ++ [t]) rest

/-- What the arguments ask for, or the complaint about them. -/
def readArguments (ts : List Text) : Except Text Request := do
  consume {} [] (← classifyAll ts)

end HeaderBridge
