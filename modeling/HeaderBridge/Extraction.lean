import HeaderBridge.Diagnostic
import HeaderBridge.Disk
import HeaderBridge.HeaderUnit

/-!
# Extraction from a header

A C parser is asked about a header, and the functions and typedefs that stand in the
header itself, and not in a file that it includes, are written as lines: typedefs as
often as they stand there, functions once for each name.

`nodup_names_firstOfName` says that no function name is kept twice.
-/

namespace HeaderBridge

/-! ## The parser -/

/-- A C parser. -/
structure HeaderParser where
  /-- Why there is no parser, if there is none. -/
  unavailable : Option Text := none
  /-- What the parser says of a header, given its arguments. -/
  parse : Text → List Text → HeaderUnit

/-- A question to the parser. -/
structure ParserCall where
  header : Text
  arguments : List Text
  deriving DecidableEq, Repr

/-- The arguments of the parser for the directories to search. -/
def parserArguments (includes : List Text) : List Text :=
  ["-x".toList, "c".toList] ++ includes.map ("-I".toList ++ ·)

/-! ## Lines -/

/-- The lines of a header. -/
structure Extraction where
  functions : List Text := []
  typedefs : List Text := []
  deriving DecidableEq, Repr

/-- The declaration stands in the header. -/
def Located.isIn (i : Located) (d : Disk) (header : Text) : Bool :=
  i.file.any fun file => d.resolve file = d.resolve header

/-- The functions that have a line, without those whose name has come before or is among
`seen`. -/
def firstOfName (seen : List Text) : List Function → List Function
  | [] => []
  | f :: fs =>
    if decide (f.name ∈ seen) || f.line.isEmpty then firstOfName seen fs
    else f :: firstOfName (f.name :: seen) fs

/-- The function, if the declaration is one. -/
def Located.function? (i : Located) : Option Function :=
  match i.item with
  | .function f => some f
  | _ => none

/-- The typedef, if the declaration is one. -/
def Located.typedef? (i : Located) : Option TypeAlias :=
  match i.item with
  | .typedef t => some t
  | _ => none

/-- The lines of the declarations that stand in the header. -/
def HeaderUnit.linesOf (u : HeaderUnit) (d : Disk) (header : Text) : Extraction :=
  let items := u.items.filter (·.isIn d header)
  { functions := (firstOfName [] (items.filterMap Located.function?)).map Function.line
    typedefs := (items.filterMap Located.typedef?).map TypeAlias.line }

theorem name_notMem_of_mem_firstOfName {seen : List Text} {fs : List Function} {f : Function}
    (h : f ∈ firstOfName seen fs) : f.name ∉ seen := by
  induction fs generalizing seen with
  | nil => simp [firstOfName] at h
  | cons g fs ih =>
    unfold firstOfName at h
    split at h
    · exact ih h
    · next hc =>
      rcases List.mem_cons.1 h with rfl | h
      · intro hs
        exact hc (by simp [hs])
      · exact fun hs => ih h (List.mem_cons_of_mem _ hs)

/-- No function name is kept twice. -/
theorem nodup_names_firstOfName (seen : List Text) (fs : List Function) :
    ((firstOfName seen fs).map Function.name).Nodup := by
  induction fs generalizing seen with
  | nil => simp [firstOfName]
  | cons g fs ih =>
    unfold firstOfName
    split
    · exact ih seen
    · rw [List.map_cons, List.nodup_cons]
      refine ⟨?_, ih _⟩
      intro h
      obtain ⟨f, hf, he⟩ := List.mem_map.1 h
      exact name_notMem_of_mem_firstOfName hf (by simp [he])

/-! ## Asking the parser -/

/-- Why a header has no lines. -/
inductive ExtractionError where
  /-- There is no such header. -/
  | missingHeader (header : Text)
  /-- There is no parser. -/
  | noParser (reason : Text)
  /-- The parser gave up on the header. -/
  | fatal (header : Text) (messages : List Text)
  /-- The disk refused. -/
  | disk (e : DiskError)
  deriving DecidableEq, Repr

/-- The reason in words. -/
def ExtractionError.message : ExtractionError → Text
  | .missingHeader header => "Header file not found: ".toList ++ header
  | .noParser reason => reason
  | .fatal header messages =>
    "Fatal parsing errors in ".toList ++ header ++ ". Errors: ".toList ++
      Text.join "; ".toList messages
  | .disk e => e.message

/-- What an extraction comes to. -/
structure ExtractionRun where
  /-- The lines, or why there are none. -/
  result : Except ExtractionError Extraction
  /-- The questions to the parser. -/
  calls : List ParserCall := []
  /-- What was shown. -/
  shown : Console := {}

/-- The errors among the complaints. -/
def HeaderUnit.errors (u : HeaderUnit) : List Text :=
  (u.complaints.filter Complaint.isError).map Complaint.message

/-- What is shown of the errors in a header. -/
def showErrors (header : Text) (errors : List Text) : Console :=
  ⟨[], Text.unlines (errors.map fun e => "Error in ".toList ++ header ++ ": ".toList ++ e)⟩

/-- Some declaration stands in a file whose path names no place. -/
def HeaderUnit.hasNullPath (u : HeaderUnit) : Bool :=
  u.items.any fun i => i.file.any fun file => file.contains '\x00'

/-- The lines of a header. -/
def extract (p : HeaderParser) (d : Disk) (includes : List Text) (header : Text) :
    ExtractionRun :=
  if d.holds (spelled header) then
    match p.unavailable with
    | some reason => { result := .error (.noParser reason) }
    | none =>
      let arguments := parserArguments includes
      let u := p.parse header arguments
      { result :=
          if u.complaints.any Complaint.isFatal then .error (.fatal header u.errors)
          else if u.hasNullPath then .error (.disk .nullCharacter)
          else .ok (u.linesOf d header)
        calls := [⟨header, arguments⟩]
        shown := showErrors header u.errors }
  else { result := .error (.missingHeader header) }

/-! ## Writing the lines -/

/-- The disk with the lines in the file to which the path leads, and with the directories
on the way to it. -/
def Disk.writeLines (d : Disk) (path : Text) (lines : List Text) : Disk × Option DiskError :=
  let parent := (Path.ofText path).parent
  match Disk.ensureDirectories parent.root parent.names.reverse d with
  | (d, some e) => (d, some e)
  | (d, none) => d.attempt (·.write (spelled path) (encodeUtf8 (Text.unlines lines)))

/-- The disk with the lines of a header in two files. The typedefs are not written if
the functions could not be. -/
def Disk.writeExtraction (d : Disk) (e : Extraction) (functionsFile typedefsFile : Text) :
    Disk × Option DiskError :=
  match d.writeLines functionsFile e.functions with
  | (d, some e) => (d, some e)
  | (d, none) => d.writeLines typedefsFile e.typedefs

/-- The remark that the lines are written. -/
def extractedLine (e : Extraction) (header : Text) : Text :=
  "Extracted ".toList ++ numeral e.functions.length ++ " function(s) and ".toList ++
    numeral e.typedefs.length ++ " typedef(s) from ".toList ++ header

/-- The lines of a header, written to two files, and the disk with the files. -/
def extractTo (p : HeaderParser) (d : Disk) (includes : List Text)
    (header functionsFile typedefsFile : Text) : ExtractionRun × Disk :=
  let r := extract p d includes header
  match r.result with
  | .error _ => (r, d)
  | .ok e =>
    match d.writeExtraction e functionsFile typedefsFile with
    | (d, some e) => ({ r with result := .error (.disk e) }, d)
    | (d, none) =>
      ({ r with shown := r.shown ++ Console.outLine (extractedLine e header) }, d)

end HeaderBridge
