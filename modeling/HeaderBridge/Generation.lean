import HeaderBridge.Declaration
import HeaderBridge.JavaClass
import HeaderBridge.Typedef
import HeaderBridge.Unsupported

/-!
# Generation

A run reads the typedef lines into a dictionary, closes the dictionary, turns every
declaration line into a line with Java types, and makes a class of the lines. What the
lines come to one by one is a `Survey`; `survey_append` says that the survey of two
lists of lines is that of the first and then that of the second, with the unsupported
types of the first already known.
-/

namespace HeaderBridge

/-- What the declaration lines come to. -/
structure Survey where
  /-- The lines with Java types, blank ones left out. -/
  lines : List Text := []
  /-- The signatures of the lines. -/
  signatures : List Signature := []
  /-- The unsupported types of the signatures. -/
  unsupported : Unsupported := []
  /-- The reports on the signatures. -/
  reports : Diagnostics := []
  deriving DecidableEq, Repr

/-- The survey with one line more. A line that is blank at the end of its way is left
out. -/
def Survey.add (s : Survey) (d : Dictionary) (declaration : Text) : Survey :=
  let line := d.javaLine declaration
  if line.isBlank then s
  else
    let sig := Signature.ofLine line
    { lines := s.lines ++ [line]
      signatures := s.signatures ++ [sig]
      unsupported := s.unsupported.classify sig d
      reports := s.reports ++ sig.check line }

/-- The survey of declaration lines, beginning with what is known. -/
def surveyFrom (s : Survey) (d : Dictionary) (declarations : List Text) : Survey :=
  declarations.foldl (fun s line => s.add d line) s

/-- The survey of declaration lines. -/
def survey (d : Dictionary) (declarations : List Text) : Survey :=
  surveyFrom {} d declarations

/-- The lines of the first list are surveyed before those of the second. -/
theorem survey_append (d : Dictionary) (a b : List Text) :
    survey d (a ++ b) = surveyFrom (survey d a) d b := by
  simp [survey, surveyFrom]

/-- What a run yields. -/
structure Generation where
  /-- The text of the generated file. -/
  output : Text
  /-- The lines with Java types. -/
  lines : List Text
  /-- The signatures of the lines. -/
  signatures : List Signature
  /-- The unsupported types. -/
  unsupported : Unsupported
  /-- What was reported, in order. -/
  diagnostics : Diagnostics
  /-- The dictionary by which the lines were read. -/
  dictionary : Dictionary
  deriving DecidableEq, Repr

namespace Settings

/-- The dictionary with which a run begins. -/
def dictionary (s : Settings) : Dictionary := .ofRules (builtinRules ++ s.extraRules)

/-- The generated file for the lines of a survey. -/
def output (s : Settings) (v : Survey) : Text :=
  s.unit (s.interface (v.lines.map interfaceMethod))
    (List.zipWith s.forwardingMethod v.lines v.signatures)

/-- A run over typedef lines and declaration lines. -/
def generate (s : Settings) (typedefs declarations : List Text) : Generation :=
  let r := resolveTypedefs s.dictionary typedefs
  let d := r.dictionary.freeze
  let v := survey d declarations
  { output := s.output v
    lines := v.lines
    signatures := v.signatures
    unsupported := v.unsupported
    diagnostics := r.reports ++ v.reports ++ [info v.unsupported.report]
    dictionary := d }

end Settings

end HeaderBridge
