import HeaderBridge.Declaration
import HeaderBridge.Typedef

/-!
# Steps on a dictionary

A dictionary is built and asked step by step: rules are added one by one or by typedef
lines, it is closed, and in between it is asked for targets and for lines with Java
types. A refused step leaves what there is, and the steps after it go on from there.
-/

namespace HeaderBridge

/-- A step on a dictionary. -/
inductive DictionaryStep where
  /-- Adds a rule. -/
  | add (raw target : Text)
  /-- Closes the dictionary to further rules. -/
  | freeze
  /-- Registers the typedef of a line. -/
  | typedef (line : Text)
  /-- Registers the typedefs of the lines of a file. -/
  | resolve (lines : List Text)
  /-- Asks for the target of a raw token. -/
  | lookup (raw : Text)
  /-- Applies the rules to a line. -/
  | substitute (line : Text)
  /-- Asks for the line with Java types. -/
  | rewrite (line : Text)
  deriving DecidableEq, Repr

/-- What a step comes to. -/
inductive StepAnswer where
  /-- The rules that the step has added, in their order. -/
  | added (rules : List Rule)
  /-- The target of a raw token, if it has one. -/
  | target (target : Option Text)
  /-- A line. -/
  | line (line : Text)
  /-- The step was refused. -/
  | refused (e : FrozenError)
  deriving DecidableEq, Repr

/-- A dictionary, with what has been reported on typedef lines. -/
structure DictionaryState where
  dictionary : Dictionary
  reports : Diagnostics := []
  deriving DecidableEq, Repr

namespace DictionaryState

/-- The state after a step, and what the step comes to. -/
def perform (s : DictionaryState) : DictionaryStep → DictionaryState × StepAnswer
  | .add raw target =>
    match s.dictionary.insert? raw target with
    | .ok d => ({ s with dictionary := d }, .added [(raw, target)])
    | .error e => (s, .refused e)
  | .freeze => ({ s with dictionary := s.dictionary.freeze }, .added [])
  | .typedef line =>
    match s.dictionary.registerTypedef line with
    | .ok (some (rule, d)) => ({ s with dictionary := d }, .added [rule])
    | .ok none => ({ s with reports := s.reports ++ [unreadableTypedef line] }, .added [])
    | .error e => (s, .refused e)
  | .resolve lines =>
    let r := resolveTypedefs s.dictionary lines
    ({ dictionary := r.dictionary, reports := s.reports ++ r.reports },
      match r.refused with
      | some e => .refused e
      | none => .added r.registered)
  | .lookup raw => (s, .target (s.dictionary.lookup raw))
  | .substitute line => (s, .line (s.dictionary.substitute line))
  | .rewrite line => (s, .line (s.dictionary.javaLine line))

/-- The state after the steps, and what each of them comes to. -/
def run (s : DictionaryState) : List DictionaryStep → DictionaryState × List StepAnswer
  | [] => (s, [])
  | step :: steps =>
    let (s, answer) := s.perform step
    let (s, answers) := run s steps
    (s, answer :: answers)

end DictionaryState

end HeaderBridge
