import HeaderBridge.Unsupported

/-!
# Steps on the unsupported types

The unsupported types are kept while a dictionary grows: types are added one by one or
by signatures, rules are added to the dictionary, and the types can be forgotten. A
signature is held against the dictionary as it is at that step.
-/

namespace HeaderBridge

/-- A step on the unsupported types, or on the dictionary beside them. -/
inductive UnsupportedStep where
  /-- Adds a type. -/
  | add (type : Text)
  /-- Adds the types of a signature that the dictionary does not put in. -/
  | classify (s : Signature)
  /-- Forgets the types. -/
  | clear
  /-- Adds a rule to the dictionary. -/
  | addRule (raw target : Text)
  deriving DecidableEq, Repr

/-- What a step comes to. -/
inductive UnsupportedAnswer where
  /-- The type was not there. -/
  | isNew (new : Bool)
  /-- The types that a signature has added, in their order. -/
  | listed (types : List Text)
  /-- The step has nothing to say. -/
  | done
  /-- The step was refused. -/
  | refused (e : FrozenError)
  deriving DecidableEq, Repr

/-- Unsupported types, with the dictionary that signatures are held against. -/
structure UnsupportedState where
  types : Unsupported := []
  dictionary : Dictionary
  deriving DecidableEq, Repr

namespace UnsupportedState

/-- The state after a step, and what the step comes to. -/
def perform (s : UnsupportedState) : UnsupportedStep → UnsupportedState × UnsupportedAnswer
  | .add type =>
    match s.types.add? type with
    | some types => ({ s with types }, .isNew true)
    | none => (s, .isNew false)
  | .classify sig =>
    ({ s with types := s.types.classify sig s.dictionary },
      .listed (s.types.newTypes sig s.dictionary))
  | .clear => ({ s with types := [] }, .done)
  | .addRule raw target =>
    match s.dictionary.insert? raw target with
    | .ok dictionary => ({ s with dictionary }, .done)
    | .error e => (s, .refused e)

/-- The state after the steps, and what each of them comes to. -/
def run (s : UnsupportedState) :
    List UnsupportedStep → UnsupportedState × List UnsupportedAnswer
  | [] => (s, [])
  | step :: steps =>
    let (s, answer) := s.perform step
    let (s, answers) := run s steps
    (s, answer :: answers)

end UnsupportedState

end HeaderBridge
