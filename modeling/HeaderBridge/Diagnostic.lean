import HeaderBridge.Text

/-!
# Diagnostics

A run collects remarks, warnings and errors in the order in which they arise. Where
they are shown, remarks go to the output channel of the console and the others to its
error channel, one line each: `console_append` says that what is shown of two runs of
diagnostics is what is shown of the first and then of the second.
-/

namespace HeaderBridge

/-- How grave a diagnostic is. -/
inductive Severity where
  | info
  | warning
  | error
  deriving DecidableEq, Repr

/-- A message with its severity. -/
structure Diagnostic where
  severity : Severity
  message : Text
  deriving DecidableEq, Repr

/-- The diagnostic as one line of text. -/
def Diagnostic.line (d : Diagnostic) : Text :=
  match d.severity with
  | .info => d.message
  | .warning => "Warning: ".toList ++ d.message
  | .error => "Error: ".toList ++ d.message

/-- What is shown on the two channels of a console. -/
structure Console where
  out : Text := []
  err : Text := []
  deriving DecidableEq, Repr

/-- Two showings, one after the other. -/
def Console.append (a b : Console) : Console := ⟨a.out ++ b.out, a.err ++ b.err⟩

instance : Append Console := ⟨Console.append⟩

theorem Console.append_eq (a b : Console) : a ++ b = ⟨a.out ++ b.out, a.err ++ b.err⟩ := rfl

theorem Console.append_assoc (a b c : Console) : a ++ b ++ c = a ++ (b ++ c) := by
  simp [append_eq]

/-- A line on the output channel. -/
def Console.outLine (t : Text) : Console := ⟨t ++ ['\n'], []⟩

/-- A line on the error channel. -/
def Console.errLine (t : Text) : Console := ⟨[], t ++ ['\n']⟩

/-- What is shown of a diagnostic. -/
def Diagnostic.console (d : Diagnostic) : Console :=
  if d.severity = .info then .outLine d.line else .errLine d.line

/-- Diagnostics, in the order in which they arose. -/
abbrev Diagnostics := List Diagnostic

namespace Diagnostics

/-- The messages of one severity, or of all. -/
def messages (ds : Diagnostics) (severity : Option Severity) : List Text :=
  (ds.filter fun d => severity.all (· = d.severity)).map Diagnostic.message

/-- Some diagnostic is an error. -/
def hasErrors (ds : Diagnostics) : Bool := ds.any fun d => d.severity = .error

/-- What is shown of the diagnostics. -/
def console (ds : Diagnostics) : Console :=
  ds.foldr (fun d shown => d.console ++ shown) {}

/-- Diagnostics are shown one after the other. -/
theorem console_append (a b : Diagnostics) : console (a ++ b) = console a ++ console b := by
  induction a with
  | nil => rfl
  | cons d a ih =>
    have h : console (d :: a ++ b) = d.console ++ console (a ++ b) := rfl
    have h' : console (d :: a) = d.console ++ console a := rfl
    rw [h, h', ih, Console.append_assoc]

end Diagnostics

/-- A remark. -/
def info (message : Text) : Diagnostic := ⟨.info, message⟩

/-- A warning. -/
def warning (message : Text) : Diagnostic := ⟨.warning, message⟩

/-- An error. -/
def error (message : Text) : Diagnostic := ⟨.error, message⟩

end HeaderBridge
