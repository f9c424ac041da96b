import HeaderBridge.Diagnostic
import HeaderBridge.Dictionary

/-!
# Typedef lines

A typedef line is the keyword, one blank, the word of a type, one blank, and the word
of its alias with a semicolon right after it. It adds a rule that puts in the place of
the alias what the dictionary has for the type, or the type itself if it has nothing.
The dictionary is asked once, as it stands at that line, so an alias of an alias
resolves if the aliases come in their order.

`resolveTypedefs` goes through the lines of a file. `length_resolveTypedefs` says that
in an open dictionary every line that is not blank either adds a rule or is reported.
-/

namespace HeaderBridge

/-- The type and the alias of a typedef line. -/
def readTypedef (line : Text) : Option (Text × Text) := do
  let rest ← "typedef".toList.isPrefixOf? line
  let rest ← Text.blank? rest
  let (type, rest) ← Text.word? rest
  let rest ← Text.blank? rest
  let (name, rest) ← Text.word? rest
  let _ ← Text.char? ';' rest
  return (type, name)

/-- The report on a line that is no typedef line. -/
def unreadableTypedef (line : Text) : Diagnostic :=
  warning ("Cannot extract type for row: ".toList ++ line)

namespace Dictionary

/-- What the dictionary has for a type, or the type itself. -/
def resolve (d : Dictionary) (type : Text) : Text := (d.lookup type).getD type

/-- The rule that a line adds and the dictionary with it, or nothing if the line is no
typedef line. -/
def registerTypedef (d : Dictionary) (line : Text) :
    Except FrozenError (Option (Rule × Dictionary)) :=
  match readTypedef line with
  | none => .ok none
  | some (type, name) =>
    match d.insert? name (d.resolve type) with
    | .ok d' => .ok (some ((name, d.resolve type), d'))
    | .error e => .error e

end Dictionary

/-- What the lines of a typedef file come to. -/
structure Resolution where
  /-- The dictionary after the lines. -/
  dictionary : Dictionary
  /-- The rules added, in the order of their lines. -/
  registered : List Rule := []
  /-- The reports on lines that are no typedef lines. -/
  reports : Diagnostics := []
  /-- The refusal that ended the reading, if there was one. -/
  refused : Option FrozenError := none
  deriving DecidableEq, Repr

/-- Registers the typedefs of the lines, from the first to the last. -/
def resolveTypedefs (d : Dictionary) : List Text → Resolution
  | [] => { dictionary := d }
  | line :: lines =>
    if line.isBlank then resolveTypedefs d lines
    else
      match d.registerTypedef line with
      | .error e => { dictionary := d, refused := some e }
      | .ok none =>
        let r := resolveTypedefs d lines
        { r with reports := unreadableTypedef line :: r.reports }
      | .ok (some (rule, d')) =>
        let r := resolveTypedefs d' lines
        { r with registered := rule :: r.registered }

theorem frozen_of_registerTypedef {d d' : Dictionary} {line : Text} {rule : Rule}
    (h : d.registerTypedef line = .ok (some (rule, d'))) : d'.frozen = d.frozen := by
  unfold Dictionary.registerTypedef at h
  split at h
  · simp at h
  · split at h
    · next h' =>
      obtain ⟨_, rfl⟩ := Dictionary.insert?_eq_ok_iff.1 h'
      simp only [Except.ok.injEq, Option.some.injEq, Prod.mk.injEq] at h
      rw [← h.2]
    · simp at h

theorem registerTypedef_ne_error {d : Dictionary} (hd : d.frozen = false) {line : Text}
    {e : FrozenError} : d.registerTypedef line ≠ .error e := by
  intro h
  unfold Dictionary.registerTypedef at h
  split at h
  · simp at h
  · split at h
    · simp at h
    · next h' => simp [(Dictionary.insert?_eq_error_iff.1 h').1] at hd

/-- In an open dictionary every line that is not blank adds a rule or is reported. -/
theorem length_resolveTypedefs {d : Dictionary} (hd : d.frozen = false) (lines : List Text) :
    (resolveTypedefs d lines).registered.length + (resolveTypedefs d lines).reports.length =
      (lines.filter fun l => !l.isBlank).length := by
  induction lines generalizing d with
  | nil => rfl
  | cons line lines ih =>
    unfold resolveTypedefs
    split
    · next h => simpa [h] using ih hd
    · next h =>
      have hlen : ((line :: lines).filter fun l => !l.isBlank).length =
          (lines.filter fun l => !l.isBlank).length + 1 := by simp [h]
      rw [hlen]
      split
      · next e => exact absurd e (registerTypedef_ne_error hd)
      · rw [← ih hd]
        exact (Nat.add_assoc _ _ _).symm
      · next rule d' e =>
        rw [← ih (d := d') (by rw [frozen_of_registerTypedef e, hd])]
        exact Nat.add_right_comm _ _ _

end HeaderBridge
