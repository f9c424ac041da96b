import HeaderBridge.CommandLine
import HeaderBridge.Proofs.Paths

/-!
# Configurations that are refused

A path that cannot be read is refused with the first fault on the way : a place that is not
there, or a file where a directory has to be (`FileTree.follow_eq_error_iff`). The command
reports the refusals that it foresees and ends with a status. It foresees a missing file and
what is wrong with the document, and it overlooks a directory in the place of the file, a file
on the way to it and a document that names no encoding of texts (`Disk.Overlooked`).

`command_refusedConfiguration` says how the command ends in the one case and in the other.
-/

namespace HeaderBridge

/-! ## Faults on the way -/

namespace FileTree

variable {t : FileTree} {l : Location}

/-- Names are not followed if one of them cannot be entered from where those before it lead. -/
theorem follow_eq_error_iff {names : List Text} {f : Fault} :
    t.follow l names = .error f ↔
      ∃ before name after k, names = before ++ name :: after ∧ t.follow l before = .ok k ∧
        t.step k name = .error f := by
  induction names generalizing l with
  | nil => simp [follow, pure, Except.pure]
  | cons first names ih =>
    -- Either the first name is the one that cannot be entered, or it is one of those behind it.
    cases hstep : t.step l first with
    | error f' =>
      rw [follow_cons_of_error hstep]
      constructor
      · rintro h
        obtain rfl := Except.error.inj h
        exact ⟨[], first, names, l, rfl, rfl, hstep⟩
      · rintro ⟨before, name, after, k, hnames, hbefore, h⟩
        cases before with
        | nil =>
          obtain rfl := (List.cons.inj hnames).1
          obtain rfl : l = k := Except.ok.inj hbefore
          exact hstep.symm.trans h
        | cons first' before =>
          obtain rfl := (List.cons.inj hnames).1
          rw [follow_cons_of_error hstep] at hbefore
          cases hbefore
    | ok m =>
      rw [follow_cons_of_ok hstep, ih]
      constructor
      · rintro ⟨before, name, after, k, rfl, hbefore, h⟩
        exact ⟨first :: before, name, after, k, rfl, (follow_cons_of_ok hstep).trans hbefore, h⟩
      · rintro ⟨before, name, after, k, hnames, hbefore, h⟩
        cases before with
        | nil =>
          obtain rfl := (List.cons.inj hnames).1
          obtain rfl : l = k := Except.ok.inj hbefore
          rw [hstep] at h
          cases h
        | cons first' before =>
          obtain ⟨rfl, rfl⟩ := List.cons.inj hnames
          rw [follow_cons_of_ok hstep] at hbefore
          exact ⟨before, name, after, k, rfl, hbefore, h⟩

end FileTree

namespace Disk

variable {d : Disk} {path : Text}

/-- The path leads on from a place where a file stands. -/
def LeadsThroughFile (d : Disk) (path : Text) : Prop :=
  '\x00' ∉ path ∧ path ≠ [] ∧
    ∃ before name after l mode content, slashPieces path = before ++ name :: after ∧
      d.tree.follow (d.start path) before = .ok l ∧ d.tree.node? l = some (.file mode content)

theorem locate_eq_error_iff {e : DiskError} (hnull : '\x00' ∉ path) (hne : path ≠ []) :
    d.locate path = .error e ↔
      ∃ f, d.tree.follow (d.start path) (slashPieces path) = .error f ∧ e = .at f path := by
  have hcontains : path.contains '\x00' = false := by simpa using hnull
  have hempty : path.isEmpty = false := by simpa using hne
  simp only [locate, hcontains, hempty, Bool.false_eq_true, if_false]
  cases d.tree.follow (d.start path) (slashPieces path) <;> simp [eq_comm]

theorem read_of_leadsThroughFile (h : d.LeadsThroughFile path) :
    d.read path = .error (.at .notDirectory path) := by
  obtain ⟨hnull, hne, before, name, after, l, mode, content, hpieces, hbefore, hfile⟩ := h
  have hstep : d.tree.step l name = .error .notDirectory :=
    FileTree.step_eq_error_iff.2 (.inr ⟨⟨mode, content, hfile⟩, rfl⟩)
  have hfollow : d.tree.follow (d.start path) (slashPieces path) = .error .notDirectory :=
    FileTree.follow_eq_error_iff.2 ⟨before, name, after, l, hpieces, hbefore, hstep⟩
  exact read_of_locate_error ((locate_eq_error_iff hnull hne).2 ⟨_, hfollow, rfl⟩)

theorem read_of_directory (h : d.node? path = some .directory) :
    d.read path = .error (.at .isDirectory path) := by
  obtain ⟨l, hl, hdir⟩ := node?_eq_some_iff.1 h
  rw [read_of_locate_ok hl, hdir]

/-- What is not read has the null character in its path, is missing, is behind a file or is a
directory. -/
theorem read_error_cases {e : DiskError} (h : d.read path = .error e) :
    e = .nullCharacter ∨ e = .at .missing path ∨
      e = .at .notDirectory path ∧ d.LeadsThroughFile path ∨
      e = .at .isDirectory path ∧ d.node? path = some .directory := by
  by_cases hnull : '\x00' ∈ path
  · have hlocate : d.locate path = .error .nullCharacter := by simp [locate, hnull]
    rw [read_of_locate_error hlocate] at h
    exact .inl (Except.error.inj h).symm
  by_cases hne : path = []
  · have hlocate : d.locate path = .error (.at .missing path) := by simp [locate, hne]
    rw [read_of_locate_error hlocate] at h
    exact .inr (.inl (Except.error.inj h).symm)
  cases hl : d.locate path with
  | error e' =>
    rw [read_of_locate_error hl] at h
    obtain rfl := Except.error.inj h
    obtain ⟨f, hfollow, rfl⟩ := (locate_eq_error_iff hnull hne).1 hl
    obtain ⟨before, name, after, k, hpieces, hbefore, hstep⟩ :=
      FileTree.follow_eq_error_iff.1 hfollow
    rcases FileTree.step_eq_error_iff.1 hstep with ⟨-, rfl⟩ | ⟨⟨mode, content, hfile⟩, rfl⟩
    · exact .inr (.inl rfl)
    · exact .inr (.inr (.inl ⟨rfl, hnull, hne, before, name, after, k, mode, content, hpieces,
        hbefore, hfile⟩))
  | ok l =>
    rw [read_of_locate_ok hl] at h
    cases hn : d.tree.node? l with
    | none =>
      rw [hn] at h
      exact .inr (.inl (Except.error.inj h).symm)
    | some n =>
      rw [hn] at h
      cases n with
      | directory =>
        exact .inr (.inr (.inr ⟨(Except.error.inj h).symm, node?_eq_some_iff.2 ⟨l, hl, hn⟩⟩))
      | file => cases h

/-! ## What the command overlooks -/

/-- The command does not catch why the configuration at the path is refused. -/
inductive Overlooked (d : Disk) (path : Text) : Prop
  | directory (h : d.node? path = some .directory)
  | throughFile (h : d.LeadsThroughFile path)
  | noEncoding (mode : Nat) (content : Octets) (name : Text)
    (h : d.node? path = some (.file mode content))
    (hname : Xml.readDocument content = .error (.unknownEncoding name) ∨
      Xml.readDocument content = .error (.notText name))

/-- The refusals that the command overlooks are those that it does not foresee. So each of them
is known from the disk alone. -/
theorem overlooked_iff {e : ConfigurationError} (h : d.configuration path = .error e) :
    d.Overlooked path ↔ e.isForeseen = false := by
  constructor
  · intro hoverlooked
    cases hoverlooked with
    | directory hdir =>
      simp only [configuration, read_of_directory hdir] at h
      obtain rfl := Except.error.inj h
      rfl
    | throughFile hfile =>
      simp only [configuration, read_of_leadsThroughFile hfile] at h
      obtain rfl := Except.error.inj h
      rfl
    | noEncoding mode content name hfile hname =>
      have hread := read_eq_ok_iff.2 ⟨mode, hfile⟩
      rcases hname with hname | hname
      · simp only [configuration, hread, hname] at h
        obtain rfl := Except.error.inj h
        rfl
      · simp only [configuration, hread, hname] at h
        obtain rfl := Except.error.inj h
        rfl
  · intro hunforeseen
    cases hread : d.read path with
    | error e' =>
      rcases read_error_cases hread with rfl | rfl | ⟨-, hfile⟩ | ⟨-, hdir⟩
      · simp only [configuration, hread] at h
        obtain rfl := Except.error.inj h
        cases hunforeseen
      · simp only [configuration, hread] at h
        obtain rfl := Except.error.inj h
        cases hunforeseen
      · exact .throughFile hfile
      · exact .directory hdir
    | ok octets =>
      obtain ⟨mode, hfile⟩ := read_eq_ok_iff.1 hread
      cases hdocument : Xml.readDocument octets with
      | error e' =>
        simp only [configuration, hread, hdocument] at h
        obtain rfl := Except.error.inj h
        cases e' with
        | unknownEncoding name => exact .noEncoding mode octets name hfile (.inl hdocument)
        | notText name => exact .noEncoding mode octets name hfile (.inr hdocument)
        | malformed => cases hunforeseen
        | wideEncoding => cases hunforeseen
        | strictEncoding => cases hunforeseen
      | ok root =>
        simp only [configuration, hread, hdocument] at h
        cases hroot : readConfiguration root with
        | error e' =>
          rw [hroot] at h
          obtain rfl := Except.error.inj h
          cases hunforeseen
        | ok c =>
          rw [hroot] at h
          cases h

end Disk

/-! ## The command -/

/-- A configuration that is refused ends the command before anything is changed. The reason is
shown and the exit status is 1, unless the command overlooks the reason : then nothing is shown
and the error passes the command by. -/
theorem command_refusedConfiguration (p : HeaderParser) (drawn : Text) {args : List Text}
    {a : Arguments} {d : Disk} {e : ConfigurationError} (hargs : readArguments args = .ok (.run a))
    (hconfig : a.config ≠ []) (herror : d.configuration a.config = .error e) :
    (d.Overlooked a.config →
      command p drawn args d = { outcome := .unforeseen (.configuration e), disk := d }) ∧
    (¬ d.Overlooked a.config →
      command p drawn args d =
        { outcome := .status 1
          shown := Console.errLine ("Error reading config file: ".toList ++ e.message)
          disk := d }) := by
  have hempty : a.config.isEmpty = false := by simpa using hconfig
  have hread : a.configuration d = .error e := by
    simp only [Arguments.configuration, hempty, Bool.false_eq_true, if_false, herror]
  constructor
  · intro hoverlooked
    have hunforeseen : e.isForeseen = false := (Disk.overlooked_iff herror).1 hoverlooked
    simp only [command, hargs, runArguments, hread, hunforeseen, Bool.false_eq_true, if_false]
  · intro hcaught
    have hforeseen : e.isForeseen = true := by
      simpa using mt (Disk.overlooked_iff herror).2 hcaught
    simp only [command, hargs, runArguments, hread, hforeseen, if_true]

/-- A parser that finds nothing in any header. -/
def emptyParser : HeaderParser where
  parse _ _ := {}

/-- A disk with a directory and a file. -/
def withFileAndDirectory : Disk where
  tree := [(["tmp".toList], .directory), (["a.xml".toList], .file 0o644 [])]

theorem command_refusedConfiguration_throughFile :
    readArguments ["-C".toList, "a.xml/b".toList] = .ok (.run { config := "a.xml/b".toList }) ∧
      withFileAndDirectory.configuration "a.xml/b".toList =
        .error (.disk (.at .notDirectory "a.xml/b".toList)) ∧
      command emptyParser [] ["-C".toList, "a.xml/b".toList] withFileAndDirectory =
        { outcome := .unforeseen (.configuration (.disk (.at .notDirectory "a.xml/b".toList)))
          disk := withFileAndDirectory } := by
  have hargs : readArguments ["-C".toList, "a.xml/b".toList] =
      .ok (.run { config := "a.xml/b".toList }) := rfl
  have herror : withFileAndDirectory.configuration "a.xml/b".toList =
      .error (.disk (.at .notDirectory "a.xml/b".toList)) := rfl
  have hthrough : withFileAndDirectory.LeadsThroughFile "a.xml/b".toList :=
    ⟨by decide, by decide, ["a.xml".toList], ['b'], [], ["a.xml".toList], 0o644, [], by decide,
      rfl, by decide⟩
  exact ⟨hargs, herror,
    (command_refusedConfiguration emptyParser [] hargs (by decide) herror).1 (.throughFile hthrough)⟩

/-- A directory in the place of the configuration ends the command without a status. -/
theorem exists_unforeseen_configuration :
    ¬ ∀ (p : HeaderParser) (drawn : Text) (args : List Text) (a : Arguments) (d : Disk)
        (e : ConfigurationError),
      readArguments args = .ok (.run a) → a.config ≠ [] → d.configuration a.config = .error e →
      (command p drawn args d).outcome = .status 1 := by
  intro h
  have hstatus := h emptyParser [] ["-C".toList, "tmp".toList] { config := "tmp".toList }
    withFileAndDirectory (.disk (.at .isDirectory "tmp".toList)) rfl (by decide)
    rfl
  revert hstatus
  decide +kernel

end HeaderBridge
