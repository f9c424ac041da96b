import HeaderBridge.FileRun
import HeaderBridge.Proofs.Paths
import Mathlib.Data.List.MinMax
import Mathlib.Data.Nat.Bitwise

/-!
# Output in one step

The output takes the place of its target in four steps, each of which can leave something
behind : a temporary file is created beside the target, it is filled, it gets a mode, and
it is moved. Whatever name was drawn, the file is new (`Disk.node?_temporary`), so the steps
before the move change nothing else, and removing it gives the disk from before
(`Disk.remove_put_temporary`).

A path is `Disk.Replaceable` if its names lead through directories to a place that can
hold a file. Then the only change is the file at that place
(`Disk.replaceFile_of_replaceable`), and otherwise there is no change
(`Disk.exists_refusal_of_replaceFile`). `Disk.writeOutput_atomic` says so of the output
and of its report.
-/

namespace HeaderBridge

/-! ## Fresh names -/

namespace FileTree

variable {t : FileTree} {l k : Location}

/-- A file can be created in a directory and nowhere else. -/
theorem fault?_eq_none_iff : t.fault? l = none ↔ t.node? l = some .directory := by
  cases l with
  | nil => simp [fault?, node?]
  | cons name l =>
    cases h : t.node? (name :: l) with
    | none => simp [fault?, h]
    | some n => cases n <;> simp [fault?, h]

/-- Every name in the tree is shorter than one that is longer than the longest. -/
theorem length_head_le (hk : k ∈ OrderedMap.keys t) :
    (k.headD []).length ≤ (t.map fun e => (e.1.headD []).length).foldr max 0 := by
  obtain ⟨e, he, rfl⟩ := List.mem_map.1 hk
  exact List.le_max_of_le' 0 (List.mem_map.2 ⟨e, he, rfl⟩) le_rfl

theorem exists_freshName_eq (t : FileTree) (l : Location) (before drawn after : Text) :
    ∃ more, t.freshName l before drawn after = before ++ (drawn ++ more) ++ after := by
  unfold freshName
  split
  · exact ⟨[], by rw [List.append_nil]⟩
  · exact ⟨_, rfl⟩

/-- Nothing at the location has a fresh name. -/
theorem node?_freshName (t : FileTree) (l : Location) (before drawn after : Text) :
    t.node? (t.freshName l before drawn after :: l) = none := by
  unfold freshName
  split
  · next h => exact h
  · rw [← Option.not_isSome_iff_eq_none, Option.isSome_iff_exists]
    intro h
    have hle := length_head_le (OrderedMap.mem_keys_iff.2 h)
    simp only [List.headD_cons, List.length_append, List.length_replicate] at hle
    omega

end FileTree

namespace Disk

variable {d : Disk} {p : Path} {path drawn : Text} {l : Location} {mode : Nat} {content : Octets}

/-! ## The temporary file -/

theorem temporary_ne_nil : d.temporary drawn p ≠ [] := List.cons_ne_nil _ _

theorem temporary_ne_cons (j : Location) : d.temporary drawn p ≠ p.name :: j := by
  intro h
  obtain ⟨more, hmore⟩ := d.tree.exists_freshName_eq (d.resolve p.parent.text)
    ('.' :: p.name ++ ['.']) drawn ".tmp".toList
  have hlength := congrArg List.length (hmore.symm.trans (List.cons.inj h).1)
  simp only [List.length_append, List.length_cons] at hlength
  omega

theorem node?_temporary : d.tree.node? (d.temporary drawn p) = none :=
  FileTree.node?_freshName _ _ _ _ _

theorem node?_temporary_ne : d.tree.node? (d.temporary drawn p) ≠ some .directory := by
  simp [node?_temporary]

theorem temporary_notMem : d.temporary drawn p ∉ OrderedMap.keys d.tree := by
  intro h
  obtain ⟨n, hn⟩ := OrderedMap.mem_keys_iff.1 h
  exact Option.some_ne_none n (hn.symm.trans node?_temporary)

/-- Without the temporary file the disk is the one from before. -/
theorem remove_put_temporary (n : Node) :
    (d.put (d.temporary drawn p) n).remove (d.temporary drawn p) = d := by
  simp [put, remove, OrderedMap.erase_insert temporary_notMem]

/-! ## The steps -/

theorem notMem_text_parent (hp : p.Regular) (hnull : '\x00' ∉ p.text) :
    '\x00' ∉ p.parent.text := by
  rw [hp.parent.mem_text_iff (by decide) (by decide)]
  rintro ⟨n, hn, hmem⟩
  exact hnull ((hp.mem_text_iff (by decide) (by decide)).2 ⟨n, List.dropLast_subset _ hn, hmem⟩)

theorem put_put (n m : Node) : (d.put l n).put l m = d.put l m := by
  simp [put, OrderedMap.insert_insert]

/-- The temporary file gets the content, and then the mode of the target, if there is one to
be had. Nothing else is changed before the move. -/
theorem moveFilled_put (hl : l ≠ []) (old : Octets) :
    (d.put l (.file mode old)).moveFilled l p content =
      match (d.put l (.file mode content)).targetMode p.text with
      | .error e => (d.put l (.file mode content), some e)
      | .ok mode => (d.put l (.file mode content)).attempt (·.move l p) := by
  have hfill : (d.put l (.file mode old)).fill l content = d.put l (.file mode content) := by
    simp [fill, node?_put hl, put_put]
  simp only [moveFilled, hfill]
  cases (d.put l (.file mode content)).targetMode p.text with
  | error e => rfl
  | ok mode' => simp [setMode, node?_put hl, put_put]

/-- With a temporary file created, the content takes the place of the target unless there is
no mode for it or it is not moved. -/
theorem replaceFile_of_directory (hnull : '\x00' ∉ p.text)
    (hdir : d.tree.node? (d.resolve p.parent.text) = some .directory) :
    d.replaceFile drawn p content =
      let filled (mode : Nat) : Disk := d.put (d.temporary drawn p) (.file mode content)
      match (filled temporaryMode).targetMode p.text with
      | .error e => (d, some e)
      | .ok mode =>
        match (filled mode).move (d.temporary drawn p) p with
        | .error e => (d, some e)
        | .ok d => (d, none) := by
  have hcontains : p.text.contains '\x00' = false := by simpa using hnull
  have hcreated : d.createTemporary drawn p =
      .ok (d.put (d.temporary drawn p) (.file temporaryMode [])) := by
    have hfault : d.tree.fault? (d.temporary drawn p).tail = none :=
      FileTree.fault?_eq_none_iff.2 hdir
    simp only [createTemporary, hfault]
  simp only [replaceFile, hcontains, Bool.false_eq_true, if_false, hcreated,
    moveFilled_put temporary_ne_nil]
  cases hmode : (d.put (d.temporary drawn p) (.file temporaryMode content)).targetMode p.text with
  | error e => simp only [remove_put_temporary]
  | ok mode =>
    cases hmove : (d.put (d.temporary drawn p) (.file mode content)).move
        (d.temporary drawn p) p with
    | error e => simp only [attempt, hmove, remove_put_temporary]
    | ok d' => simp only [attempt, hmove]

/-! ## Replacing -/

/-- The path leads to the location, and a file can be put there. -/
structure Replaceable (d : Disk) (p : Path) (l : Location) : Prop where
  names : p.names ≠ []
  name : p.name ≠ parentName
  leads : d.Leads p l
  noDirectory : d.tree.node? l ≠ some .directory

theorem Replaceable.parent (h : d.Replaceable p l) (hp : p.Regular) :
    ∃ k, d.Leads p.parent k ∧ d.tree.node? k = some .directory ∧ l = p.name :: k := by
  obtain ⟨k, hk, hdir, rfl⟩ := (leads_iff_parent h.names).1 h.leads
  have hmem : p.name ∈ p.names := by
    rw [Path.name_of_names h.names]
    simp
  exact ⟨k, hk, hdir, Location.enter_of_isStep (hp.isStep _ hmem) h.name k⟩

theorem Replaceable.locate (h : d.Replaceable p l) (hp : p.Regular) (hnull : '\x00' ∉ p.text) :
    d.locate p.text = .ok l :=
  (locate_text_iff hp hnull h.names).2 h.leads

theorem Replaceable.node?_parent (h : d.Replaceable p l) (hp : p.Regular) :
    d.tree.node? (d.resolve p.parent.text) = some .directory := by
  obtain ⟨k, hk, hdir, -⟩ := h.parent hp
  rw [resolve_text d hp.parent, ← FileTree.eq_foldl_of_follow hk, hdir]

theorem Replaceable.temporary_ne (h : d.Replaceable p l) (hp : p.Regular) :
    d.temporary drawn p ≠ l := by
  obtain ⟨k, -, -, rfl⟩ := h.parent hp
  exact temporary_ne_cons k

section

variable (h : d.Replaceable p l) (hp : p.Regular) (hnull : '\x00' ∉ p.text)
include h hp hnull

theorem Replaceable.targetMode_temporary :
    (d.put (d.temporary drawn p) (.file mode content)).targetMode p.text =
      .ok (d.modeAt l) := by
  have hlocate : (d.put (d.temporary drawn p) (.file mode content)).locate p.text = .ok l :=
    (locate_put_file_iff node?_temporary_ne).2 (h.locate hp hnull)
  have hne : d.temporary drawn p ≠ l := h.temporary_ne hp
  simp only [targetMode, hlocate, modeAt, node?_put temporary_ne_nil, if_neg hne]
  rfl

theorem Replaceable.move_temporary :
    (d.put (d.temporary drawn p) (.file mode content)).move (d.temporary drawn p) p =
      .ok (d.put l (.file mode content)) := by
  have hlocate : (d.put (d.temporary drawn p) (.file mode content)).locate p.text = .ok l :=
    (locate_put_file_iff node?_temporary_ne).2 (h.locate hp hnull)
  have hlast : (p.names.isEmpty || decide (p.name = parentName)) = false := by
    simp [h.names, h.name]
  -- No directory stands in the way of the move.
  have hdir := h.noDirectory
  have htarget : (d.put (d.temporary drawn p) (.file mode content)).tree.node? l =
      d.tree.node? l := by
    rw [node?_put temporary_ne_nil, if_neg (h.temporary_ne hp)]
  have hsource : (d.put (d.temporary drawn p) (.file mode content)).tree.node?
      (d.temporary drawn p) = some (.file mode content) := by
    rw [node?_put temporary_ne_nil, if_pos rfl]
  simp only [move, hlocate, hlast, Bool.false_eq_true, if_false, htarget, hsource,
    remove_put_temporary]

/-- Where a file can be put, the file is the only change. -/
theorem replaceFile_of_replaceable (drawn : Text) (content : Octets) :
    d.replaceFile drawn p content = (d.put l (.file (d.modeAt l) content), none) := by
  rw [replaceFile_of_directory hnull (h.node?_parent hp)]
  simp only [h.targetMode_temporary hp hnull, h.move_temporary hp hnull]

end

section

variable (hnull : '\x00' ∉ p.text)
include hnull

theorem targetMode_ne_nullCharacter : d.targetMode p.text ≠ .error .nullCharacter := by
  unfold targetMode
  cases hl : d.locate p.text with
  | error e =>
    obtain ⟨fault, path, rfl⟩ := exists_fault_of_locate hnull hl
    cases fault <;> simp
  | ok l => simp

/-- Where a path leads to a place that takes no file, the place is in use or a directory. -/
theorem move_of_locate {k : Location} (hp : p.Regular) (h : ¬ ∃ l, d.Replaceable p l)
    (hdir : d.tree.node? l ≠ some .directory) (hk : d.locate p.text = .ok k) (mode : Nat)
    (content : Octets) :
    (d.put l (.file mode content)).move l p =
      .error (.moving (if p.names.isEmpty || p.name = parentName then .busy else .isDirectory)
        (spellFrom p l) p.text) := by
  have hlocate : (d.put l (.file mode content)).locate p.text = .ok k :=
    (locate_put_file_iff hdir).2 hk
  simp only [move, hlocate]
  by_cases hlast : (p.names.isEmpty || decide (p.name = parentName)) = true
  · simp only [hlast, if_true]
  · have hnames : p.names ≠ [] := fun hn => hlast (by simp [hn])
    have hname : p.name ≠ parentName := fun hn => hlast (by simp [hn])
    have hleads : d.Leads p k := (locate_text_iff hp hnull hnames).1 hk
    -- Only a directory at the place of the target is left to refuse the move.
    have htarget : d.tree.node? k = some .directory :=
      by_contra fun hn => h ⟨k, hnames, hname, hleads, hn⟩
    have hlk : l ≠ k := by
      rintro rfl
      exact hdir htarget
    have hroot : l ≠ [] := by
      rintro rfl
      exact hdir rfl
    have hkeeps : (d.put l (.file mode content)).tree.node? k = some .directory := by
      rw [node?_put hroot, if_neg hlk, htarget]
    simp only [hlast, hkeeps, Bool.false_eq_true, if_false]

theorem exists_refusal_of_move (hp : p.Regular) (h : ¬ ∃ l, d.Replaceable p l)
    (hdir : d.tree.node? l ≠ some .directory) (mode : Nat) (content : Octets) :
    ∃ e, e ≠ .nullCharacter ∧ (d.put l (.file mode content)).move l p = .error e := by
  cases hl : (d.put l (.file mode content)).locate p.text with
  | error e =>
    obtain ⟨fault, path, rfl⟩ := exists_fault_of_locate hnull hl
    exact ⟨.moving fault (spellFrom p l) p.text, by simp, by simp only [move, hl]⟩
  | ok k =>
    have hk := (locate_put_file_iff hdir).1 hl
    exact ⟨_, by simp, move_of_locate hnull hp h hdir hk mode content⟩

/-- Where no file can be put, nothing is changed. -/
theorem exists_refusal_of_replaceFile (hp : p.Regular) (h : ¬ ∃ l, d.Replaceable p l)
    (drawn : Text) (content : Octets) :
    ∃ e, e ≠ .nullCharacter ∧ d.replaceFile drawn p content = (d, some e) := by
  by_cases hdir : d.tree.node? (d.resolve p.parent.text) = some .directory
  · rw [replaceFile_of_directory hnull hdir]
    cases hmode : (d.put (d.temporary drawn p) (.file temporaryMode content)).targetMode
        p.text with
    | error e =>
      refine ⟨e, ?_, by simp only [hmode]⟩
      rintro rfl
      exact targetMode_ne_nullCharacter hnull hmode
    | ok mode =>
      have hfree : d.tree.node? (d.temporary drawn p) ≠ some .directory := node?_temporary_ne
      obtain ⟨e, hne, he⟩ := exists_refusal_of_move hnull hp h hfree mode content
      exact ⟨e, hne, by simp only [hmode, he]⟩
  · obtain ⟨fault, hfault⟩ : ∃ fault, d.tree.fault? (d.temporary drawn p).tail = some fault :=
      Option.ne_none_iff_exists'.1 (mt FileTree.fault?_eq_none_iff.1 hdir)
    have hcontains : p.text.contains '\x00' = false := by simpa using hnull
    exact ⟨.at fault (spellFrom p (d.temporary drawn p)), by simp, by
      simp only [replaceFile, hcontains, Bool.false_eq_true, if_false, createTemporary, hfault]⟩

end

/-! ## The output -/

theorem notMem_text_ofText (hnull : '\x00' ∉ path) : '\x00' ∉ (Path.ofText path).text := by
  rwa [Path.mem_text_ofText_iff (by decide) (by decide)]

theorem writeOutput_of_replaceable (hnull : '\x00' ∉ path) (h : d.Replaceable (.ofText path) l)
    (drawn output : Text) :
    d.writeOutput drawn path output =
      .ok (d.put l (.file (d.modeAt l) (encodeUtf8 output)), true, writtenFile path) := by
  simp only [writeOutput,
    replaceFile_of_replaceable h (Path.regular_ofText path) (notMem_text_ofText hnull)]

theorem writeOutput_of_refusal {e : DiskError} {output : Text} (hne : e ≠ .nullCharacter)
    (h : d.replaceFile drawn (.ofText path) (encodeUtf8 output) = (d, some e)) :
    d.writeOutput drawn path output = .ok (d, false, unwritableFile path e.message) := by
  cases e with
  | nullCharacter => exact absurd rfl hne
  | «at» => simp only [writeOutput, h]
  | moving => simp only [writeOutput, h]

theorem exists_reason_of_writeOutput (hnull : '\x00' ∉ path)
    (h : ¬ ∃ l, d.Replaceable (.ofText path) l) (drawn output : Text) :
    ∃ reason, d.writeOutput drawn path output = .ok (d, false, unwritableFile path reason) := by
  obtain ⟨e, hne, he⟩ := exists_refusal_of_replaceFile (notMem_text_ofText hnull)
    (Path.regular_ofText path) h drawn (encodeUtf8 output)
  exact ⟨e.message, writeOutput_of_refusal hne he⟩

/-- A text with the null character is no path at all. -/
theorem writeOutput_of_null (hnull : '\x00' ∈ path) (drawn output : Text) :
    d.writeOutput drawn path output = .error .nullCharacter := by
  have hmem : '\x00' ∈ (Path.ofText path).text := by
    rwa [Path.mem_text_ofText_iff (by decide) (by decide)]
  have hcontains : (Path.ofText path).text.contains '\x00' = true := by simpa using hmem
  simp only [writeOutput, replaceFile, hcontains, if_true]

/-- The disk `d'` differs from `d` in the file at the location alone. The file has the
content, and the mode that it had or that a new file gets. -/
structure Replaced (d : Disk) (l : Location) (content : Octets) (d' : Disk) : Prop where
  keepsMode : ∀ mode old, d.tree.node? l = some (.file mode old) →
    d'.tree.node? l = some (.file mode content)
  newMode : d.tree.node? l = none →
    d'.tree.node? l = some (.file (Nat.ldiff 0o666 d.umask) content)
  elsewhere : ∀ k, k ≠ l → d'.tree.node? k = d.tree.node? k
  here : d'.here = d.here
  umask : d'.umask = d.umask

/-- A new file gets the permissions that the mask does not withhold. -/
theorem newMode_eq_ldiff (d : Disk) : d.newMode = Nat.ldiff 0o666 d.umask := by
  refine Nat.eq_of_testBit_eq fun i => ?_
  simp only [Disk.newMode, Nat.testBit_xor, Nat.testBit_and, Nat.testBit_ldiff]
  cases Nat.testBit 0o666 i <;> cases Nat.testBit d.umask i <;> rfl

theorem Replaceable.replaced (h : d.Replaceable p l) (content : Octets) :
    d.Replaced l content (d.put l (.file (d.modeAt l) content)) := by
  have hroot : l ≠ [] := by
    rintro rfl
    exact h.noDirectory rfl
  refine ⟨fun mode old hold => ?_, fun hnone => ?_, fun k hk => ?_, rfl, rfl⟩
  · rw [node?_put hroot, if_pos rfl, modeAt, hold]
  · rw [node?_put hroot, if_pos rfl, modeAt, hnone, newMode_eq_ldiff]
  · rw [node?_put hroot, if_neg hk.symm]

/-- A path with a last name is replaceable exactly if its parent is a directory and it is
not one itself. -/
theorem exists_replaceable_iff (hp : p.Regular) (hnull : '\x00' ∉ p.text) (hnames : p.names ≠ [])
    (hname : p.name ≠ parentName) :
    (∃ l, d.Replaceable p l) ↔
      d.holdsDirectory p.parent.text = true ∧ d.holdsDirectory p.text = false := by
  rw [← Bool.not_eq_true, holdsDirectory_text_iff hp hnull,
    holdsDirectory_text_iff hp.parent (notMem_text_parent hp hnull)]
  constructor
  · rintro ⟨l, h⟩
    obtain ⟨k, hk, hdir, -⟩ := h.parent hp
    refine ⟨⟨k, hk, hdir⟩, ?_⟩
    rintro ⟨m, hm, hmdir⟩
    obtain rfl : l = m := Except.ok.inj (h.leads.symm.trans hm)
    exact h.noDirectory hmdir
  · rintro ⟨⟨k, hk, hdir⟩, hno⟩
    have hleads : d.Leads p (k.enter p.name) := (leads_iff_parent hnames).2 ⟨k, hk, hdir, rfl⟩
    exact ⟨_, hnames, hname, hleads, fun hl => hno ⟨_, hleads, hl⟩⟩

theorem Replaceable.resolve_eq (h : d.Replaceable (.ofText path) l) (hnull : '\x00' ∉ path) :
    d.resolve path = l := by
  rw [← resolve_spelled]
  exact resolve_of_locate (h.locate (Path.regular_ofText path) (notMem_text_ofText hnull))

/-- Whatever the path is, the output is the only change or nothing is changed. -/
theorem exists_put_of_writeOutput {d' : Disk} {output : Text} {written : Bool}
    {report : Diagnostic} (h : d.writeOutput drawn path output = .ok (d', written, report)) :
    written = false ∧ d' = d ∨
      written = true ∧ d.tree.node? (d.resolve path) ≠ some .directory ∧
        ∃ mode, d' = d.put (d.resolve path) (.file mode (encodeUtf8 output)) := by
  by_cases hnull : '\x00' ∈ path
  · rw [writeOutput_of_null hnull] at h
    cases h
  by_cases hplace : ∃ l, d.Replaceable (.ofText path) l
  · obtain ⟨l, hl⟩ := hplace
    rw [writeOutput_of_replaceable hnull hl] at h
    obtain ⟨rfl, rfl, -⟩ : _ = d' ∧ true = written ∧ _ = report := by simpa using h
    rw [hl.resolve_eq hnull]
    exact Or.inr ⟨rfl, hl.noDirectory, _, rfl⟩
  · obtain ⟨reason, hreason⟩ := exists_reason_of_writeOutput hnull hplace drawn output
    rw [hreason] at h
    obtain ⟨rfl, rfl, -⟩ : d = d' ∧ false = written ∧ _ = report := by simpa using h
    exact Or.inl ⟨rfl, rfl⟩

/-- The output is put in the place of its target or nothing is changed, and the report says
which, whatever name was drawn for the temporary file. It is put there exactly if the parent of
the path is a directory and the path is not one itself. -/
theorem writeOutput_atomic (d : Disk) (drawn : Text) {path : Text} (output : Text)
    (hname : (Path.ofText path).name ≠ []) (hparent : (Path.ofText path).name ≠ parentName) :
    if '\x00' ∈ path then d.writeOutput drawn path output = .error .nullCharacter
    else
      ∃ d' written report, d.writeOutput drawn path output = .ok (d', written, report) ∧
        (written = true ↔ d.holdsDirectory (Path.ofText path).parent.text = true ∧
          d.holdsDirectory (spelled path) = false) ∧
        (written = true →
          report = info ("Generated bindings: ".toList ++ path) ∧
          ∃ l, d.locate (spelled path) = .ok l ∧ d.Replaced l (encodeUtf8 output) d') ∧
        (written = false →
          d' = d ∧
          ∃ reason, report =
            error ("Cannot create file ".toList ++ path ++ ": ".toList ++ reason)) := by
  have hp := Path.regular_ofText path
  have hnames : (Path.ofText path).names ≠ [] := by
    intro h
    exact hname (by simp [Path.name, h])
  split
  · next hnull => exact writeOutput_of_null hnull drawn output
  · next hnull =>
    have htext := notMem_text_ofText hnull
    have hiff := exists_replaceable_iff (d := d) hp htext hnames hparent
    by_cases h : ∃ l, d.Replaceable (.ofText path) l
    · obtain ⟨l, hl⟩ := h
      refine ⟨_, true, _, writeOutput_of_replaceable hnull hl drawn output, ?_, ?_, by simp⟩
      · exact ⟨fun _ => hiff.1 ⟨l, hl⟩, fun _ => rfl⟩
      · exact fun _ => ⟨rfl, l, hl.locate hp htext, hl.replaced _⟩
    · obtain ⟨reason, hreason⟩ := exists_reason_of_writeOutput hnull h drawn output
      refine ⟨d, false, _, hreason, ?_, by simp, fun _ => ⟨rfl, reason, rfl⟩⟩
      exact ⟨by simp, fun hdir => absurd (hiff.2 hdir) h⟩

/-- A disk with an output that only its owner may read. -/
def withPrivateOutput : Disk where
  tree :=
    [(["gen".toList], .directory),
      (["F.java".toList, "gen".toList], .file 0o600 (encodeUtf8 "old".toList))]
  here := ["gen".toList]
  umask := 0o027

theorem writeOutput_atomic_private :
    (Path.ofText "../gen/F.java".toList).name ≠ [] ∧
      (Path.ofText "../gen/F.java".toList).name ≠ parentName ∧
      ∃ d' report, withPrivateOutput.writeOutput ['t'] "../gen/F.java".toList "new".toList =
          .ok (d', true, report) ∧
        report = info "Generated bindings: ../gen/F.java".toList ∧
        d'.tree.node? ["F.java".toList, "gen".toList] =
          some (.file 0o600 (encodeUtf8 "new".toList)) := by
  have hname : (Path.ofText "../gen/F.java".toList).name ≠ [] := by decide
  have hparent : (Path.ofText "../gen/F.java".toList).name ≠ parentName := by decide
  have h := writeOutput_atomic withPrivateOutput ['t'] "new".toList hname hparent
  rw [if_neg (by decide)] at h
  obtain ⟨d', written, report, hrun, hiff, hyes, -⟩ := h
  obtain rfl : written = true := hiff.2 ⟨by decide, by decide⟩
  obtain ⟨hreport, l, hl, hreplaced⟩ := hyes rfl
  obtain rfl : ["F.java".toList, "gen".toList] = l :=
    Except.ok.inj (Eq.trans (by decide) hl)
  exact ⟨hname, hparent, d', report, hrun, hreport,
    hreplaced.keepsMode 0o600 (encodeUtf8 "old".toList) (by decide)⟩

end Disk

end HeaderBridge
