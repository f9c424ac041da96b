import HeaderBridge.Extraction
import HeaderBridge.Proofs.Paths

/-!
# What writing lines changes

Writing the lines of a header puts files at two locations and makes the directories on
the way to them. `Disk.ChangesOnly` bounds what a step changes by two sets of locations,
one for files, whatever stood there, and one for directories, which are made only where
nothing stood. Steps compose (`Disk.ChangesOnly.trans`), so the bound for each step of the
extraction gives the one for all of it (`extractTo_changesOnly`).

A file at any other location is kept (`Disk.ChangesOnly.file?_eq`), even at a place on the
way.
-/

namespace HeaderBridge

/-! ## The way of a path -/

/-- Names that do not lead back are all kept. -/
theorem Location.foldl_enter_of_notMem {names : List Text}
    (hstep : ∀ n ∈ names, Path.isStep n = true) (hparent : parentName ∉ names) (l : Location) :
    names.foldl Location.enter l = names.reverse ++ l := by
  induction names generalizing l with
  | nil => rfl
  | cons n names ih =>
    have hne : n ≠ parentName := fun h => hparent (by simp [h])
    have henter := Location.enter_of_isStep (hstep n (by simp)) hne l
    rw [List.foldl_cons, henter, ih (fun m hm => hstep m (by simp [hm]))
      (fun h => hparent (by simp [h]))]
    simp

namespace Disk

variable {d d' : Disk} {p : Path} {path : Text} {l : Location}

/-- The path passes the location, or ends there. -/
def Passes (d : Disk) (p : Path) (l : Location) : Prop :=
  ∃ names, names <+: p.names ∧ l = names.foldl Location.enter (d.startOf p)

theorem startOf_congr (h : d'.here = d.here) (p : Path) : d'.startOf p = d.startOf p := by
  simp only [startOf, h]

theorem passes_congr (h : d'.here = d.here) : d'.Passes p l ↔ d.Passes p l := by
  simp only [Passes, startOf_congr h]

theorem resolve_congr (h : d'.here = d.here) (t : Text) : d'.resolve t = d.resolve t := by
  simp only [resolve_eq, startOf_congr h]

theorem passes_self (d : Disk) (p : Path) :
    d.Passes p (p.names.foldl Location.enter (d.startOf p)) :=
  ⟨p.names, List.prefix_refl _, rfl⟩

theorem passes_resolve (d : Disk) (t : Text) : d.Passes (.ofText t) (d.resolve t) :=
  resolve_eq d t ▸ passes_self d (.ofText t)

theorem Passes.of_parent (h : d.Passes p.parent l) : d.Passes p l := by
  obtain ⟨names, hnames, rfl⟩ := h
  exact ⟨names, hnames.trans (List.dropLast_prefix _), rfl⟩

/-- A path that never leads back passes only the directories above its end. -/
theorem Passes.suffix_resolve (h : d.Passes (.ofText path) l)
    (hparent : parentName ∉ (Path.ofText path).names) : l <:+ d.resolve path := by
  obtain ⟨names, ⟨more, hmore⟩, rfl⟩ := h
  have hstep := (Path.regular_ofText path).isStep
  rw [resolve_eq, Location.foldl_enter_of_notMem hstep hparent]
  rw [← hmore] at hstep hparent ⊢
  rw [Location.foldl_enter_of_notMem (fun n hn => hstep n (by simp [hn]))
    (fun hn => hparent (by simp [hn])), List.reverse_append, List.append_assoc]
  exact List.suffix_append _ _

/-! ## Bounds on a change -/

/-- The mode and the content of the file at a location. -/
def file? (d : Disk) (l : Location) : Option (Nat × Octets) :=
  match d.tree.node? l with
  | some (.file mode content) => some (mode, content)
  | _ => none

/-- From `d` to `d'` only `files` are changed, and directories are made on the `ways` where
nothing stood. -/
structure ChangesOnly (files ways : Location → Prop) (d d' : Disk) : Prop where
  here : d'.here = d.here
  node? : ∀ l, d'.tree.node? l = d.tree.node? l ∨ files l ∨
    ways l ∧ d.tree.node? l = none ∧ d'.tree.node? l = some .directory

section

variable {files ways : Location → Prop} {d'' : Disk}

theorem ChangesOnly.refl (d : Disk) : ChangesOnly files ways d d := ⟨rfl, fun _ => Or.inl rfl⟩

theorem ChangesOnly.trans (h : ChangesOnly files ways d d') (h' : ChangesOnly files ways d' d'') :
    ChangesOnly files ways d d'' := by
  refine ⟨h'.here.trans h.here, fun l => ?_⟩
  rcases h.node? l with hsame | hfile | ⟨hway, hnone, hdir⟩
  · rw [← hsame]
    exact h'.node? l
  · exact Or.inr (Or.inl hfile)
  · -- A directory that was made stays, for nothing is made where it stands.
    rcases h'.node? l with hsame' | hfile' | ⟨-, hnone', -⟩
    · exact Or.inr (Or.inr ⟨hway, hnone, hsame'.trans hdir⟩)
    · exact Or.inr (Or.inl hfile')
    · rw [hdir] at hnone'
      cases hnone'

/-- What stands at any other location is kept. -/
theorem ChangesOnly.node?_eq (h : ChangesOnly files ways d d') (hfile : ¬ files l)
    (hway : ¬ ways l) : d'.tree.node? l = d.tree.node? l := by
  rcases h.node? l with hsame | hf | ⟨hw, -, -⟩
  · exact hsame
  · exact absurd hf hfile
  · exact absurd hw hway

/-- A file at any other location is kept, and none appears there. -/
theorem ChangesOnly.file?_eq (h : ChangesOnly files ways d d') (hfile : ¬ files l) :
    d'.file? l = d.file? l := by
  rcases h.node? l with hsame | hf | ⟨-, hnone, hdir⟩
  · simp only [file?, hsame]
  · exact absurd hf hfile
  · simp only [file?, hnone, hdir]

theorem ne_nil_of_node? (h : d.tree.node? l ≠ some .directory) : l ≠ [] := by
  rintro rfl
  exact h rfl

theorem changesOnly_put_directory (hnone : d.tree.node? l = none) (hway : ways l) :
    ChangesOnly files ways d (d.put l .directory) := by
  have hdir : d.tree.node? l ≠ some .directory := by simp [hnone]
  have hl := ne_nil_of_node? hdir
  refine ⟨rfl, fun k => ?_⟩
  rw [node?_put hl]
  by_cases hk : l = k
  · subst hk
    exact Or.inr (Or.inr ⟨hway, hnone, if_pos rfl⟩)
  · exact Or.inl (if_neg hk)

theorem changesOnly_put (n : Node) (hl : l ≠ []) (hfile : files l) :
    ChangesOnly files ways d (d.put l n) := by
  refine ⟨rfl, fun k => ?_⟩
  rw [node?_put hl]
  by_cases hk : l = k
  · exact Or.inr (Or.inl (hk ▸ hfile))
  · exact Or.inl (if_neg hk)

theorem changesOnly_attempt {change : Disk → Except DiskError Disk}
    (h : ∀ d', change d = .ok d' → ChangesOnly files ways d d') :
    ChangesOnly files ways d (d.attempt change).1 := by
  unfold attempt
  cases hc : change d with
  | ok d' => exact h d' hc
  | error => exact .refl d

/-! ## Directories -/

theorem createDirectory_eq_ok (h : d.createDirectory path = .ok d') :
    d.tree.node? (d.resolve path) = none ∧ d' = d.put (d.resolve path) .directory := by
  unfold createDirectory at h
  obtain ⟨l, hl, h⟩ := bind_eq_ok_iff.1 h
  obtain rfl := resolve_of_locate hl
  split at h
  · cases h
  · next hnone => exact ⟨hnone, (Except.ok.inj h).symm⟩

theorem ensureDirectory_changesOnly (hp : p.Regular) (hways : ∀ l, d.Passes p l → ways l)
    (h : d.ensureDirectory p.text = .ok d') : ChangesOnly files ways d d' := by
  unfold ensureDirectory at h
  split at h
  · next d₁ hmade =>
    obtain rfl := Except.ok.inj h
    obtain ⟨hnone, rfl⟩ := createDirectory_eq_ok hmade
    refine changesOnly_put_directory hnone (hways _ ?_)
    rw [resolve_text d hp]
    exact passes_self d p
  · split at h
    · obtain rfl := Except.ok.inj h
      exact .refl d
    · cases h

/-- Directories are made on the way of the path alone. -/
theorem ensureDirectories_changesOnly {root : Text} {names : List Text}
    (hp : Path.Regular ⟨root, names.reverse⟩)
    (hways : ∀ l, d.Passes ⟨root, names.reverse⟩ l → ways l) :
    ChangesOnly files ways d (ensureDirectories root names d).1 := by
  induction names with
  | nil =>
    exact changesOnly_attempt fun d' h => ensureDirectory_changesOnly hp hways h
  | cons name names ih =>
    have hparent : (⟨root, names.reverse⟩ : Path) =
        Path.parent ⟨root, (name :: names).reverse⟩ := by
      simp [Path.parent]
    have hrest : ChangesOnly files ways d (ensureDirectories root names d).1 :=
      ih (hparent ▸ hp.parent) fun l hl => hways l (.of_parent (hparent ▸ hl))
    simp only [ensureDirectories]
    cases hmade : d.ensureDirectory (Path.text ⟨root, (name :: names).reverse⟩) with
    | ok d₁ => exact ensureDirectory_changesOnly hp hways hmade
    | error e =>
      split
      · next heq => cases heq
      · split
        · next d₁ h =>
          rw [h] at hrest
          refine hrest.trans (changesOnly_attempt fun d' h' => ?_)
          exact ensureDirectory_changesOnly hp
            (fun l hl => hways l ((passes_congr hrest.here).1 hl)) h'
        · exact hrest
      · exact .refl d

/-! ## Lines -/

/-- What is written is put at the path, where no directory was. -/
theorem exists_put_of_write {content : Octets} (h : d.write path content = .ok d') :
    d.locate path = .ok (d.resolve path) ∧ d.tree.node? (d.resolve path) ≠ some .directory ∧
      ∃ mode, d' = d.put (d.resolve path) (.file mode content) := by
  unfold write at h
  obtain ⟨l, hl, h⟩ := bind_eq_ok_iff.1 h
  obtain rfl := resolve_of_locate hl
  split at h
  · next hnone => exact ⟨hl, by simp [hnone], _, (Except.ok.inj h).symm⟩
  · cases h
  · next hold => exact ⟨hl, by simp [hold], _, (Except.ok.inj h).symm⟩

theorem write_changesOnly {content : Octets} (h : d.write path content = .ok d')
    (hfile : files (d.resolve path)) : ChangesOnly files ways d d' := by
  obtain ⟨-, hdir, mode, rfl⟩ := exists_put_of_write h
  exact changesOnly_put _ (ne_nil_of_node? hdir) hfile

theorem writeLines_changesOnly (lines : List Text) (hfile : files (d.resolve path))
    (hways : ∀ l, d.Passes (.ofText path) l → ways l) :
    ChangesOnly files ways d (d.writeLines path lines).1 := by
  have hp := (Path.regular_ofText path).parent
  simp only [writeLines]
  generalize hparent : (Path.ofText path).parent = parent at hp
  have hmade : ChangesOnly files ways d
      (ensureDirectories parent.root parent.names.reverse d).1 := by
    refine ensureDirectories_changesOnly ?_ fun l hl => hways l (.of_parent ?_)
    · rwa [List.reverse_reverse]
    · rwa [List.reverse_reverse, ← hparent] at hl
  split
  · next h => rwa [h] at hmade
  · next d₁ h =>
    rw [h] at hmade
    refine hmade.trans (changesOnly_attempt fun d' hwrite => write_changesOnly hwrite ?_)
    rwa [resolve_spelled, resolve_congr hmade.here]

theorem writeExtraction_changesOnly (e : Extraction) {functions typedefs : Text}
    (hfunctions : files (d.resolve functions)) (htypedefs : files (d.resolve typedefs))
    (hways : ∀ l, d.Passes (.ofText functions) l ∨ d.Passes (.ofText typedefs) l → ways l) :
    ChangesOnly files ways d (d.writeExtraction e functions typedefs).1 := by
  have hfirst : ChangesOnly files ways d (d.writeLines functions e.functions).1 :=
    writeLines_changesOnly _ hfunctions fun l hl => hways l (Or.inl hl)
  unfold writeExtraction
  split
  · next h => rwa [h] at hfirst
  · next d₁ h =>
    rw [h] at hfirst
    refine hfirst.trans (writeLines_changesOnly _ ?_ fun l hl => hways l (Or.inr ?_))
    · rwa [resolve_congr hfirst.here]
    · exact (passes_congr hfirst.here).1 hl

end

end Disk

/-- An extraction changes the files of the functions and of the typedefs, and makes
directories on the way to them. -/
theorem extractTo_changesOnly (p : HeaderParser) (d : Disk) (includes : List Text)
    (header functions typedefs : Text) :
    Disk.ChangesOnly (fun l => l = d.resolve functions ∨ l = d.resolve typedefs)
      (fun l => d.Passes (.ofText functions) l ∨ d.Passes (.ofText typedefs) l) d
      (extractTo p d includes header functions typedefs).2 := by
  have hwritten : ∀ e : Extraction, Disk.ChangesOnly
      (fun l => l = d.resolve functions ∨ l = d.resolve typedefs)
      (fun l => d.Passes (.ofText functions) l ∨ d.Passes (.ofText typedefs) l) d
      (d.writeExtraction e functions typedefs).1 := fun e =>
    Disk.writeExtraction_changesOnly e (Or.inl rfl) (Or.inr rfl) fun _ hl => hl
  simp only [extractTo]
  split
  · exact .refl d
  · next e _ =>
    split
    · next h =>
      have h' := hwritten e
      rwa [h] at h'
    · next h =>
      have h' := hwritten e
      rwa [h] at h'

end HeaderBridge
