import HeaderBridge.Disk
import HeaderBridge.Proofs.Replacing

/-!
# Following paths

A path that was read from a text is regular : its names hold no slash and say where to go
(`Path.regular_ofText`). Written as text and read again it is the same path
(`Path.ofText_text`), so the location found without a look at the tree depends on the path
alone (`Disk.resolve_spelled`).

`Disk.Leads` says to which location a path leads, name by name through directories. The
text of a regular path is followed to that location (`Disk.locate_text_iff`), which is also
the one that is found without a look at the tree (`Disk.resolve_of_locate`).
-/

namespace HeaderBridge

open Text

/-! ## The pieces between slashes -/

theorem slashPieces_slash (t : Text) : slashPieces ('/' :: t) = [] :: slashPieces t := rfl

theorem slashPieces_cons {c : Char} (hc : c ≠ '/') {t p : Text} {ps : List Text}
    (h : slashPieces t = p :: ps) : slashPieces (c :: t) = (c :: p) :: ps := by
  unfold slashPieces at h ⊢
  simp [splitMatches, hc, h]

theorem exists_slashPieces (t : Text) : ∃ p ps, slashPieces t = p :: ps :=
  List.exists_cons_of_ne_nil (splitMatches_ne_nil _ 0 t)

theorem slashPieces_append {a : Text} (ha : '/' ∉ a) (t : Text) :
    slashPieces (a ++ '/' :: t) = a :: slashPieces t := by
  induction a with
  | nil => exact slashPieces_slash t
  | cons c a ih =>
    simp only [List.mem_cons, not_or] at ha
    exact slashPieces_cons (Ne.symm ha.1) (ih ha.2)

theorem slashPieces_of_notMem {a : Text} (ha : '/' ∉ a) : slashPieces a = [a] := by
  induction a with
  | nil => rfl
  | cons c a ih =>
    simp only [List.mem_cons, not_or] at ha
    exact slashPieces_cons (Ne.symm ha.1) (ih ha.2)

/-- The characters of a text but the slashes are those of its pieces. -/
theorem exists_mem_slashPieces_iff {t : Text} {c : Char} :
    (∃ p ∈ slashPieces t, c ∈ p) ↔ c ∈ t ∧ c ≠ '/' := by
  induction t with
  | nil => simp [slashPieces, splitMatches]
  | cons d t ih =>
    by_cases hd : d = '/'
    · subst hd
      rw [slashPieces_slash]
      simp only [List.mem_cons, exists_eq_or_imp, List.not_mem_nil, false_or, ih]
      constructor
      · exact fun h => ⟨Or.inr h.1, h.2⟩
      · exact fun h => ⟨h.1.resolve_left h.2, h.2⟩
    · obtain ⟨p, ps, hps⟩ := exists_slashPieces t
      rw [hps] at ih
      rw [slashPieces_cons hd hps]
      simp only [List.mem_cons, exists_eq_or_imp] at ih ⊢
      rw [or_assoc, ih]
      constructor
      · rintro (rfl | h)
        · exact ⟨Or.inl rfl, hd⟩
        · exact ⟨Or.inr h.1, h.2⟩
      · exact fun h => h.1.imp id fun hc => ⟨hc, h.2⟩

/-- Names that are joined by slashes are found again. -/
theorem slashPieces_join {names : List Text} (hne : names ≠ []) (h : ∀ n ∈ names, '/' ∉ n) :
    slashPieces (join ['/'] names) = names := by
  induction names with
  | nil => exact absurd rfl hne
  | cons n names ih =>
    cases names with
    | nil => simpa using slashPieces_of_notMem (h n (by simp))
    | cons m names =>
      have hrest := ih (by simp) fun k hk => h k (List.mem_cons_of_mem n hk)
      rw [join_cons_cons, List.append_assoc, List.singleton_append,
        slashPieces_append (h n (by simp)), hrest]

/-! ## Regular paths -/

namespace Path

/-- The root is one that a text can have, and the names say where to go. -/
structure Regular (p : Path) : Prop where
  root : p.root = [] ∨ p.root = ['/'] ∨ p.root = ['/', '/']
  notMem : ∀ n ∈ p.names, '/' ∉ n
  isStep : ∀ n ∈ p.names, isStep n = true

theorem regular_ofText (t : Text) : (ofText t).Regular where
  root := by
    unfold ofText rootOf
    split <;> simp
  notMem n hn hslash := by
    have hmem : n ∈ slashPieces t := (List.mem_filter.1 hn).1
    exact (exists_mem_slashPieces_iff.1 ⟨n, hmem, hslash⟩).2 rfl
  isStep n hn := (List.mem_filter.1 hn).2

section

variable {p : Path}

theorem Regular.parent (h : p.Regular) : p.parent.Regular where
  root := h.root
  notMem n hn := h.notMem n (List.dropLast_subset _ hn)
  isStep n hn := h.isStep n (List.dropLast_subset _ hn)

theorem Regular.ne_nil (h : p.Regular) {n : Text} (hn : n ∈ p.names) : n ≠ [] := by
  rintro rfl
  exact absurd (h.isStep [] hn) (by decide)

/-- A path that has names is its root with the names joined by slashes. -/
theorem text_of_names (hne : p.names ≠ []) : p.text = p.root ++ join ['/'] p.names := by
  simp [text, hne]

/-- The pieces of the text of a path are empty ones for the root and the names. -/
theorem Regular.slashPieces_text (h : p.Regular) (hne : p.names ≠ []) :
    slashPieces p.text = p.root.map (fun _ => []) ++ p.names := by
  rw [text_of_names hne]
  have hnames := slashPieces_join hne h.notMem
  rcases h.root with hr | hr | hr <;> simp [hr, slashPieces_slash, hnames]

theorem name_of_names (hne : p.names ≠ []) : p.names = p.names.dropLast ++ [p.name] := by
  rw [name, List.getLast?_eq_some_getLast hne, Option.getD_some, List.dropLast_concat_getLast hne]

theorem rootOf_append {r t : Text} (hr : r = [] ∨ r = ['/'] ∨ r = ['/', '/'])
    (ht : t.head? ≠ some '/') : rootOf (r ++ t) = r := by
  have hnone : t.takeWhile (· = '/') = [] := by
    cases t with
    | nil => rfl
    | cons c t =>
      have hc : c ≠ '/' := by simpa using ht
      simp [hc]
  rcases hr with rfl | rfl | rfl <;> simp [rootOf, hnone]

theorem rootOf_eq_nil_iff {t : Text} : rootOf t = [] ↔ t.head? ≠ some '/' := by
  cases t with
  | nil => simp [rootOf]
  | cons c t =>
    by_cases hc : c = '/'
    · subst hc
      simp only [List.head?_cons, ne_eq, not_true_eq_false, iff_false]
      unfold rootOf
      split
      · next h => simp at h
      · simp
      · simp
    · simp [rootOf, hc]

/-- The names of a regular path begin with no slash. -/
theorem Regular.head?_join (h : p.Regular) : (join ['/'] p.names).head? ≠ some '/' := by
  cases hp : p.names with
  | nil => simp
  | cons n names =>
    obtain ⟨r, hr⟩ := exists_join_cons ['/'] n names
    have hn : n ∈ p.names := by simp [hp]
    obtain ⟨c, m, hm⟩ := List.exists_cons_of_ne_nil (h.ne_nil hn)
    have hc : c ≠ '/' := by
      rintro rfl
      exact h.notMem n hn (by simp [hm])
    rw [hr, hm]
    simpa using hc

/-- A regular path is read back from its text. -/
theorem Regular.ofText_text (h : p.Regular) : ofText p.text = p := by
  have hfilter : p.names.filter Path.isStep = p.names := List.filter_eq_self.2 h.isStep
  have hroot : (p.root.map fun _ => ([] : Text)).filter Path.isStep = [] := by
    rw [List.filter_eq_nil_iff]
    rintro n hn
    obtain ⟨_, -, rfl⟩ := List.mem_map.1 hn
    decide
  obtain ⟨root, names⟩ := p
  by_cases hne : names = []
  · subst hne
    rcases h.root with hr | hr | hr <;> simp only at hr <;> subst hr <;> rfl
  · have hpieces := h.slashPieces_text hne
    simp only [ofText, mk.injEq]
    constructor
    · rw [text_of_names hne]
      exact rootOf_append h.root h.head?_join
    · rw [hpieces, List.filter_append, hroot, hfilter]
      rfl

/-- The characters of a regular path's text but slashes and dots are those of its names. -/
theorem Regular.mem_text_iff (h : p.Regular) {c : Char} (hslash : c ≠ '/') (hdot : c ≠ '.') :
    c ∈ p.text ↔ ∃ n ∈ p.names, c ∈ n := by
  have hpieces := exists_mem_slashPieces_iff (t := p.text) (c := c)
  by_cases hne : p.names = []
  · have htext : p.text = if p.root.isEmpty then hereName else p.root := by
      by_cases hr : p.root.isEmpty <;> simp [text, hne, hr]
    rw [htext, hne]
    rcases h.root with hr | hr | hr <;> simp [hr, hereName, hslash, hdot]
  · rw [h.slashPieces_text hne] at hpieces
    constructor
    · intro hc
      obtain ⟨n, hn, hmem⟩ := hpieces.2 ⟨hc, hslash⟩
      rcases List.mem_append.1 hn with hn | hn
      · obtain ⟨_, -, rfl⟩ := List.mem_map.1 hn
        simp at hmem
      · exact ⟨n, hn, hmem⟩
    · rintro ⟨n, hn, hc⟩
      exact (hpieces.1 ⟨n, List.mem_append_right _ hn, hc⟩).1

theorem mem_text_ofText_iff {t : Text} {c : Char} (hslash : c ≠ '/') (hdot : c ≠ '.') :
    c ∈ (ofText t).text ↔ c ∈ t := by
  rw [(regular_ofText t).mem_text_iff hslash hdot]
  have hpieces := exists_mem_slashPieces_iff (t := t) (c := c)
  constructor
  · rintro ⟨n, hn, hc⟩
    exact (hpieces.1 ⟨n, (List.mem_filter.1 hn).1, hc⟩).1
  · intro hc
    obtain ⟨n, hn, hmem⟩ := hpieces.2 ⟨hc, hslash⟩
    refine ⟨n, List.mem_filter.2 ⟨hn, ?_⟩, hmem⟩
    have hne : n ≠ [] := by
      rintro rfl
      simp at hmem
    have hhere : n ≠ hereName := by
      rintro rfl
      exact hdot (List.mem_singleton.1 hmem)
    simp [Path.isStep, hne, hhere]

end

end Path

/-! ## Following names -/

namespace FileTree

variable {t : FileTree} {l k : Location}

theorem step_eq_ok_iff {name : Text} :
    t.step l name = .ok k ↔ t.node? l = some .directory ∧ k = l.enter name := by
  unfold step
  split
  · next h => simp [h]
  · next h => simp [h]
  · next h => simp [h, eq_comm]

theorem step_eq_error_iff {name : Text} {f : Fault} :
    t.step l name = .error f ↔
      t.node? l = none ∧ f = .missing ∨
        (∃ mode content, t.node? l = some (.file mode content)) ∧ f = .notDirectory := by
  unfold step
  cases h : t.node? l with
  | none => simp [eq_comm]
  | some n => cases n <;> simp [eq_comm]

theorem follow_cons_of_error {name : Text} {names : List Text} {f : Fault}
    (h : t.step l name = .error f) : t.follow l (name :: names) = .error f := by
  simp only [follow, List.foldlM_cons, h, bind, Except.bind]

theorem follow_cons_of_ok {name : Text} {names : List Text} {k : Location}
    (h : t.step l name = .ok k) : t.follow l (name :: names) = t.follow k names := by
  simp only [follow, List.foldlM_cons, h, bind, Except.bind]

theorem follow_cons_iff {name : Text} {names : List Text} :
    t.follow l (name :: names) = .ok k ↔
      t.node? l = some .directory ∧ t.follow (l.enter name) names = .ok k := by
  rw [follow, List.foldlM_cons, bind_eq_ok_iff]
  constructor
  · rintro ⟨m, hstep, hrest⟩
    obtain ⟨hd, rfl⟩ := step_eq_ok_iff.1 hstep
    exact ⟨hd, hrest⟩
  · rintro ⟨hd, hrest⟩
    exact ⟨l.enter name, step_eq_ok_iff.2 ⟨hd, rfl⟩, hrest⟩

theorem follow_append_iff {a b : List Text} :
    t.follow l (a ++ b) = .ok k ↔ ∃ m, t.follow l a = .ok m ∧ t.follow m b = .ok k := by
  rw [follow, List.foldlM_append, bind_eq_ok_iff]
  rfl

/-- Names that are followed lead where they lead without a look at the tree. -/
theorem eq_foldl_of_follow {names : List Text} (h : t.follow l names = .ok k) :
    k = names.foldl Location.enter l := by
  induction names generalizing l with
  | nil => exact (Except.ok.inj h).symm
  | cons name names ih => exact ih (follow_cons_iff.1 h).2

end FileTree

/-! ## Where paths lead -/

theorem Location.foldl_enter_filter (names : List Text) (l : Location) :
    (names.filter Path.isStep).foldl Location.enter l = names.foldl Location.enter l := by
  induction names generalizing l with
  | nil => rfl
  | cons name names ih =>
    by_cases hstep : Path.isStep name = true
    · rw [List.filter_cons_of_pos hstep, List.foldl_cons, List.foldl_cons, ih]
    · have hstays : l.enter name = l := by simp [Location.enter, hstep]
      rw [List.filter_cons_of_neg hstep, List.foldl_cons, ih, hstays]

theorem Location.enter_of_isStep {name : Text} (hstep : Path.isStep name = true)
    (hparent : name ≠ parentName) (l : Location) : l.enter name = name :: l := by
  simp [Location.enter, hstep, hparent]

namespace Disk

variable {d : Disk} {p : Path} {t : Text} {l : Location}

/-- The location from which the names of a path are followed. -/
def startOf (d : Disk) (p : Path) : Location := if p.root = [] then d.here else []

/-- The names of the path lead to the location. -/
def Leads (d : Disk) (p : Path) (l : Location) : Prop :=
  d.tree.follow (d.startOf p) p.names = .ok l

theorem start_eq (d : Disk) (t : Text) : d.start t = d.startOf (.ofText t) := by
  have hroot := Path.rootOf_eq_nil_iff (t := t)
  by_cases h : t.head? = some '/'
  · have hne : (Path.ofText t).root ≠ [] := fun hnil => hroot.1 hnil h
    simp [start, startOf, h, hne]
  · have hnil : (Path.ofText t).root = [] := hroot.2 h
    simp [start, startOf, h, hnil]

theorem resolve_eq (d : Disk) (t : Text) :
    d.resolve t = (Path.ofText t).names.foldl Location.enter (d.startOf (.ofText t)) := by
  rw [resolve, start_eq]
  exact (Location.foldl_enter_filter _ _).symm

theorem resolve_text (d : Disk) (h : p.Regular) :
    d.resolve p.text = p.names.foldl Location.enter (d.startOf p) := by
  rw [resolve_eq, h.ofText_text]

/-- A path and its spelling have the same location. -/
theorem resolve_spelled (d : Disk) (t : Text) : d.resolve (spelled t) = d.resolve t := by
  rw [spelled, resolve_text d (Path.regular_ofText t), resolve_eq]

theorem locate_eq_ok_iff :
    d.locate t = .ok l ↔
      '\x00' ∉ t ∧ t ≠ [] ∧ d.tree.follow (d.start t) (slashPieces t) = .ok l := by
  unfold locate
  split
  · next h =>
    have hmem : '\x00' ∈ t := by simpa using h
    simp [hmem]
  · next h =>
    have hnull : '\x00' ∉ t := by simpa using h
    split
    · next he => simp [List.isEmpty_iff.1 he]
    · next he =>
      have hne : t ≠ [] := fun hnil => he (by simp [hnil])
      split
      · next hf => simp [hnull, hne, hf]
      · next hf => simp [hf]

/-- Where a path leads is where it leads without a look at the tree. -/
theorem resolve_of_locate (h : d.locate t = .ok l) : d.resolve t = l :=
  (FileTree.eq_foldl_of_follow (locate_eq_ok_iff.1 h).2.2).symm

/-- Only the null character makes a path name no place at all. -/
theorem exists_fault_of_locate (h : '\x00' ∉ t) {e : DiskError} (he : d.locate t = .error e) :
    ∃ fault path, e = .at fault path := by
  have hcontains : t.contains '\x00' = false := by simpa using h
  unfold locate at he
  rw [hcontains] at he
  split at he
  · simp_all
  · split at he
    · exact ⟨_, _, (Except.error.inj he).symm⟩
    · split at he
      · cases he
      · exact ⟨_, _, (Except.error.inj he).symm⟩

theorem start_text (d : Disk) (h : p.Regular) : d.start p.text = d.startOf p := by
  rw [start_eq, h.ofText_text]

/-- The text of a regular path is followed to where its names lead. -/
theorem locate_text_iff (h : p.Regular) (hnull : '\x00' ∉ p.text) (hne : p.names ≠ []) :
    d.locate p.text = .ok l ↔ d.Leads p l := by
  have htext : p.text ≠ [] := by
    rw [Path.text_of_names hne]
    obtain ⟨n, names, hn⟩ := List.exists_cons_of_ne_nil hne
    obtain ⟨r, hr⟩ := exists_join_cons ['/'] n names
    have hfirst : n ≠ [] := h.ne_nil (by simp [hn])
    simp [hn, hr, hfirst]
  rw [locate_eq_ok_iff, start_text d h, h.slashPieces_text hne, Leads]
  simp only [hnull, not_false_eq_true, htext, ne_eq, true_and]
  -- The empty pieces of the root lead from the root to itself.
  rcases h.root with hr | hr | hr
  · simp [hr]
  · simp [hr, startOf, FileTree.follow_cons_iff, FileTree.node?, Location.enter, Path.isStep]
  · simp [hr, startOf, FileTree.follow_cons_iff, FileTree.node?, Location.enter, Path.isStep]

theorem node?_eq_some_iff {n : Node} :
    d.node? t = some n ↔ ∃ l, d.locate t = .ok l ∧ d.tree.node? l = some n := by
  unfold node?
  cases h : d.locate t <;> simp

/-- The text of a path without names is followed to its start, which has to be a
directory. -/
theorem locate_text_of_no_names (h : p.Regular) (hnull : '\x00' ∉ p.text) (hnil : p.names = []) :
    d.locate p.text = .ok l ↔
      d.tree.node? (d.startOf p) = some .directory ∧ d.startOf p = l := by
  obtain ⟨root, names⟩ := p
  obtain rfl : names = [] := hnil
  -- The name that stands for the place itself leads nowhere else, and neither does none.
  have hhere : ∀ l, Location.enter l hereName = l := fun _ => rfl
  have hempty : ∀ l, Location.enter l [] = l := fun _ => rfl
  have hend : ∀ k : Location, d.tree.follow k [] = .ok l ↔ k = l := fun k =>
    ⟨Except.ok.inj, fun hk => hk ▸ rfl⟩
  have htext : Path.text ⟨root, []⟩ ≠ [] := by
    rcases h.root with hr | hr | hr <;> simp only at hr <;> subst hr <;> decide
  rw [locate_eq_ok_iff, start_text d h]
  simp only [hnull, not_false_eq_true, htext, ne_eq, true_and]
  rcases h.root with hr | hr | hr <;> simp only at hr <;> subst hr
  · rw [show slashPieces (Path.text ⟨[], []⟩) = [hereName] from rfl, FileTree.follow_cons_iff,
      hhere, hend]
  · rw [show slashPieces (Path.text ⟨['/'], []⟩) = [[], []] from rfl]
    simp [FileTree.follow_cons_iff, hempty, hend, startOf, FileTree.node?]
  · rw [show slashPieces (Path.text ⟨['/', '/'], []⟩) = [[], [], []] from rfl]
    simp [FileTree.follow_cons_iff, hempty, hend, startOf, FileTree.node?]

/-- The text of a regular path is followed to a directory exactly if the names lead to one. -/
theorem locate_directory_iff (h : p.Regular) (hnull : '\x00' ∉ p.text) :
    d.locate p.text = .ok l ∧ d.tree.node? l = some .directory ↔
      d.Leads p l ∧ d.tree.node? l = some .directory := by
  by_cases hne : p.names = []
  · have hleads : d.Leads p l ↔ d.startOf p = l := by
      rw [Leads, hne]
      exact ⟨Except.ok.inj, fun hk => hk ▸ rfl⟩
    rw [locate_text_of_no_names h hnull hne, hleads]
    constructor
    · rintro ⟨⟨-, rfl⟩, hl⟩
      exact ⟨rfl, hl⟩
    · rintro ⟨rfl, hl⟩
      exact ⟨⟨hl, rfl⟩, hl⟩
  · rw [locate_text_iff h hnull hne]

theorem holdsDirectory_text_iff (h : p.Regular) (hnull : '\x00' ∉ p.text) :
    d.holdsDirectory p.text = true ↔ ∃ l, d.Leads p l ∧ d.tree.node? l = some .directory := by
  rw [holdsDirectory, decide_eq_true_iff, node?_eq_some_iff]
  simp only [locate_directory_iff h hnull]

/-- A path leads on from where its parent leads, which has to be a directory. -/
theorem leads_iff_parent (hne : p.names ≠ []) :
    d.Leads p l ↔
      ∃ k, d.Leads p.parent k ∧ d.tree.node? k = some .directory ∧ l = k.enter p.name := by
  have hend : ∀ k : Location, d.tree.follow k [] = .ok l ↔ l = k := fun k =>
    ⟨fun hk => (Except.ok.inj hk).symm, fun hk => hk ▸ rfl⟩
  unfold Leads
  rw [Path.name_of_names hne, FileTree.follow_append_iff]
  simp only [FileTree.follow_cons_iff, hend]
  rfl

end Disk

/-! ## Files put into the tree -/

namespace FileTree

variable {t : FileTree} {l k : Location}

theorem node?_insert (hk : k ≠ []) (n : Node) (l : Location) :
    FileTree.node? (t.insert k n) l = if k = l then some n else t.node? l := by
  cases l with
  | nil => rw [if_neg hk]; rfl
  | cons name l => exact OrderedMap.lookup_insert t k n (name :: l)

/-- No path leads through a file, so none leads elsewhere when a file is put where no
directory is. -/
theorem follow_insert_file_iff (hk : t.node? k ≠ some .directory) {mode : Nat}
    {content : Octets} {names : List Text} {j : Location} :
    FileTree.follow (t.insert k (.file mode content)) l names = .ok j ↔
      t.follow l names = .ok j := by
  have hroot : k ≠ [] := by
    rintro rfl
    exact hk rfl
  induction names generalizing l with
  | nil => exact Iff.rfl
  | cons name names ih =>
    rw [follow_cons_iff, follow_cons_iff, node?_insert hroot]
    split
    · next h =>
      subst h
      simp [hk]
    · exact and_congr_right fun _ => ih

end FileTree

namespace Disk

variable {d : Disk} {p : Path} {t : Text} {l k : Location} {mode : Nat} {content : Octets}

theorem node?_put (hk : k ≠ []) (n : Node) (l : Location) :
    (d.put k n).tree.node? l = if k = l then some n else d.tree.node? l :=
  FileTree.node?_insert hk n l

theorem locate_put_file_iff (hk : d.tree.node? k ≠ some .directory) :
    (d.put k (.file mode content)).locate t = .ok l ↔ d.locate t = .ok l := by
  rw [locate_eq_ok_iff, locate_eq_ok_iff]
  exact and_congr_right fun _ => and_congr_right fun _ => FileTree.follow_insert_file_iff hk

/-! ## Reading -/

theorem read_of_locate_error {e : DiskError} (h : d.locate t = .error e) :
    d.read t = .error e := by
  simp only [read, h, bind, Except.bind]

theorem read_of_locate_ok (h : d.locate t = .ok l) :
    d.read t =
      match d.tree.node? l with
      | none => .error (.at .missing t)
      | some .directory => .error (.at .isDirectory t)
      | some (.file _ content) => .ok content := by
  simp only [read, h, bind, Except.bind]
  cases d.tree.node? l with
  | none => rfl
  | some n => cases n <;> rfl

/-- Of a path the content of the file is read to which it leads. -/
theorem read_eq_ok_iff :
    d.read t = .ok content ↔ ∃ mode, d.node? t = some (.file mode content) := by
  cases h : d.locate t with
  | error e => simp [read_of_locate_error h, node?, h]
  | ok l =>
    rw [read_of_locate_ok h]
    cases hn : d.tree.node? l with
    | none => simp [node?, h, hn]
    | some n => cases n <;> simp [node?, h, hn]

end Disk

end HeaderBridge
