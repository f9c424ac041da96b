import HeaderBridge.FileRun
import HeaderBridge.Proofs.DiskChanges

/-!
# Files of lines

A file in which every line is ended alike, by a line feed, a carriage return or one after the
other, is read as its lines (`Text.fileLines_endedBy`), as long as no line holds a line break
(`Text.Unbroken`). The lines of a header are written to two files, and the second one does not
disturb the first : whatever stands elsewhere is kept, with the directories on the way to it
(`Disk.ChangesOnly.path_node?`). So what is written there is what is read
(`Disk.readLines_roundTrip`).
-/

namespace HeaderBridge

/-! ## Line endings -/

namespace Text

/-- The characters at which lines end. -/
def lineBreaks : List Char :=
  ['\n', '\x0b', '\x0c', '\r', '\x1c', '\x1d', '\x1e', '\u0085', '\u2028', '\u2029']

theorem isLineBreak_iff {c : Char} : isLineBreak c = true ↔ c ∈ lineBreaks := by
  have hcodes : c ∈ lineBreaks ↔
      c.toNat ∈ [10, 11, 12, 13, 28, 29, 30, 0x85, 0x2028, 0x2029] := by
    simp only [lineBreaks, List.mem_cons, List.not_mem_nil, or_false, ← Char.toNat_inj]
    rfl
  rw [hcodes]
  simp only [isLineBreak, List.mem_cons, List.not_mem_nil, or_false, Bool.or_eq_true,
    Bool.and_eq_true, decide_eq_true_eq, beq_iff_eq]
  omega

/-- No line ends within the text. -/
def Unbroken (t : Text) : Prop := ∀ c ∈ lineBreaks, c ∉ t

theorem Unbroken.not_isLineBreak {t : Text} (h : Unbroken t) : ∀ c ∈ t, isLineBreak c = false := by
  intro c hc
  rw [← Bool.not_eq_true]
  exact fun hbreak => h c (isLineBreak_iff.1 hbreak) hc

end Text

/-- What stands behind every line of a file. -/
inductive LineEnding where
  | lineFeed
  | carriageReturn
  | both
  deriving DecidableEq, Repr

/-- The line ending as text. -/
def LineEnding.text : LineEnding → Text
  | .lineFeed => ['\n']
  | .carriageReturn => ['\r']
  | .both => ['\r', '\n']

namespace Text

/-- Each text followed by the line ending. -/
def endedBy (e : LineEnding) (ls : List Text) : Text := ls.flatMap (· ++ e.text)

theorem endedBy_cons (e : LineEnding) (l : Text) (ls : List Text) :
    endedBy e (l :: ls) = l ++ (e.text ++ endedBy e ls) := by
  simp [endedBy]

theorem endedBy_lineFeed (ls : List Text) : endedBy .lineFeed ls = unlines ls := rfl

theorem normalizeNewlines_cons {c : Char} (hc : c ≠ '\r') (t : Text) :
    normalizeNewlines (c :: t) = c :: normalizeNewlines t := by
  rw [normalizeNewlines, if_neg hc]
  exact fun _ h => absurd h hc

theorem normalizeNewlines_return {t : Text} (ht : t.head? ≠ some '\n') :
    normalizeNewlines ('\r' :: t) = '\n' :: normalizeNewlines t := by
  rw [normalizeNewlines, if_pos rfl]
  rintro u - rfl
  exact ht rfl

/-- A text without carriage returns is kept. -/
theorem normalizeNewlines_append {l : Text} (h : '\r' ∉ l) (t : Text) :
    normalizeNewlines (l ++ t) = l ++ normalizeNewlines t := by
  induction l with
  | nil => rfl
  | cons c l ih =>
    simp only [List.mem_cons, not_or] at h
    rw [List.cons_append, normalizeNewlines_cons (Ne.symm h.1), ih h.2, List.cons_append]

/-- Lines that are ended by carriage returns begin with no line feed. -/
theorem head?_endedBy {ls : List Text} (h : ∀ l ∈ ls, Unbroken l) :
    (endedBy .carriageReturn ls).head? ≠ some '\n' := by
  cases ls with
  | nil => simp [endedBy]
  | cons l ls =>
    rw [endedBy_cons]
    cases l with
    | nil => simp [LineEnding.text]
    | cons c l =>
      have hc : '\n' ∉ c :: l := h (c :: l) (by simp) '\n' (by decide)
      simp only [List.mem_cons, not_or] at hc
      simpa using Ne.symm hc.1

theorem normalizeNewlines_endedBy (e : LineEnding) {ls : List Text} (h : ∀ l ∈ ls, Unbroken l) :
    normalizeNewlines (endedBy e ls) = unlines ls := by
  induction ls with
  | nil => rfl
  | cons l ls ih =>
    have hreturn : '\r' ∉ l := h l (by simp) '\r' (by decide)
    have hrest : ∀ l ∈ ls, Unbroken l := fun m hm => h m (List.mem_cons_of_mem l hm)
    have hending : normalizeNewlines (e.text ++ endedBy e ls) = '\n' :: unlines ls := by
      rw [← ih hrest]
      cases e with
      | lineFeed => exact normalizeNewlines_cons (by decide) _
      | carriageReturn => exact normalizeNewlines_return (head?_endedBy hrest)
      | both => rfl
    rw [endedBy_cons, normalizeNewlines_append hreturn, hending, ← endedBy_lineFeed,
      ← endedBy_lineFeed, endedBy_cons]
    rfl

/-- Lines that are all ended alike are read back. -/
theorem fileLines_endedBy (e : LineEnding) {ls : List Text} (h : ∀ l ∈ ls, Unbroken l) :
    fileLines (endedBy e ls) = ls := by
  rw [fileLines, normalizeNewlines_endedBy e h]
  exact splitLines_unlines fun l hl => (h l hl).not_isLineBreak

end Text

/-! ## What is kept -/

namespace FileTree

variable {t t' : FileTree} {l k : Location}

/-- Where all directories are kept, names lead where they led. -/
theorem follow_of_directories
    (h : ∀ l, t.node? l = some .directory → t'.node? l = some .directory) {names : List Text}
    (hl : t.follow l names = .ok k) : t'.follow l names = .ok k := by
  induction names generalizing l with
  | nil => exact hl
  | cons name names ih =>
    rw [follow_cons_iff] at hl ⊢
    exact ⟨h l hl.1, ih hl.2⟩

end FileTree

namespace Disk

open Text

variable {d d' : Disk} {path : Text} {l : Location} {n : Node} {content : Octets}

section

variable {files ways : Location → Prop} (h : ChangesOnly files ways d d')
include h

/-- What stands at any other location than those of the files is kept. -/
theorem ChangesOnly.node?_of_some (hn : d.tree.node? l = some n) (hfile : ¬ files l) :
    d'.tree.node? l = some n := by
  rcases h.node? l with hsame | hf | ⟨-, hnone, -⟩
  · exact hsame.trans hn
  · exact absurd hf hfile
  · simp [hn] at hnone

/-- If no directory gives way to a file, paths to other locations lead there still. -/
theorem ChangesOnly.path_node? (hfiles : ∀ l, files l → d.tree.node? l ≠ some .directory)
    (hn : d.node? path = some n) (hpath : ¬ files (d.resolve path)) : d'.node? path = some n := by
  obtain ⟨l, hl, hnode⟩ := node?_eq_some_iff.1 hn
  obtain rfl := resolve_of_locate hl
  have hdirectories : ∀ l, d.tree.node? l = some .directory → d'.tree.node? l = some .directory :=
    fun l hdir => h.node?_of_some hdir fun hf => hfiles l hf hdir
  have hstart : d'.start path = d.start path := by simp only [start, h.here]
  rw [locate_eq_ok_iff] at hl
  refine node?_eq_some_iff.2 ⟨d.resolve path, locate_eq_ok_iff.2 ⟨hl.1, hl.2.1, ?_⟩,
    h.node?_of_some hnode hpath⟩
  rw [hstart]
  exact FileTree.follow_of_directories hdirectories hl.2.2

end

/-! ## Writing -/

/-- What is written is at the path, where no directory was. -/
theorem write_eq_ok (h : d.write path content = .ok d') :
    d.tree.node? (d.resolve path) ≠ some .directory ∧
      ∃ mode, d'.node? path = some (.file mode content) := by
  obtain ⟨hlocate, hdir, mode, rfl⟩ := exists_put_of_write h
  refine ⟨hdir, mode, node?_eq_some_iff.2 ⟨_, (locate_put_file_iff hdir).2 hlocate, ?_⟩⟩
  rw [node?_put (ne_nil_of_node? hdir), if_pos rfl]

theorem attempt_eq_none {change : Disk → Except DiskError Disk}
    (h : d.attempt change = (d', none)) : change d = .ok d' := by
  unfold attempt at h
  cases hc : change d <;> simp_all

theorem writeLines_eq_none {lines : List Text} (h : d.writeLines path lines = (d', none)) :
    d.tree.node? (d.resolve path) ≠ some .directory ∧
      ∃ mode, d'.node? (spelled path) = some (.file mode (encodeUtf8 (unlines lines))) := by
  have hmade : ChangesOnly (fun _ => False) (fun _ => True) d (ensureDirectories
      (Path.ofText path).parent.root (Path.ofText path).parent.names.reverse d).1 :=
    ensureDirectories_changesOnly
      (by rw [List.reverse_reverse]; exact (Path.regular_ofText path).parent) fun _ _ => trivial
  simp only [writeLines] at h
  split at h
  · cases h
  · next d₁ hd₁ =>
    rw [hd₁] at hmade
    obtain ⟨hdir, hfile⟩ := write_eq_ok (attempt_eq_none h)
    rw [resolve_spelled, resolve_congr hmade.here] at hdir
    exact ⟨fun hn => hdir (hmade.node?_of_some hn id), hfile⟩

/-- What is written to two files stands in both of them. -/
theorem writeExtraction_eq_none {e : Extraction} {functions typedefs : Text}
    (hne : d.resolve functions ≠ d.resolve typedefs)
    (h : d.writeExtraction e functions typedefs = (d', none)) :
    (∃ mode, d'.node? (spelled functions) = some (.file mode (encodeUtf8 (unlines e.functions)))) ∧
      ∃ mode, d'.node? (spelled typedefs) =
        some (.file mode (encodeUtf8 (unlines e.typedefs))) := by
  have hfirst : ChangesOnly (fun l => l = d.resolve functions) (fun _ => True) d
      (d.writeLines functions e.functions).1 :=
    writeLines_changesOnly _ rfl fun _ _ => trivial
  unfold writeExtraction at h
  split at h
  · cases h
  · next d₁ hd₁ =>
    rw [hd₁] at hfirst
    obtain ⟨-, mode, hfunctions⟩ := writeLines_eq_none hd₁
    obtain ⟨hdir, htypedefs⟩ := writeLines_eq_none h
    have hsecond : ChangesOnly (fun l => l = d₁.resolve typedefs) (fun _ => True) d₁
        (d₁.writeLines typedefs e.typedefs).1 :=
      writeLines_changesOnly _ rfl fun _ _ => trivial
    rw [h] at hsecond
    refine ⟨⟨mode, hsecond.path_node? ?_ hfunctions ?_⟩, htypedefs⟩
    · rintro l rfl
      exact hdir
    · rwa [resolve_spelled, resolve_congr hfirst.here, resolve_congr hfirst.here]

/-! ## Reading -/

/-- A file whose lines are all ended alike has these lines. -/
theorem readLines_endedBy {mode : Nat} {e : LineEnding} {ls : List Text}
    (h : ∀ l ∈ ls, Unbroken l)
    (hfile : d.node? (spelled path) = some (.file mode (encodeUtf8 (endedBy e ls)))) :
    d.readLines path = .ok (ls, []) := by
  simp only [readLines, read_eq_ok_iff.2 ⟨mode, hfile⟩, decodeUtf8_encodeUtf8,
    fileLines_endedBy e h]

end Disk

open Text

/-- An extraction that does not fail has written its lines. -/
theorem writeExtraction_of_extractTo {p : HeaderParser} {d : Disk} {includes : List Text}
    {header functions typedefs : Text} {e : Extraction}
    (h : (extractTo p d includes header functions typedefs).1.result = .ok e) :
    d.writeExtraction e functions typedefs =
      ((extractTo p d includes header functions typedefs).2, none) := by
  simp only [extractTo] at h ⊢
  split at h
  · next hr => simp [hr] at h
  · next e' hr =>
    split at h
    · cases h
    · next d' hwritten =>
      obtain rfl : e' = e := Except.ok.inj (hr.symm.trans h)
      simp only [hwritten]

instance (t : Text) : Decidable t.Unbroken :=
  decidable_of_iff (lineBreaks.all (· ∉ t) = true) (by simp [Unbroken])

namespace Disk

/-- Lines without breaks are what is read of the two files to which they are written, be they any
lines or those of a header. So it is with any file whose lines are all ended alike. -/
theorem readLines_roundTrip :
    (∀ (d d' : Disk) (e : Extraction) (functions typedefs : Text),
      (∀ l ∈ e.functions ++ e.typedefs, Unbroken l) →
      d.resolve functions ≠ d.resolve typedefs →
      d.writeExtraction e functions typedefs = (d', none) →
      d'.readLines functions = .ok (e.functions, []) ∧
        d'.readLines typedefs = .ok (e.typedefs, [])) ∧
    (∀ (p : HeaderParser) (d : Disk) (includes : List Text) (header functions typedefs : Text)
      (e : Extraction), (∀ l ∈ e.functions ++ e.typedefs, Unbroken l) →
      d.resolve functions ≠ d.resolve typedefs →
      (extractTo p d includes header functions typedefs).1.result = .ok e →
      (extractTo p d includes header functions typedefs).2.readLines functions =
          .ok (e.functions, []) ∧
        (extractTo p d includes header functions typedefs).2.readLines typedefs =
          .ok (e.typedefs, [])) ∧
    ∀ (d : Disk) (path : Text) (mode : Nat) (ending : LineEnding) (lines : List Text),
      (∀ l ∈ lines, Unbroken l) →
      d.node? (spelled path) = some (.file mode (encodeUtf8 (endedBy ending lines))) →
      d.readLines path = .ok (lines, []) := by
  have hwritten : ∀ (d d' : Disk) (e : Extraction) (functions typedefs : Text),
      (∀ l ∈ e.functions ++ e.typedefs, Unbroken l) →
      d.resolve functions ≠ d.resolve typedefs →
      d.writeExtraction e functions typedefs = (d', none) →
      d'.readLines functions = .ok (e.functions, []) ∧
        d'.readLines typedefs = .ok (e.typedefs, []) := by
    intro d d' e functions typedefs hlines hne hwrite
    obtain ⟨⟨_, hfunctions⟩, _, htypedefs⟩ := writeExtraction_eq_none hne hwrite
    rw [← endedBy_lineFeed] at hfunctions htypedefs
    exact ⟨readLines_endedBy (fun l hl => hlines l (List.mem_append_left _ hl)) hfunctions,
      readLines_endedBy (fun l hl => hlines l (List.mem_append_right _ hl)) htypedefs⟩
  refine ⟨hwritten, ?_, fun d path mode ending lines hlines hfile => readLines_endedBy hlines hfile⟩
  intro p d includes header functions typedefs e hlines hne hresult
  exact hwritten d _ e functions typedefs hlines hne (writeExtraction_of_extractTo hresult)

/-- Two declarations with an empty line between them, and no typedef. -/
def sampleLines : Extraction where
  functions := ["int f(int x);".toList, [], "void g(void);".toList]

theorem readLines_roundTrip_sample :
    let empty : Disk := { tree := [] }
    let written := empty.writeExtraction sampleLines "tmp/f.h".toList "tmp/t.h".toList
    let withReturns : Disk :=
      { tree := [(["f.h".toList],
          .file 0o644 (encodeUtf8 (endedBy .carriageReturn sampleLines.functions)))] }
    (∀ l ∈ sampleLines.functions ++ sampleLines.typedefs, Unbroken l) ∧
      empty.resolve "tmp/f.h".toList ≠ empty.resolve "tmp/t.h".toList ∧ written.2 = none ∧
      written.1.readLines "tmp/f.h".toList = .ok (sampleLines.functions, []) ∧
      written.1.readLines "tmp/t.h".toList = .ok ([], []) ∧
      withReturns.readLines "f.h".toList = .ok (sampleLines.functions, []) := by
  intro empty written withReturns
  have hlines : ∀ l ∈ sampleLines.functions ++ sampleLines.typedefs, Unbroken l := by decide
  have hne : empty.resolve "tmp/f.h".toList ≠ empty.resolve "tmp/t.h".toList := by decide
  have hnone : written.2 = none := by decide +kernel
  obtain ⟨hwritten, -, hfile⟩ := readLines_roundTrip
  obtain ⟨hfunctions, htypedefs⟩ := hwritten empty written.1 sampleLines _ _ hlines hne
    (Prod.ext rfl hnone)
  exact ⟨hlines, hne, hnone, hfunctions, htypedefs,
    hfile withReturns _ 0o644 .carriageReturn _ (by decide) (by decide +kernel)⟩

end Disk

end HeaderBridge
