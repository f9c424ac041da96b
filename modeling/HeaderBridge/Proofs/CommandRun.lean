import HeaderBridge.CommandLine
import HeaderBridge.Proofs.AtomicOutput
import HeaderBridge.Proofs.DiskChanges

/-!
# The command and its output

A run of the command reads a configuration, extracts lines if a header is given, and
generates the class. Only the last step touches the output, and it does so only as it
succeeds : the extraction changes the files of the functions and typedefs and makes
directories (`Configuration.prepared_changesOnly`), and the generation either changes
nothing or puts the class at the output's place (`CommandRun.generate_cases`).

`command_output` states both for a run of the whole command, `Configuration.Respected`
being what is said of a run with a configuration in effect.
-/

namespace HeaderBridge

/-! ## The configuration in effect -/

/-- The arguments ask for a run with the configuration : values that they give come before
those of the configuration file, if they name one, and those before the defaults. -/
def InEffect (args : List Text) (d : Disk) (c : Configuration) : Prop :=
  ∃ (a : Arguments) (named : Configuration), readArguments args = .ok (.run a) ∧
    (if a.config = [] then named = {} else d.configuration a.config = .ok named) ∧
    c.settings = named.settings ∧
    c.paths.functions = orElse a.functions named.paths.functions ∧
    c.paths.typedefs = orElse a.typedefs named.paths.typedefs ∧
    c.paths.output = orElse a.output named.paths.output ∧
    c.header = (if a.header = [] then named.header else some a.header) ∧
    c.includes = named.includes ++ a.includes

theorem Arguments.configuration_eq_ok_iff {a : Arguments} {d : Disk} {named : Configuration} :
    a.configuration d = .ok named ↔
      if a.config = [] then named = {} else d.configuration a.config = .ok named := by
  unfold Arguments.configuration
  by_cases h : a.config = []
  · simp [h, eq_comm]
  · simp [h]

theorem inEffect_iff {args : List Text} {d : Disk} {c : Configuration} :
    InEffect args d c ↔
      ∃ a named, readArguments args = .ok (.run a) ∧ a.configuration d = .ok named ∧
        c = a.override named := by
  unfold InEffect
  simp only [← Arguments.configuration_eq_ok_iff]
  refine exists_congr fun a => exists_congr fun named => and_congr_right fun _ =>
    and_congr_right fun _ => ?_
  constructor
  · rintro ⟨hsettings, hfunctions, htypedefs, houtput, hheader, hincludes⟩
    obtain ⟨settings, ⟨functions, typedefs, output⟩, header, includes⟩ := c
    simp only at hsettings hfunctions htypedefs houtput hheader hincludes
    subst hsettings hfunctions htypedefs houtput hheader hincludes
    simp [Arguments.override]
  · rintro rfl
    simp [Arguments.override]

/-! ## What a run reads and where it writes -/

/-- The lines of the file to which the path leads, none if it cannot be read. -/
def Disk.linesAt (d : Disk) (path : Text) : List Text :=
  match d.read (spelled path) with
  | .error _ => []
  | .ok octets =>
    match decodeUtf8 octets with
    | .error _ => []
    | .ok t => t.fileLines

namespace Configuration

/-- The disk after the extraction from the header, if there is one. -/
def prepared (c : Configuration) (p : HeaderParser) (d : Disk) : Disk :=
  match c.header with
  | none => d
  | some [] => d
  | some header => (extractTo p d c.includes header c.paths.functions c.paths.typedefs).2

/-- There is a header, and there are no lines of it. -/
def ExtractionFails (c : Configuration) (p : HeaderParser) (d : Disk) : Prop :=
  ∃ header e, header ≠ [] ∧ c.header = some header ∧
    (extract p d c.includes header).result = .error e

/-- The class of the lines that stand on the disk. -/
def outputOn (c : Configuration) (d : Disk) : Text :=
  (c.settings.generate (d.linesAt c.paths.typedefs) (d.linesAt c.paths.functions)).output

/-- The location of the output. -/
def place (c : Configuration) (d : Disk) : Location := d.resolve c.paths.output

variable {c : Configuration} {p : HeaderParser} {d : Disk}

theorem prepared_of_header {header : Text} (h : c.header = some header) (hne : header ≠ []) :
    c.prepared p d =
      (extractTo p d c.includes header c.paths.functions c.paths.typedefs).2 := by
  cases header with
  | nil => exact absurd rfl hne
  | cons => simp [prepared, h]

/-- Before the generation only the functions and the typedefs are written. -/
theorem prepared_changesOnly (c : Configuration) (p : HeaderParser) (d : Disk) :
    Disk.ChangesOnly
      (fun l => l = d.resolve c.paths.functions ∨ l = d.resolve c.paths.typedefs)
      (fun l => d.Passes (.ofText c.paths.functions) l ∨ d.Passes (.ofText c.paths.typedefs) l)
      d (c.prepared p d) := by
  unfold prepared
  split
  · exact .refl d
  · exact .refl d
  · exact extractTo_changesOnly p d c.includes _ _ _

theorem ExtractionFails.prepared_eq (h : c.ExtractionFails p d) : c.prepared p d = d := by
  obtain ⟨header, e, hne, hheader, he⟩ := h
  rw [prepared_of_header hheader hne]
  simp only [extractTo, he]

end Configuration

/-! ## The steps of a run -/

namespace CommandRun

variable {r : CommandRun} {c : Configuration} {p : HeaderParser}

theorem extract_disk (r : CommandRun) (p : HeaderParser) (c : Configuration) :
    (r.extract p c).1.disk = c.prepared p r.disk := by
  unfold CommandRun.extract
  split
  · next h => simp [Configuration.prepared, h]
  · next h => simp [Configuration.prepared, h]
  · next hne h =>
    rw [Configuration.prepared_of_header h hne]
    simp only
    split <;> rfl

/-- A run that stops with the extraction has not succeeded. -/
theorem outcome_of_extract (h : (r.extract p c).2 = false) :
    (r.extract p c).1.outcome ≠ .status 0 := by
  unfold CommandRun.extract at h ⊢
  split at h
  · cases h
  · cases h
  · simp only at h ⊢
    split at h
    · cases h
    · simp
    · simp

theorem extract_of_extractionFails (h : c.ExtractionFails p r.disk) :
    (r.extract p c).2 = false := by
  obtain ⟨header, e, hne, hheader, he⟩ := h
  unfold CommandRun.extract
  rw [hheader]
  split
  · next hsome => cases hsome
  · next hsome => exact absurd (Option.some.inj hsome) hne
  · next hsome =>
    obtain rfl := Option.some.inj hsome
    simp only [extractTo, he]
    split
    · next hok => cases hok
    · rfl
    · rfl

end CommandRun

theorem Disk.eq_linesAt_of_readLines {d : Disk} {path : Text} {lines : List Text}
    {reports : Diagnostics} (h : d.readLines path = .ok (lines, reports)) :
    lines = d.linesAt path := by
  unfold Disk.readLines at h
  unfold Disk.linesAt
  cases hread : d.read (spelled path) with
  | error e => cases e <;> simp_all
  | ok octets => cases hdecode : decodeUtf8 octets <;> simp_all

theorem Settings.exists_writeOutput_of_generateFiles {s : Settings} {paths : FilePaths}
    {drawn : Text} {d : Disk} {run : FileRun} (h : s.generateFiles paths drawn d = .ok run) :
    ∃ report,
      d.writeOutput drawn paths.output
        (s.generate (d.linesAt paths.typedefs) (d.linesAt paths.functions)).output =
      .ok (run.disk, run.written, report) := by
  obtain ⟨typedefs, _, functions, _, report, htypedefs, hfunctions, hwritten, -⟩ :=
    Settings.exists_of_generateFiles h
  rw [← Disk.eq_linesAt_of_readLines htypedefs, ← Disk.eq_linesAt_of_readLines hfunctions]
  exact ⟨report, hwritten⟩

namespace Disk

variable {d d' : Disk} {drawn path output : Text} {written : Bool} {report : Diagnostic}

/-- Whatever the path is, the output is put at its location or nothing is changed. -/
theorem cases_of_writeOutput (h : d.writeOutput drawn path output = .ok (d', written, report)) :
    written = false ∧ d' = d ∨
      written = true ∧ ∃ mode, d'.file? (d.resolve path) = some (mode, encodeUtf8 output) := by
  refine (exists_put_of_writeOutput h).imp_right ?_
  rintro ⟨hwritten, hdir, mode, rfl⟩
  exact ⟨hwritten, mode, by rw [file?, node?_put (ne_nil_of_node? hdir), if_pos rfl]⟩

end Disk

/-- The generation puts the class at the place of the output, or it changes nothing and
does not succeed. -/
theorem CommandRun.generate_cases (r : CommandRun) (c : Configuration) (drawn : Text) :
    (r.generate c drawn).outcome ≠ .status 0 ∧ (r.generate c drawn).disk = r.disk ∨
      (r.generate c drawn).outcome = .status 0 ∧
        ∃ mode, (r.generate c drawn).disk.file? (c.place r.disk) =
          some (mode, encodeUtf8 (c.outputOn r.disk)) := by
  unfold CommandRun.generate
  cases hrun : c.settings.generateFiles c.paths drawn r.disk with
  | error e => exact Or.inl ⟨by simp, rfl⟩
  | ok run =>
    obtain ⟨report, hreport⟩ := Settings.exists_writeOutput_of_generateFiles hrun
    rcases Disk.cases_of_writeOutput hreport with ⟨hwritten, hdisk⟩ | ⟨hwritten, hfile⟩
    · exact Or.inl ⟨by simp [hwritten], hdisk⟩
    · exact Or.inr ⟨by simp [hwritten], hfile⟩

/-! ## Runs -/

/-- The run does not damage the output of the configuration. -/
structure Configuration.Respected (c : Configuration) (p : HeaderParser) (d : Disk)
    (r : CommandRun) : Prop where
  /-- Without lines of the header nothing is changed. -/
  unextracted : c.ExtractionFails p d → r.outcome ≠ .status 0 ∧ r.disk = d
  /-- A run that does not succeed keeps the file at the place of the output. -/
  kept : r.outcome ≠ .status 0 → c.place d ≠ d.resolve c.paths.functions →
    c.place d ≠ d.resolve c.paths.typedefs →
    r.disk.file? (c.place d) = d.file? (c.place d)
  /-- No directory is made there either, unless the place is above the other files or they
  are reached by leading back from it. -/
  untouched : r.outcome ≠ .status 0 →
    (∀ path ∈ [c.paths.functions, c.paths.typedefs],
      parentName ∉ (Path.ofText path).names ∧ ¬ c.place d <:+ d.resolve path) →
    r.disk.tree.node? (c.place d) = d.tree.node? (c.place d)
  /-- A run that succeeds leaves the class of the lines as they stand after the
  extraction. -/
  written : r.outcome = .status 0 →
    ∃ mode, r.disk.file? (c.place d) = some (mode, encodeUtf8 (c.outputOn (c.prepared p d)))

theorem Configuration.respected_of_prepared {c : Configuration} {p : HeaderParser} {d : Disk}
    {r : CommandRun} (hfails : r.outcome ≠ .status 0) (hdisk : r.disk = c.prepared p d) :
    c.Respected p d r where
  unextracted h := ⟨hfails, hdisk.trans h.prepared_eq⟩
  kept _ hfunctions htypedefs := by
    rw [hdisk]
    exact (c.prepared_changesOnly p d).file?_eq (not_or.2 ⟨hfunctions, htypedefs⟩)
  untouched _ hpaths := by
    have hpasses : ∀ path ∈ [c.paths.functions, c.paths.typedefs],
        ¬ d.Passes (.ofText path) (c.place d) := fun path hpath h =>
      (hpaths path hpath).2 (h.suffix_resolve (hpaths path hpath).1)
    rw [hdisk]
    refine (c.prepared_changesOnly p d).node?_eq ?_ ?_
    · rintro (h | h)
      · exact hpasses c.paths.functions (by simp) (h ▸ d.passes_resolve _)
      · exact hpasses c.paths.typedefs (by simp) (h ▸ d.passes_resolve _)
    · rintro (h | h)
      · exact hpasses c.paths.functions (by simp) h
      · exact hpasses c.paths.typedefs (by simp) h
  written h := absurd h hfails

theorem runArguments_respected (p : HeaderParser) (drawn : Text) {a : Arguments} {d : Disk}
    {named : Configuration} (h : a.configuration d = .ok named) :
    (a.override named).Respected p d (runArguments p drawn a d) := by
  simp only [runArguments, h]
  generalize a.override named = c
  generalize hstart : ({ outcome := .status 0, parserPath := a.parserPath?, disk := d } :
    CommandRun) = start
  have hd : start.disk = d := by rw [← hstart]
  have hdisk : (start.extract p c).1.disk = c.prepared p d := by rw [start.extract_disk, hd]
  cases hgoes : (start.extract p c).2 with
  | false =>
    have hstops : start.extract p c = ((start.extract p c).1, false) := Prod.ext rfl hgoes
    rw [hstops]
    exact Configuration.respected_of_prepared (CommandRun.outcome_of_extract hgoes) hdisk
  | true =>
    have hcontinues : start.extract p c = ((start.extract p c).1, true) := Prod.ext rfl hgoes
    rw [hcontinues]
    rcases (start.extract p c).1.generate_cases c drawn with
      ⟨hfails, hkeeps⟩ | ⟨hreturns, mode, hfile⟩
    · exact Configuration.respected_of_prepared hfails (hkeeps.trans hdisk)
    · have hplace : c.place (c.prepared p d) = c.place d :=
        Disk.resolve_congr (c.prepared_changesOnly p d).here _
      refine ⟨fun hno => ?_, fun hno => absurd hreturns hno, fun hno => absurd hreturns hno,
        fun _ => ⟨mode, ?_⟩⟩
      · rw [CommandRun.extract_of_extractionFails (hd ▸ hno)] at hgoes
        cases hgoes
      · rw [hdisk, hplace] at hfile
        exact hfile

/-- The command does not damage its output. A run that does not succeed keeps the file at
the place of the output, one that succeeds leaves the generated class there, and nothing at
all is changed if there is no configuration or if the header has no lines. -/
theorem command_output (p : HeaderParser) (drawn : Text) (args : List Text) (d : Disk) :
    ((¬ ∃ c, InEffect args d c) →
      (command p drawn args d).disk = d ∧
        ((command p drawn args d).outcome = .status 0 → readArguments args = .ok .help)) ∧
      ∀ c, InEffect args d c → c.Respected p d (command p drawn args d) := by
  constructor
  · intro hnone
    unfold command
    cases hargs : readArguments args with
    | error complaint => exact ⟨rfl, by simp⟩
    | ok request =>
      cases request with
      | help => exact ⟨rfl, fun _ => rfl⟩
      | run a =>
        simp only [runArguments]
        cases hread : a.configuration d with
        | error e => by_cases hforeseen : e.isForeseen <;> simp [hforeseen]
        | ok named => exact absurd ⟨_, inEffect_iff.2 ⟨a, named, hargs, hread, rfl⟩⟩ hnone
  · intro c hc
    obtain ⟨a, named, hargs, hread, rfl⟩ := inEffect_iff.1 hc
    simp only [command, hargs]
    exact runArguments_respected p drawn hread

/-- An alias of a built-in type. -/
def numberAlias : TypeAlias where
  name := "num".toList
  underlying := "int".toList

/-- A parser that finds the alias in every header. -/
def aliasParser : HeaderParser where
  parse header _ := { items := [{ item := .typedef numberAlias, file := some header }] }

/-- A disk with a header and a class that only its owner may read. -/
def withHeader : Disk where
  tree := [(["a.h".toList], .file 0o644 []), (["F.java".toList], .file 0o600 [])]

/-- Arguments that name a header and the output. -/
def headerArguments : List Text := ["-H".toList, "a.h".toList, "-oF.java".toList]

/-- The configuration that they put in effect. -/
def headerConfiguration : Configuration where
  paths := { output := "F.java".toList }
  header := some "a.h".toList

theorem command_output_header :
    InEffect headerArguments withHeader headerConfiguration ∧
      (command aliasParser ['t'] headerArguments withHeader).outcome = .status 0 ∧
      ∃ mode,
        (command aliasParser ['t'] headerArguments withHeader).disk.file? ["F.java".toList] =
          some (mode, encodeUtf8 (Settings.generate {} ["typedef int num;".toList] []).output) := by
  have heffect : InEffect headerArguments withHeader headerConfiguration :=
    ⟨{ header := "a.h".toList, output := "F.java".toList }, {}, by decide +kernel, by simp, rfl,
      rfl, rfl, rfl, rfl, rfl⟩
  have hreturns : (command aliasParser ['t'] headerArguments withHeader).outcome = .status 0 := by
    decide +kernel
  have htypedefs : (headerConfiguration.prepared aliasParser withHeader).linesAt
      headerConfiguration.paths.typedefs = ["typedef int num;".toList] := by decide +kernel
  have hfunctions : (headerConfiguration.prepared aliasParser withHeader).linesAt
      headerConfiguration.paths.functions = [] := by decide +kernel
  obtain ⟨mode, hfile⟩ :=
    ((command_output aliasParser ['t'] headerArguments withHeader).2 _ heffect).written hreturns
  rw [Configuration.outputOn, htypedefs, hfunctions] at hfile
  exact ⟨heffect, hreturns, mode, hfile⟩

end HeaderBridge
