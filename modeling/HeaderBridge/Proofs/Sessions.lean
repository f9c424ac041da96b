import HeaderBridge.Generator
import HeaderBridge.Proofs.DictionaryRun

/-!
# Runs of one generator

Every call makes the generator ready first, so it comes to what the settings make of the lines
or of the files (`Session.performs_generate`, `Session.performs_generateFiles`), with a log
behind those of the calls before. `Session.running` is a generator at work, and each step of
the work leads from one such session to another.

So a call does the same on a new generator, and no call notes to a log that has been handed
out (`Session.perform_independent`).
-/

namespace HeaderBridge

/-! ## Results -/

/-- What a call hands out that yields `g`. -/
def Generation.result (g : Generation) (log : Nat) (written : Bool) : RunResult :=
  { output := g.output
    lines := g.lines
    signatures := g.signatures
    unsupported := g.unsupported
    log, written }

namespace Session

/-! ## A generator at work -/

/-- A generator that is at work with a log of its own behind other logs. -/
def running (s : Settings) (logs : List Diagnostics) (disk : Disk) (dictionary : Dictionary)
    (unsupported : Unsupported) (entries : Diagnostics) : Session :=
  { generator := { settings := s, dictionary, unsupported, log := logs.length }
    logs := logs ++ [entries]
    disk }

variable {s : Settings} {logs : List Diagnostics} {disk : Disk} {dictionary : Dictionary}
  {unsupported : Unsupported} {entries : Diagnostics}

theorem modify_length_append {α : Type} (l : List α) (a : α) (f : α → α) :
    (l ++ [a]).modify l.length f = l ++ [f a] := by
  induction l with
  | nil => rfl
  | cons b l ih => simp [ih]

@[simp]
theorem note_running (more : Diagnostics) :
    (running s logs disk dictionary unsupported entries).note more =
      running s logs disk dictionary unsupported (entries ++ more) := by
  simp [running, note, modify_length_append]

@[simp]
theorem setDictionary_running (d : Dictionary) :
    (running s logs disk dictionary unsupported entries).setDictionary d =
      running s logs disk d unsupported entries := rfl

/-- The log of a run is what has been noted in it. -/
theorem view_running (g : Generation) (written : Bool) :
    (running s logs disk dictionary unsupported entries).view (g.result logs.length written) =
      { output := g.output
        lines := g.lines
        signatures := g.signatures
        unsupported := g.unsupported
        diagnostics := entries
        written } := by
  simp [view, running, Generation.result]

end Session

/-! ## Steps -/

namespace Work

open Session

section

variable {α β : Type} {w : Work α} {next : α → Work β} {b b' : Session}

theorem bind_of_ok {a : α} (h : w b = .ok a b') : (w >>= next) b = next a b' := by
  simp only [bind, EStateM.bind, h]

theorem bind_of_error {e : CallError} (h : w b = .error e b') : (w >>= next) b = .error e b' := by
  simp only [bind, EStateM.bind, h]

end

variable {s : Settings} {logs : List Diagnostics} {disk : Disk} {dictionary : Dictionary}
  {unsupported : Unsupported} {entries : Diagnostics}

/-- An open dictionary takes in all typedef lines. -/
theorem readTypedefs_running (h : dictionary.frozen = false) (lines : List Text) :
    readTypedefs lines (running s logs disk dictionary unsupported entries) =
      .ok () (running s logs disk (resolveTypedefs dictionary lines).dictionary unsupported
        (entries ++ (resolveTypedefs dictionary lines).reports)) := by
  have hrefused : (resolveTypedefs dictionary lines).refused = none :=
    (resolveTypedefs_of_open h lines).1
  have hdictionary : (running s logs disk dictionary unsupported entries).generator.dictionary =
    dictionary := rfl
  simp [readTypedefs, hdictionary, hrefused]

theorem closeDictionary_running :
    closeDictionary (running s logs disk dictionary unsupported entries) =
      .ok () (running s logs disk dictionary.freeze unsupported entries) := rfl

/-- With no unsupported types known the survey is one of its own. -/
theorem readDeclarations_running (lines : List Text) :
    readDeclarations lines (running s logs disk dictionary [] entries) =
      .ok (survey dictionary lines)
        (running s logs disk dictionary (survey dictionary lines).unsupported
          (entries ++ (survey dictionary lines).reports)) := by
  rw [← note_running]
  rfl

theorem reportUnsupported_running :
    reportUnsupported (running s logs disk dictionary unsupported entries) =
      .ok () (running s logs disk dictionary unsupported
        (entries ++ [info unsupported.report])) := by
  rw [← note_running]
  rfl

/-- A generator that is ready yields what its settings make of the lines. -/
theorem run_running (typedefs declarations : List Text) :
    run typedefs declarations (running s logs disk s.dictionary [] entries) =
      .ok ((s.generate typedefs declarations).result logs.length false)
        (running s logs disk (s.generate typedefs declarations).dictionary
          (s.generate typedefs declarations).unsupported
          (entries ++ (s.generate typedefs declarations).diagnostics)) := by
  have hopen : s.dictionary.frozen = false := rfl
  have hdiagnostics : ∀ reports more : Diagnostics, ∀ last : Diagnostic,
      entries ++ (reports ++ more ++ [last]) = entries ++ reports ++ more ++ [last] := by simp
  rw [run, bind_of_ok (readTypedefs_running hopen typedefs), bind_of_ok closeDictionary_running,
    bind_of_ok (readDeclarations_running declarations), bind_of_ok reportUnsupported_running,
    Settings.generate, hdiagnostics]
  rfl

theorem readFile_running_of_ok {path : Text} {lines : List Text} {reports : Diagnostics}
    (h : disk.readLines path = .ok (lines, reports)) :
    readFile path (running s logs disk dictionary unsupported entries) =
      .ok lines (running s logs disk dictionary unsupported (entries ++ reports)) := by
  have hdisk : (running s logs disk dictionary unsupported entries).disk = disk := rfl
  simp only [readFile, hdisk, h, note_running]

theorem readFile_running_of_error {path : Text} {e : DiskError}
    (h : disk.readLines path = .error e) :
    readFile path (running s logs disk dictionary unsupported entries) =
      .error (.disk e) (running s logs disk dictionary unsupported entries) := by
  have hdisk : (running s logs disk dictionary unsupported entries).disk = disk := rfl
  simp only [readFile, hdisk, h]

theorem writeFile_running_of_ok {drawn path output : Text} {disk' : Disk} {written : Bool}
    {report : Diagnostic} (h : disk.writeOutput drawn path output = .ok (disk', written, report)) :
    writeFile drawn path output (running s logs disk dictionary unsupported entries) =
      .ok written (running s logs disk' dictionary unsupported (entries ++ [report])) := by
  have hdisk : (running s logs disk dictionary unsupported entries).disk = disk := rfl
  simp only [writeFile, hdisk, h, ← note_running]
  rfl

theorem writeFile_running_of_error {drawn path output : Text} {e : DiskError}
    (h : disk.writeOutput drawn path output = .error e) :
    writeFile drawn path output (running s logs disk dictionary unsupported entries) =
      .error (.disk e) (running s logs disk dictionary unsupported entries) := by
  have hdisk : (running s logs disk dictionary unsupported entries).disk = disk := rfl
  simp only [writeFile, hdisk, h]

/-- Every call makes the generator ready first. -/
theorem clear_running (b : Session) :
    (modify Session.clear : Work PUnit) b =
      .ok () (running b.generator.settings b.logs b.disk b.generator.settings.dictionary
        [] []) := rfl

/-- With the lines of both files read, all that is left of the work is to write the output. -/
theorem generateFiles_of_read {b : Session} {paths : FilePaths} (drawn : Text)
    {typedefs functions : List Text}
    {typedefReports functionReports : Diagnostics} {g : Generation}
    (htypedefs : b.disk.readLines paths.typedefs = .ok (typedefs, typedefReports))
    (hfunctions : b.disk.readLines paths.functions = .ok (functions, functionReports))
    (hg : b.generator.settings.generate typedefs functions = g) :
    generateFiles paths drawn b =
      (do return g.result b.logs.length (← writeFile drawn paths.output g.output) :
          Work RunResult)
        (running b.generator.settings b.logs b.disk g.dictionary g.unsupported
          (typedefReports ++ functionReports ++ g.diagnostics)) := by
  subst hg
  rw [generateFiles, bind_of_ok (clear_running b), bind_of_ok (readFile_running_of_ok htypedefs),
    bind_of_ok (readFile_running_of_ok hfunctions), bind_of_ok (run_running typedefs functions),
    List.nil_append]
  rfl

end Work

/-! ## Calls -/

theorem Settings.generateFiles_of_ok {s : Settings} {paths : FilePaths} {drawn : Text}
    {d disk : Disk}
    {typedefs functions : List Text} {typedefReports functionReports : Diagnostics}
    {written : Bool} {report : Diagnostic}
    (htypedefs : d.readLines paths.typedefs = .ok (typedefs, typedefReports))
    (hfunctions : d.readLines paths.functions = .ok (functions, functionReports))
    (houtput : d.writeOutput drawn paths.output (s.generate typedefs functions).output =
      .ok (disk, written, report)) :
    s.generateFiles paths drawn d =
      .ok { generation := s.generate typedefs functions
            diagnostics := typedefReports ++ functionReports ++
              (s.generate typedefs functions).diagnostics ++ [report]
            written, disk } := by
  simp only [generateFiles, htypedefs, hfunctions, houtput, bind, Except.bind]
  rfl

namespace Session

variable {b b' : Session} {c : Call}

theorem perform_of_work_ok {r : RunResult} (h : c.work b = .ok r b') :
    b.perform c = (b', .ok r) := by
  simp only [perform, h]

theorem perform_of_work_error {e : CallError} (h : c.work b = .error e b') :
    b.perform c = (b', .error e) := by
  simp only [perform, h]

/-- In every session with the settings and the disk the call leaves these behind, with a log
of its own at the end of the logs, and is answered with the number of that log. -/
def Performs (s : Settings) (d : Disk) (c : Call) (disk : Disk) (dictionary : Dictionary)
    (unsupported : Unsupported) (entries : Diagnostics) (answer : Nat → Answer) : Prop :=
  ∀ b : Session, b.generator.settings = s → b.disk = d →
    b.perform c = (running s b.logs disk dictionary unsupported entries, answer b.logs.length)

theorem performs_generate (s : Settings) (d : Disk) (typedefs declarations : List Text) :
    Performs s d (.generate typedefs declarations) d (s.generate typedefs declarations).dictionary
      (s.generate typedefs declarations).unsupported
      (s.generate typedefs declarations).diagnostics
      fun n => .ok ((s.generate typedefs declarations).result n false) := by
  rintro b rfl rfl
  refine perform_of_work_ok ?_
  rw [Call.work, Work.generate, Work.bind_of_ok (Work.clear_running b), Work.run_running,
    List.nil_append]

section

variable {s : Settings} {d : Disk} {paths : FilePaths} {drawn : Text} {typedefs functions : List Text}
  {typedefReports functionReports : Diagnostics} {e : DiskError}

theorem performs_of_typedefs_error (htypedefs : d.readLines paths.typedefs = .error e) :
    Performs s d (.generateFiles paths drawn) d s.dictionary [] [] fun _ => .error (.disk e) := by
  rintro b rfl rfl
  refine perform_of_work_error ?_
  rw [Call.work, Work.generateFiles, Work.bind_of_ok (Work.clear_running b),
    Work.bind_of_error (Work.readFile_running_of_error htypedefs)]

theorem performs_of_functions_error
    (htypedefs : d.readLines paths.typedefs = .ok (typedefs, typedefReports))
    (hfunctions : d.readLines paths.functions = .error e) :
    Performs s d (.generateFiles paths drawn) d s.dictionary [] typedefReports
      fun _ => .error (.disk e) := by
  rintro b rfl rfl
  refine perform_of_work_error ?_
  rw [Call.work, Work.generateFiles, Work.bind_of_ok (Work.clear_running b),
    Work.bind_of_ok (Work.readFile_running_of_ok htypedefs),
    Work.bind_of_error (Work.readFile_running_of_error hfunctions), List.nil_append]

theorem performs_of_output_error
    (htypedefs : d.readLines paths.typedefs = .ok (typedefs, typedefReports))
    (hfunctions : d.readLines paths.functions = .ok (functions, functionReports))
    (houtput : d.writeOutput drawn paths.output (s.generate typedefs functions).output = .error e) :
    Performs s d (.generateFiles paths drawn) d (s.generate typedefs functions).dictionary
      (s.generate typedefs functions).unsupported
      (typedefReports ++ functionReports ++ (s.generate typedefs functions).diagnostics)
      fun _ => .error (.disk e) := by
  rintro b rfl rfl
  refine perform_of_work_error ?_
  rw [Call.work, Work.generateFiles_of_read drawn htypedefs hfunctions rfl,
    Work.bind_of_error (Work.writeFile_running_of_error houtput)]

theorem performs_of_output {disk : Disk} {written : Bool} {report : Diagnostic}
    (htypedefs : d.readLines paths.typedefs = .ok (typedefs, typedefReports))
    (hfunctions : d.readLines paths.functions = .ok (functions, functionReports))
    (houtput : d.writeOutput drawn paths.output (s.generate typedefs functions).output =
      .ok (disk, written, report)) :
    Performs s d (.generateFiles paths drawn) disk (s.generate typedefs functions).dictionary
      (s.generate typedefs functions).unsupported
      (typedefReports ++ functionReports ++ (s.generate typedefs functions).diagnostics ++
        [report])
      fun n => .ok ((s.generate typedefs functions).result n written) := by
  rintro b rfl rfl
  refine perform_of_work_ok ?_
  rw [Call.work, Work.generateFiles_of_read drawn htypedefs hfunctions rfl,
    Work.bind_of_ok (Work.writeFile_running_of_ok houtput)]
  rfl

end

/-- A run over files is what the settings make of the files on the disk. -/
theorem performs_generateFiles (s : Settings) (d : Disk) (paths : FilePaths) (drawn : Text) :
    match s.generateFiles paths drawn d with
    | .ok run =>
      Performs s d (.generateFiles paths drawn) run.disk run.generation.dictionary
        run.generation.unsupported run.diagnostics
        fun n => .ok (run.generation.result n run.written)
    | .error e => ∃ dictionary unsupported entries,
      Performs s d (.generateFiles paths drawn) d dictionary unsupported entries
        fun _ => .error (.disk e) := by
  cases htypedefs : d.readLines paths.typedefs with
  | error e =>
    have hfails : s.generateFiles paths drawn d = .error e := by
      simp only [Settings.generateFiles, htypedefs, bind, Except.bind]
    rw [hfails]
    exact ⟨_, _, _, performs_of_typedefs_error htypedefs⟩
  | ok first =>
    cases hfunctions : d.readLines paths.functions with
    | error e =>
      have hfails : s.generateFiles paths drawn d = .error e := by
        simp only [Settings.generateFiles, htypedefs, hfunctions, bind, Except.bind]
      rw [hfails]
      exact ⟨_, _, _, performs_of_functions_error htypedefs hfunctions⟩
    | ok second =>
      cases houtput : d.writeOutput drawn paths.output (s.generate first.1 second.1).output with
      | error e =>
        have hfails : s.generateFiles paths drawn d = .error e := by
          simp only [Settings.generateFiles, htypedefs, hfunctions, houtput, bind, Except.bind]
        rw [hfails]
        exact ⟨_, _, _, performs_of_output_error htypedefs hfunctions houtput⟩
      | ok written =>
        rw [Settings.generateFiles_of_ok htypedefs hfunctions houtput]
        exact performs_of_output htypedefs hfunctions houtput

/-- What a call does depends on the settings and the disk alone, and it fails only if the disk
refuses. -/
theorem exists_performs (s : Settings) (d : Disk) (c : Call) :
    ∃ disk dictionary unsupported entries,
      (∃ g : Generation, ∃ written, Performs s d c disk dictionary unsupported entries
        fun n => .ok (g.result n written)) ∨
      ∃ e, Performs s d c disk dictionary unsupported entries fun _ => .error (.disk e) := by
  cases c with
  | generate typedefs declarations =>
    exact ⟨_, _, _, _, .inl ⟨_, _, performs_generate s d typedefs declarations⟩⟩
  | generateFiles paths drawn =>
    have h := performs_generateFiles s d paths drawn
    cases hrun : s.generateFiles paths drawn d with
    | ok run =>
      rw [hrun] at h
      exact ⟨_, _, _, _, .inl ⟨_, _, h⟩⟩
    | error e =>
      rw [hrun] at h
      obtain ⟨dictionary, unsupported, entries, h⟩ := h
      exact ⟨_, _, _, _, .inr ⟨e, h⟩⟩

/-- Sessions that differ in what earlier calls have left do the same. -/
theorem perform_congr (b b' : Session) (hsettings : b.generator.settings = b'.generator.settings)
    (hdisk : b.disk = b'.disk) (c : Call) :
    (b.perform c).2.map (b.perform c).1.view = (b'.perform c).2.map (b'.perform c).1.view ∧
      (b.perform c).1.generator.dictionary = (b'.perform c).1.generator.dictionary ∧
      (b.perform c).1.disk = (b'.perform c).1.disk := by
  obtain ⟨disk, dictionary, unsupported, entries, ⟨g, written, h⟩ | ⟨e, h⟩⟩ :=
    exists_performs b'.generator.settings b'.disk c
  · rw [h b hsettings hdisk, h b' rfl rfl]
    refine ⟨?_, rfl, rfl⟩
    simp only [Except.map, view_running]
  · rw [h b hsettings hdisk, h b' rfl rfl]
    exact ⟨rfl, rfl, rfl⟩

/-- A call keeps the settings and opens one log, behind those that are there. -/
theorem exists_running_perform (b : Session) (c : Call) :
    ∃ disk dictionary unsupported entries,
      (b.perform c).1 =
        running b.generator.settings b.logs disk dictionary unsupported entries ∧
      ((∃ g : Generation, ∃ written,
        (b.perform c).2 = .ok (g.result b.logs.length written)) ∨
        ∃ e, (b.perform c).2 = .error (.disk e)) := by
  obtain ⟨disk, dictionary, unsupported, entries, ⟨g, written, h⟩ | ⟨e, h⟩⟩ :=
    exists_performs b.generator.settings b.disk c
  · rw [h b rfl rfl]
    exact ⟨disk, dictionary, unsupported, entries, rfl, .inl ⟨g, written, rfl⟩⟩
  · rw [h b rfl rfl]
    exact ⟨disk, dictionary, unsupported, entries, rfl, .inr ⟨e, rfl⟩⟩

theorem settings_perform (b : Session) (c : Call) :
    (b.perform c).1.generator.settings = b.generator.settings := by
  obtain ⟨disk, dictionary, unsupported, entries, h, -⟩ := exists_running_perform b c
  rw [h]
  rfl

theorem exists_logs_perform (b : Session) (c : Call) :
    ∃ entries, (b.perform c).1.logs = b.logs ++ [entries] := by
  obtain ⟨disk, dictionary, unsupported, entries, h, -⟩ := exists_running_perform b c
  exact ⟨entries, by rw [h]; rfl⟩

/-- A call hands out the log that it has opened. -/
theorem log_of_perform {b : Session} {c : Call} {r : RunResult} (h : (b.perform c).2 = .ok r) :
    r.log = b.logs.length := by
  obtain ⟨-, -, -, -, -, ⟨g, written, hanswer⟩ | ⟨e, hanswer⟩⟩ := exists_running_perform b c
  · rw [← Except.ok.inj (hanswer.symm.trans h)]
    rfl
  · cases hanswer.symm.trans h

/-- A call finds its dictionary open. -/
theorem perform_ne_frozen (b : Session) (c : Call) (e : FrozenError) :
    (b.perform c).2 ≠ .error (.frozen e) := by
  obtain ⟨-, -, -, -, -, ⟨g, written, hanswer⟩ | ⟨e', hanswer⟩⟩ := exists_running_perform b c
  · simp [hanswer]
  · simp [hanswer]

/-! ## Runs of calls -/

theorem settings_performAll (b : Session) (cs : List Call) :
    (b.performAll cs).1.generator.settings = b.generator.settings := by
  induction cs generalizing b with
  | nil => rfl
  | cons c cs ih => exact (ih (b.perform c).1).trans (settings_perform b c)

/-- Calls open logs, and note nothing to those that are there. -/
theorem exists_logs_performAll (b : Session) (cs : List Call) :
    ∃ more, (b.performAll cs).1.logs = b.logs ++ more := by
  induction cs generalizing b with
  | nil => exact ⟨[], (List.append_nil _).symm⟩
  | cons c cs ih =>
    obtain ⟨entries, hentries⟩ := exists_logs_perform b c
    obtain ⟨more, hmore⟩ := ih (b.perform c).1
    refine ⟨entries :: more, ?_⟩
    rw [hentries, List.append_assoc, List.singleton_append] at hmore
    exact hmore

/-- What a result shows does not change with later calls. -/
theorem view_performAll {b : Session} {r : RunResult} (h : r.log < b.logs.length)
    (cs : List Call) : (b.performAll cs).1.view r = b.view r := by
  obtain ⟨more, hmore⟩ := exists_logs_performAll b cs
  simp only [view, hmore, List.getD_eq_getElem?_getD, List.getElem?_append_left h]

/-- A call comes to the same after other calls as on a new generator with the settings, on the
disk as it then is : what it shows, the error with which it fails, and the dictionary and the
disk after it. No dictionary of an earlier call refuses a typedef line, and what the call shows
stays as it is whatever calls come later. -/
theorem perform_independent (s : Settings) (d : Disk) (before after : List Call) (c : Call) :
    let b := ((start s d).performAll before).1
    let done := b.perform c
    let fresh := (start s b.disk).perform c
    let all := (start s d).performAll (before ++ c :: after)
    all.2[before.length]? = some done.2 ∧
      done.2.map done.1.view = fresh.2.map fresh.1.view ∧
      done.1.generator.dictionary = fresh.1.generator.dictionary ∧
      done.1.disk = fresh.1.disk ∧
      (∀ e, done.2 ≠ .error (.frozen e)) ∧
      done.2.map all.1.view = done.2.map done.1.view := by
  intro b done fresh all
  have hsettings : b.generator.settings = s := settings_performAll (start s d) before
  have hall : all = ((done.1.performAll after).1,
      ((start s d).performAll before).2 ++ done.2 :: (done.1.performAll after).2) :=
    performAll_append (start s d) before (c :: after)
  -- Of the calls before, the settings and the disk are all that a call depends on.
  obtain ⟨hview, hdictionary, hdisk⟩ : _ ∧ _ ∧ _ :=
    perform_congr b (start s b.disk) hsettings rfl c
  refine ⟨?_, hview, hdictionary, hdisk, perform_ne_frozen b c, ?_⟩
  · rw [hall, ← length_performAll (start s d) before]
    simp
  · obtain ⟨entries, hlogs⟩ := exists_logs_perform b c
    cases hanswer : done.2 with
    | error e => rfl
    | ok r =>
      have hlt : r.log < done.1.logs.length := by
        rw [log_of_perform hanswer, hlogs, List.length_append]
        exact Nat.lt_succ_self _
      rw [hall]
      exact congrArg Except.ok (view_performAll hlt after)

end Session

end HeaderBridge
