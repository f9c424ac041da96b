import HeaderBridge.Proofs.ReservedWord

/-!
# The layout of the generated class

A block of code is cut at its line feeds into the lines of which it was made, as long as none
of them holds a line feed (`codeLines_block`). No pass over a declaration line puts a line feed
in, unless it stands in the target of a rule (`Dictionary.notMem_javaLine`), and the readers
find no name with a line feed in a line without one. So every line of the generated file is
known by its number.

`Settings.laidOut_generate` says where the methods stand in the file (`Settings.LaidOut`), and
that the methods of the interface can be read off it again.
-/

namespace HeaderBridge

open Text

/-! ## Lines without line feeds -/

section

variable {line : Text} (h : '\n' ∉ line)
include h

theorem notMem_dropQualifiers : '\n' ∉ dropQualifiers line :=
  List.foldlRecOn qualifiers _ (motive := fun t => '\n' ∉ t) h fun _ ht _ _ =>
    notMem_replace_exactly (by simp) ht

theorem notMem_markPointers : '\n' ∉ markPointers line := by
  have hchar : '\n' ∉ line.replace charPointer := by
    refine notMem_replace_of_eq (stringMarker ++ [' ']) (fun p t m hm => ?_) (by decide) h
    obtain ⟨_, _, _, _, rfl⟩ := charPointer_eq_some_iff.1 hm
    rfl
  have hdouble : '\n' ∉ (line.replace charPointer).replace doublePointer := by
    refine notMem_replace_of_eq (pointerArrayMarker ++ [' ']) (fun p t m hm => ?_) (by decide) hchar
    obtain ⟨_, _, _, _, _, _, rfl⟩ := doublePointer_eq_some_iff.1 hm
    rfl
  refine notMem_replace_of_eq (pointerMarker ++ [' ']) (fun p t m hm => ?_) (by decide) hdouble
  obtain ⟨_, _, _, _, _, _, _, rfl⟩ := singlePointer_eq_some_iff.1 hm
  rfl

theorem notMem_settleExceptions : '\n' ∉ settleExceptions line := by
  have hzone : '\n' ∉ line.replace timeZoneParameter := by
    refine notMem_replace_of_eq (byteArray ++ " tz_str".toList) (fun p t m hm => ?_) (by decide) h
    obtain ⟨_, _, _, _, rfl⟩ := timeZoneParameter_eq_some_iff.1 hm
    rfl
  refine notMem_replace_of_eq "synchronize".toList (fun p t m hm => ?_) (by decide)
    (notMem_replace_exactly (by decide) hzone)
  obtain ⟨_, _, rfl⟩ := reservedName_eq_some_iff.1 hm
  rfl

end

theorem Rule.notMem_apply {r : Rule} (hr : '\n' ∉ r.target) {line : Text} (h : '\n' ∉ line) :
    '\n' ∉ r.apply line := by
  refine notMem_replace (fun p t n new hm ht => ?_) h
  obtain ⟨o, b, rest, rfl, -, rfl, -⟩ := exists_of_match? hm
  simp only [List.mem_append, not_or] at ht ⊢
  exact ⟨⟨ht.1.1.1, hr⟩, by decide⟩

/-- A line with Java types has a line feed only if the declaration line or the target of a rule
has one. -/
theorem Dictionary.notMem_javaLine {d : Dictionary} (hd : ∀ r ∈ d.rules, '\n' ∉ Rule.target r)
    {line : Text} (h : '\n' ∉ line) : '\n' ∉ d.javaLine line := by
  cases hb : line.isBlank with
  | true => rwa [d.javaLine_of_isBlank hb]
  | false =>
    rw [d.javaLine_eq hb]
    exact List.foldlRecOn d.rules _ (motive := fun t => '\n' ∉ t)
      (notMem_settleExceptions (notMem_markPointers (notMem_dropQualifiers h)))
      fun t ht r hr => Rule.notMem_apply (hd r hr) ht

/-! ## Blocks and their lines -/

/-- A line of code that is not empty. -/
def IsCodeLine (l : Text) : Prop := l ≠ [] ∧ '\n' ∉ l

instance (l : Text) : Decidable (IsCodeLine l) := inferInstanceAs (Decidable (_ ∧ _))

theorem IsCodeLine.append {a b : Text} (ha : IsCodeLine a) (hb : '\n' ∉ b) :
    IsCodeLine (a ++ b) :=
  ⟨List.append_ne_nil_of_left_ne_nil ha.1 b, fun h => (List.mem_append.1 h).elim ha.2 hb⟩

theorem IsCodeLine.notMem_indented {l : Text} (h : IsCodeLine l) : '\n' ∉ indent ++ l :=
  (IsCodeLine.append (by decide) h.2).2

/-- The lines of a block are indented one by one. -/
theorem indented_block {lines : List Text} (hne : lines ≠ []) (h : ∀ l ∈ lines, IsCodeLine l) :
    indented (block lines) = lines.map (indent ++ ·) := by
  rw [indented, indentedBy, codeLines_block hne fun l hl => (h l hl).2]
  refine List.map_congr_left fun l hl => ?_
  simp [(h l hl).1]

/-! ## Blocks of one length -/

section

variable {α β : Type} {f : α → List β} {m : Nat} (hm : ∀ a, (f a).length = m)
include hm

theorem length_flatMap_of_length (l : List α) : (l.flatMap f).length = m * l.length := by
  induction l with
  | nil => rfl
  | cons a l ih =>
    rw [List.flatMap_cons, List.length_append, hm, ih, List.length_cons, Nat.mul_succ, Nat.add_comm]

/-- Among pieces of one length each piece is found by its number. -/
theorem take_drop_flatMap {l : List α} {k : Nat} {a : α} (ha : l[k]? = some a) (rest : List β) :
    ((l.flatMap f ++ rest).drop (m * k)).take m = f a := by
  induction l generalizing k with
  | nil => simp at ha
  | cons b l ih =>
    rw [List.flatMap_cons, List.append_assoc]
    cases k with
    | zero =>
      obtain rfl : b = a := by simpa using ha
      rw [Nat.mul_zero, List.drop_zero, ← hm b, List.take_left]
    | succ k =>
      rw [Nat.mul_succ, Nat.add_comm, ← hm b, List.drop_length_add_append, hm b]
      exact ih (by simpa using ha)

end

/-! ## The lines of the generated file -/

/-- The first line of a forwarding method. -/
def methodHeader (line : Text) : Text :=
  "public static ".toList ++ dropSemicolon line.strip ++ " \x7b".toList

namespace Settings

/-- The line of a forwarding method on which it calls the native function. -/
def methodCall (s : Settings) (sig : Signature) : Text :=
  indent ++ (if sig.returnsVoid then [] else "return ".toList) ++ s.nativeCall sig

/-- The lines of a forwarding method. -/
def methodLines (s : Settings) (line : Text) (sig : Signature) : List Text :=
  [methodHeader line, s.methodCall sig, "\x7d".toList]

/-- The lines of the interface before its methods. -/
def interfaceHead (s : Settings) : List Text :=
  ["public interface ".toList ++ s.interfaceName ++ " \x7b".toList,
    indent ++ s.qualifiedName ++ " INSTANCE = LibraryLoader.create(".toList ++
      s.qualifiedName ++ ".class).load(\"".toList ++ s.libraryName ++ "\");".toList,
    indent ++ s.qualifiedName ++ ' ' :: s.libraryName ++ " = ".toList ++
      s.qualifiedName ++ ".INSTANCE;".toList]

/-- The lines of the interface. -/
def interfaceLines (s : Settings) (methods : List Text) : List Text :=
  s.interfaceHead ++ methods.map (indent ++ ·) ++ ["\x7d".toList]

/-- The lines of the file before the interface. -/
def unitHead (s : Settings) : List Text :=
  ["package ".toList ++ s.package ++ ";".toList,
    [],
    "import jnr.ffi.LibraryLoader;".toList,
    "import jnr.ffi.Pointer;".toList,
    [],
    "public class ".toList ++ s.className ++ " \x7b".toList]

/-- The lines of the forwarding method for a line, in the file, with the empty line before
them. -/
def forwardingLines (s : Settings) (line : Text) : List Text :=
  [] :: (s.methodLines line (Signature.ofLine line)).map (indent ++ ·)

theorem length_forwardingLines (s : Settings) (line : Text) :
    (s.forwardingLines line).length = 4 := rfl

/-- The lines of the file for lines with Java types. -/
def fileLines (s : Settings) (lines : List Text) : List Text :=
  s.unitHead ++ (s.interfaceLines (lines.map interfaceMethod)).map (indent ++ ·) ++
    lines.flatMap s.forwardingLines ++ ["\x7d".toList, []]

theorem methodLines_ne_nil (s : Settings) (line : Text) (sig : Signature) :
    s.methodLines line sig ≠ [] := List.cons_ne_nil _ _

theorem interfaceLines_ne_nil (s : Settings) (methods : List Text) :
    s.interfaceLines methods ≠ [] := List.cons_ne_nil _ _

theorem forwardingMethod_eq (s : Settings) (line : Text) (sig : Signature) :
    s.forwardingMethod line sig = block (s.methodLines line sig) := rfl

theorem interface_eq (s : Settings) (methods : List Text) :
    s.interface methods = block (s.interfaceLines methods) := rfl

theorem unit_eq (s : Settings) (interface : Text) (functions : List Text) :
    s.unit interface functions = block (s.unitHead ++ indented interface ++
      functions.flatMap (fun f => [] :: indented f) ++ ["\x7d".toList]) ++ ['\n'] := rfl

/-- No line feed stands in the names that the class is given, in the declaration lines of a run
and in the targets of the rules by which they are read. -/
structure WithinLines (s : Settings) (typedefs declarations : List Text) : Prop where
  package : '\n' ∉ s.package
  className : '\n' ∉ s.className
  interfaceName : '\n' ∉ s.interfaceName
  libraryName : '\n' ∉ s.libraryName
  lines : ∀ line ∈ declarations, '\n' ∉ line
  targets : ∀ r ∈ (s.generate typedefs declarations).dictionary.rules, '\n' ∉ Rule.target r

/-- A typedef line has a word for a target, so only the rules that are given can bring a line
feed. -/
theorem notMem_target_generate {s : Settings} {typedefs declarations : List Text}
    (h : ∀ r ∈ s.extraRules, '\n' ∉ Rule.target r) :
    ∀ r ∈ (s.generate typedefs declarations).dictionary.rules, '\n' ∉ Rule.target r := by
  have hbuiltin : ∀ r ∈ builtinRules, '\n' ∉ Rule.target r := by decide
  intro r hr
  rcases s.target_generate typedefs declarations hr with ⟨b, hb, htarget⟩ | ⟨a, ha, htarget⟩
  · rw [← htarget]
    exact (List.mem_append.1 hb).elim (hbuiltin b) (h b)
  · obtain ⟨line, -, hread⟩ := List.mem_filterMap.1 ha
    rw [← htarget]
    exact fun hmem => absurd ((isWord_of_readTypedef hread).1.2 _ hmem) (by decide)

section

variable {s : Settings} {typedefs declarations : List Text} {line : Text}
  (h : s.WithinLines typedefs declarations)
include h

theorem WithinLines.notMem_lines :
    ∀ line ∈ (s.generate typedefs declarations).lines, '\n' ∉ line := by
  rw [lines_generate]
  intro line hline
  obtain ⟨declaration, hmem, rfl⟩ := List.mem_map.1 (List.mem_filter.1 hline).1
  exact Dictionary.notMem_javaLine h.targets (h.lines declaration hmem)

theorem WithinLines.nativeCall (hline : '\n' ∉ line) :
    '\n' ∉ s.nativeCall (Signature.ofLine line) := by
  have hname : '\n' ∉ (Signature.ofLine line).name := by
    show '\n' ∉ Signature.readName line
    rcases Signature.hasWord_readName line with hn | hn
    · simp [hn]
    · exact fun hmem => hline (hn.subset hmem)
  have hparams : '\n' ∉ join ", ".toList (Signature.ofLine line).paramNames :=
    notMem_join (by decide) fun n hn hmem =>
      hline ((Signature.hasWord_of_mem_readParamNames hn).subset hmem)
  simp only [Settings.nativeCall, List.mem_append, List.mem_cons, h.interfaceName, h.libraryName,
    hname, hparams, or_false, false_or]
  decide

theorem WithinLines.methodLines (hline : '\n' ∉ line) :
    ∀ l ∈ s.methodLines line (Signature.ofLine line), IsCodeLine l := by
  have hdeclared : '\n' ∉ dropSemicolon line.strip := fun hn =>
    hline (((hasWord_dropSemicolon _).trans (hasWord_strip line)).subset hn)
  have hheader : IsCodeLine (methodHeader line) :=
    (IsCodeLine.append (by decide) hdeclared).append (by decide)
  have hcall : IsCodeLine (s.methodCall (Signature.ofLine line)) := by
    refine (IsCodeLine.append (by decide) ?_).append (h.nativeCall hline)
    split <;> decide
  simp only [Settings.methodLines, List.forall_mem_cons]
  exact ⟨hheader, hcall, by decide, by simp⟩

theorem WithinLines.interfaceLines {methods : List Text} (hmethods : ∀ m ∈ methods, '\n' ∉ m) :
    ∀ l ∈ s.interfaceLines methods, IsCodeLine l := by
  have hindent : IsCodeLine indent := by decide
  have hname : '\n' ∉ s.qualifiedName := by
    simp only [qualifiedName, List.mem_append, List.mem_cons, h.className, h.interfaceName]
    decide
  have hhead : ∀ l ∈ s.interfaceHead, IsCodeLine l := by
    have hlibrary : '\n' ∉ ' ' :: s.libraryName := by
      simp only [List.mem_cons, h.libraryName]
      decide
    rw [interfaceHead, List.forall_mem_cons, List.forall_mem_cons, List.forall_mem_singleton]
    exact ⟨(IsCodeLine.append (by decide) h.interfaceName).append (by decide),
      ((((hindent.append hname).append (by decide)).append hname).append (by decide)).append
        h.libraryName |>.append (by decide),
      ((((hindent.append hname).append hlibrary).append (by decide)).append hname).append
        (by decide)⟩
  rw [Settings.interfaceLines, List.forall_mem_append, List.forall_mem_append,
    List.forall_mem_map, List.forall_mem_singleton]
  exact ⟨⟨hhead, fun m hm => hindent.append (hmethods m hm)⟩, by decide⟩

theorem WithinLines.unitHead : ∀ l ∈ s.unitHead, '\n' ∉ l := by
  simp only [Settings.unitHead, List.forall_mem_cons, List.mem_append, h.package, h.className,
    or_false]
  decide

/-- The output of a run is cut at its line feeds into the lines of the file. -/
theorem WithinLines.splitOn_output :
    (s.generate typedefs declarations).output.splitOn '\n' =
      s.fileLines (s.generate typedefs declarations).lines := by
  generalize hlines : (s.generate typedefs declarations).lines = lines
  have hfree : ∀ line ∈ lines, '\n' ∉ line := hlines ▸ h.notMem_lines
  have hinterface : ∀ l ∈ s.interfaceLines (lines.map interfaceMethod), IsCodeLine l :=
    h.interfaceLines (List.forall_mem_map.2 fun line hline hmem =>
      hfree line hline ((hasWord_strip line).subset hmem))
  have hmethods : ∀ line ∈ lines, ∀ l ∈ s.methodLines line (Signature.ofLine line),
      IsCodeLine l := fun line hline => h.methodLines (hfree line hline)
  have hfile : ∀ l ∈ s.unitHead ++
      (s.interfaceLines (lines.map interfaceMethod)).map (indent ++ ·) ++
        lines.flatMap s.forwardingLines ++ ["\x7d".toList], '\n' ∉ l := by
    simp only [List.forall_mem_append, List.forall_mem_flatMap, forwardingLines,
      List.forall_mem_cons, List.forall_mem_map]
    exact ⟨⟨⟨h.unitHead, fun l hl => (hinterface l hl).notMem_indented⟩, fun line hline =>
      ⟨by simp, fun l hl => (hmethods line hline l hl).notMem_indented⟩⟩, by decide⟩
  have hforwarding : (lines.map fun line => s.forwardingMethod line (Signature.ofLine line)).flatMap
      (fun f => [] :: indented f) = lines.flatMap s.forwardingLines := by
    rw [List.flatMap_map, List.flatMap_def, List.flatMap_def]
    refine congrArg List.flatten (List.map_congr_left fun line hline => ?_)
    rw [forwardingMethod_eq, indented_block (s.methodLines_ne_nil _ _) (hmethods line hline)]
    rfl
  rw [output_generate, hlines, unit_eq, interface_eq,
    indented_block (s.interfaceLines_ne_nil _) hinterface, hforwarding, ← codeLines_eq_splitOn,
    codeLines_append, codeLines_block (by simp) hfile]
  rw [fileLines, List.append_assoc _ _ (codeLines [])]
  rfl

end

/-! ## Where the lines stand -/

/-- The lines of a file hold what the lines with Java types and their signatures come to, with
nothing lost, doubled or misplaced : nine lines, the methods of the interface and its end, and
then the forwarding methods, each behind an empty line. -/
structure LaidOut (s : Settings) (lines : List Text) (signatures : List Signature)
    (file : List Text) : Prop where
  length_signatures : signatures.length = lines.length
  length_file : file.length = 12 + 5 * lines.length
  method : ∀ k line, lines[k]? = some line → file[9 + k]? = some (indent ++ indent ++ line.strip)
  interfaceEnd : file[9 + lines.length]? = some (indent ++ "\x7d".toList)
  /-- The lines of a forwarding method are its header, its call and its end. -/
  forwarding : ∀ k line sig, lines[k]? = some line → signatures[k]? = some sig →
    (s.forwardingMethod line sig).splitOn '\n' =
        [methodHeader line, s.methodCall sig, "\x7d".toList] ∧
      (file.drop (10 + lines.length + 4 * k)).take 4 =
        [] :: ((s.forwardingMethod line sig).splitOn '\n').map (indent ++ ·)
  classEnd : file[10 + 5 * lines.length]? = some "\x7d".toList
  last : file[11 + 5 * lines.length]? = some []

/-- The methods of the interface can be read off the file. -/
theorem LaidOut.map_strip_eq {s s' : Settings} {lines lines' : List Text}
    {signatures signatures' : List Signature} {file : List Text}
    (h : s.LaidOut lines signatures file) (h' : s'.LaidOut lines' signatures' file) :
    lines'.map Text.strip = lines.map Text.strip := by
  have hlength : lines'.length = lines.length := by
    have := h.length_file.symm.trans h'.length_file
    omega
  refine List.ext_getElem (by simpa using hlength) fun k hk hk' => ?_
  rw [List.length_map] at hk hk'
  have hline := h.method k _ (List.getElem?_eq_getElem hk')
  have hline' := h'.method k _ (List.getElem?_eq_getElem hk)
  have hsame := Option.some.inj (hline'.symm.trans hline)
  simpa using List.append_cancel_left hsame

section

variable (s : Settings) (lines : List Text)

/-- The parts of a file : its head, the methods of the interface, and what is behind them. -/
theorem fileLines_eq : s.fileLines lines =
    (s.unitHead ++ s.interfaceHead.map (indent ++ ·)) ++
      (lines.map (fun line => indent ++ indent ++ line.strip) ++
        (indent ++ "\x7d".toList) :: (lines.flatMap s.forwardingLines ++ ["\x7d".toList, []])) := by
  simp only [fileLines, interfaceLines, List.map_append, List.map_map, List.append_assoc,
    List.map_cons, List.map_nil, List.singleton_append]
  rfl

theorem length_head : (s.unitHead ++ s.interfaceHead.map (indent ++ ·)).length = 9 := rfl

theorem length_flatMap_forwardingLines :
    (lines.flatMap s.forwardingLines).length = 4 * lines.length :=
  length_flatMap_of_length s.length_forwardingLines lines

theorem length_fileLines : (s.fileLines lines).length = 12 + 5 * lines.length := by
  rw [fileLines_eq, List.length_append, length_head]
  simp only [List.length_append, List.length_map, List.length_cons,
    length_flatMap_forwardingLines, List.length_nil]
  omega

theorem drop_head : (s.fileLines lines).drop 9 =
    lines.map (fun line => indent ++ indent ++ line.strip) ++
      (indent ++ "\x7d".toList) :: (lines.flatMap s.forwardingLines ++ ["\x7d".toList, []]) := by
  rw [fileLines_eq]
  exact List.drop_left' s.length_head

theorem drop_methods : (s.fileLines lines).drop (9 + lines.length) =
    (indent ++ "\x7d".toList) :: (lines.flatMap s.forwardingLines ++ ["\x7d".toList, []]) := by
  rw [← List.drop_drop, drop_head]
  exact List.drop_left' (List.length_map _)

theorem drop_interface : (s.fileLines lines).drop (10 + lines.length) =
    lines.flatMap s.forwardingLines ++ ["\x7d".toList, []] := by
  have hnext : 10 + lines.length = 9 + lines.length + 1 := by omega
  rw [hnext, ← List.drop_drop, drop_methods]
  rfl

theorem drop_forwarding :
    (s.fileLines lines).drop (10 + 5 * lines.length) = ["\x7d".toList, []] := by
  have hbehind : 10 + 5 * lines.length = 10 + lines.length + 4 * lines.length := by omega
  rw [hbehind, ← List.drop_drop, drop_interface]
  exact List.drop_left' (s.length_flatMap_forwardingLines lines)

end

section

variable {s : Settings} {typedefs declarations : List Text}

theorem WithinLines.laidOut (h : s.WithinLines typedefs declarations) :
    s.LaidOut (s.generate typedefs declarations).lines (s.generate typedefs declarations).signatures
      ((s.generate typedefs declarations).output.splitOn '\n') := by
  rw [h.splitOn_output, signatures_generate_eq]
  have hfree := h.notMem_lines
  generalize (s.generate typedefs declarations).lines = lines at hfree ⊢
  refine ⟨List.length_map _, s.length_fileLines lines, fun k line hk => ?_, ?_,
    fun k line sig hk hsig => ?_, ?_, ?_⟩
  · have hlt := (List.getElem?_eq_some_iff.1 hk).1
    rw [← List.getElem?_drop, drop_head, List.getElem?_append_left (by simpa using hlt),
      List.getElem?_map, hk]
    rfl
  · rw [← Nat.add_zero (9 + lines.length), ← List.getElem?_drop, drop_methods]
    rfl
  · obtain rfl : Signature.ofLine line = sig := by simpa [hk] using hsig
    have hsplit : (s.forwardingMethod line (Signature.ofLine line)).splitOn '\n' =
        s.methodLines line (Signature.ofLine line) := by
      rw [forwardingMethod_eq, ← codeLines_eq_splitOn]
      exact codeLines_block (s.methodLines_ne_nil _ _) fun l hl =>
        (h.methodLines (hfree line (List.mem_of_getElem? hk)) l hl).2
    refine ⟨hsplit, ?_⟩
    rw [hsplit, ← List.drop_drop, drop_interface]
    exact take_drop_flatMap s.length_forwardingLines hk _
  · rw [← Nat.add_zero (10 + 5 * lines.length), ← List.getElem?_drop, drop_forwarding]
    rfl
  · have hlast : 11 + 5 * lines.length = 10 + 5 * lines.length + 1 := by omega
    rw [hlast, ← List.getElem?_drop, drop_forwarding]
    rfl

/-- Where no line feed is given, the file of a run has its lines where they belong, and what the
lines with Java types are but for the blanks at their ends is known from the file. -/
theorem laidOut_generate (h : s.WithinLines typedefs declarations) :
    let g := s.generate typedefs declarations
    s.LaidOut g.lines g.signatures (g.output.splitOn '\n') ∧
      ∀ (s' : Settings) (typedefs' declarations' : List Text),
        s'.WithinLines typedefs' declarations' →
        (s'.generate typedefs' declarations').output = g.output →
        (s'.generate typedefs' declarations').lines.map Text.strip = g.lines.map Text.strip := by
  refine ⟨h.laidOut, fun s' typedefs' declarations' h' houtput => ?_⟩
  exact h.laidOut.map_strip_eq (houtput ▸ h'.laidOut)

/-- Blanks around a line and a blank line before it do not show in the file. -/
theorem laidOut_generate_spaced :
    let s : Settings := {}
    let typedefs := ["typedef int32 Date;".toList]
    let plain := ["Date at(char *s);".toList]
    let spaced := [" ".toList, "  Date at(char *s); ".toList]
    let g := s.generate typedefs plain
    s.WithinLines typedefs plain ∧ s.WithinLines typedefs spaced ∧
      (s.generate typedefs spaced).output = g.output ∧
      s.LaidOut g.lines g.signatures (g.output.splitOn '\n') ∧
      (s.generate typedefs spaced).lines.map Text.strip = g.lines.map Text.strip := by
  intro s typedefs plain spaced g
  have htargets : ∀ declarations, ∀ r ∈ (s.generate typedefs declarations).dictionary.rules,
      '\n' ∉ Rule.target r := fun _ => notMem_target_generate (by decide)
  have hplain : s.WithinLines typedefs plain :=
    ⟨by decide, by decide, by decide, by decide, by decide, htargets plain⟩
  have hspaced : s.WithinLines typedefs spaced :=
    ⟨by decide, by decide, by decide, by decide, by decide, htargets spaced⟩
  have houtput : (s.generate typedefs spaced).output = g.output := by decide +kernel
  exact ⟨hplain, hspaced, houtput, (laidOut_generate hplain).1,
    (laidOut_generate hplain).2 s typedefs spaced hspaced houtput⟩

end

end Settings

end HeaderBridge
