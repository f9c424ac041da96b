import HeaderBridge.Proofs.ConfigurationReading

/-!
# Values that a configuration has to have

The library, the files, the further rules and the directories of a configuration are attributes
that may not be missing or empty. Each of them is checked as it is written, and only then are
the blanks at its ends taken off (`readConfiguration_takes`). So no value of a configuration has
a blank at an end, but an attribute of blanks only passes the check and leaves an empty value
(`exists_blank_rule`).

`readConfiguration_required` says of which trees a configuration has an empty value, and which
have a rule with an empty raw token.
-/

namespace HeaderBridge

open Text

/-! ## Trimmed text -/

namespace Text

/-- No blank stands at an end of the text. -/
structure IsTrimmed (t : Text) : Prop where
  head : ∀ c ∈ t.head?, HeaderBridge.isBlank c = false
  last : ∀ c ∈ t.getLast?, HeaderBridge.isBlank c = false

theorem isTrimmed_iff (t : Text) : t.IsTrimmed ↔
    t.head?.all (fun c => !HeaderBridge.isBlank c) = true ∧
      t.getLast?.all (fun c => !HeaderBridge.isBlank c) = true := by
  have hall : ∀ o : Option Char, o.all (fun c => !HeaderBridge.isBlank c) = true ↔
      ∀ c ∈ o, HeaderBridge.isBlank c = false := by
    rintro (_ | c) <;> simp
  rw [hall, hall]
  exact ⟨fun h => ⟨h.head, h.last⟩, fun h => ⟨h.1, h.2⟩⟩

-- Through Booleans, so that it computes whatever else is imported.
instance (t : Text) : Decidable t.IsTrimmed := decidable_of_iff' _ (isTrimmed_iff t)

theorem not_isBlank_head_dropBlanks (t : Text) :
    ∀ c ∈ t.dropBlanks.head?, HeaderBridge.isBlank c = false := by
  intro c hc
  have hhead := List.head?_dropWhile_not HeaderBridge.isBlank t
  rw [show t.dropWhile HeaderBridge.isBlank = t.dropBlanks from rfl, hc] at hhead
  simpa using hhead

/-- Stripping leaves no blank at an end. -/
theorem isTrimmed_strip (t : Text) : t.strip.IsTrimmed where
  head c hc := by
    -- What is taken off the end leaves the front as it is.
    obtain ⟨e, -, he⟩ := exists_dropTrailingBlanks t.dropBlanks
    refine not_isBlank_head_dropBlanks t c ?_
    rw [← he, List.head?_append, show t.dropBlanks.dropTrailingBlanks.head? = some c from hc]
    rfl
  last c hc := by
    rw [strip, dropTrailingBlanks, List.getLast?_reverse] at hc
    exact not_isBlank_head_dropBlanks _ c hc

section

variable {ts : List Text} {o : Option Text} {t : Text}

theorem isTrimmed_of_mem_map_strip (h : t ∈ ts.map strip) : t.IsTrimmed := by
  obtain ⟨u, -, rfl⟩ := List.mem_map.1 h
  exact isTrimmed_strip u

/-- Stripped texts are not empty exactly if none of the texts is blank. -/
theorem forall_map_strip_ne_nil_iff :
    (∀ t ∈ ts.map strip, t ≠ []) ↔ ∀ t ∈ ts, t.isBlank = false := by
  simp [strip_eq_nil_iff]

theorem isTrimmed_getD_map_strip (ht : t.IsTrimmed) : ((o.map strip).getD t).IsTrimmed := by
  cases o with
  | none => exact ht
  | some u => exact isTrimmed_strip u

/-- A text that may be given, and is stripped then, is not empty exactly if it is not given as a
blank one. -/
theorem getD_map_strip_ne_nil_iff (ht : t ≠ []) :
    (o.map strip).getD t ≠ [] ↔ ∀ u ∈ o.toList, u.isBlank = false := by
  cases o <;> simp [strip_eq_nil_iff, ht]

end

end Text

/-! ## What is written in a tree -/

namespace Xml.Node

variable (root : Xml.Node)

/-- The value of an attribute of the first element with a tag, if the tree has such an
element. -/
def firstValue? (tag name : Text) : Option Text :=
  (root.element? tag).bind fun n => n.attribute? name

/-- The values of an attribute of the elements with a tag, in their order. -/
def values (tag name : Text) : List Text :=
  (root.elements tag).filterMap fun n => n.attribute? name

/-- The values of the attributes that may not be missing. -/
def requiredValues : List Text :=
  (requiredAttributes.flatMap fun e => (root.firstValue? e.1 e.2).toList) ++
    repeatedElements.flatMap fun e => e.2.flatMap (root.values e.1)

end Xml.Node

/-! ## What a configuration takes -/

namespace Configuration

variable (c : Configuration)

/-- The values that a configuration may not lack. -/
def required : List Text :=
  [c.settings.libraryName, c.paths.functions, c.paths.typedefs, c.paths.output] ++
    c.header.toList ++ c.settings.extraRules.map Rule.raw ++
      c.settings.extraRules.map Rule.target ++ c.includes

/-- The values are those that are written in the tree, without the blanks at their ends. Where
the tree has no element for a value, it is what it is by default. -/
structure Takes (root : Xml.Node) : Prop where
  libraryName : c.settings.libraryName =
    ((root.firstValue? "library".toList "name".toList).map strip).getD "meos".toList
  functions : c.paths.functions =
    ((root.firstValue? "functions".toList "file".toList).map strip).getD
      "tmp/functions.h".toList
  typedefs : c.paths.typedefs =
    ((root.firstValue? "typedefs".toList "file".toList).map strip).getD "tmp/types.h".toList
  output : c.paths.output =
    ((root.firstValue? "output".toList "file".toList).map strip).getD "../functions.java".toList
  header : c.header = (root.firstValue? "header".toList "file".toList).map strip
  raws : c.settings.extraRules.map Rule.raw =
    (root.values "type".toList "from".toList).map strip
  targets : c.settings.extraRules.map Rule.target =
    (root.values "type".toList "to".toList).map strip
  includes : c.includes =
    (root.values "include_directory".toList "path".toList).map strip

end Configuration

section

variable {root : Xml.Node} {c : Configuration}

/-- The value that an element gives is the one written in it, if it is the first with its tag. -/
theorem map_firstValue?_of_requiredAttribute {n : Xml.Node} {tag t : Text} {name : String}
    {e : ContentError} (hn : root.element? tag = some n)
    (h : requiredAttribute n name e = .ok t) :
    (root.firstValue? tag name.toList).map strip = some t := by
  obtain ⟨v, hv, -, rfl⟩ := requiredAttribute_eq_ok_iff.1 h
  rw [Xml.Node.firstValue?, hn, Option.bind_some, hv, Option.map_some]

theorem libraryName_of_readLibrary {s s' : Settings} (h : readLibrary root s = .ok s') :
    s'.libraryName =
      ((root.firstValue? "library".toList "name".toList).map strip).getD s.libraryName := by
  unfold readLibrary at h
  cases hn : root.element? "library".toList with
  | none =>
    obtain rfl := Except.ok.inj (hn ▸ h)
    rw [Xml.Node.firstValue?, hn]
    rfl
  | some n =>
    simp only [hn, bind_eq_ok_iff] at h
    obtain ⟨name, hname, hs⟩ := h
    rw [← Except.ok.inj hs, map_firstValue?_of_requiredAttribute hn hname]
    rfl

theorem eq_of_readFile? {e : FileElement} {path : Option Text} (h : readFile? root e = .ok path) :
    path = (root.firstValue? e.tag "file".toList).map strip := by
  unfold readFile? at h
  cases hn : root.element? e.tag with
  | none =>
    obtain rfl := Except.ok.inj (hn ▸ h)
    rw [Xml.Node.firstValue?, hn]
    rfl
  | some n =>
    simp only [hn, bind_eq_ok_iff] at h
    obtain ⟨t, ht, hpath⟩ := h
    rw [← Except.ok.inj hpath, map_firstValue?_of_requiredAttribute hn ht]

/-- The values that elements give are those written in them, if each gives one of its own. -/
theorem map_eq_map_strip {α : Type} {f : Xml.Node → Except ContentError α} (value : α → Text)
    {name : Text} (hf : ∀ n a, f n = .ok a → ∃ v, n.attribute? name = some v ∧ value a = v.strip)
    {ns : List Xml.Node} {as : List α} (h : ns.mapM f = .ok as) :
    as.map value = (ns.filterMap fun n => n.attribute? name).map strip := by
  have hall := mapM_eq_ok_iff.1 h
  clear h
  induction hall with
  | nil => rfl
  | cons ha _ ih =>
    obtain ⟨v, hv, hvalue⟩ := hf _ _ ha
    simp [hv, hvalue, ih]

/-- A tree that is read gives each value without the blanks at its ends. -/
theorem readConfiguration_takes (h : readConfiguration root = .ok c) : c.Takes root := by
  obtain ⟨-, settings, functions, typedefs, output, hlibrary, hfunctions, htypedefs, houtput,
    hheader, hrules, hincludes, hsettings, hpaths⟩ := readConfiguration_eq_ok_iff.1 h
  refine ⟨?_, ?_, ?_, ?_, eq_of_readFile? hheader, ?_, ?_, ?_⟩
  · rw [hsettings]
    exact libraryName_of_readLibrary hlibrary
  · rw [hpaths, eq_of_readFile? hfunctions]
    rfl
  · rw [hpaths, eq_of_readFile? htypedefs]
    rfl
  · rw [hpaths, eq_of_readFile? houtput]
    rfl
  · refine map_eq_map_strip Rule.raw (fun n r hr => ?_) hrules
    obtain ⟨raw, -, hraw, -, -, -, rfl⟩ := readRule_eq_ok_iff.1 hr
    exact ⟨raw, hraw, rfl⟩
  · refine map_eq_map_strip Rule.target (fun n r hr => ?_) hrules
    obtain ⟨-, target, -, htarget, -, -, rfl⟩ := readRule_eq_ok_iff.1 hr
    exact ⟨target, htarget, rfl⟩
  · refine (List.map_id c.includes).symm.trans (map_eq_map_strip id (fun n t ht => ?_) hincludes)
    obtain ⟨v, hv, -, rfl⟩ := requiredAttribute_eq_ok_iff.1 ht
    exact ⟨v, hv, rfl⟩

/-! ## Empty values -/

/-- The values that a configuration takes are trimmed. -/
theorem Configuration.Takes.isTrimmed (h : c.Takes root) : ∀ t ∈ c.required, t.IsTrimmed := by
  simp only [Configuration.required, List.forall_mem_append, List.forall_mem_cons,
    List.not_mem_nil, false_implies, implies_true, and_true]
  rw [h.libraryName, h.functions, h.typedefs, h.output, h.header, h.raws, h.targets, h.includes,
    Option.toList_map]
  exact ⟨⟨⟨⟨⟨isTrimmed_getD_map_strip (by decide), isTrimmed_getD_map_strip (by decide),
      isTrimmed_getD_map_strip (by decide), isTrimmed_getD_map_strip (by decide)⟩,
    fun _ => isTrimmed_of_mem_map_strip⟩, fun _ => isTrimmed_of_mem_map_strip⟩,
    fun _ => isTrimmed_of_mem_map_strip⟩, fun _ => isTrimmed_of_mem_map_strip⟩

/-- A configuration has an empty value exactly if one is written as blanks. -/
theorem Configuration.Takes.ne_nil_iff (h : c.Takes root) :
    (∀ t ∈ c.required, t ≠ []) ↔ ∀ v ∈ root.requiredValues, v.isBlank = false := by
  simp only [Configuration.required, Xml.Node.requiredValues, requiredAttributes,
    repeatedElements, List.flatMap_cons, List.flatMap_nil, List.append_nil,
    List.forall_mem_append, List.forall_mem_cons, List.not_mem_nil, false_implies, implies_true,
    and_true]
  rw [h.libraryName, h.functions, h.typedefs, h.output, h.header, h.raws, h.targets, h.includes,
    Option.toList_map]
  simp (disch := decide) only [getD_map_strip_ne_nil_iff, forall_map_strip_ne_nil_iff, and_assoc]

/-- In a configuration tree no value that may not be missing is written as an empty text. -/
theorem IsConfigurationTree.requiredValues_ne_nil (h : IsConfigurationTree root) :
    ∀ v ∈ root.requiredValues, v ≠ [] := by
  have hvalue : ∀ {n : Xml.Node} {name v : Text}, n.Has name → n.attribute? name = some v →
      v ≠ [] := by
    rintro n name v ⟨w, hw, hne⟩ hv
    rwa [Option.some.inj (hv.symm.trans hw)]
  intro v hv
  rcases List.mem_append.1 hv with hv | hv
  · obtain ⟨e, he, hv⟩ := List.mem_flatMap.1 hv
    obtain ⟨n, hn, hattribute⟩ := Option.bind_eq_some_iff.1 (Option.mem_toList.1 hv)
    exact hvalue (h.single e he n hn) hattribute
  · obtain ⟨e, he, hv⟩ := List.mem_flatMap.1 hv
    obtain ⟨name, hname, hv⟩ := List.mem_flatMap.1 hv
    obtain ⟨n, hn, hattribute⟩ := List.mem_filterMap.1 hv
    exact hvalue (h.repeated e he n hn name hname) hattribute

/-- A configuration takes its values from a tree in which none of them is written as an empty
text. No value has a blank at an end. None is empty exactly if none is written as blanks, and no
rule has an empty raw token exactly if none has one that is written as blanks. -/
theorem readConfiguration_required (h : readConfiguration root = .ok c) :
    c.Takes root ∧ (∀ v ∈ root.requiredValues, v ≠ []) ∧ (∀ t ∈ c.required, t.IsTrimmed) ∧
      ((∀ t ∈ c.required, t ≠ []) ↔ ∀ v ∈ root.requiredValues, v.isBlank = false) ∧
      ((∀ r ∈ c.settings.extraRules, Rule.raw r ≠ []) ↔
        ∀ v ∈ root.values "type".toList "from".toList, v.isBlank = false) := by
  have htakes := readConfiguration_takes h
  refine ⟨htakes, (exists_readConfiguration_iff.1 ⟨c, h⟩).requiredValues_ne_nil,
    htakes.isTrimmed, htakes.ne_nil_iff, ?_⟩
  rw [← forall_map_strip_ne_nil_iff, ← htakes.raws, List.forall_mem_map]

/-- A tree with a library, a rule and a directory, and with blanks in the place of a header. -/
def treeWithBlankHeader : Xml.Node :=
  .element "bindings".toList []
    [.element "library".toList [("name".toList, " png".toList)] [],
      .element "header".toList [("file".toList, "  ".toList)] [],
      .element "type".toList [("from".toList, "my_t ".toList), ("to".toList, "long".toList)] [],
      .element "include_directory".toList [("path".toList, " include ".toList)] []]

theorem readConfiguration_required_blankHeader :
    ∃ c, readConfiguration treeWithBlankHeader = .ok c ∧
      c.settings.libraryName = "png".toList ∧ c.header = some [] ∧
      (∀ t ∈ c.required, t.IsTrimmed) ∧ (¬ ∀ t ∈ c.required, t ≠ []) ∧
      ∀ r ∈ c.settings.extraRules, Rule.raw r ≠ [] := by
  obtain ⟨c, hc⟩ : ∃ c, readConfiguration treeWithBlankHeader = .ok c := ⟨_, rfl⟩
  obtain ⟨htakes, -, htrimmed, hne, hraws⟩ := readConfiguration_required hc
  exact ⟨c, hc, htakes.libraryName, htakes.header, htrimmed, mt hne.1 (by decide),
    hraws.2 (by decide)⟩

/-- A rule whose raw token is written as a blank is accepted. Its raw token is empty, and it puts
its target between the two blanks of a line. -/
theorem exists_blank_rule :
    ∃ root c, readConfiguration root = .ok c ∧ (∃ r ∈ c.settings.extraRules, Rule.raw r = []) ∧
      (¬ ∀ t ∈ c.required, t ≠ []) ∧
        c.settings.dictionary.substitute "int  f(int x);".toList = "int long f(int x);".toList :=
  ⟨.element "bindings".toList []
      [.element "type".toList [("from".toList, [' ']), ("to".toList, "long".toList)] []],
    _, rfl, ⟨_, List.mem_singleton_self _, rfl⟩, by decide, by decide +kernel⟩

end

end HeaderBridge
