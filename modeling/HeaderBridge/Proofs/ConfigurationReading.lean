import HeaderBridge.Configuration
import Mathlib.Data.List.Forall2

/-!
# Which trees are configurations

Of the elements below the root some may stand there once, and the first of them counts, and
some are taken each time that they stand there, in their order (`singleElements`,
`repeatedElements`). Some of their attributes may not be missing or empty.

A tree is a configuration exactly if no element that counts lacks what it may not lack
(`exists_readConfiguration_iff`), and `readConfiguration_eq_ok_iff` says what it says then.
-/

namespace HeaderBridge

/-! ## What succeeds -/

theorem mapM_eq_ok_iff {α β ε : Type} {f : α → Except ε β} {as : List α} {bs : List β} :
    as.mapM f = .ok bs ↔ List.Forall₂ (fun a b => f a = .ok b) as bs := by
  induction as generalizing bs with
  | nil =>
    rw [List.mapM_nil, List.forall₂_nil_left_iff]
    exact ⟨fun h => (Except.ok.inj h).symm, fun h => h ▸ rfl⟩
  | cons a as ih =>
    simp only [List.mapM_cons, bind_eq_ok_iff, ih]
    constructor
    · rintro ⟨b, hb, bs', hbs, h⟩
      obtain rfl := Except.ok.inj h
      exact .cons hb hbs
    · rintro (_ | ⟨hb, hbs⟩)
      exact ⟨_, hb, _, hbs, rfl⟩

theorem exists_mapM_iff {α β ε : Type} {f : α → Except ε β} {as : List α} :
    (∃ bs, as.mapM f = .ok bs) ↔ ∀ a ∈ as, ∃ b, f a = .ok b := by
  simp only [mapM_eq_ok_iff]
  induction as with
  | nil => simp
  | cons a as ih =>
    rw [List.forall_mem_cons, ← ih]
    constructor
    · rintro ⟨_, _ | ⟨hb, hbs⟩⟩
      exact ⟨⟨_, hb⟩, _, hbs⟩
    · rintro ⟨⟨b, hb⟩, bs, hbs⟩
      exact ⟨b :: bs, .cons hb hbs⟩

/-! ## What a configuration says -/

theorem requiredAttribute_eq_ok_iff {n : Xml.Node} {name : String} {e : ContentError}
    {t : Text} :
    requiredAttribute n name e = .ok t ↔
      ∃ v, n.attribute? name.toList = some v ∧ v ≠ [] ∧ t = v.strip := by
  unfold requiredAttribute
  cases n.attribute? name.toList with
  | none => simp
  | some v => cases v <;> simp [eq_comm (a := t)]

theorem readRule_eq_ok_iff {n : Xml.Node} {r : Rule} :
    readRule n = .ok r ↔ ∃ raw target, n.attribute? "from".toList = some raw ∧
      n.attribute? "to".toList = some target ∧ raw ≠ [] ∧ target ≠ [] ∧
      r = (raw.strip, target.strip) := by
  unfold readRule
  cases n.attribute? "from".toList with
  | none => simp
  | some raw =>
    cases n.attribute? "to".toList with
    | none => simp
    | some target =>
      cases raw <;> cases target <;> simp [eq_comm (a := r)]

/-- A tree is read exactly if each part of it is, and it says what its parts say. -/
theorem readConfiguration_eq_ok_iff {root : Xml.Node} {c : Configuration} :
    readConfiguration root = .ok c ↔
      root.tag?.getD [] = "bindings".toList ∧
      ∃ settings functions typedefs output,
        readLibrary root
          { package := attributeOr root "package" ({} : Settings).package
            className := attributeOr root "class" ({} : Settings).className } = .ok settings ∧
        readFile? root .functions = .ok functions ∧
        readFile? root .typedefs = .ok typedefs ∧
        readFile? root .output = .ok output ∧
        readFile? root .header = .ok c.header ∧
        (root.elements "type".toList).mapM readRule = .ok c.settings.extraRules ∧
        ((root.elements "include_directory".toList).mapM fun n =>
          requiredAttribute n "path" .includeWithoutPath) = .ok c.includes ∧
        c.settings = { settings with extraRules := c.settings.extraRules } ∧
        c.paths = ⟨functions.getD ({} : FilePaths).functions,
          typedefs.getD ({} : FilePaths).typedefs, output.getD ({} : FilePaths).output⟩ := by
  unfold readConfiguration
  dsimp only
  by_cases htag : root.tag?.getD [] = "bindings".toList
  · rw [if_neg (not_not_intro htag)]
    simp only [bind_eq_ok_iff]
    constructor
    · rintro ⟨settings, hlibrary, functions, hfunctions, typedefs, htypedefs, output, houtput,
        header, hheader, rules, hrules, includes, hincludes, hc⟩
      obtain rfl := Except.ok.inj hc
      exact ⟨htag, settings, functions, typedefs, output, hlibrary, hfunctions, htypedefs,
        houtput, hheader, hrules, hincludes, rfl, rfl⟩
    · rintro ⟨-, settings, functions, typedefs, output, hlibrary, hfunctions, htypedefs,
        houtput, hheader, hrules, hincludes, hsettings, hpaths⟩
      refine ⟨settings, hlibrary, functions, hfunctions, typedefs, htypedefs, output, houtput,
        _, hheader, _, hrules, _, hincludes, congrArg Except.ok ?_⟩
      rw [← hpaths, ← hsettings]
  · rw [if_pos htag]
    exact iff_of_false (fun h => nomatch h) fun h => htag h.1

/-! ## Which trees are read -/

/-- The elements of which the first counts, with the attributes that are read of them. -/
def singleElements : List (Text × List Text) :=
  [("library".toList, ["name".toList, "interface".toList]),
   ("functions".toList, ["file".toList]), ("typedefs".toList, ["file".toList]),
   ("output".toList, ["file".toList]), ("header".toList, ["file".toList])]

/-- The elements that are taken each time, with the attributes that are read of them. -/
def repeatedElements : List (Text × List Text) :=
  [("type".toList, ["from".toList, "to".toList]), ("include_directory".toList, ["path".toList])]

/-- The attribute that an element of which the first counts may not lack. -/
def requiredAttributes : List (Text × Text) :=
  [("library".toList, "name".toList), ("functions".toList, "file".toList),
   ("typedefs".toList, "file".toList), ("output".toList, "file".toList),
   ("header".toList, "file".toList)]

/-- The attribute is there and not empty. -/
def Xml.Node.Has (n : Xml.Node) (name : Text) : Prop :=
  ∃ v, n.attribute? name = some v ∧ v ≠ []

/-- No element that counts lacks what it may not lack. -/
structure IsConfigurationTree (root : Xml.Node) : Prop where
  tag : root.tag?.getD [] = "bindings".toList
  single : ∀ e ∈ requiredAttributes, ∀ n, root.element? e.1 = some n → n.Has e.2
  repeated : ∀ e ∈ repeatedElements, ∀ n ∈ root.elements e.1, ∀ name ∈ e.2, n.Has name

theorem exists_requiredAttribute_iff {n : Xml.Node} {name : String} {e : ContentError} :
    (∃ t, requiredAttribute n name e = .ok t) ↔ n.Has name.toList := by
  constructor
  · rintro ⟨t, ht⟩
    obtain ⟨v, hv, hne, -⟩ := requiredAttribute_eq_ok_iff.1 ht
    exact ⟨v, hv, hne⟩
  · rintro ⟨v, hv, hne⟩
    exact ⟨v.strip, requiredAttribute_eq_ok_iff.2 ⟨v, hv, hne, rfl⟩⟩

theorem exists_readRule_iff {n : Xml.Node} :
    (∃ r, readRule n = .ok r) ↔ n.Has "from".toList ∧ n.Has "to".toList := by
  constructor
  · rintro ⟨r, hr⟩
    obtain ⟨raw, target, hraw, htarget, hrawNe, htargetNe, -⟩ := readRule_eq_ok_iff.1 hr
    exact ⟨⟨raw, hraw, hrawNe⟩, target, htarget, htargetNe⟩
  · rintro ⟨⟨raw, hraw, hrawNe⟩, target, htarget, htargetNe⟩
    exact ⟨_, readRule_eq_ok_iff.2 ⟨raw, target, hraw, htarget, hrawNe, htargetNe, rfl⟩⟩

theorem exists_readLibrary_iff {root : Xml.Node} {s : Settings} :
    (∃ s', readLibrary root s = .ok s') ↔
      ∀ n, root.element? "library".toList = some n → n.Has "name".toList := by
  unfold readLibrary
  cases root.element? "library".toList with
  | none => simp
  | some n =>
    simp only [bind_eq_ok_iff, Option.some.injEq, forall_eq']
    rw [← exists_requiredAttribute_iff]
    exact ⟨fun ⟨_, name, h, _⟩ => ⟨name, h⟩, fun ⟨name, h⟩ => ⟨_, name, h, rfl⟩⟩

theorem exists_readFile?_iff {root : Xml.Node} {e : FileElement} :
    (∃ path, readFile? root e = .ok path) ↔
      ∀ n, root.element? e.tag = some n → n.Has "file".toList := by
  unfold readFile?
  cases root.element? e.tag with
  | none => simp
  | some n =>
    simp only [bind_eq_ok_iff, Option.some.injEq, forall_eq']
    rw [← exists_requiredAttribute_iff]
    exact ⟨fun ⟨_, path, h, _⟩ => ⟨path, h⟩, fun ⟨path, h⟩ => ⟨_, path, h, rfl⟩⟩

/-- No element that counts lacks anything exactly if each part of the tree is read. -/
theorem isConfigurationTree_iff {root : Xml.Node} :
    IsConfigurationTree root ↔ root.tag?.getD [] = "bindings".toList ∧
      (∀ s, ∃ s', readLibrary root s = .ok s') ∧
      (∀ e, ∃ path, readFile? root e = .ok path) ∧
      (∃ rules, (root.elements "type".toList).mapM readRule = .ok rules) ∧
      ∃ includes, ((root.elements "include_directory".toList).mapM fun n =>
        requiredAttribute n "path" .includeWithoutPath) = .ok includes := by
  constructor
  · rintro ⟨htag, hsingle, hrepeated⟩
    have htype := hrepeated ("type".toList, ["from".toList, "to".toList]) (by decide)
    have hdirectory := hrepeated ("include_directory".toList, ["path".toList]) (by decide)
    refine ⟨htag, fun s => ?_, fun e => ?_, ?_, ?_⟩
    · exact exists_readLibrary_iff.2 (hsingle ("library".toList, "name".toList) (by decide))
    · exact exists_readFile?_iff.2 (hsingle (e.tag, "file".toList) (by cases e <;> decide))
    · exact exists_mapM_iff.2 fun n hn => exists_readRule_iff.2
        ⟨htype n hn _ (by simp), htype n hn _ (by simp)⟩
    · exact exists_mapM_iff.2 fun n hn => exists_requiredAttribute_iff.2
        (hdirectory n hn _ (by simp))
  · rintro ⟨htag, hlibrary, hfile, hrules, hincludes⟩
    refine ⟨htag, ?_, ?_⟩
    · simp only [requiredAttributes, List.forall_mem_cons, List.not_mem_nil, false_implies,
        implies_true, and_true]
      exact ⟨exists_readLibrary_iff.1 (hlibrary {}), exists_readFile?_iff.1 (hfile .functions),
        exists_readFile?_iff.1 (hfile .typedefs), exists_readFile?_iff.1 (hfile .output),
        exists_readFile?_iff.1 (hfile .header)⟩
    · simp only [repeatedElements, List.forall_mem_cons, List.not_mem_nil, false_implies,
        implies_true, and_true]
      exact ⟨fun n hn => exists_readRule_iff.1 (exists_mapM_iff.1 hrules n hn),
        fun n hn => exists_requiredAttribute_iff.1 (exists_mapM_iff.1 hincludes n hn)⟩

/-- A tree is read exactly if no element that counts lacks what it may not lack. -/
theorem exists_readConfiguration_iff {root : Xml.Node} :
    (∃ c, readConfiguration root = .ok c) ↔ IsConfigurationTree root := by
  rw [isConfigurationTree_iff]
  constructor
  · rintro ⟨c, hc⟩
    obtain ⟨htag, settings, functions, typedefs, output, hlibrary, hfunctions, htypedefs,
      houtput, hheader, hrules, hincludes, -, -⟩ := readConfiguration_eq_ok_iff.1 hc
    refine ⟨htag, fun s => ?_, fun e => ?_, ⟨_, hrules⟩, _, hincludes⟩
    · exact exists_readLibrary_iff.2 (exists_readLibrary_iff.1 ⟨_, hlibrary⟩)
    · cases e with
      | functions => exact ⟨_, hfunctions⟩
      | typedefs => exact ⟨_, htypedefs⟩
      | output => exact ⟨_, houtput⟩
      | header => exact ⟨_, hheader⟩
  · rintro ⟨htag, hlibrary, hfile, ⟨rules, hrules⟩, includes, hincludes⟩
    obtain ⟨settings, hlibrary⟩ := hlibrary _
    obtain ⟨functions, hfunctions⟩ := hfile .functions
    obtain ⟨typedefs, htypedefs⟩ := hfile .typedefs
    obtain ⟨output, houtput⟩ := hfile .output
    obtain ⟨header, hheader⟩ := hfile .header
    exact ⟨⟨{ settings with extraRules := rules }, _, header, includes⟩,
      readConfiguration_eq_ok_iff.2 ⟨htag, settings, functions, typedefs, output, hlibrary,
        hfunctions, htypedefs, houtput, hheader, hrules, hincludes, rfl, rfl⟩⟩

end HeaderBridge
