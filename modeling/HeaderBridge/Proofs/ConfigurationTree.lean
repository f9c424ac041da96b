import HeaderBridge.Proofs.ConfigurationReading
import Mathlib.Logic.Relation

/-!
# What is read of a configuration tree

Of the root and of each element below it that counts a few attributes are read, and nothing
else. Two roots with the same tag that agree on these (`SameReading`) are the same
configuration, or refused for the same reason (`readConfiguration_congr`).

`ConfigurationEdit` lists what may be done to a tree without touching any of this, and
`readConfiguration_eqvGen` says that none of it matters, however often it is done and
undone. `readConfiguration_tree` adds which trees are read, and that all their rules and
directories are taken.
-/

namespace HeaderBridge

/-! ## What is read -/

/-- The attributes that are read of the root. -/
def rootAttributes : List Text := ["package".toList, "class".toList]

/-- The nodes have the same values of the attributes. -/
def Xml.Node.AgreeOn (names : List Text) (a b : Xml.Node) : Prop :=
  ∀ name ∈ names, a.attribute? name = b.attribute? name

/-- The roots agree on everything that is read of them. -/
structure SameReading (a b : Xml.Node) : Prop where
  tag : a.tag? = b.tag?
  attributes : Xml.Node.AgreeOn rootAttributes a b
  single : ∀ e ∈ singleElements,
    Option.Rel (Xml.Node.AgreeOn e.2) (a.element? e.1) (b.element? e.1)
  repeated : ∀ e ∈ repeatedElements,
    List.Forall₂ (Xml.Node.AgreeOn e.2) (a.elements e.1) (b.elements e.1)

/-! ## Reading depends on nothing else -/

theorem mapM_congr_forall₂ {α β ε : Type} {f : α → Except ε β} {as bs : List α}
    (h : List.Forall₂ (fun a b => f a = f b) as bs) : as.mapM f = bs.mapM f := by
  induction h with
  | nil => rfl
  | cons hab _ ih => rw [List.mapM_cons, List.mapM_cons, hab, ih]

section

variable {a b : Xml.Node}

theorem requiredAttribute_congr {name : String} {e : ContentError}
    (h : a.attribute? name.toList = b.attribute? name.toList) :
    requiredAttribute a name e = requiredAttribute b name e := by
  rw [requiredAttribute, requiredAttribute, h]

theorem attributeOr_congr {name : String} {default : Text}
    (h : a.attribute? name.toList = b.attribute? name.toList) :
    attributeOr a name default = attributeOr b name default := by
  rw [attributeOr, attributeOr, h]

theorem readRule_congr (h : Xml.Node.AgreeOn ["from".toList, "to".toList] a b) :
    readRule a = readRule b := by
  rw [readRule, readRule, h _ (by simp), h _ (by simp)]

theorem readLibrary_congr {s : Settings}
    (h : Option.Rel (Xml.Node.AgreeOn ["name".toList, "interface".toList])
      (a.element? "library".toList) (b.element? "library".toList)) :
    readLibrary a s = readLibrary b s := by
  rw [readLibrary, readLibrary]
  generalize a.element? "library".toList = x at h
  generalize b.element? "library".toList = y at h
  cases h with
  | none => rfl
  | some h =>
    simp only [requiredAttribute_congr (h _ (List.mem_cons_self ..)),
      attributeOr_congr (h "interface".toList (by simp))]

theorem readFile?_congr {e : FileElement}
    (h : Option.Rel (Xml.Node.AgreeOn ["file".toList]) (a.element? e.tag) (b.element? e.tag)) :
    readFile? a e = readFile? b e := by
  rw [readFile?, readFile?]
  generalize a.element? e.tag = x at h
  generalize b.element? e.tag = y at h
  cases h with
  | none => rfl
  | some h => simp only [requiredAttribute_congr (h _ (List.mem_cons_self ..))]

/-- What is read of a tree is its reading and nothing else. -/
theorem readConfiguration_congr (h : SameReading a b) :
    readConfiguration a = readConfiguration b := by
  have hlibrary : ∀ s, readLibrary a s = readLibrary b s := fun s =>
    readLibrary_congr (h.single ("library".toList, _) (List.mem_cons_self ..))
  have hfile : ∀ e, readFile? a e = readFile? b e := fun e =>
    readFile?_congr (h.single (e.tag, ["file".toList]) (by cases e <;> decide))
  have hrules : (a.elements "type".toList).mapM readRule =
      (b.elements "type".toList).mapM readRule :=
    mapM_congr_forall₂ ((h.repeated ("type".toList, _) (List.mem_cons_self ..)).imp
      fun _ _ => readRule_congr)
  have hincludes : ((a.elements "include_directory".toList).mapM fun n =>
        requiredAttribute n "path" .includeWithoutPath) =
      (b.elements "include_directory".toList).mapM fun n =>
        requiredAttribute n "path" .includeWithoutPath :=
    mapM_congr_forall₂ ((h.repeated ("include_directory".toList, ["path".toList])
      (by decide)).imp fun _ _ hagree => requiredAttribute_congr (hagree _ (by simp)))
  have hpackage : ∀ t, attributeOr a "package" t = attributeOr b "package" t := fun t =>
    attributeOr_congr (h.attributes _ (by decide))
  have hclass : ∀ t, attributeOr a "class" t = attributeOr b "class" t := fun t =>
    attributeOr_congr (h.attributes _ (by decide))
  unfold readConfiguration
  rw [h.tag]
  dsimp only
  rw [hpackage, hclass, hlibrary, hfile, hfile, hfile, hfile, hrules, hincludes]

end

/-! ## Edits -/

/-- The tag, if the node has one, is none of those that are read. -/
def Xml.Node.IsIgnored (n : Xml.Node) : Prop :=
  ∀ e ∈ singleElements ++ repeatedElements, n.tag? ≠ some e.1

/-- What may be done to a tree without a change to its configuration. -/
inductive ConfigurationEdit : Xml.Node → Xml.Node → Prop
  /-- The children stand in another order, those with the same tag in the order they had. -/
  | rearrange (tag : Text) (attributes : List (Text × Text)) {a b : List Xml.Node}
    (hperm : a.Perm b)
    (horder : ∀ k, a.filter (fun n => n.tag? = some k) = b.filter fun n => n.tag? = some k) :
    ConfigurationEdit (.element tag attributes a) (.element tag attributes b)
  /-- Text comes in, or an element with a tag that is not read. -/
  | insert (tag : Text) (attributes : List (Text × Text)) (a b : List Xml.Node) {n : Xml.Node}
    (h : n.IsIgnored) :
    ConfigurationEdit (.element tag attributes (a ++ b)) (.element tag attributes (a ++ n :: b))
  /-- A child gets other nodes inside it. -/
  | content (tag : Text) (attributes : List (Text × Text)) (a b : List Xml.Node) (k : Text)
    (as : List (Text × Text)) (before after : List Xml.Node) :
    ConfigurationEdit (.element tag attributes (a ++ .element k as before :: b))
      (.element tag attributes (a ++ .element k as after :: b))
  /-- The root gets an attribute that is not read. -/
  | rootAttribute (tag : Text) (as bs : List (Text × Text)) (children : List Xml.Node)
    {name : Text} (v : Text) (h : name ∉ rootAttributes) :
    ConfigurationEdit (.element tag (as ++ bs) children)
      (.element tag (as ++ (name, v) :: bs) children)
  /-- A child gets an attribute that is not read of it. -/
  | childAttribute (tag : Text) (attributes : List (Text × Text)) (a b : List Xml.Node)
    {k : Text} (as bs : List (Text × Text)) (children : List Xml.Node) {name : Text} (v : Text)
    (h : ∀ e ∈ singleElements ++ repeatedElements, e.1 = k → name ∉ e.2) :
    ConfigurationEdit (.element tag attributes (a ++ .element k (as ++ bs) children :: b))
      (.element tag attributes (a ++ .element k (as ++ (name, v) :: bs) children :: b))
  /-- An element of which the first counts comes in behind one with its tag. -/
  | further (tag : Text) (attributes : List (Text × Text)) (a b : List Xml.Node)
    {e : Text × List Text} {first n : Xml.Node} (he : e ∈ singleElements)
    (hfirst : first ∈ a) (hfirstTag : first.tag? = some e.1) (hn : n.tag? = some e.1) :
    ConfigurationEdit (.element tag attributes (a ++ b)) (.element tag attributes (a ++ n :: b))

namespace Xml.Node

theorem AgreeOn.refl (names : List Text) (n : Xml.Node) : AgreeOn names n n := fun _ _ => rfl

theorem AgreeOn.forall₂_refl (names : List Text) (l : List Xml.Node) :
    List.Forall₂ (AgreeOn names) l l :=
  List.forall₂_same.2 fun n _ => .refl names n

/-- An attribute with another name is not found. -/
theorem attribute?_insert {name name' : Text} (h : name ≠ name') (tag : Text)
    (as bs : List (Text × Text)) (v : Text) (children : List Xml.Node) :
    (element tag (as ++ (name, v) :: bs) children).attribute? name' =
      (element tag (as ++ bs) children).attribute? name' := by
  simp [attribute?, List.find?_append, List.find?_cons_of_neg, h]

theorem agreeOn_insert {names : List Text} {name : Text} (h : name ∉ names) (tag : Text)
    (as bs : List (Text × Text)) (v : Text) (children : List Xml.Node) :
    AgreeOn names (element tag (as ++ bs) children)
      (element tag (as ++ (name, v) :: bs) children) := fun _ hname' =>
  (attribute?_insert (ne_of_mem_of_not_mem hname' h).symm tag as bs v children).symm

theorem elements_middle (tag : Text) (attributes : List (Text × Text)) (a b : List Xml.Node)
    (n : Xml.Node) (k : Text) :
    (element tag attributes (a ++ n :: b)).elements k =
      (element tag attributes a).elements k ++
        ((if n.tag? = some k then [n] else []) ++ (element tag attributes b).elements k) := by
  rw [elements_append]
  congr 1
  by_cases hn : n.tag? = some k <;> simp [elements, children, hn]

/-- The children with a tag are not changed by a node without it. -/
theorem elements_insert_of_ne {n : Xml.Node} {k : Text} (h : n.tag? ≠ some k) (tag : Text)
    (attributes : List (Text × Text)) (a b : List Xml.Node) :
    (element tag attributes (a ++ n :: b)).elements k =
      (element tag attributes (a ++ b)).elements k := by
  rw [elements_middle, if_neg h, elements_append, List.nil_append]

/-- The first child with a tag hides those behind it. -/
theorem element?_insert_of_mem {first n : Xml.Node} {k : Text} {a : List Xml.Node}
    (hfirst : first ∈ a) (h : first.tag? = some k) (tag : Text)
    (attributes : List (Text × Text)) (b : List Xml.Node) :
    (element tag attributes (a ++ n :: b)).element? k =
      (element tag attributes (a ++ b)).element? k := by
  have hmem : first ∈ (element tag attributes a).elements k :=
    List.mem_filter.2 ⟨hfirst, by simpa using h⟩
  obtain ⟨x, xs, hx⟩ := List.exists_cons_of_ne_nil (List.ne_nil_of_mem hmem)
  rw [element?_append, element?_append, element?, hx]
  rfl

end Xml.Node

theorem rel_head?_of_forall₂ {α β : Type} {R : α → β → Prop} {l : List α} {m : List β}
    (h : List.Forall₂ R l m) : Option.Rel R l.head? m.head? := by
  cases h with
  | nil => exact .none
  | cons hab _ => exact .some hab

namespace SameReading

/-- Roots that agree on themselves agree if their children do, tag by tag. -/
theorem of_forall₂ {a b : Xml.Node} (htag : a.tag? = b.tag?)
    (hattributes : Xml.Node.AgreeOn rootAttributes a b)
    (h : ∀ e ∈ singleElements ++ repeatedElements,
      List.Forall₂ (Xml.Node.AgreeOn e.2) (a.elements e.1) (b.elements e.1)) :
    SameReading a b where
  tag := htag
  attributes := hattributes
  single e he := rel_head?_of_forall₂ (h e (List.mem_append_left _ he))
  repeated e he := h e (List.mem_append_right _ he)

/-- Roots that agree on themselves agree if they have the same children of each tag that is
read. -/
theorem of_elements_eq {a b : Xml.Node} (htag : a.tag? = b.tag?)
    (hattributes : Xml.Node.AgreeOn rootAttributes a b)
    (h : ∀ e ∈ singleElements ++ repeatedElements, a.elements e.1 = b.elements e.1) :
    SameReading a b :=
  .of_forall₂ htag hattributes fun e he => by
    rw [h e he]
    exact Xml.Node.AgreeOn.forall₂_refl e.2 _

variable {tag : Text} {attributes : List (Text × Text)} {a b : List Xml.Node}

/-- Roots agree if a child is replaced by one with its tag that agrees with it. -/
theorem of_replace {n n' : Xml.Node} (htag : n.tag? = n'.tag?)
    (h : ∀ e ∈ singleElements ++ repeatedElements, n.tag? = some e.1 →
      Xml.Node.AgreeOn e.2 n n') :
    SameReading (.element tag attributes (a ++ n :: b))
      (.element tag attributes (a ++ n' :: b)) :=
  .of_forall₂ rfl (fun _ _ => rfl) fun e he => by
    have hsame := Xml.Node.AgreeOn.forall₂_refl e.2
    rw [Xml.Node.elements_middle, Xml.Node.elements_middle, ← htag]
    refine List.rel_append (hsame _) (List.rel_append ?_ (hsame _))
    by_cases hn : n.tag? = some e.1
    · rw [if_pos hn, if_pos hn]
      exact .cons (h e he hn) .nil
    · rw [if_neg hn, if_neg hn]
      exact .nil

/-- Roots agree if one has a child more behind one with the same tag, of which the first
counts. -/
theorem of_further {e : Text × List Text} {first n : Xml.Node} (he : e ∈ singleElements)
    (hfirst : first ∈ a) (hfirstTag : first.tag? = some e.1) (hn : n.tag? = some e.1) :
    SameReading (.element tag attributes (a ++ b)) (.element tag attributes (a ++ n :: b)) where
  tag := rfl
  attributes _ _ := rfl
  single e' _ := by
    -- With its own tag the new child is hidden by the first one, with any other it is not seen.
    have heq : (Xml.Node.element tag attributes (a ++ n :: b)).element? e'.1 =
        (Xml.Node.element tag attributes (a ++ b)).element? e'.1 := by
      by_cases hne : n.tag? = some e'.1
      · exact Xml.Node.element?_insert_of_mem hfirst (hfirstTag.trans (hn.symm.trans hne)) ..
      · rw [Xml.Node.element?, Xml.Node.elements_insert_of_ne hne, Xml.Node.element?]
    rw [heq]
    cases (Xml.Node.element tag attributes (a ++ b)).element? e'.1 with
    | none => exact .none
    | some m => exact .some (.refl e'.2 m)
  repeated e' he' := by
    have hdistinct : ∀ e ∈ singleElements, ∀ e' ∈ repeatedElements, e.1 ≠ e'.1 := by decide
    have hne : n.tag? ≠ some e'.1 := by
      rw [hn]
      exact fun h => hdistinct e he e' he' (Option.some.inj h)
    rw [Xml.Node.elements_insert_of_ne hne]
    exact Xml.Node.AgreeOn.forall₂_refl e'.2 _

end SameReading

/-- An edit leaves everything that is read. -/
theorem ConfigurationEdit.sameReading {a b : Xml.Node} (h : ConfigurationEdit a b) :
    SameReading a b := by
  cases h with
  | rearrange tag attributes hperm horder =>
    exact .of_elements_eq rfl (fun _ _ => rfl) fun e _ => horder e.1
  | insert tag attributes a b h =>
    exact .of_elements_eq rfl (fun _ _ => rfl) fun e he =>
      (Xml.Node.elements_insert_of_ne (h e he) tag attributes a b).symm
  | content tag attributes a b k as before after => exact .of_replace rfl fun _ _ _ _ _ => rfl
  | rootAttribute tag as bs children v h =>
    exact .of_elements_eq rfl (Xml.Node.agreeOn_insert h tag as bs v children) fun _ _ => rfl
  | childAttribute tag attributes a b as bs children v h =>
    exact .of_replace rfl fun e he hk =>
      Xml.Node.agreeOn_insert (h e he (Option.some.inj hk).symm) _ as bs v children
  | further tag attributes a b he hfirst hfirstTag hn =>
    exact .of_further he hfirst hfirstTag hn

/-- Trees that edits lead to from one another, with any of them undone, are the same
configuration, or refused for the same reason. -/
theorem readConfiguration_eqvGen {a b : Xml.Node} (h : Relation.EqvGen ConfigurationEdit a b) :
    readConfiguration a = readConfiguration b := by
  induction h with
  | rel a b hedit => exact readConfiguration_congr hedit.sameReading
  | refl a => rfl
  | symm a b _ ih => exact ih.symm
  | trans a b c _ _ hab hbc => exact hab.trans hbc

/-! ## The configuration of a tree -/

/-- No edit of a tree that leaves what is read makes another configuration or another refusal
of it. A tree is read exactly if no element that counts lacks anything, and then all elements
with a further rule and all with a directory are taken, in their order. -/
theorem readConfiguration_tree :
    (∀ a b, Relation.EqvGen ConfigurationEdit a b →
      readConfiguration a = readConfiguration b) ∧
      (∀ root, (∃ c, readConfiguration root = .ok c) ↔ IsConfigurationTree root) ∧
      ∀ root c, readConfiguration root = .ok c →
        List.Forall₂ (fun n r => ∃ raw target : Text, n.attribute? "from".toList = some raw ∧
            n.attribute? "to".toList = some target ∧ raw ≠ [] ∧ target ≠ [] ∧
            r = (raw.strip, target.strip))
          (root.elements "type".toList) c.settings.extraRules ∧
        List.Forall₂ (fun n t => ∃ v : Text, n.attribute? "path".toList = some v ∧ v ≠ [] ∧
            t = v.strip)
          (root.elements "include_directory".toList) c.includes := by
  refine ⟨fun _ _ => readConfiguration_eqvGen, fun _ => exists_readConfiguration_iff,
    fun root c h => ?_⟩
  obtain ⟨-, _, _, _, _, -, -, -, -, -, hrules, hincludes, -⟩ := readConfiguration_eq_ok_iff.1 h
  exact ⟨(mapM_eq_ok_iff.1 hrules).imp fun _ _ => readRule_eq_ok_iff.1,
    (mapM_eq_ok_iff.1 hincludes).imp fun _ _ => requiredAttribute_eq_ok_iff.1⟩

/-- A library with a name. -/
def sampleLibrary : Xml.Node := .element "library".toList [("name".toList, "png".toList)] []

/-- A rule for a type. -/
def sampleRule : Xml.Node :=
  .element "type".toList [("from".toList, "my_t".toList), ("to".toList, " long".toList)] []

/-- A tree with a library and a further rule. -/
def sampleTree : Xml.Node := .element "bindings".toList [] [sampleLibrary, sampleRule]

/-- The rule stands before the library, and a library without a name behind it. -/
def editedTree : Xml.Node :=
  .element "bindings".toList [] [sampleRule, sampleLibrary, .element "library".toList [] []]

theorem eqvGen_sampleTree : Relation.EqvGen ConfigurationEdit sampleTree editedTree := by
  have horder : ∀ k, [sampleLibrary, sampleRule].filter (fun n => n.tag? = some k) =
      [sampleRule, sampleLibrary].filter fun n => n.tag? = some k := by
    intro k
    have htags : sampleLibrary.tag? ≠ sampleRule.tag? := by decide
    by_cases hlibrary : sampleLibrary.tag? = some k
    · have hrule : sampleRule.tag? ≠ some k := fun h => htags (hlibrary.trans h.symm)
      simp [hlibrary, hrule]
    · simp [List.filter_cons, hlibrary]
  exact .trans _ _ _ (.rel _ _ (.rearrange _ _ (.swap ..) horder))
    (.rel _ _ (.further _ _ [sampleRule, sampleLibrary] [] (List.mem_cons_self ..)
      (List.mem_cons_of_mem _ (List.mem_cons_self ..)) rfl rfl))

theorem readConfiguration_tree_sample :
    Relation.EqvGen ConfigurationEdit sampleTree editedTree ∧
      readConfiguration sampleTree = readConfiguration editedTree ∧
      ∃ c, readConfiguration editedTree = .ok c ∧ c.settings.extraRules.length = 1 := by
  refine ⟨eqvGen_sampleTree, readConfiguration_tree.1 _ _ eqvGen_sampleTree, _, rfl, ?_⟩
  exact (readConfiguration_tree.2.2 editedTree _ rfl).1.length_eq.symm

end HeaderBridge
