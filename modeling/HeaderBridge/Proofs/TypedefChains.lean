import HeaderBridge.HeaderUnit
import HeaderBridge.Proofs.Typedefs
import Mathlib.Data.List.Induction
import Mathlib.Data.List.Nodup
import Mathlib.Logic.ExistsUnique

/-!
# Chains of typedefs

A typedef is resolved by one look at the dictionary as it stands, but the typedefs before
it have been resolved by then. So what an alias resolves to is what the type at the end of
its chain resolved to before all typedefs : `resolve_registerAll` says this of any
typedefs, with `follow` for the way back through them.

If the typedefs come in their order (`InOrder`), the end of the chain is the root of the
alias (`rootOf_follow`), and there is no other root (`RootOf.unique`). No target then has a
rule that changes it (`InOrder.settled`), so the rules make of a token in one go what it
resolves to, and nothing else in a second go (`Dictionary.Settled.image_eq`).
-/

namespace HeaderBridge

open Text

/-! ## Settled dictionaries -/

namespace Dictionary

/-- No target has a rule that changes it. -/
def Settled (d : Dictionary) : Prop :=
  ∀ r ∈ d.rules, ∀ r' ∈ d.rules, Rule.raw r' = Rule.target r → Rule.target r' = Rule.target r

end Dictionary

/-- A token that no rule changes is kept. -/
theorem Rule.images_eq_self_of_fixed {rules : List Rule} {t : Text}
    (h : ∀ r ∈ rules, r.raw = t → r.target = t) : images rules t = t := by
  induction rules with
  | nil => rfl
  | cons r rules ih =>
    have hr : r.image t = t := by
      unfold image
      split
      · next heq => exact h r (by simp) heq.symm
      · rfl
    rw [images_cons, hr]
    exact ih fun r hr => h r (List.mem_cons_of_mem _ hr)

namespace Dictionary

variable {d : Dictionary}

/-- A target resolves to itself in a settled dictionary. -/
theorem Settled.resolve_target (h : d.Settled) {r : Rule} (hr : r ∈ d.rules) :
    d.resolve r.target = r.target := by
  unfold resolve lookup
  cases hl : d.rules.lookup r.target with
  | none => rfl
  | some v => exact h r hr (r.target, v) (OrderedMap.mem_of_lookup hl) rfl

theorem Settled.resolve_resolve (h : d.Settled) (t : Text) :
    d.resolve (d.resolve t) = d.resolve t := by
  rcases d.resolve_cases t with ht | ⟨r, hr, ht⟩
  · rw [ht, ht]
  · rw [← ht, h.resolve_target hr]

/-- The rules of a settled dictionary make of a token what it resolves to : its first rule
puts in its target, and no rule behind it changes that. -/
theorem Settled.image_eq (h : d.Settled) (t : Text) : d.image t = d.resolve t := by
  have hfrom : ∀ rules : List Rule, (∀ r ∈ rules, r ∈ d.rules) →
      Rule.images rules t = (OrderedMap.lookup rules t).getD t := by
    intro rules hrules
    induction rules with
    | nil => rfl
    | cons r rules ih =>
      rw [Rule.images_cons, OrderedMap.lookup_cons, Rule.image]
      by_cases hr : t = r.raw
      · rw [if_pos hr, if_pos hr.symm, Option.getD_some]
        refine Rule.images_eq_self_of_fixed fun r' hr' => ?_
        exact h r (hrules r (by simp)) r' (hrules r' (List.mem_cons_of_mem _ hr'))
      · rw [if_neg hr, if_neg fun hr' => hr hr'.symm]
        exact ih fun r' hr' => hrules r' (List.mem_cons_of_mem _ hr')
  exact hfrom d.rules fun _ hr => hr

/-- A typedef under a name that is no target keeps a dictionary settled. -/
theorem Settled.register (h : d.Settled) {type name : Text}
    (hname : ∀ r ∈ d.rules, Rule.target r ≠ name) : (d.register type name).Settled := by
  intro r hr r' hr' hraw
  rcases OrderedMap.mem_or_eq_of_mem_insert hr' with hr' | rfl
  · rcases OrderedMap.mem_or_eq_of_mem_insert hr with hr | rfl
    · exact h r hr r' hr' hraw
    · show Rule.target r' = d.resolve type
      have hraw' : Rule.raw r' = d.resolve type := hraw
      rw [resolve, lookup] at hraw' ⊢
      cases hl : d.rules.lookup type with
      | none =>
        rw [hl, Option.getD_none] at hraw'
        obtain ⟨v, hv⟩ := OrderedMap.mem_keys_iff.1 (List.mem_map_of_mem hr' : r'.1 ∈ d.rules.keys)
        rw [show r'.1 = type from hraw', hl] at hv
        cases hv
      | some v =>
        rw [hl, Option.getD_some] at hraw'
        exact h (type, v) (OrderedMap.mem_of_lookup hl) r' hr' hraw'
  · rcases OrderedMap.mem_or_eq_of_mem_insert hr with hr | rfl
    · exact absurd hraw.symm (hname r hr)
    · rfl

theorem settled_builtin : Dictionary.builtin.Settled := by
  unfold Settled
  decide +kernel

end Dictionary

/-! ## The end of a chain -/

/-- The type at the end of the chain on which a token stands : the typedefs are read
backwards, and each of them leads from its name to its type. -/
def follow (aliases : List (Text × Text)) (t : Text) : Text :=
  aliases.foldr (fun a t => if a.2 = t then a.1 else t) t

theorem follow_concat (aliases : List (Text × Text)) (a : Text × Text) (t : Text) :
    follow (aliases ++ [a]) t = follow aliases (if a.2 = t then a.1 else t) := by
  rw [follow, List.foldr_append]
  rfl

namespace Dictionary

variable {d : Dictionary}

theorem resolve_register (d : Dictionary) (type name t : Text) :
    (d.register type name).resolve t = d.resolve (if name = t then type else t) := by
  rw [resolve, lookup, register, OrderedMap.lookup_insert]
  split
  · rfl
  · rfl

theorem registerAll_concat (d : Dictionary) (aliases : List (Text × Text)) (a : Text × Text) :
    d.registerAll (aliases ++ [a]) = (d.registerAll aliases).register a.1 a.2 := by
  simp [registerAll]

/-- After typedefs a token resolves to what the end of its chain resolved to before. Each
of them was resolved by one look only. -/
theorem resolve_registerAll (d : Dictionary) (aliases : List (Text × Text)) (t : Text) :
    (d.registerAll aliases).resolve t = d.resolve (follow aliases t) := by
  induction aliases using List.reverseRecOn generalizing t with
  | nil => rfl
  | append_singleton aliases a ih =>
    rw [registerAll_concat, resolve_register, ih, follow_concat]

end Dictionary

/-! ## Roots -/

/-- The token leads along typedefs, from names to types, to a root that is no alias. -/
inductive RootOf (aliases : List (Text × Text)) : Text → Text → Prop where
  | unaliased {t : Text} (h : ∀ a ∈ aliases, a.2 ≠ t) : RootOf aliases t t
  | step {type name root : Text} (h : (type, name) ∈ aliases) (hroot : RootOf aliases type root) :
      RootOf aliases name root

/-- Typedefs of words under names of their own, with no name that the built-in rules use,
and with every typedef of an alias behind that of the alias itself. -/
structure InOrder (aliases : List (Text × Text)) : Prop where
  type_word : ∀ a ∈ aliases, IsWord a.1
  name_word : ∀ a ∈ aliases, IsWord a.2
  nodup : (aliases.map Prod.snd).Nodup
  unused : ∀ a ∈ aliases, ∀ b ∈ builtinRules, b.raw ≠ a.2 ∧ b.target ≠ a.2
  earlier : ∀ i j, ∀ (hi : i < aliases.length) (hj : j < aliases.length),
    aliases[i].1 = aliases[j].2 → j < i

section

variable {aliases : List (Text × Text)} {a : Text × Text} {t root : Text}

/-- Of names that are given once, each token has one root. -/
theorem RootOf.unique (hnodup : (aliases.map Prod.snd).Nodup) (h : RootOf aliases t root)
    {root' : Text} (h' : RootOf aliases t root') : root' = root := by
  induction h with
  | unaliased hnone =>
    cases h' with
    | unaliased => rfl
    | step hmem => exact absurd rfl (hnone _ hmem)
  | step hmem _ ih =>
    cases h' with
    | unaliased hnone => exact absurd rfl (hnone _ hmem)
    | step hmem' hroot' =>
      have hsame := List.inj_on_of_nodup_map hnodup hmem hmem' rfl
      exact ih ((Prod.mk.inj hsame).1 ▸ hroot')

/-- A typedef more, under a name to which no chain leads, changes no other root. -/
theorem RootOf.concat (h : RootOf aliases t root) (hne : t ≠ a.2)
    (htypes : ∀ b ∈ aliases, b.1 ≠ a.2) : RootOf (aliases ++ [a]) t root := by
  induction h with
  | unaliased hnone =>
    refine .unaliased fun b hb => ?_
    rcases List.mem_append.1 hb with hb | hb
    · exact hnone b hb
    · rw [List.mem_singleton.1 hb]
      exact hne.symm
  | step hmem _ ih => exact .step (List.mem_append_left _ hmem) (ih (htypes _ hmem))

/-- The last typedef leads to no alias behind it, and nothing leads to its own. -/
theorem InOrder.type_ne (h : InOrder (aliases ++ [a])) : ∀ b ∈ aliases ++ [a], b.1 ≠ a.2 := by
  intro b hb heq
  obtain ⟨i, hi, rfl⟩ := List.getElem_of_mem hb
  have hn : aliases.length < (aliases ++ [a]).length := by simp
  have hlast : (aliases ++ [a])[aliases.length] = a := by simp
  have hlt := h.earlier i aliases.length hi hn (by rw [hlast, heq])
  simp only [List.length_append, List.length_singleton] at hi
  omega

theorem InOrder.of_concat (h : InOrder (aliases ++ [a])) : InOrder aliases where
  type_word b hb := h.type_word b (List.mem_append_left _ hb)
  name_word b hb := h.name_word b (List.mem_append_left _ hb)
  nodup := by
    have hnodup := h.nodup
    rw [List.map_append] at hnodup
    exact (List.nodup_append.1 hnodup).1
  unused b hb := h.unused b (List.mem_append_left _ hb)
  earlier i j hi hj heq := by
    refine h.earlier i j (by simp; omega) (by simp; omega) ?_
    rwa [List.getElem_append_left hi, List.getElem_append_left hj]

/-- The end of the chain of a token is its root. -/
theorem rootOf_follow (h : InOrder aliases) (t : Text) : RootOf aliases t (follow aliases t) := by
  induction aliases using List.reverseRecOn generalizing t with
  | nil => exact .unaliased (by simp)
  | append_singleton aliases a ih =>
    have htypes : ∀ b ∈ aliases, b.1 ≠ a.2 := fun b hb => h.type_ne b (List.mem_append_left _ hb)
    rw [follow_concat]
    split
    · next hname =>
      have hself : a.1 ≠ a.2 := h.type_ne a (by simp)
      rw [← hname]
      exact .step (by simp) ((ih h.of_concat a.1).concat hself htypes)
    · next hname => exact (ih h.of_concat t).concat (Ne.symm hname) htypes

/-- The dictionary of typedefs in their order is settled. -/
theorem InOrder.settled (h : InOrder aliases) :
    (Dictionary.builtin.registerAll aliases).Settled := by
  induction aliases using List.reverseRecOn with
  | nil => exact Dictionary.settled_builtin
  | append_singleton aliases a ih =>
    rw [Dictionary.registerAll_concat]
    refine (ih h.of_concat).register fun r hr => ?_
    rcases Dictionary.target_registerAll hr with ⟨b, hb, htarget⟩ | ⟨b, hb, htarget⟩
    · rw [← htarget]
      exact (h.unused a (by simp) b (Dictionary.mem_of_mem_ofRules hb)).2
    · rw [← htarget]
      exact h.type_ne b (List.mem_append_left _ hb)

/-- The dictionary of typedefs in their order is plain. -/
theorem InOrder.plain (h : InOrder aliases) : (Dictionary.builtin.registerAll aliases).Plain := by
  refine Dictionary.registerAll_induction (P := Dictionary.Plain) ?_ ?_
  · exact fun d a ha hd => hd.register (h.type_word a ha) (h.name_word a ha)
  · exact fun r hr => plain_builtinRules r (Dictionary.mem_of_mem_ofRules hr)

end

/-! ## Lines -/

/-- The lines of typedefs of words are read back. -/
theorem filterMap_readTypedef_line {aliases : List (Text × Text)}
    (htype : ∀ a ∈ aliases, IsWord a.1) (hname : ∀ a ∈ aliases, IsWord a.2) :
    (aliases.map fun a => (TypeAlias.mk a.2 a.1).line).filterMap readTypedef = aliases := by
  induction aliases with
  | nil => rfl
  | cons a aliases ih =>
    have hread : readTypedef (TypeAlias.mk a.2 a.1).line = some a :=
      readTypedef_line (a := ⟨a.2, a.1⟩) (htype a (by simp)) (hname a (by simp))
    rw [List.map_cons, List.filterMap_cons, hread]
    simp only
    rw [ih (fun b hb => htype b (List.mem_cons_of_mem a hb))
      fun b hb => hname b (List.mem_cons_of_mem a hb)]

/-- After lines of typedefs that come in their order, every alias has one root and has as
its target what the built-in rules have for the root, or the root itself. The rules then
put in the place of each type of a declaration what it resolves to, and nothing more is
changed by them in a second go. -/
theorem resolveTypedefs_chains {aliases : List (Text × Text)} (h : InOrder aliases) :
    let d := (resolveTypedefs .builtin
      (aliases.map fun a => (TypeAlias.mk a.2 a.1).line)).dictionary
    (∀ a ∈ aliases, ∃! root, RootOf aliases a.2 root) ∧
      (∀ a ∈ aliases, ∀ root, RootOf aliases a.2 root →
        d.lookup a.2 = some ((Dictionary.builtin.lookup root).getD root)) ∧
      ∀ (type name : Text) (params : List (Text × Text)), IsWord type → IsWord name →
        (∀ q ∈ params, IsWord q.1 ∧ IsWord q.2) →
        let line := fun f : Text → Text =>
          lineOf (f type ++ ' ' :: name) (params.map fun q => f q.1 ++ ' ' :: q.2)
        d.substitute (line id) = line d.resolve ∧
          d.substitute (line d.resolve) = line d.resolve := by
  intro d
  have hd : d = Dictionary.builtin.registerAll aliases := by
    have hopen : Dictionary.builtin.frozen = false := rfl
    rw [show d = _ from dictionary_resolveTypedefs hopen _,
      filterMap_readTypedef_line h.type_word h.name_word]
  have hplain : d.Plain := hd ▸ h.plain
  have hsettled : d.Settled := hd ▸ h.settled
  refine ⟨fun a _ => ?_, fun a ha root hroot => ?_, ?_⟩
  · have hroot := rootOf_follow h a.2
    exact ⟨_, hroot, fun root' h' => hroot.unique h.nodup h'⟩
  · have hkey : a.2 ∈ d.rules.keys := by
      rw [hd, Dictionary.mem_keys_registerAll]
      exact Or.inr ⟨a, ha, rfl⟩
    obtain ⟨v, hv⟩ := OrderedMap.mem_keys_iff.1 hkey
    have hresolve : d.resolve a.2 = Dictionary.builtin.resolve root := by
      rw [hd, Dictionary.resolve_registerAll, ← hroot.unique h.nodup (rootOf_follow h a.2)]
    have hvalue : d.resolve a.2 = v := by
      rw [Dictionary.resolve, Dictionary.lookup, hv]
      rfl
    rw [Dictionary.lookup, hv, ← hvalue, hresolve]
    rfl
  · intro type name params htype hname hparams line
    have hsubstitute : ∀ f : Text → Text, (∀ t, IsWord t → IsToken (f t)) →
        d.substitute (line f) = line fun t => d.resolve (f t) := by
      intro f hf
      have hline := Dictionary.substitute_lineOf hplain (hf type htype) hname.isToken
        (fun q hq => hf q.1 (hparams q hq).1) fun q hq => (hparams q hq).2.isToken
      simp only [hsettled.image_eq] at hline
      exact hline
    have hresolve : ∀ t, IsWord t → IsToken (d.resolve t) := by
      intro t ht
      rcases d.resolve_cases t with hself | ⟨r, hr, htarget⟩
      · rw [hself]
        exact ht.isToken
      · rw [← htarget]
        exact (hplain r hr).target.isToken
    refine ⟨hsubstitute id fun t ht => ht.isToken, ?_⟩
    rw [hsubstitute d.resolve hresolve]
    simp only [hsettled.resolve_resolve]

/-- A chain of three typedefs from a built-in type, and one of two from an unknown type. -/
def sampleChains : List (Text × Text) :=
  [("int64".toList, "Base".toList), ("Base".toList, "Middle".toList), ("Foo".toList, "Bar".toList),
    ("Middle".toList, "Top".toList), ("Bar".toList, "Baz".toList)]

theorem inOrder_sampleChains : InOrder sampleChains where
  type_word := by
    have hall : ∀ a ∈ sampleChains, a.1.isEmpty = false ∧ a.1.all isWordChar = true := by decide
    exact fun a ha => .of_all (hall a ha).1 (hall a ha).2
  name_word := by
    have hall : ∀ a ∈ sampleChains, a.2.isEmpty = false ∧ a.2.all isWordChar = true := by decide
    exact fun a ha => .of_all (hall a ha).1 (hall a ha).2
  nodup := by decide
  unused := by decide +kernel
  earlier := by
    have hall : ∀ i j : Fin 5, sampleChains[i].1 = sampleChains[j].2 → j.1 < i.1 := by decide
    exact fun i j hi hj => hall ⟨i, hi⟩ ⟨j, hj⟩

theorem resolveTypedefs_chains_sample :
    InOrder sampleChains ∧
      let d := (resolveTypedefs .builtin
        (sampleChains.map fun a => (TypeAlias.mk a.2 a.1).line)).dictionary
      d.lookup "Top".toList = some "long".toList ∧ d.lookup "Baz".toList = some "Foo".toList ∧
        d.substitute "Top f(Baz x, int32 y);".toList = "long f(Foo x, int y);".toList ∧
          d.substitute "long f(Foo x, int y);".toList = "long f(Foo x, int y);".toList := by
  refine ⟨inOrder_sampleChains, ?_⟩
  intro d
  obtain ⟨-, hlookup, hlines⟩ := resolveTypedefs_chains inOrder_sampleChains
  have hfoo : RootOf sampleChains "Baz".toList "Foo".toList :=
    .step (show ("Bar".toList, "Baz".toList) ∈ sampleChains by decide)
      (.step (show ("Foo".toList, "Bar".toList) ∈ sampleChains by decide) (.unaliased (by decide)))
  have hlong : RootOf sampleChains "Top".toList "int64".toList :=
    .step (show ("Middle".toList, "Top".toList) ∈ sampleChains by decide)
      (.step (show ("Base".toList, "Middle".toList) ∈ sampleChains by decide)
        (.step (show ("int64".toList, "Base".toList) ∈ sampleChains by decide)
          (.unaliased (by decide))))
  have htop : d.lookup "Top".toList = some "long".toList :=
    (hlookup ("Middle".toList, "Top".toList) (by decide) _ hlong).trans (by decide +kernel)
  have hbaz : d.lookup "Baz".toList = some "Foo".toList :=
    (hlookup ("Bar".toList, "Baz".toList) (by decide) _ hfoo).trans (by decide +kernel)
  have hparams : ∀ q ∈ [("Baz".toList, "x".toList), ("int32".toList, "y".toList)],
      IsWord q.1 ∧ IsWord q.2 := by
    have hall : ∀ q ∈ [("Baz".toList, "x".toList), ("int32".toList, "y".toList)],
        (q.1.isEmpty = false ∧ q.1.all isWordChar = true) ∧
          (q.2.isEmpty = false ∧ q.2.all isWordChar = true) := by decide
    exact fun q hq =>
      ⟨.of_all (hall q hq).1.1 (hall q hq).1.2, .of_all (hall q hq).2.1 (hall q hq).2.2⟩
  obtain ⟨hfirst, hsecond⟩ := hlines "Top".toList "f".toList _
    (.of_all (by decide) (by decide)) (.of_all (by decide) (by decide)) hparams
  have hline : lineOf (d.resolve "Top".toList ++ ' ' :: "f".toList)
      ([("Baz".toList, "x".toList), ("int32".toList, "y".toList)].map fun q =>
        d.resolve q.1 ++ ' ' :: q.2) = "long f(Foo x, int y);".toList := by
    decide +kernel
  exact ⟨htop, hbaz, hfirst.trans hline, hline ▸ hsecond⟩

end HeaderBridge
