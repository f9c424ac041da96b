import HeaderBridge.Proofs.PrototypeRun

/-!
# Aliases and unsupported types

A typedef whose type has no rule puts the type itself in the place of the alias, and from
then on the type is the target of a rule. This hides it from the unsupported types : a type
that is no target of a built-in or extra rule is left out exactly if an alias ends with it
as its target (`Settings.produces_iff_alias`), and it is then the type of a typedef line.
-/

namespace HeaderBridge

open Text

/-- The typedef of an identifier under another one. -/
def aliasOf (type name : Identifier) : TypeAlias := ⟨name.text, type.text⟩

theorem readTypedef_aliasOf (type name : Identifier) :
    readTypedef (aliasOf type name).line = some (type.text, name.text) :=
  readTypedef_line (a := aliasOf type name) type.isWord name.isWord

/-- The types that no rule of the dictionary puts in are the unsupported ones. -/
theorem mem_unsupported_survey {d : Dictionary} {declarations : List Text} {t : Text} :
    t ∈ (survey d declarations).unsupported ↔
      t ∈ (survey d declarations).signatures.flatMap Signature.types ∧ d.produces t = false := by
  rw [survey_eq, Survey.ofLines, List.mem_eraseDups, List.mem_filter]
  simp

namespace Settings

variable (s : Settings)

theorem filterMap_readTypedef (aliases : List (Identifier × Identifier)) :
    (aliases.map fun a => (aliasOf a.1 a.2).line).filterMap readTypedef =
      aliases.map fun a => (a.1.text, a.2.text) := by
  have hread : (readTypedef ∘ fun a : Identifier × Identifier => (aliasOf a.1 a.2).line) =
      fun a => some (a.1.text, a.2.text) := funext fun a => readTypedef_aliasOf a.1 a.2
  rw [List.filterMap_map, hread]
  exact congrFun List.filterMap_eq_map' aliases

/-- A target that is not that of a built-in or extra rule is the target of an alias. -/
theorem produces_iff_alias (aliases : List (Identifier × Identifier)) (declarations : List Text)
    {t : Text} (ht : ∀ b ∈ builtinRules ++ s.extraRules, Rule.target b ≠ t) :
    let g := s.generate (aliases.map fun a => (aliasOf a.1 a.2).line) declarations
    g.dictionary.produces t = true ↔ ∃ a ∈ aliases, g.dictionary.lookup a.2.text = some t := by
  intro g
  have hnodup := s.nodup_keys_generate (aliases.map fun a => (aliasOf a.1 a.2).line) declarations
  constructor
  · intro h
    obtain ⟨r, hr, rfl⟩ := Dictionary.produces_iff.1 h
    have hlookup : g.dictionary.lookup (Rule.raw r) = some (Rule.target r) :=
      (OrderedMap.lookup_eq_some_iff hnodup).2 hr
    by_cases halias : ∃ a ∈ aliases, a.2.text = Rule.raw r
    · obtain ⟨a, ha, hraw⟩ := halias
      exact ⟨a, ha, by rw [hraw, hlookup]⟩
    · -- No typedef has changed the rule, so it is built in or configured.
      have hkept : ∀ a ∈ aliases.map fun a => (a.1.text, a.2.text), a.2 ≠ Rule.raw r :=
        List.forall_mem_map.2 fun a ha hraw => halias ⟨a, ha, hraw⟩
      have hfirst : s.dictionary.lookup (Rule.raw r) = some (Rule.target r) := by
        rw [← hlookup, Dictionary.lookup, Dictionary.lookup, s.rules_generate,
          filterMap_readTypedef]
        exact (Dictionary.lookup_registerAll hkept).symm
      have hmem := Dictionary.mem_of_mem_ofRules (OrderedMap.mem_of_lookup hfirst)
      exact absurd rfl (ht _ hmem)
  · rintro ⟨a, -, ha⟩
    exact Dictionary.produces_iff.2 ⟨_, OrderedMap.mem_of_lookup ha, rfl⟩

/-- After typedefs of identifiers, a type of the signatures that is no target of a
built-in or extra rule is unsupported exactly if no alias has it as its target, and one that
is left out is the type of a typedef line. The types of the signatures of plain prototypes
are the images of their tokens if the extra rules are plain. -/
theorem unsupported_of_aliases (aliases : List (Identifier × Identifier))
    (declarations : List Text) :
    let g := s.generate (aliases.map fun a => (aliasOf a.1 a.2).line) declarations
    (∀ t ∈ g.signatures.flatMap Signature.types,
      (∀ b ∈ builtinRules ++ s.extraRules, Rule.target b ≠ t) →
        (t ∈ g.unsupported ↔ ∀ a ∈ aliases, g.dictionary.lookup a.2.text ≠ some t) ∧
          (t ∉ g.unsupported → ∃ a ∈ aliases, a.1.text = t)) ∧
      ((∀ r ∈ s.extraRules, Rule.Plain r) → ∀ ps : List Prototype, (∀ p ∈ ps, p.Plain) →
        declarations = ps.map Prototype.line →
          g.signatures.flatMap Signature.types =
            (ps.flatMap Prototype.tokens).map g.dictionary.image) := by
  intro g
  refine ⟨fun t ht hnew => ?_, fun hs ps hps hdeclarations => ?_⟩
  · have hmem : t ∈ g.unsupported ↔ g.dictionary.produces t = false := by
      refine mem_unsupported_survey.trans ⟨And.right, fun h => ⟨ht, h⟩⟩
    have halias : g.dictionary.produces t = true ↔
        ∃ a ∈ aliases, g.dictionary.lookup a.2.text = some t :=
      s.produces_iff_alias aliases declarations hnew
    have hiff : t ∈ g.unsupported ↔ ∀ a ∈ aliases, g.dictionary.lookup a.2.text ≠ some t := by
      rw [hmem, ← Bool.not_eq_true, halias]
      exact ⟨fun h a ha hl => h ⟨a, ha, hl⟩, fun h ⟨a, ha, hl⟩ => h a ha hl⟩
    refine ⟨hiff, fun hknown => ?_⟩
    have hproduced : g.dictionary.produces t = true := by
      rw [hmem, Bool.not_eq_false] at hknown
      exact hknown
    obtain ⟨r, hr, rfl⟩ := Dictionary.produces_iff.1 hproduced
    rcases s.target_generate _ _ hr with ⟨b, hb, htarget⟩ | ⟨a, ha, htarget⟩
    · exact absurd htarget (hnew b hb)
    · rw [filterMap_readTypedef] at ha
      obtain ⟨a', ha', rfl⟩ := List.mem_map.1 ha
      exact ⟨a', ha', htarget⟩
  · subst hdeclarations
    have hd := s.plain_generate (aliases.map fun a => (aliasOf a.1 a.2).line)
      (ps.map Prototype.line) hs
    exact types_survey hd (s.marked_generate _ _) hps

/-- An alias for an unknown type makes the type count as known : of a typedef of `Foo`
under `Bar` and a function from `Bar` to `Foo` nothing is unsupported. -/
theorem exists_alias_hides_type :
    ¬ ∀ (s : Settings) (aliases : List (Identifier × Identifier)) (ps : List Prototype),
      (∀ p ∈ ps, p.Plain ∧
        ∀ q ∈ p.function :: p.params, q.type.isConst = false ∧ q.type.stars = .none) →
        let g := s.generate (aliases.map fun a => (aliasOf a.1 a.2).line) (ps.map Prototype.line)
        ∀ t ∈ g.signatures.flatMap Signature.types,
          (∀ b ∈ builtinRules ++ s.extraRules, Rule.target b ≠ t) → t ∈ g.unsupported := by
  intro h
  let foo : Identifier := ⟨"Foo".toList, by decide, by decide⟩
  let bar : Identifier := ⟨"Bar".toList, by decide, by decide⟩
  let p : Prototype :=
    { function := ⟨{ base := foo }, ⟨"f".toList, by decide, by decide⟩⟩
      params := [⟨{ base := bar }, ⟨"x".toList, by decide, by decide⟩⟩] }
  have hidden := h {} [(foo, bar)] [p] (by decide) foo.text (by decide +kernel) (by decide +kernel)
  exact absurd hidden (by decide +kernel)

theorem unsupported_of_aliases_foo :
    let foo : Identifier := ⟨"Foo".toList, by decide, by decide⟩
    let bar : Identifier := ⟨"Bar".toList, by decide, by decide⟩
    let baz : Identifier := ⟨"Baz".toList, by decide, by decide⟩
    let p : Prototype :=
      { function := ⟨{ base := foo }, ⟨"f".toList, by decide, by decide⟩⟩
        params := [⟨{ base := bar }, ⟨"x".toList, by decide, by decide⟩⟩,
          ⟨{ base := baz }, ⟨"y".toList, by decide, by decide⟩⟩] }
    let g := ({} : Settings).generate ["typedef Foo Bar;".toList] [p.line]
    (∀ t ∈ [foo.text, baz.text], t ∈ g.signatures.flatMap Signature.types ∧
      ∀ b ∈ builtinRules, Rule.target b ≠ t) ∧
      foo.text ∉ g.unsupported ∧ (∃ a ∈ [(foo, bar)], a.1.text = foo.text) ∧
        baz.text ∈ g.unsupported ∧
          p.Plain ∧ g.signatures.flatMap Signature.types = p.tokens.map g.dictionary.image := by
  intro foo bar baz p g
  obtain ⟨hall, htypes⟩ := ({} : Settings).unsupported_of_aliases [(foo, bar)] [p.line]
  have hfoo := hall foo.text (by decide +kernel) (by decide +kernel)
  have hbaz := hall baz.text (by decide +kernel) (by decide +kernel)
  have hknown : foo.text ∉ g.unsupported := by
    intro hmem
    exact absurd (hfoo.1.1 hmem (foo, bar) (by simp)) (by decide +kernel)
  have hp : p.Plain := by decide
  refine ⟨by decide +kernel, hknown, hfoo.2 hknown, hbaz.1.2 (by decide +kernel), hp, ?_⟩
  exact (htypes (by simp) [p] (by simpa using hp) rfl).trans (by rw [List.flatMap_singleton]; rfl)

end Settings

end HeaderBridge
