import HeaderBridge.Generation
import HeaderBridge.Proofs.Substitution

/-!
# The dictionary of a run

A typedef line that can be read registers one rule (`Dictionary.register`), and any other
line leaves the dictionary as it is : an open dictionary goes through the lines as it
goes through the pairs that are read from them (`dictionary_resolveTypedefs`).

So the dictionary of a run has each raw token once (`nodup_keys_generate`), keeps the raw
tokens of the built-in rules (`exists_builtin_generate`), and is plain if the extra rules
are (`plain_generate`). Each of its targets is that of a built-in or extra rule or the
type of a typedef line (`target_generate`).
-/

namespace HeaderBridge

open Text

/-! ## Entries -/

namespace OrderedMap

variable {κ ν : Type} [DecidableEq κ] {m : OrderedMap κ ν} {k : κ} {v : ν}

theorem mem_of_lookup (h : m.lookup k = some v) : (k, v) ∈ m := by
  obtain ⟨e, he, rfl⟩ := Option.map_eq_some_iff.1 h
  have hk : e.1 = k := by simpa using List.find?_some he
  rw [← hk]
  exact List.mem_of_find?_eq_some he

/-- An entry of the map after an insertion was there or is the new one. -/
theorem mem_or_eq_of_mem_insert {e : κ × ν} (h : e ∈ m.insert k v) : e ∈ m ∨ e = (k, v) := by
  induction m with
  | nil => exact Or.inr (List.mem_singleton.1 h)
  | cons e' m ih =>
    rw [insert] at h
    split at h
    · rcases List.mem_cons.1 h with h | h
      · exact Or.inr h
      · exact Or.inl (List.mem_cons_of_mem e' h)
    · rcases List.mem_cons.1 h with rfl | h
      · exact Or.inl (by simp)
      · exact (ih h).imp_left (List.mem_cons_of_mem e')

theorem mem_keys_insert {k' : κ} : k' ∈ (m.insert k v).keys ↔ k' ∈ m.keys ∨ k' = k := by
  rw [keys_insert]
  split
  · next h =>
    constructor
    · exact Or.inl
    · rintro (h' | rfl)
      · exact h'
      · exact h
  · simp

/-- No key is there twice. -/
theorem nodup_keys_insert (h : m.keys.Nodup) (k : κ) (v : ν) : (m.insert k v).keys.Nodup := by
  rw [keys_insert]
  split
  · exact h
  · next hk =>
    rw [List.nodup_append]
    refine ⟨h, by simp, ?_⟩
    rintro a ha b hb rfl
    exact hk (List.mem_singleton.1 hb ▸ ha)

/-- Of a map without repeated keys the entries are the keys with their values. -/
theorem lookup_eq_some_iff (h : m.keys.Nodup) : m.lookup k = some v ↔ (k, v) ∈ m := by
  refine ⟨mem_of_lookup, fun hmem => ?_⟩
  induction m with
  | nil => simp at hmem
  | cons e m ih =>
    simp only [keys, List.map_cons, List.nodup_cons] at h
    rw [lookup_cons]
    rcases List.mem_cons.1 hmem with rfl | hmem
    · simp
    · have hne : e.1 ≠ k := fun he => h.1 (he ▸ List.mem_map_of_mem hmem)
      rw [if_neg hne]
      exact ih h.2 hmem

end OrderedMap

/-! ## Typedef lines -/

section

variable {line type name : Text}

/-- The type and the alias that are read are words. -/
theorem isWord_of_readTypedef (h : readTypedef line = some (type, name)) :
    IsWord type ∧ IsWord name := by
  simp only [readTypedef, Option.bind_eq_bind, Option.bind_eq_some_iff, Option.pure_def,
    Option.some.injEq] at h
  obtain ⟨_, -, _, -, ⟨type', _⟩, htype, _, -, ⟨name', _⟩, hname, _, -, heq⟩ := h
  obtain ⟨rfl, rfl⟩ := Prod.mk.inj heq
  exact ⟨(word?_eq_some htype).1, (word?_eq_some hname).1⟩

/-- A typedef line is the keyword, a blank, the word of a type, a blank, and the word of
an alias with a semicolon right behind it. What follows the semicolon is not read. -/
theorem readTypedef_eq_some_iff :
    readTypedef line = some (type, name) ↔
      IsWord type ∧ IsWord name ∧ ∃ b b' rest, isBlank b = true ∧ isBlank b' = true ∧
        line = "typedef".toList ++ b :: (type ++ b' :: (name ++ ';' :: rest)) := by
  constructor
  · intro h
    refine ⟨(isWord_of_readTypedef h).1, (isWord_of_readTypedef h).2, ?_⟩
    simp only [readTypedef, Option.bind_eq_bind, Option.bind_eq_some_iff, Option.pure_def,
      Option.some.injEq] at h
    obtain ⟨r₁, h₁, r₂, h₂, ⟨type', r₃⟩, h₃, r₄, h₄, ⟨name', r₅⟩, h₅, r₆, h₆, heq⟩ := h
    obtain ⟨rfl, rfl⟩ := Prod.mk.inj heq
    obtain ⟨b, hb, rfl⟩ := blank?_eq_some_iff.1 h₂
    obtain ⟨b', hb', rfl⟩ := blank?_eq_some_iff.1 h₄
    have hend : r₅ = ';' :: r₆ := char?_eq_some_iff.1 h₆
    refine ⟨b, b', r₆, hb, hb', ?_⟩
    rw [isPrefixOf?_eq_some_iff.1 h₁, (word?_eq_some h₃).2, (word?_eq_some h₅).2, hend]
  · rintro ⟨htype, hname, b, b', rest, hb, hb', rfl⟩
    have hblank : ∀ c t, isBlank c = true → blank? (c :: t) = some t := by
      intro c t hc
      simp [blank?, hc]
    have hsemicolon : char? ';' (';' :: rest) = some rest := rfl
    simp only [readTypedef, isPrefixOf?_append, Option.bind_eq_bind, Option.bind_some,
      hblank _ _ hb, word?_append_cons htype (isWordChar_of_isBlank hb'), hblank _ _ hb',
      word?_append_cons hname (by decide : isWordChar ';' = false), hsemicolon, Option.pure_def]

/-- The parts of the line as which a typedef is written. -/
theorem TypeAlias.line_eq (a : TypeAlias) :
    a.line = "typedef".toList ++ ' ' :: (a.underlying ++ ' ' :: (a.name ++ [';'])) := by
  show "typedef ".toList ++ a.underlying ++ ' ' :: a.name ++ [';'] = _
  rw [show "typedef ".toList = "typedef".toList ++ [' '] from rfl]
  simp only [List.append_assoc, List.cons_append, List.nil_append]

/-- A typedef of words that is written as one line of C is read back. -/
theorem readTypedef_line {a : TypeAlias} (htype : IsWord a.underlying) (hname : IsWord a.name) :
    readTypedef a.line = some (a.underlying, a.name) :=
  readTypedef_eq_some_iff.2 ⟨htype, hname, ' ', ' ', [], rfl, rfl, a.line_eq⟩

theorem readTypedef_of_isBlank (h : line.isBlank = true) : readTypedef line = none := by
  cases hp : "typedef".toList.isPrefixOf? line with
  | none => simp only [readTypedef, hp, Option.bind_eq_bind, Option.bind_none]
  | some r =>
    rw [isPrefixOf?_eq_some_iff.1 hp] at h
    exact absurd h (by simp [Text.isBlank, show isBlank 't' = false from by decide])

end

namespace Dictionary

/-- The dictionary with the rule that a typedef of the type under the name adds. -/
def register (d : Dictionary) (type name : Text) : Dictionary :=
  { d with rules := d.rules.insert name (d.resolve type) }

variable {d : Dictionary} {line type name : Text}

theorem registerTypedef_of_none (h : readTypedef line = none) :
    d.registerTypedef line = .ok none := by
  simp [registerTypedef, h]

theorem registerTypedef_of_some (hd : d.frozen = false)
    (h : readTypedef line = some (type, name)) :
    d.registerTypedef line = .ok (some ((name, d.resolve type), d.register type name)) := by
  have hinsert : d.insert? name (d.resolve type) = .ok (d.register type name) :=
    insert?_eq_ok_iff.2 ⟨hd, rfl⟩
  simp [registerTypedef, h, hinsert]

/-- What the dictionary has for a type is the target of a rule or the type itself. -/
theorem resolve_cases (d : Dictionary) (type : Text) :
    d.resolve type = type ∨ ∃ r ∈ d.rules, Rule.target r = d.resolve type := by
  unfold resolve lookup
  cases h : d.rules.lookup type with
  | none => exact Or.inl rfl
  | some target => exact Or.inr ⟨_, OrderedMap.mem_of_lookup h, rfl⟩

/-- The dictionary after typedefs, given as types with their aliases. -/
def registerAll (d : Dictionary) (aliases : List (Text × Text)) : Dictionary :=
  aliases.foldl (fun d a => d.register a.1 a.2) d

end Dictionary

/-- An open dictionary registers what can be read from the lines, in their order. -/
theorem dictionary_resolveTypedefs {d : Dictionary} (hd : d.frozen = false) (lines : List Text) :
    (resolveTypedefs d lines).dictionary = d.registerAll (lines.filterMap readTypedef) := by
  induction lines generalizing d with
  | nil => rfl
  | cons line lines ih =>
    unfold resolveTypedefs
    by_cases hb : line.isBlank = true
    · simp [hb, readTypedef_of_isBlank hb, ih hd]
    · cases hr : readTypedef line with
      | none => simp [hb, hr, Dictionary.registerTypedef_of_none hr, ih hd]
      | some a =>
        have hkept : (d.register a.1 a.2).frozen = false := hd
        simp only [hb, Bool.false_eq_true, if_false, Dictionary.registerTypedef_of_some hd hr,
          ih hkept, List.filterMap_cons, hr]
        rfl

/-- The lines that are reported are those that are neither blank nor typedef lines. -/
theorem reports_resolveTypedefs {d : Dictionary} (hd : d.frozen = false) (lines : List Text) :
    (resolveTypedefs d lines).reports =
      (lines.filter fun l => !l.isBlank && (readTypedef l).isNone).map unreadableTypedef := by
  induction lines generalizing d with
  | nil => rfl
  | cons line lines ih =>
    unfold resolveTypedefs
    by_cases hb : line.isBlank = true
    · simp [hb, ih hd]
    · cases hr : readTypedef line with
      | none => simp [hb, hr, Dictionary.registerTypedef_of_none hr, ih hd]
      | some a =>
        have hkept : (d.register a.1 a.2).frozen = false := hd
        simp [hb, hr, Dictionary.registerTypedef_of_some hd hr, ih hkept]

/-! ## What typedefs keep -/

namespace Dictionary

variable {d : Dictionary} {aliases : List (Text × Text)}

/-- What every typedef keeps, all typedefs keep. -/
theorem registerAll_induction {P : Dictionary → Prop}
    (hstep : ∀ d : Dictionary, ∀ a ∈ aliases, P d → P (d.register a.1 a.2)) (hd : P d) :
    P (d.registerAll aliases) := by
  induction aliases generalizing d with
  | nil => exact hd
  | cons a aliases ih =>
    exact ih (fun d b hb => hstep d b (List.mem_cons_of_mem a hb)) (hstep d a (by simp) hd)

/-- A typedef of words keeps a dictionary plain. -/
theorem Plain.register (h : d.Plain) {type name : Text} (htype : IsWord type)
    (hname : IsWord name) : (d.register type name).Plain := by
  intro r hr
  rcases OrderedMap.mem_or_eq_of_mem_insert hr with hr | rfl
  · exact h r hr
  · refine ⟨hname.isToken, ?_⟩
    show IsTypeWord (d.resolve type)
    rcases d.resolve_cases type with heq | ⟨r, hmem, heq⟩
    · rw [heq]
      exact htype.isTypeWord
    · rw [← heq]
      exact (h r hmem).target

theorem mem_keys_registerAll {k : Text} :
    k ∈ (d.registerAll aliases).rules.keys ↔ k ∈ d.rules.keys ∨ ∃ a ∈ aliases, a.2 = k := by
  induction aliases generalizing d with
  | nil => simp [registerAll]
  | cons a aliases ih =>
    have hkeys : k ∈ (d.register a.1 a.2).rules.keys ↔ k ∈ d.rules.keys ∨ k = a.2 :=
      OrderedMap.mem_keys_insert
    rw [registerAll, List.foldl_cons, ← registerAll, ih, hkeys]
    simp [or_assoc, eq_comm]

/-- A token that is no alias keeps its target. -/
theorem lookup_registerAll {k : Text} (h : ∀ a ∈ aliases, a.2 ≠ k) :
    (d.registerAll aliases).lookup k = d.lookup k := by
  refine registerAll_induction (P := fun d' => d'.lookup k = d.lookup k) ?_ rfl
  intro d' a ha hd'
  rw [← hd', lookup, register, OrderedMap.lookup_insert, if_neg (h a ha)]
  rfl

/-- A target was there or is the type of a typedef. -/
theorem target_registerAll {r : Rule} (h : r ∈ (d.registerAll aliases).rules) :
    (∃ r' ∈ d.rules, Rule.target r' = r.target) ∨ ∃ a ∈ aliases, a.1 = r.target := by
  refine registerAll_induction (P := fun d' => ∀ r ∈ d'.rules,
    (∃ r' ∈ d.rules, Rule.target r' = Rule.target r) ∨ ∃ a ∈ aliases, a.1 = Rule.target r) ?_ ?_ r h
  · intro d' a ha hd' r hr
    rcases OrderedMap.mem_or_eq_of_mem_insert hr with hr | rfl
    · exact hd' r hr
    · show (∃ r' ∈ d.rules, Rule.target r' = d'.resolve a.1) ∨ ∃ b ∈ aliases, b.1 = d'.resolve a.1
      rcases d'.resolve_cases a.1 with heq | ⟨r', hmem, heq⟩
      · exact Or.inr ⟨a, ha, heq.symm⟩
      · rw [← heq]
        exact hd' r' hmem
  · exact fun r hr => Or.inl ⟨r, hr, rfl⟩

/-! ## The first dictionary -/

/-- A map made of rules holds some of them. -/
theorem mem_foldl_insert {rules : List Rule} {m : OrderedMap Text Text} {r : Rule}
    (h : r ∈ rules.foldl (fun m r => OrderedMap.insert m r.raw r.target) m) :
    r ∈ m ∨ r ∈ rules := by
  induction rules generalizing m with
  | nil => exact Or.inl h
  | cons r' rules ih =>
    rcases ih h with h | h
    · rcases OrderedMap.mem_or_eq_of_mem_insert h with h | rfl
      · exact Or.inl h
      · exact Or.inr (by simp)
    · exact Or.inr (List.mem_cons_of_mem r' h)

theorem mem_keys_foldl_insert {rules : List Rule} {m : OrderedMap Text Text} {k : Text} :
    k ∈ (rules.foldl (fun m r => OrderedMap.insert m r.raw r.target) m).keys ↔
      k ∈ m.keys ∨ ∃ r ∈ rules, r.raw = k := by
  induction rules generalizing m with
  | nil => simp
  | cons r rules ih =>
    rw [List.foldl_cons, ih, OrderedMap.mem_keys_insert]
    simp [or_assoc, eq_comm]

theorem nodup_keys_foldl_insert (rules : List Rule) {m : OrderedMap Text Text}
    (h : m.keys.Nodup) :
    (rules.foldl (fun m r => OrderedMap.insert m r.raw r.target) m).keys.Nodup := by
  induction rules generalizing m with
  | nil => exact h
  | cons r rules ih => exact ih (OrderedMap.nodup_keys_insert h _ _)

variable {rules : List Rule}

/-- A dictionary made of rules holds some of them. -/
theorem mem_of_mem_ofRules {r : Rule} (h : r ∈ (ofRules rules).rules) : r ∈ rules := by
  rcases mem_foldl_insert h with h | h
  · simp at h
  · exact h

/-- It has a rule for each of their raw tokens. -/
theorem mem_keys_ofRules {k : Text} :
    k ∈ (ofRules rules).rules.keys ↔ ∃ r ∈ rules, r.raw = k := by
  rw [ofRules, mem_keys_foldl_insert]
  simp [OrderedMap.keys]

theorem nodup_keys_ofRules (rules : List Rule) : (ofRules rules).rules.keys.Nodup :=
  nodup_keys_foldl_insert rules List.nodup_nil

end Dictionary

theorem plain_builtinRules : ∀ r ∈ builtinRules, Rule.Plain r := by
  have htable : ∀ r ∈ builtinRules, (r.raw.isEmpty = false ∧ r.raw.all isTokenChar = true) ∧
      ((r.target.isEmpty = false ∧ r.target.all isWordChar = true) ∨ r.target = byteArray) := by
    decide +kernel
  intro r hr
  obtain ⟨hraw, htarget⟩ := htable r hr
  refine ⟨.of_all hraw.1 hraw.2, ?_⟩
  rcases htarget with ⟨hne, hall⟩ | hbytes
  · exact (IsWord.of_all hne hall).isTypeWord
  · exact ⟨"byte".toList, .of_all (by decide) (by decide), Or.inr hbytes⟩

/-! ## The dictionary of a run -/

namespace Settings

variable (s : Settings) (typedefs declarations : List Text)

/-- A run reads its lines by the first dictionary and the rules of the typedefs. -/
theorem dictionary_generate :
    (s.generate typedefs declarations).dictionary =
      (s.dictionary.registerAll (typedefs.filterMap readTypedef)).freeze := by
  have hopen : s.dictionary.frozen = false := rfl
  rw [← dictionary_resolveTypedefs hopen]
  rfl

theorem rules_generate :
    (s.generate typedefs declarations).dictionary.rules =
      (s.dictionary.registerAll (typedefs.filterMap readTypedef)).rules := by
  rw [dictionary_generate]
  rfl

/-- The rules of the dictionary are plain if the extra rules are. -/
theorem plain_generate (h : ∀ r ∈ s.extraRules, Rule.Plain r) :
    (s.generate typedefs declarations).dictionary.Plain := by
  have hfirst : s.dictionary.Plain := by
    intro r hr
    rcases List.mem_append.1 (Dictionary.mem_of_mem_ofRules hr) with hr | hr
    · exact plain_builtinRules r hr
    · exact h r hr
  unfold Dictionary.Plain
  rw [rules_generate]
  refine Dictionary.registerAll_induction (P := Dictionary.Plain) ?_ hfirst
  intro d a ha hd
  obtain ⟨line, -, hline⟩ := List.mem_filterMap.1 ha
  obtain ⟨htype, hname⟩ := isWord_of_readTypedef hline
  exact hd.register htype hname

/-- A token for which there is a built-in rule is some rule's raw token in every run. -/
theorem exists_builtin_generate {b : Rule} (hb : b ∈ builtinRules) :
    ∃ r ∈ (s.generate typedefs declarations).dictionary.rules, Rule.raw r = b.raw := by
  have hkey : b.raw ∈ (s.generate typedefs declarations).dictionary.rules.keys := by
    rw [rules_generate]
    refine Dictionary.mem_keys_registerAll.2 (Or.inl ?_)
    exact Dictionary.mem_keys_ofRules.2 ⟨b, List.mem_append_left _ hb, rfl⟩
  exact List.mem_map.1 hkey

/-- No raw token has two rules. -/
theorem nodup_keys_generate : (s.generate typedefs declarations).dictionary.rules.keys.Nodup := by
  rw [rules_generate]
  refine Dictionary.registerAll_induction (P := fun d => d.rules.keys.Nodup) ?_ ?_
  · exact fun d a _ hd => OrderedMap.nodup_keys_insert hd _ _
  · exact Dictionary.nodup_keys_ofRules _

/-- A target of the dictionary is that of a built-in or extra rule, or the type of a
typedef line. -/
theorem target_generate {r : Rule}
    (h : r ∈ (s.generate typedefs declarations).dictionary.rules) :
    (∃ b ∈ builtinRules ++ s.extraRules, b.target = r.target) ∨
      ∃ a ∈ typedefs.filterMap readTypedef, a.1 = r.target := by
  rw [rules_generate] at h
  refine (Dictionary.target_registerAll h).imp_left ?_
  rintro ⟨b, hb, htarget⟩
  exact ⟨b, Dictionary.mem_of_mem_ofRules hb, htarget⟩

end Settings

end HeaderBridge
