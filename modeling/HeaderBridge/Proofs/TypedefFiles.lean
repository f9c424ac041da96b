import HeaderBridge.Proofs.DictionaryRun
import Mathlib.Logic.Basic

/-!
# Lines of a typedef file

An open dictionary goes through the lines of a typedef file from the first to the last
(`resolveTypedefs_append`), and each line leaves one mark or none (`resolveTypedefs_concat`).
A line that is not blank either adds a rule, which is returned and put into the dictionary, or
is reported and leaves the dictionary as it is (`Resolution.Accounted`). A rule is resolved
against the dictionary with all rules before it, so an alias that comes again, or that names
itself, is a rule like any other.

`resolveTypedefs_accounted` puts this together for a whole file, with what the dictionary has
for each token in the end.
-/

namespace HeaderBridge

open Text

namespace Resolution

/-- What the lines come to with a rule more, which the dictionary takes. -/
def withRule (p : Resolution) (rule : Rule) : Resolution :=
  { p with
    dictionary := { p.dictionary with rules := p.dictionary.rules.insert rule.raw rule.target }
    registered := p.registered ++ [rule] }

/-- What the lines come to with a report more. -/
def withReport (p : Resolution) (line : Text) : Resolution :=
  { p with reports := p.reports ++ [unreadableTypedef line] }

/-- What the lines before and behind a place come to together. -/
def followedBy (p q : Resolution) : Resolution :=
  { q with registered := p.registered ++ q.registered, reports := p.reports ++ q.reports }

/-- With the line, what the lines before it came to has become `q`: the line has added one
rule, or it is reported, or it is blank. -/
structure Accounted (p : Resolution) (line : Text) (q : Resolution) : Prop where
  blank : line.isBlank = true → q = p
  one : line.isBlank = false → Xor (∃ rule, q = p.withRule rule) (q = p.withReport line)
  adds_iff : (∃ rule, q = p.withRule rule) ↔ IsTypedefLine line
  /-- The alias stands for what the dictionary has for the type at that line. -/
  rule : ∀ type name, readTypedef line = some (type, name) →
    q = p.withRule (name, p.dictionary.resolve type)

theorem withRule_ne (p : Resolution) (rule : Rule) : p.withRule rule ≠ p := by
  intro h
  have hlength := congrArg (fun r => r.registered.length) h
  simp [withRule] at hlength

/-- A rule more is no report more. -/
theorem withRule_ne_withReport (p : Resolution) (rule : Rule) (line : Text) :
    p.withRule rule ≠ p.withReport line := by
  intro h
  have hlength := congrArg (fun r => r.registered.length) h
  simp [withRule, withReport] at hlength

section

variable {p : Resolution} {line : Text}

theorem Accounted.of_isBlank (hb : line.isBlank = true) : p.Accounted line p := by
  have hr : readTypedef line = none := readTypedef_of_isBlank hb
  have hnot : ¬ ∃ rule, p = p.withRule rule := fun ⟨rule, h⟩ => p.withRule_ne rule h.symm
  have hnone : ¬ IsTypedefLine line := by simp [isTypedefLine_iff, hr]
  exact ⟨fun _ => rfl, by simp [hb], iff_of_false hnot hnone, by simp [hr]⟩

theorem Accounted.of_none (hb : line.isBlank = false) (hr : readTypedef line = none) :
    p.Accounted line (p.withReport line) := by
  have hnot : ¬ ∃ rule, p.withReport line = p.withRule rule := fun ⟨rule, h⟩ =>
    p.withRule_ne_withReport rule line h.symm
  have hnone : ¬ IsTypedefLine line := by simp [isTypedefLine_iff, hr]
  exact ⟨by simp [hb], fun _ => .inr ⟨rfl, hnot⟩, iff_of_false hnot hnone, by simp [hr]⟩

theorem Accounted.of_some {type name : Text} (hr : readTypedef line = some (type, name)) :
    p.Accounted line (p.withRule (name, p.dictionary.resolve type)) := by
  have hb : line.isBlank ≠ true := fun hb => by simp [readTypedef_of_isBlank hb] at hr
  have hrule : ∃ rule, p.withRule (name, p.dictionary.resolve type) = p.withRule rule := ⟨_, rfl⟩
  refine ⟨fun h => absurd h hb, fun _ => .inl ⟨hrule, p.withRule_ne_withReport _ line⟩,
    iff_of_true hrule (isTypedefLine_iff.2 ⟨_, hr⟩), fun type' name' h => ?_⟩
  obtain ⟨rfl, rfl⟩ := Prod.mk.inj (Option.some.inj (hr.symm.trans h))
  rfl

end

end Resolution

section

variable {d : Dictionary} {line : Text}

/-- The lines behind a place are read with the dictionary that the lines before it leave. -/
theorem resolveTypedefs_append (hd : d.frozen = false) (a b : List Text) :
    resolveTypedefs d (a ++ b) =
      (resolveTypedefs d a).followedBy (resolveTypedefs (resolveTypedefs d a).dictionary b) := by
  induction a generalizing d with
  | nil => rfl
  | cons line a ih =>
    rw [List.cons_append, resolveTypedefs, resolveTypedefs]
    by_cases hb : line.isBlank = true
    · rw [if_pos hb, if_pos hb, ih hd]
    · rw [if_neg hb, if_neg hb]
      cases hr : readTypedef line with
      | none =>
        simp only [Dictionary.registerTypedef_of_none hr, ih hd]
        rfl
      | some a =>
        -- The dictionary stays open, so no line ends the reading.
        have hkept : (d.register a.1 a.2).frozen = false := hd
        simp only [Dictionary.registerTypedef_of_some hd hr, ih hkept]
        rfl

/-- What the last line adds to what the lines before it came to. -/
theorem resolveTypedefs_concat (hd : d.frozen = false) (lines : List Text) (line : Text) :
    resolveTypedefs d (lines ++ [line]) =
      let p := resolveTypedefs d lines
      if line.isBlank then p
      else
        match readTypedef line with
        | some (type, name) => p.withRule (name, p.dictionary.resolve type)
        | none => p.withReport line := by
  obtain ⟨hrefused, hopen, -⟩ := resolveTypedefs_of_open hd lines
  rw [resolveTypedefs_append hd, resolveTypedefs]
  by_cases hb : line.isBlank = true
  · simp [hb, resolveTypedefs, Resolution.followedBy, ← hrefused]
  · cases hr : readTypedef line with
    | none =>
      simp [hb, Dictionary.registerTypedef_of_none hr, resolveTypedefs, Resolution.followedBy,
        Resolution.withReport, ← hrefused]
    | some a =>
      simp [hb, Dictionary.registerTypedef_of_some hopen hr, resolveTypedefs,
        Resolution.followedBy, Resolution.withRule, Dictionary.register, ← hrefused]

/-- A line adds a rule or is reported, not both, and a blank one does neither. -/
theorem accounted_concat (hd : d.frozen = false) (before : List Text) (line : Text) :
    (resolveTypedefs d before).Accounted line (resolveTypedefs d (before ++ [line])) := by
  rw [resolveTypedefs_concat hd]
  cases hb : line.isBlank with
  | true => simpa using .of_isBlank hb
  | false =>
    cases hr : readTypedef line with
    | some a => simpa using .of_some hr
    | none => simpa using .of_none hb hr

/-- Every line of a typedef file that is not blank adds a rule or is reported, in the order
of the lines, and in the end each token has the target of the last rule for it, or the one
that it had before. -/
theorem resolveTypedefs_accounted (hd : d.frozen = false) (lines : List Text) :
    let r := resolveTypedefs d lines
    resolveTypedefs d [] = { dictionary := d } ∧
      (∀ before line, before ++ [line] <+: lines →
        (resolveTypedefs d before).Accounted line (resolveTypedefs d (before ++ [line]))) ∧
      r.refused = none ∧
      r.registered.length + r.reports.length =
        (lines.filter fun line => !line.isBlank).length ∧
      ∀ x, r.dictionary.lookup x = (latestTarget r.registered x).or (d.lookup x) := by
  intro r
  obtain ⟨hrefused, -, hrules⟩ := resolveTypedefs_of_open hd lines
  refine ⟨rfl, fun before line _ => accounted_concat hd before line, hrefused,
    length_resolveTypedefs hd lines, fun x => ?_⟩
  show r.dictionary.rules.lookup x = _
  rw [show r.dictionary.rules = _ from hrules]
  exact Dictionary.lookup_foldl_insert r.registered d.rules x

/-- A typedef file with an alias of an alias, a line that cannot be read, a blank line, an
alias that comes again and one that names itself. -/
def mixedTypedefs : List Text :=
  ["typedef int32_t id_t;".toList, "typedef id_t key_t;".toList, "enum color { RED };".toList,
    " ".toList, "typedef size_t id_t;".toList, "typedef key_t key_t;".toList]

theorem resolveTypedefs_accounted_mixed :
    Dictionary.builtin.frozen = false ∧
      (resolveTypedefs .builtin (mixedTypedefs.take 4)).Accounted "typedef size_t id_t;".toList
        (resolveTypedefs .builtin (mixedTypedefs.take 5)) ∧
      (resolveTypedefs .builtin mixedTypedefs).registered.length +
        (resolveTypedefs .builtin mixedTypedefs).reports.length = 5 ∧
      (resolveTypedefs .builtin mixedTypedefs).dictionary.lookup "id_t".toList =
        some "long".toList :=
  have h := resolveTypedefs_accounted (d := .builtin) rfl mixedTypedefs
  ⟨rfl, h.2.1 (mixedTypedefs.take 4) _ ⟨["typedef key_t key_t;".toList], rfl⟩,
    h.2.2.2.1.trans (by decide), (h.2.2.2.2 "id_t".toList).trans (by decide)⟩

end

end HeaderBridge
