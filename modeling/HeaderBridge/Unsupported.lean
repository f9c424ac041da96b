import HeaderBridge.Signature

/-!
# Unsupported types

A type that stands in a signature and that no rule of the dictionary puts in is
unsupported. The unsupported types of a run are kept in the order in which they were
first met, each of them once: `nodup_classify` says that no signature brings in a type
that is there.
-/

namespace HeaderBridge

/-- Unsupported types, in the order in which they were first met. -/
abbrev Unsupported := List Text

namespace Unsupported

/-- The list with a type more, or nothing if the type is there. -/
def add? (u : Unsupported) (type : Text) : Option Unsupported :=
  if type ∈ u then none else some (u ++ [type])

/-- Those of the types that are to be added, in their order. -/
def additions (u : Unsupported) (d : Dictionary) : List Text → List Text
  | [] => []
  | type :: types =>
    if d.produces type || decide (type ∈ u) then additions u d types
    else type :: additions (u ++ [type]) d types

/-- The types that a signature adds. -/
def newTypes (u : Unsupported) (s : Signature) (d : Dictionary) : List Text :=
  additions u d s.types

/-- The list with the types that a signature adds. -/
def classify (u : Unsupported) (s : Signature) (d : Dictionary) : Unsupported :=
  u ++ u.newTypes s d

/-- The list in words. -/
def report (u : Unsupported) : Text :=
  "Unsupported types: [".toList ++ Text.join ", ".toList u ++ "]".toList

theorem nodup_append_additions {u : Unsupported} (hu : u.Nodup) (d : Dictionary)
    (types : List Text) : (u ++ additions u d types).Nodup := by
  induction types generalizing u with
  | nil => simpa [additions] using hu
  | cons t types ih =>
    unfold additions
    split
    · exact ih hu
    · next hc =>
      have ht : t ∉ u := fun ht => hc (by simp [ht])
      have hu' : (u ++ [t]).Nodup := by
        rw [List.nodup_append]
        refine ⟨hu, by simp, ?_⟩
        intro a ha b hb hab
        simp only [List.mem_singleton] at hb
        exact ht (by rw [← hb, ← hab]; exact ha)
      simpa using ih hu'

/-- No type is listed twice. -/
theorem nodup_classify {u : Unsupported} (hu : u.Nodup) (s : Signature) (d : Dictionary) :
    (u.classify s d).Nodup :=
  nodup_append_additions hu d s.types

end Unsupported

end HeaderBridge
