/-!
# Ordered maps

A map is the list of its entries in the order in which their keys were first put in.
Inserting at a key that is there replaces its value in place, inserting at a new key
adds an entry at the end, and erasing takes the entry of a key out.

`lookup_insert` and `lookup_erase_of_ne` say what each operation does to the values,
`keys_insert` what inserting does to the keys and their order, `insert_insert` that the
last value put at a key stays, and `erase_insert` that erasing a key undoes its first
insertion.
-/

namespace HeaderBridge

/-- Entries, in the order in which their keys were first put in. -/
abbrev OrderedMap (κ ν : Type) := List (κ × ν)

namespace OrderedMap

variable {κ ν : Type} [DecidableEq κ]

/-- The value at a key. -/
def lookup (m : OrderedMap κ ν) (k : κ) : Option ν := (m.find? fun e => e.1 = k).map Prod.snd

/-- The keys, in their order. -/
def keys (m : OrderedMap κ ν) : List κ := m.map Prod.fst

/-- The map with value `v` at `k`. -/
def insert : OrderedMap κ ν → κ → ν → OrderedMap κ ν
  | [], k, v => [(k, v)]
  | e :: m, k, v => if e.1 = k then (k, v) :: m else e :: insert m k v

/-- The map without the entry at `k`. -/
def erase : OrderedMap κ ν → κ → OrderedMap κ ν
  | [], _ => []
  | e :: m, k => if e.1 = k then m else e :: erase m k

@[simp] theorem lookup_nil (k : κ) : lookup ([] : OrderedMap κ ν) k = none := rfl

theorem lookup_cons (e : κ × ν) (m : OrderedMap κ ν) (k : κ) :
    lookup (e :: m) k = if e.1 = k then some e.2 else lookup m k := by
  by_cases h : e.1 = k <;> simp [lookup, h]

/-- A value is put at its key and at no other. -/
theorem lookup_insert (m : OrderedMap κ ν) (k : κ) (v : ν) (k' : κ) :
    (m.insert k v).lookup k' = if k = k' then some v else m.lookup k' := by
  induction m with
  | nil => simp [insert, lookup_cons]
  | cons e m ih =>
    rw [insert]
    split
    · next h => by_cases h' : k = k' <;> simp [lookup_cons, h, h']
    · next h =>
      rw [lookup_cons, ih, lookup_cons]
      by_cases h' : e.1 = k'
      · have hk : k ≠ k' := fun hk => h (h'.trans hk.symm)
        simp [h', hk]
      · simp [h']

/-- A key that is there keeps its place, and a new key comes last. -/
theorem keys_insert (m : OrderedMap κ ν) (k : κ) (v : ν) :
    keys (m.insert k v) = if k ∈ keys m then keys m else keys m ++ [k] := by
  induction m with
  | nil => rfl
  | cons e m ih =>
    by_cases h : e.1 = k
    · simp [insert, keys, h]
    · have h' : ¬ k = e.1 := fun hk => h hk.symm
      simp only [keys] at ih
      by_cases hm : k ∈ m.map Prod.fst <;> simp_all [insert, keys]

/-- A key is there exactly if it has a value. -/
theorem mem_keys_iff {m : OrderedMap κ ν} {k : κ} : k ∈ keys m ↔ ∃ v, m.lookup k = some v := by
  induction m with
  | nil => simp [keys]
  | cons e m ih =>
    rw [lookup_cons]
    by_cases h : e.1 = k
    · simp [keys, h]
    · have h' : ¬ k = e.1 := fun hk => h hk.symm
      simp only [keys, List.map_cons, List.mem_cons, h', false_or, h, if_false]
      exact ih

/-- The last value put at a key is the one that stays. -/
theorem insert_insert (m : OrderedMap κ ν) (k : κ) (v w : ν) :
    (m.insert k v).insert k w = m.insert k w := by
  induction m with
  | nil => simp [insert]
  | cons e m ih => by_cases h : e.1 = k <;> simp [insert, h, ih]

/-- Erasing a key leaves the values at the others. -/
theorem lookup_erase_of_ne (m : OrderedMap κ ν) {k k' : κ} (h : k ≠ k') :
    (m.erase k).lookup k' = m.lookup k' := by
  induction m with
  | nil => rfl
  | cons e m ih =>
    by_cases hk : e.1 = k
    · simp [erase, lookup_cons, hk, h]
    · simp [erase, lookup_cons, hk, ih]

/-- Erasing a key undoes its first insertion. -/
theorem erase_insert {m : OrderedMap κ ν} {k : κ} (h : k ∉ keys m) (v : ν) :
    (m.insert k v).erase k = m := by
  induction m with
  | nil => simp [insert, erase]
  | cons e m ih =>
    have hk : e.1 ≠ k := fun he => h (by simp [keys, he])
    have hm : k ∉ keys m := fun hm => h (by simp only [keys, List.map_cons]; exact .tail _ hm)
    simp [insert, erase, hk, ih hm]

end OrderedMap

end HeaderBridge
