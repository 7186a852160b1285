import SavedNetworks.Collection.SortedMap

/-!
Finite sets listed in increasing order, as maps that store nothing. Sets with the same elements are
the same value (`SortedSet.ext_mem`).
-/

namespace SavedNetworks

universe u

variable {κ : Type u}

structure SortedSet (κ : Type u) [Ord κ] where
  entries : SortedMap κ Unit
deriving DecidableEq

namespace SortedSet

variable [Ord κ]

def empty : SortedSet κ := ⟨.empty⟩

instance : EmptyCollection (SortedSet κ) := ⟨empty⟩

instance : Inhabited (SortedSet κ) := ⟨empty⟩

def toList (set : SortedSet κ) : List κ := set.entries.keys

def size (set : SortedSet κ) : Nat := set.entries.size

def isEmpty (set : SortedSet κ) : Bool := set.entries.isEmpty

def contains (set : SortedSet κ) (key : κ) : Bool := set.entries.contains key

instance : Membership κ (SortedSet κ) := ⟨fun set key => set.contains key = true⟩

instance (key : κ) (set : SortedSet κ) : Decidable (key ∈ set) :=
  inferInstanceAs (Decidable (set.contains key = true))

theorem mem_iff_contains {set : SortedSet κ} {key : κ} : key ∈ set ↔ set.contains key = true := Iff.rfl

@[simp] theorem not_mem_empty (key : κ) : key ∉ (empty : SortedSet κ) := Bool.false_ne_true

variable [Std.TransOrd κ]

def insert (set : SortedSet κ) (key : κ) : SortedSet κ := ⟨set.entries.insert key ()⟩

def erase (set : SortedSet κ) (key : κ) : SortedSet κ := ⟨set.entries.erase key⟩

def ofList (keys : List κ) : SortedSet κ := keys.foldl insert empty

variable [Std.LawfulEqOrd κ]

theorem mem_insert {set : SortedSet κ} {key other : κ} :
    other ∈ set.insert key ↔ other = key ∨ other ∈ set := by
  classical
  simp only [mem_iff_contains, contains, insert, SortedMap.contains, SortedMap.get?_insert]
  by_cases same : other = key <;> simp [same]

omit [Std.TransOrd κ] in
theorem mem_erase {set : SortedSet κ} {key other : κ} :
    other ∈ set.erase key ↔ other ≠ key ∧ other ∈ set := by
  classical
  simp only [mem_iff_contains, contains, erase, SortedMap.contains, SortedMap.get?_erase]
  by_cases same : other = key <;> simp [same]

theorem ext_mem {left right : SortedSet κ} (agree : ∀ key, key ∈ left ↔ key ∈ right) : left = right := by
  cases left with | mk leftEntries =>
  cases right with | mk rightEntries =>
  congr
  refine SortedMap.ext_get? fun key => ?_
  have same := agree key
  simp only [mem_iff_contains, contains, SortedMap.contains] at same
  cases here : leftEntries.get? key <;> cases there : rightEntries.get? key <;> simp_all

end SortedSet

end SavedNetworks
