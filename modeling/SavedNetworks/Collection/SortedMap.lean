/-!
Finite maps kept as a list of entries with strictly increasing keys. The order of the entries is
the order in which every listing of the program shows them, and two maps with the same entries are
the same value (`SortedMap.ext_get?`).
-/

namespace SavedNetworks

universe u v w

variable {κ : Type u} {α : Type v} {β : Type w}

structure SortedMap (κ : Type u) (α : Type v) [Ord κ] where
  entries : List (κ × α)
  increasing : entries.Pairwise fun left right => compare left.1 right.1 = .lt
deriving DecidableEq

namespace SortedMap

section Entries

variable [Ord κ]

def lookup (key : κ) : List (κ × α) → Option α
  | [] => none
  | (other, value) :: rest => if compare key other = .eq then some value else lookup key rest

/-- Puts `value` under `key`, before the first greater key, in place of an equal one. -/
def insertEntry (key : κ) (value : α) : List (κ × α) → List (κ × α)
  | [] => [(key, value)]
  | (other, old) :: rest =>
    match compare key other with
    | .lt => (key, value) :: (other, old) :: rest
    | .eq => (key, value) :: rest
    | .gt => (other, old) :: insertEntry key value rest

theorem mem_insertEntry {key : κ} {value : α} {entry : κ × α} {entries : List (κ × α)}
    (found : entry ∈ insertEntry key value entries) : entry = (key, value) ∨ entry ∈ entries := by
  fun_induction insertEntry key value entries <;> grind

end Entries

variable [Ord κ] [Std.TransOrd κ]

theorem insertEntry_increasing {key : κ} {value : α} {entries : List (κ × α)}
    (increasing : entries.Pairwise fun left right => compare left.1 right.1 = .lt) :
    (insertEntry key value entries).Pairwise fun left right => compare left.1 right.1 = .lt := by
  induction entries with
  | nil => simp [insertEntry]
  | cons entry rest rest_increasing =>
    obtain ⟨other, old⟩ := entry
    rw [List.pairwise_cons] at increasing
    unfold insertEntry
    cases order : compare key other with
    | lt =>
      refine List.pairwise_cons.2 ⟨fun later present => ?_, List.pairwise_cons.2 increasing⟩
      rcases List.mem_cons.1 present with same | deeper
      · exact same ▸ order
      · exact Std.TransCmp.lt_trans order (increasing.1 later deeper)
    | eq =>
      exact List.pairwise_cons.2 ⟨fun later present =>
        Std.TransCmp.lt_of_eq_of_lt order (increasing.1 later present), increasing.2⟩
    | gt =>
      refine List.pairwise_cons.2 ⟨fun later present => ?_, rest_increasing increasing.2⟩
      rcases mem_insertEntry present with same | deeper
      · exact same ▸ Std.OrientedCmp.lt_of_gt order
      · exact increasing.1 later deeper

def empty : SortedMap κ α := ⟨[], .nil⟩

instance : EmptyCollection (SortedMap κ α) := ⟨empty⟩

instance : Inhabited (SortedMap κ α) := ⟨empty⟩

def get? (map : SortedMap κ α) (key : κ) : Option α := lookup key map.entries

def contains (map : SortedMap κ α) (key : κ) : Bool := (map.get? key).isSome

def size (map : SortedMap κ α) : Nat := map.entries.length

def isEmpty (map : SortedMap κ α) : Bool := map.entries.isEmpty

def keys (map : SortedMap κ α) : List κ := map.entries.map Prod.fst

def values (map : SortedMap κ α) : List α := map.entries.map Prod.snd

def insert (map : SortedMap κ α) (key : κ) (value : α) : SortedMap κ α :=
  ⟨insertEntry key value map.entries, insertEntry_increasing map.increasing⟩

def filter (map : SortedMap κ α) (keep : κ → α → Bool) : SortedMap κ α :=
  ⟨map.entries.filter fun entry => keep entry.1 entry.2, map.increasing.sublist List.filter_sublist⟩

def erase (map : SortedMap κ α) (key : κ) : SortedMap κ α :=
  map.filter fun other _ => compare key other != .eq

def mapValues (map : SortedMap κ α) (change : κ → α → β) : SortedMap κ β :=
  ⟨map.entries.map fun entry => (entry.1, change entry.1 entry.2),
    map.increasing.map _ fun _ _ ordered => ordered⟩

def modify (map : SortedMap κ α) (key : κ) (change : α → α) : SortedMap κ α :=
  match map.get? key with
  | none => map
  | some value => map.insert key (change value)

/-- Adds every entry of `more` to `map`; `more` wins on a shared key. -/
def union (map more : SortedMap κ α) : SortedMap κ α :=
  more.entries.foldl (fun result entry => result.insert entry.1 entry.2) map

/-- The map of the given entries; a later entry replaces an earlier one with its key. -/
def ofList (entries : List (κ × α)) : SortedMap κ α :=
  entries.foldl (fun result entry => result.insert entry.1 entry.2) empty

omit [Std.TransOrd κ] in
@[simp] theorem get?_empty (key : κ) : (empty : SortedMap κ α).get? key = none := rfl

variable [Std.LawfulEqOrd κ]

omit [Std.TransOrd κ] in
theorem lookup_insertEntry [DecidableEq κ] (key other : κ) (value : α) (entries : List (κ × α)) :
    lookup other (insertEntry key value entries) =
      if other = key then some value else lookup other entries := by
  induction entries with
  | nil => simp [insertEntry, lookup]
  | cons entry rest rest_lookup =>
    obtain ⟨first, old⟩ := entry
    unfold insertEntry
    cases order : compare key first with
    | lt => simp [lookup]
    | eq =>
      have same : key = first := Std.LawfulEqCmp.eq_of_compare order
      subst same
      by_cases asked : other = key <;> simp [lookup, asked]
    | gt =>
      have different : first ≠ key := by rintro rfl; simp at order
      by_cases asked : other = first
      · subst asked; simp [lookup, different]
      · simp [lookup, asked, rest_lookup]

theorem get?_insert [DecidableEq κ] (map : SortedMap κ α) (key other : κ) (value : α) :
    (map.insert key value).get? other = if other = key then some value else map.get? other :=
  lookup_insertEntry key other value map.entries

@[simp] theorem get?_insert_self (map : SortedMap κ α) (key : κ) (value : α) :
    (map.insert key value).get? key = some value := by
  classical simp [get?_insert]

theorem get?_insert_of_ne (map : SortedMap κ α) {key other : κ} (value : α) (different : other ≠ key) :
    (map.insert key value).get? other = map.get? other := by
  classical simp [get?_insert, different]

omit [Std.TransOrd κ] in
theorem mem_of_lookup {key : κ} {value : α} {entries : List (κ × α)}
    (found : lookup key entries = some value) : (key, value) ∈ entries := by
  fun_induction lookup key entries with
  | case1 => cases found
  | case2 first old rest order =>
    have same : key = first := Std.LawfulEqCmp.eq_of_compare order
    cases found
    simp [same]
  | case3 first old rest order rest_found => exact List.mem_cons_of_mem _ (rest_found found)

omit [Std.TransOrd κ] in
theorem lookup_of_mem {key : κ} {value : α} {entries : List (κ × α)}
    (increasing : entries.Pairwise fun left right => compare left.1 right.1 = .lt)
    (present : (key, value) ∈ entries) : lookup key entries = some value := by
  induction entries with
  | nil => cases present
  | cons entry rest rest_lookup =>
    obtain ⟨first, old⟩ := entry
    rw [List.pairwise_cons] at increasing
    rcases List.mem_cons.1 present with same | deeper
    · cases same; simp [lookup]
    · have order : compare first key = .lt := increasing.1 _ deeper
      have different : key ≠ first := by rintro rfl; simp at order
      simp [lookup, different, rest_lookup increasing.2 deeper]

omit [Std.TransOrd κ] in
theorem mem_entries_iff (map : SortedMap κ α) (key : κ) (value : α) :
    (key, value) ∈ map.entries ↔ map.get? key = some value :=
  ⟨lookup_of_mem map.increasing, mem_of_lookup⟩

omit [Std.TransOrd κ] in
theorem get?_filter (map : SortedMap κ α) (keep : κ → α → Bool) (key : κ) :
    (map.filter keep).get? key = (map.get? key).filter (keep key) := by
  ext value
  rw [← mem_entries_iff, Option.filter_eq_some_iff, ← mem_entries_iff]
  simp [filter]

omit [Std.TransOrd κ] in
theorem get?_erase [DecidableEq κ] (map : SortedMap κ α) (key other : κ) :
    (map.erase key).get? other = if other = key then none else map.get? other := by
  rw [erase, get?_filter]
  by_cases same : other = key
  · subst same
    cases stored : map.get? other <;> simp [Option.filter]
  · have apart : key ≠ other := fun equal => same equal.symm
    cases stored : map.get? other <;> simp [Option.filter, same, apart]

omit [Std.TransOrd κ] [Std.LawfulEqOrd κ] in
theorem lookup_eq_none_of_lt {key : κ} {entries : List (κ × α)}
    (below : ∀ entry ∈ entries, compare key entry.1 = .lt) : lookup key entries = none := by
  induction entries with
  | nil => rfl
  | cons entry rest rest_none =>
    obtain ⟨first, old⟩ := entry
    have order : compare key first = .lt := below _ (List.mem_cons_self ..)
    simp only [lookup, order, reduceCtorEq, if_false]
    exact rest_none fun later present => below later (List.mem_cons_of_mem _ present)

theorem entries_eq_of_lookup {left right : List (κ × α)}
    (leftIncreasing : left.Pairwise fun a b => compare a.1 b.1 = .lt)
    (rightIncreasing : right.Pairwise fun a b => compare a.1 b.1 = .lt)
    (agree : ∀ key, lookup key left = lookup key right) : left = right := by
  induction left generalizing right with
  | nil =>
    cases right with
    | nil => rfl
    | cons entry rest => simpa [lookup] using agree entry.1
  | cons entry rest rest_eq =>
    obtain ⟨first, value⟩ := entry
    cases right with
    | nil => simpa [lookup] using agree first
    | cons other others =>
      obtain ⟨second, held⟩ := other
      rw [List.pairwise_cons] at leftIncreasing rightIncreasing
      have below_rest : ∀ later ∈ rest, compare first later.1 = .lt := leftIncreasing.1
      have below_others : ∀ later ∈ others, compare second later.1 = .lt := rightIncreasing.1
      have same : first = second := by
        cases order : compare first second with
        | eq => exact Std.LawfulEqCmp.eq_of_compare order
        | lt =>
          have missing : lookup first ((second, held) :: others) = none :=
            lookup_eq_none_of_lt fun later present => by
              rcases List.mem_cons.1 present with here | deeper
              · exact here ▸ order
              · exact Std.TransCmp.lt_trans order (below_others later deeper)
          rw [← agree first] at missing
          simp [lookup] at missing
        | gt =>
          have missing : lookup second ((first, value) :: rest) = none :=
            lookup_eq_none_of_lt fun later present => by
              rcases List.mem_cons.1 present with here | deeper
              · exact here ▸ Std.OrientedCmp.lt_of_gt order
              · exact Std.TransCmp.lt_trans (Std.OrientedCmp.lt_of_gt order) (below_rest later deeper)
          rw [agree second] at missing
          simp [lookup] at missing
      subst same
      have stored : value = held := by simpa [lookup] using agree first
      subst stored
      refine congrArg _ (rest_eq leftIncreasing.2 rightIncreasing.2 fun key => ?_)
      by_cases asked : compare key first = .eq
      · have here : key = first := Std.LawfulEqCmp.eq_of_compare asked
        subst here
        rw [lookup_eq_none_of_lt below_rest, lookup_eq_none_of_lt below_others]
      · simpa [lookup, asked] using agree key

theorem ext_get? {left right : SortedMap κ α} (agree : ∀ key, left.get? key = right.get? key) :
    left = right := by
  cases left
  cases right
  congr
  exact entries_eq_of_lookup ‹_› ‹_› agree

end SortedMap

end SavedNetworks
