import SavedNetworks.Collection.SortedMap
import SavedNetworks.Collection.SortedSet

/-!
What the listings of sorted maps and sets contain, and what mapping over the values keeps.
-/

namespace SavedNetworks

universe u v w

namespace SortedMap

variable {κ : Type u} {α : Type v} {β : Type w} [Ord κ] [Std.LawfulEqOrd κ]

theorem mem_values_iff {map : SortedMap κ α} {value : α} :
    value ∈ map.values ↔ ∃ key, map.get? key = some value := by
  simp only [values, List.mem_map, Prod.exists, mem_entries_iff]
  constructor
  · rintro ⟨key, stored, found, rfl⟩
    exact ⟨key, found⟩
  · rintro ⟨key, found⟩
    exact ⟨key, value, found, rfl⟩

theorem mem_keys_iff {map : SortedMap κ α} {key : κ} : key ∈ map.keys ↔ (map.get? key).isSome = true := by
  simp only [keys, List.mem_map, Prod.exists, mem_entries_iff, Option.isSome_iff_exists]
  constructor
  · rintro ⟨other, value, found, rfl⟩
    exact ⟨value, found⟩
  · rintro ⟨value, found⟩
    exact ⟨key, value, found, rfl⟩

omit [Std.LawfulEqOrd κ] in
theorem get?_mapValues (map : SortedMap κ α) (change : α → β) (key : κ) :
    (map.mapValues fun _ value => change value).get? key = (map.get? key).map change := by
  simp only [get?, mapValues]
  induction map.entries with
  | nil => rfl
  | cons entry rest ih =>
      simp only [List.map_cons, lookup, ih]
      split <;> rfl

/-- No key is listed twice. -/
theorem keys_nodup (map : SortedMap κ α) : map.keys.Nodup := by
  unfold keys
  rw [List.Nodup, List.pairwise_map]
  refine map.increasing.imp fun {left right} ordered same => ?_
  have equal : compare right.1 right.1 = .eq := Std.ReflCmp.compare_self
  rw [same, equal] at ordered
  cases ordered

/-- Entries of different keys are all there once they are put into a map. -/
theorem get?_foldl_insert_eq_some [Std.TransOrd κ] {entries : List (κ × α)} {map : SortedMap κ α} {key : κ} {value : α}
    (functional : (entries.map Prod.fst).Nodup) :
    (entries.foldl (fun map entry => map.insert entry.1 entry.2) map).get? key = some value ↔
      (key, value) ∈ entries ∨ key ∉ entries.map Prod.fst ∧ map.get? key = some value := by
  classical
  induction entries generalizing map with
  | nil => simp
  | cons entry rest ih =>
      obtain ⟨first, stored⟩ := entry
      rw [List.map_cons, List.nodup_cons] at functional
      rw [List.foldl_cons, ih functional.2, get?_insert]
      by_cases same : key = first
      · subst same
        have absent : ∀ other, (key, other) ∉ rest := fun other later =>
          functional.1 (List.mem_map.2 ⟨_, later, rfl⟩)
        simp [absent, functional.1, eq_comm]
      · simp [same]

theorem get?_ofList_eq_some [Std.TransOrd κ] {entries : List (κ × α)} {key : κ} {value : α}
    (functional : (entries.map Prod.fst).Nodup) : (ofList entries).get? key = some value ↔ (key, value) ∈ entries := by
  rw [ofList, get?_foldl_insert_eq_some functional]
  simp

theorem entries_ofList [Std.TransOrd κ] {entries : List (κ × α)} (functional : (entries.map Prod.fst).Nodup) :
    (ofList entries).entries.Perm entries := by
  have nodup {listed : List (κ × α)} (keys : (listed.map Prod.fst).Nodup) : listed.Nodup :=
    (List.pairwise_map.1 keys).imp fun apart same => apart (congrArg Prod.fst same)
  refine (List.perm_ext_iff_of_nodup (nodup (keys_nodup _)) (nodup functional)).2 fun ⟨key, value⟩ => ?_
  rw [mem_entries_iff, get?_ofList_eq_some functional]

omit [Std.LawfulEqOrd κ] in
theorem length_insertEntry [Std.TransOrd κ] {entries : List (κ × α)} (key : κ) (value : α)
    (increasing : entries.Pairwise fun left right => compare left.1 right.1 = .lt) :
    (insertEntry key value entries).length =
      if (lookup key entries).isSome then entries.length else entries.length + 1 := by
  induction entries with
  | nil => simp [insertEntry, lookup]
  | cons entry rest ih =>
      obtain ⟨first, old⟩ := entry
      obtain ⟨below, rest_increasing⟩ := List.pairwise_cons.1 increasing
      cases order : compare key first with
      | lt =>
          have missing : lookup key rest = none := lookup_eq_none_of_lt fun later present =>
            Std.TransCmp.lt_trans order (below later present)
          simp [insertEntry, lookup, order, missing]
      | eq => simp [insertEntry, lookup, order]
      | gt =>
          simp only [insertEntry, lookup, order, reduceCtorEq, if_false, List.length_cons, ih rest_increasing]
          split <;> rfl

omit [Std.LawfulEqOrd κ] in
theorem size_insert [Std.TransOrd κ] (map : SortedMap κ α) (key : κ) (value : α) :
    (map.insert key value).size = if map.contains key then map.size else map.size + 1 :=
  length_insertEntry key value map.increasing

theorem empty_union [Std.TransOrd κ] (map : SortedMap κ α) : empty.union map = map := by
  refine ext_get? fun key => Option.ext fun value => ?_
  have listed : (empty.union map).get? key = some value ↔ (key, value) ∈ map.entries :=
    get?_ofList_eq_some map.keys_nodup
  rw [listed, mem_entries_iff]

theorem erase_of_not_contains [Std.TransOrd κ] [DecidableEq κ] {map : SortedMap κ α} {key : κ}
    (absent : map.contains key = false) : map.erase key = map := by
  refine ext_get? fun other => ?_
  rw [get?_erase]
  split
  · next same =>
      rw [same]
      exact (Option.isSome_eq_false_iff.1 absent |> Option.isNone_iff_eq_none.1).symm
  · rfl

end SortedMap

namespace SortedSet

variable {κ : Type u} [Ord κ] [Std.LawfulEqOrd κ]

theorem mem_toList {set : SortedSet κ} {key : κ} : key ∈ set.toList ↔ key ∈ set := SortedMap.mem_keys_iff

variable [Std.TransOrd κ]

theorem mem_foldl_insert {keys : List κ} {set : SortedSet κ} {key : κ} :
    key ∈ keys.foldl insert set ↔ key ∈ set ∨ key ∈ keys := by
  induction keys generalizing set with
  | nil => simp
  | cons first rest ih =>
      rw [List.foldl_cons, ih, mem_insert, List.mem_cons]
      constructor
      · rintro ((same | held) | later)
        · exact .inr (.inl same)
        · exact .inl held
        · exact .inr (.inr later)
      · rintro (held | same | later)
        · exact .inl (.inr held)
        · exact .inl (.inl same)
        · exact .inr later

omit [Std.TransOrd κ] in
theorem mem_foldl_erase {keys : List κ} {set : SortedSet κ} {key : κ} :
    key ∈ keys.foldl erase set ↔ key ∈ set ∧ key ∉ keys := by
  induction keys generalizing set with
  | nil => simp
  | cons first rest ih =>
      rw [List.foldl_cons, ih, mem_erase, List.mem_cons, not_or, and_assoc, and_left_comm]

theorem ofList_toList (set : SortedSet κ) : ofList set.toList = set := by
  refine ext_mem fun key => ?_
  rw [ofList, mem_foldl_insert, mem_toList]
  exact or_iff_right (not_mem_empty key)

end SortedSet

end SavedNetworks
