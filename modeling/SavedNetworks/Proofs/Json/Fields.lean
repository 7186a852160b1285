import SavedNetworks.Json.Fields
import SavedNetworks.Proofs.Collections

/-!
Typed values read back from their written form: numbers within their range, options, lists, sets, names of
variants, and the fields of a structure that is written as a record.
-/

namespace SavedNetworks.Json

variable {α : Type}

@[simp] theorem bool?_bool (value : Bool) : bool? (bool value) = some value := rfl

@[simp] theorem text?_text (value : String) : text? (text value) = some value := rfl

theorem natBelow?_nat {limit value : Nat} (below : value < limit) : natBelow? limit (nat value) = some value := by
  have within : (0 : Int) ≤ value ∧ (value : Int) ≤ limit - 1 := by omega
  simp [natBelow?, nat, intWithin?, within]

@[simp] theorem uint8?_ofUInt8 (value : UInt8) : uint8? (ofUInt8 value) = some value := by
  simp [uint8?, ofUInt8, natBelow?_nat value.toNat_lt]

@[simp] theorem uint16?_ofUInt16 (value : UInt16) : uint16? (ofUInt16 value) = some value := by
  simp [uint16?, ofUInt16, natBelow?_nat value.toNat_lt]

@[simp] theorem uint32?_ofUInt32 (value : UInt32) : uint32? (ofUInt32 value) = some value := by
  simp [uint32?, ofUInt32, natBelow?_nat value.toNat_lt]

@[simp] theorem uint64?_ofUInt64 (value : UInt64) : uint64? (ofUInt64 value) = some value := by
  simp [uint64?, ofUInt64, natBelow?_nat value.toNat_lt]

@[simp] theorem int64?_ofInt64 (value : Int64) : int64? (ofInt64 value) = some value := by
  have within : Int64.minValue.toInt ≤ value.toInt ∧ value.toInt ≤ Int64.maxValue.toInt :=
    ⟨Int64.minValue_le_toInt value, Int64.toInt_le value⟩
  simp only [int64?, ofInt64, intWithin?, within, and_self, if_true, Option.map_some, Int64.ofInt_toInt]

theorem nullable?_ofOption {read : Json → Option α} {write : α → Json} (reads : ∀ value, read (write value) = some value)
    (present : ∀ value, write value ≠ null) (value : Option α) :
    nullable? read (ofOption write value) = some value := by
  cases value with
  | none => rfl
  | some value =>
      unfold nullable? ofOption
      split
      · exact absurd ‹_› (present value)
      · simp [reads]

theorem listOf?_map {read : Json → Option α} {write : α → Json} (reads : ∀ value, read (write value) = some value)
    (values : List α) : listOf? read (list (values.map write)) = some values := by
  induction values with
  | nil => rfl
  | cons value others ih =>
      have rest : (others.map write).mapM read = some others := ih
      simp [listOf?, reads, rest]

theorem vectorOf?_toList {size : Nat} {read : Json → Option α} {write : α → Json}
    (reads : ∀ value, read (write value) = some value) (values : Vector α size) :
    vectorOf? size read (list (values.toList.map write)) = some values := by
  simp only [vectorOf?, listOf?_map reads, Option.bind_eq_bind, Option.bind_some, List.size_toArray,
    Vector.length_toList]
  rfl

theorem setOf?_toList [Ord α] [Std.TransOrd α] [Std.LawfulEqOrd α] {read : Json → Option α} {write : α → Json}
    (reads : ∀ value, read (write value) = some value) (values : SortedSet α) :
    setOf? read (list (values.toList.map write)) = some values := by
  rw [setOf?, listOf?_map reads, Option.map_some, SortedSet.ofList_toList]

theorem lookup_eq_none_of_not_mem {name : String} {members : Fields} (absent : name ∉ members.map Prod.fst) :
    members.lookup name = none := by
  rw [List.lookup_eq_none_iff]
  intro member present
  simp only [List.mem_map, not_exists, not_and] at absent
  simpa using fun same => absent member present same.symm

theorem knownMembers_object {names : List String} {members : Fields} (distinct : (members.map Prod.fst).Nodup)
    (known : ∀ name ∈ members.map Prod.fst, name ∈ names) :
    knownMembers names (members.map fun (name, value) => (some name, value)) = some members := by
  induction members with
  | nil => rfl
  | cons member others ih =>
      obtain ⟨name, value⟩ := member
      rw [List.map_cons, List.nodup_cons] at distinct
      have read := ih distinct.2 fun other present => known other (List.mem_cons_of_mem _ present)
      have listed : names.contains name = true := by simpa using known name (by simp)
      simp only [List.map_cons, knownMembers, read, Option.bind_eq_bind, Option.bind_some, listed,
        lookup_eq_none_of_not_mem distinct.1]
      rfl

theorem fields?_object {names : List String} {members : Fields} (named : members.map Prod.fst = names)
    (distinct : names.Nodup) : (object members).fields? names = some members := by
  subst named
  exact knownMembers_object distinct fun _ present => present

theorem contentFields?_object {origin : Origin} {names : List String} {members : Fields}
    (named : members.map Prod.fst = names) (distinct : names.Nodup) :
    contentFields? origin names (object members) = some members := by
  cases origin <;> exact fields?_object named distinct

namespace Fields

theorem required_cons (name other : String) (value : Json) (rest : Fields) (read : Json → Option α) :
    required ((other, value) :: rest) name read = if name = other then read value else required rest name read := by
  by_cases same : name = other
  · simp [required, same]
  · have apart : (name == other) = false := by simpa using same
    simp only [required, List.lookup_cons, apart, same, if_false]

theorem optional_cons (name other : String) (value : Json) (rest : Fields) (read : Json → Option α) :
    optional ((other, value) :: rest) name read =
      if name = other then nullable? read value else optional rest name read := by
  by_cases same : name = other
  · simp [optional, same]
  · have apart : (name == other) = false := by simpa using same
    simp only [optional, List.lookup_cons, apart, same, if_false]

end Fields

end SavedNetworks.Json
