import SavedNetworks.Collection.SortedMap
import SavedNetworks.Collection.SortedSet
import SavedNetworks.Json.Basic

/-!
Typed values in a document. Integers must be whole numbers within the range of their type; a structure
may be written as a record, where members of unknown names are skipped and a known name may stand only
once, or as the list of its fields in their order.
-/

namespace SavedNetworks.Json

variable {α : Type}

def bool? : Json → Option Bool
  | bool value => some value
  | _ => none

def text? : Json → Option String
  | string value => value
  | _ => none

def intWithin? (low high : Int) : Json → Option Int
  | int value => if low ≤ value ∧ value ≤ high then some value else none
  | _ => none

def natBelow? (limit : Nat) (document : Json) : Option Nat :=
  (intWithin? 0 (limit - 1) document).map Int.toNat

def uint8? (document : Json) : Option UInt8 := (natBelow? UInt8.size document).map UInt8.ofNat

def uint16? (document : Json) : Option UInt16 := (natBelow? UInt16.size document).map UInt16.ofNat

def uint32? (document : Json) : Option UInt32 := (natBelow? UInt32.size document).map UInt32.ofNat

def uint64? (document : Json) : Option UInt64 := (natBelow? UInt64.size document).map UInt64.ofNat

/-- A count that fits in 64 bits. -/
def count? (document : Json) : Option Nat := natBelow? UInt64.size document

def int32? (document : Json) : Option Int32 :=
  (intWithin? Int32.minValue.toInt Int32.maxValue.toInt document).map Int32.ofInt

def int64? (document : Json) : Option Int64 :=
  (intWithin? Int64.minValue.toInt Int64.maxValue.toInt document).map Int64.ofInt

/-- Null stands for an absent value. -/
def nullable? (read : Json → Option α) : Json → Option (Option α)
  | null => some none
  | document => (read document).map some

def listOf? (read : Json → Option α) : Json → Option (List α)
  | list items => items.mapM read
  | _ => none

def pairOf? {β : Type} (first : Json → Option α) (second : Json → Option β) : Json → Option (α × β)
  | list [left, right] => do some (← first left, ← second right)
  | _ => none

def vectorOf? (size : Nat) (read : Json → Option α) (document : Json) : Option (Vector α size) := do
  let items ← listOf? read document
  if exact : items.toArray.size = size then some ⟨items.toArray, exact⟩ else none

def setOf? [Ord α] [Std.TransOrd α] (read : Json → Option α) (document : Json) : Option (SortedSet α) :=
  (listOf? read document).map SortedSet.ofList

/-- A record used as a map; the last member of a name wins, and every member has to be readable. -/
def mapOf? {κ : Type} [Ord κ] [Std.TransOrd κ] (readKey : String → Option κ) (read : Json → Option α) :
    Json → Option (SortedMap κ α)
  | record members => do
    let entries ← members.mapM fun (name, value) => do
      some (← readKey (← name), ← read value)
    some (SortedMap.ofList entries)
  | _ => none

/-- A value that is known by name alone: the name, or a record of the name with null. -/
def variant? (named : String → Option α) : Json → Option α
  | string (some name) => named name
  | record [(some name, null)] => named name
  | _ => none

/-- The value of each field that is present, by name. -/
abbrev Fields := List (String × Json)

/-- Collects the members whose names are in `names`. Fails on a second member of one of these names and
on a name that is no text. -/
def knownMembers (names : List String) : List (Option String × Json) → Option Fields
  | [] => some []
  | (none, _) :: _ => none
  | (some name, value) :: rest => do
    let others ← knownMembers names rest
    if !names.contains name then some others
    else if (others.lookup name).isSome then none
    else some ((name, value) :: others)

/-- The fields of a structure that has all of `names`. -/
def fields? (names : List String) : Json → Option Fields
  | record members => knownMembers names members
  | list items => if items.length = names.length then some (names.zip items) else none
  | _ => none

/-- Where a document comes from: a text of its own, such as a stored record, or an argument of a request. -/
inductive Origin where
  | text
  | argument
deriving DecidableEq

/-- The fields inside a named variant. A text may list them in order; an argument has to name them. -/
def contentFields? (origin : Origin) (names : List String) (document : Json) : Option Fields :=
  match origin, document with
  | .argument, list _ => none
  | _, _ => document.fields? names

/-- The fields of a structure whose last fields may be left out of its list form. -/
def someFields? (names : List String) : Json → Option Fields
  | record members => knownMembers names members
  | list items => if items.length ≤ names.length then some (names.zip items) else none
  | _ => none

namespace Fields

def required (fields : Fields) (name : String) (read : Json → Option α) : Option α :=
  (fields.lookup name).bind read

/-- A field that may be null or absent. -/
def optional (fields : Fields) (name : String) (read : Json → Option α) : Option (Option α) :=
  match fields.lookup name with
  | none => some none
  | some document => nullable? read document

/-- A field that may be absent, but not null. -/
def orDefault (fields : Fields) (name : String) (read : Json → Option α) (default : α) : Option α :=
  match fields.lookup name with
  | none => some default
  | some document => read document

end Fields

def ofInt64 (value : Int64) : Json := int value.toInt

def ofInt32 (value : Int32) : Json := int value.toInt

def ofUInt8 (value : UInt8) : Json := nat value.toNat

def ofUInt16 (value : UInt16) : Json := nat value.toNat

def ofUInt32 (value : UInt32) : Json := nat value.toNat

def ofUInt64 (value : UInt64) : Json := nat value.toNat

def ofTexts (texts : List String) : Json := list (texts.map text)

end SavedNetworks.Json
