import SavedNetworks.Profile.Basic
import SavedNetworks.Text.Decimal

/-!
The profiles in memory, by id, with an index by key. Look-ups see what the current tenant may see;
conflicts between keys do not depend on who sees them.
-/

namespace SavedNetworks

structure Roster where
  profiles : SortedMap ProfileId Profile
  index : SortedMap ProfileKey ProfileId
  tenant : Tenant
deriving DecidableEq

/-- A key that another profile has. -/
structure KeyHeld where
  key : ProfileKey
  holder : ProfileId
deriving DecidableEq

def KeyHeld.message (conflict : KeyHeld) : String :=
  "profile key " ++ conflict.key.text ++ " already held by id " ++
    String.ofList (Text.decimal conflict.holder.value.toNat)

namespace Roster

def empty : Roster := ⟨.empty, .empty, 0⟩

def isVisible (roster : Roster) (profile : Profile) : Bool := profile.visibleTo roster.tenant

def get? (roster : Roster) (id : ProfileId) : Option Profile :=
  (roster.profiles.get? id).filter roster.isVisible

def getByKey? (roster : Roster) (key : ProfileKey) : Option Profile :=
  (roster.index.get? key).bind roster.get?

def idForKey? (roster : Roster) (key : ProfileKey) : Option ProfileId :=
  (roster.getByKey? key).map Profile.id

/-- Every profile in the order of ids, seen or not. -/
def all (roster : Roster) : List Profile := roster.profiles.values

/-- The profiles that the current tenant sees, in the order of ids. -/
def visible (roster : Roster) : List Profile := roster.all.filter roster.isVisible

def ids (roster : Roster) : List ProfileId := roster.visible.map Profile.id

/-- All profiles, seen or not. -/
def size (roster : Roster) : Nat := roster.profiles.size

def isEmpty (roster : Roster) : Bool := roster.profiles.isEmpty

def switchTo (roster : Roster) (tenant : Tenant) : Roster := { roster with tenant }

/-- Drops every profile and keeps the tenant. -/
def clear (roster : Roster) : Roster := { roster with profiles := .empty, index := .empty }

/-- The index without the key that the id of `profile` had so far, if that key is another one. -/
def freeKey (roster : Roster) (profile : Profile) : SortedMap ProfileKey ProfileId :=
  match roster.profiles.get? profile.id with
  | some previous => if previous.key = profile.key then roster.index else roster.index.erase previous.key
  | none => roster.index

/-- Stores a profile under its id, in place of the one that was there. A key has one holder: it is
refused to a second one. -/
def put (roster : Roster) (profile : Profile) : Except KeyHeld Roster :=
  let store : Roster :=
    { roster with
      profiles := roster.profiles.insert profile.id profile
      index := (roster.freeKey profile).insert profile.key profile.id }
  match roster.index.get? profile.key with
  | some holder => if holder = profile.id then .ok store else .error ⟨profile.key, holder⟩
  | none => .ok store

/-- Takes out a profile, seen or not. -/
def remove (roster : Roster) (id : ProfileId) : Roster :=
  match roster.profiles.get? id with
  | some profile =>
    { roster with profiles := roster.profiles.erase id, index := roster.index.erase profile.key }
  | none => roster

/-- Changes a profile that the current tenant sees. The change keeps its id; the index is left alone, so
that a change of SSID or security goes through `put`. -/
def modify (roster : Roster) (id : ProfileId) (change : Profile → Profile) : Roster :=
  match roster.get? id with
  | some profile => { roster with profiles := roster.profiles.insert id (change profile) }
  | none => roster

/-- Changes every profile that the current tenant sees. -/
def modifyVisible (roster : Roster) (change : Profile → Profile) : Roster :=
  { roster with
    profiles := roster.profiles.mapValues fun _ profile =>
      if roster.isVisible profile then change profile else profile }

theorem get?_eq_some {roster : Roster} {id : ProfileId} {profile : Profile} :
    roster.get? id = some profile ↔
      roster.profiles.get? id = some profile ∧ roster.isVisible profile = true := by
  simp [get?, Option.filter_eq_some_iff]

theorem put_eq_error_iff {roster : Roster} {profile : Profile} {conflict : KeyHeld} :
    roster.put profile = .error conflict ↔
      conflict.key = profile.key ∧ roster.index.get? profile.key = some conflict.holder ∧
        conflict.holder ≠ profile.id := by
  obtain ⟨key, holder⟩ := conflict
  unfold put
  cases held : roster.index.get? profile.key with
  | none => simp
  | some other =>
    by_cases same : other = profile.id
    · subst same
      simp only [if_true, reduceCtorEq, Option.some.injEq, false_iff, not_and]
      rintro _ rfl
      simp
    · simp only [same, if_false, Except.error.injEq, KeyHeld.mk.injEq, Option.some.injEq]
      constructor
      · rintro ⟨rfl, rfl⟩
        exact ⟨rfl, rfl, same⟩
      · rintro ⟨rfl, rfl, _⟩
        exact ⟨rfl, rfl⟩

end Roster

end SavedNetworks
