import Mathlib.Data.List.Induction
import SavedNetworks.Proofs.Manager.Loads

/-!
A roster as a table with two indexes. Whatever profiles are put in and taken out and whoever looks at it, ids and keys lead
to each other, a profile is refused for a key that another one has and for nothing else, and every listing shows each of its
profiles once, in the order of ids (`Roster.isTable_callAll`).
-/

namespace SavedNetworks

/-- What may be done to a roster as a whole. -/
inductive RosterCall where
  | put (profile : Profile)
  | remove (id : ProfileId)
  | clear
  | switchTo (tenant : Tenant)
deriving DecidableEq

namespace Roster

/-- A profile that is refused is not put in. -/
def call (roster : Roster) : RosterCall → Roster
  | .put profile => roster.takeIn profile
  | .remove id => roster.remove id
  | .clear => roster.clear
  | .switchTo tenant => roster.switchTo tenant

def callAll (roster : Roster) (calls : List RosterCall) : Roster := calls.foldl call roster

/-- The profile stands under its id. -/
def Stores (roster : Roster) (profile : Profile) : Prop := roster.profiles.get? profile.id = some profile

/-- The roster `after` has `profile` in place of what stood under its id, and only its key leads to that id. -/
structure Replaces (roster after : Roster) (profile : Profile) : Prop where
  profiles : ∀ id, after.profiles.get? id = if id = profile.id then some profile else roster.profiles.get? id
  index : ∀ key, after.index.get? key =
    if key = profile.key then some profile.id
    else if roster.index.get? key = some profile.id then none else roster.index.get? key
  tenant : after.tenant = roster.tenant

/-- The list has each chosen profile once, in the order of ids. -/
structure Lists (listed : List Profile) (Chosen : Profile → Prop) : Prop where
  mem_iff : ∀ profile, profile ∈ listed ↔ Chosen profile
  increasing : (listed.map Profile.id).Pairwise fun left right => left.value < right.value

structure IsTable (roster : Roster) : Prop where
  named : ∀ id profile, roster.profiles.get? id = some profile → profile.id = id
  /-- The two indexes are inverse to each other. -/
  inverse : ∀ key id, roster.index.get? key = some id ↔ (roster.profiles.get? id).map Profile.key = some key
  /-- A key is refused to any profile but its holder, whoever may see the holder. -/
  refuses : ∀ profile conflict, roster.put profile = .error conflict ↔
    conflict.key = profile.key ∧ conflict.holder ≠ profile.id ∧
      ∃ other, roster.Stores other ∧ other.id = conflict.holder ∧ other.key = profile.key
  unchanged : ∀ profile conflict, roster.put profile = .error conflict → roster.call (.put profile) = roster
  replaces : ∀ profile after, roster.put profile = .ok after →
    roster.call (.put profile) = after ∧ roster.Replaces after profile
  getByKey : ∀ key profile, roster.getByKey? key = some profile ↔
    roster.Stores profile ∧ roster.isVisible profile = true ∧ profile.key = key
  all : Lists roster.all roster.Stores
  visible : Lists roster.visible fun profile => roster.Stores profile ∧ roster.isVisible profile = true
  mem_ids : ∀ id, id ∈ roster.ids ↔ ∃ profile, roster.Stores profile ∧ roster.isVisible profile = true ∧ profile.id = id
  increasing_ids : roster.ids.Pairwise fun left right => left.value < right.value

variable {roster after : Roster} {profile : Profile}

theorem takeIn_of_error {conflict : KeyHeld} (refused : roster.put profile = .error conflict) :
    roster.takeIn profile = roster := by
  rw [takeIn, refused]

theorem takeIn_of_ok (stored : roster.put profile = .ok after) : roster.takeIn profile = after := by
  rw [takeIn, stored]

namespace WellFormed

theorem call (wellFormed : roster.WellFormed) (call : RosterCall) : (roster.call call).WellFormed := by
  cases call with
  | put profile => exact wellFormed.takeIn profile
  | remove id => exact wellFormed.remove id
  | clear => exact wellFormed_clear roster
  | switchTo tenant => exact wellFormed.switchTo tenant

theorem callAll (wellFormed : roster.WellFormed) (calls : List RosterCall) : (roster.callAll calls).WellFormed := by
  induction calls generalizing roster with
  | nil => exact wellFormed
  | cons call rest ih => exact ih (wellFormed.call call)

theorem index_eq_some_iff (wellFormed : roster.WellFormed) (key : ProfileKey) (id : ProfileId) :
    roster.index.get? key = some id ↔ (roster.profiles.get? id).map Profile.key = some key := by
  rw [wellFormed.indexed, Option.map_eq_some_iff]

theorem put_eq_error_iff (wellFormed : roster.WellFormed) {conflict : KeyHeld} :
    roster.put profile = .error conflict ↔
      conflict.key = profile.key ∧ conflict.holder ≠ profile.id ∧
        ∃ other, roster.Stores other ∧ other.id = conflict.holder ∧ other.key = profile.key := by
  have held : roster.index.get? profile.key = some conflict.holder ↔
      ∃ other, roster.Stores other ∧ other.id = conflict.holder ∧ other.key = profile.key := by
    rw [wellFormed.indexed]
    constructor
    · rintro ⟨other, found, same⟩
      have named := wellFormed.keyed conflict.holder other found
      refine ⟨other, ?_, named, same⟩
      rw [Stores, named]
      exact found
    · rintro ⟨other, stored, named, same⟩
      exact ⟨other, named ▸ stored, same⟩
  rw [Roster.put_eq_error_iff, held]
  exact and_congr_right fun _ => and_comm

theorem replaces_of_put (wellFormed : roster.WellFormed) (stored : roster.put profile = .ok after) :
    roster.Replaces after profile := by
  obtain ⟨_, rfl⟩ := put_eq_ok_iff.1 stored
  refine ⟨fun id => SortedMap.get?_insert .., fun key => ?_, rfl⟩
  simp only [SortedMap.get?_insert]
  split
  · rfl
  · next another =>
      refine Option.ext fun id => ?_
      rw [get?_freeKey wellFormed another]
      split
      · next previous =>
          rw [previous]
          exact iff_of_false (fun both => both.2 (Option.some.inj both.1).symm) (Option.some_ne_none id).symm
      · next others =>
          refine and_iff_left_of_imp fun found same => others ?_
          rw [found, same]

theorem lists_all (wellFormed : roster.WellFormed) : Lists roster.all roster.Stores :=
  ⟨fun _ => wellFormed.mem_all_iff, wellFormed.increasing_ids⟩

theorem lists_visible (wellFormed : roster.WellFormed) :
    Lists roster.visible fun profile => roster.Stores profile ∧ roster.isVisible profile = true where
  mem_iff profile := by rw [wellFormed.mem_visible, get?_eq_some, Stores]
  increasing := wellFormed.increasing_ids.sublist (List.filter_sublist.map _)

theorem isTable (wellFormed : roster.WellFormed) : roster.IsTable where
  named := wellFormed.keyed
  inverse := wellFormed.index_eq_some_iff
  refuses _ _ := wellFormed.put_eq_error_iff
  unchanged _ _ refused := takeIn_of_error refused
  replaces _ _ stored := ⟨takeIn_of_ok stored, wellFormed.replaces_of_put stored⟩
  getByKey key profile := by rw [wellFormed.getByKey?_eq_some, get?_eq_some, and_assoc, Stores]
  all := wellFormed.lists_all
  visible := wellFormed.lists_visible
  mem_ids id := by simp only [ids, List.mem_map, wellFormed.lists_visible.mem_iff, and_assoc]
  increasing_ids := wellFormed.lists_visible.increasing

end WellFormed

/-- After any calls an empty roster has become a table. -/
theorem isTable_callAll (calls : List RosterCall) : (empty.callAll calls).IsTable :=
  (wellFormed_empty.callAll calls).isTable

end Roster

end SavedNetworks
