import SavedNetworks.Proofs.Collections
import SavedNetworks.Roster

/-!
What every operation on a roster keeps: a profile stands under its own id, and the index is the inverse of
the keys. Under this invariant each operation is told by the profiles that it leaves.
-/

namespace SavedNetworks

namespace Profile

def withId (profile : Profile) (id : ProfileId) : Profile := { profile with id }

/-- A profile without its id. -/
def unnumbered (profile : Profile) : Profile := profile.withId .unset

theorem eq_withId_of_unnumbered {profile other : Profile} (same : profile.unnumbered = other.unnumbered) :
    profile = other.withId profile.id := by
  have numbered := congrArg (Profile.withId · profile.id) same
  exact numbered

end Profile

namespace Roster

variable {roster after : Roster} {profile other : Profile} {key : ProfileKey} {id : ProfileId}
  {change : Profile → Profile}

structure WellFormed (roster : Roster) : Prop where
  keyed : ∀ id profile, roster.profiles.get? id = some profile → profile.id = id
  indexed : ∀ key id, roster.index.get? key = some id ↔
    ∃ profile, roster.profiles.get? id = some profile ∧ profile.key = key

/-- The profile that has a key, seen or not. -/
def holder? (roster : Roster) (key : ProfileKey) : Option Profile :=
  (roster.index.get? key).bind roster.profiles.get?

theorem getByKey?_eq (roster : Roster) (key : ProfileKey) :
    roster.getByKey? key = (roster.holder? key).filter roster.isVisible := by
  unfold getByKey? holder?
  cases roster.index.get? key <;> rfl

theorem mem_of_get? (found : roster.get? id = some profile) : profile ∈ roster.all :=
  SortedMap.mem_values_iff.2 ⟨id, (get?_eq_some.1 found).1⟩

theorem sublist_ids (roster : Roster) (keep : Profile → Bool) :
    ((roster.visible.filter keep).map Profile.id).Sublist (roster.all.map Profile.id) :=
  (List.filter_sublist.trans List.filter_sublist).map _

namespace WellFormed

theorem mem_all_iff (wellFormed : roster.WellFormed) :
    profile ∈ roster.all ↔ roster.profiles.get? profile.id = some profile := by
  unfold all
  rw [SortedMap.mem_values_iff]
  constructor
  · rintro ⟨id, found⟩
    rw [wellFormed.keyed id profile found]
    exact found
  · exact fun found => ⟨profile.id, found⟩

theorem get?_eq_some_iff (wellFormed : roster.WellFormed) :
    roster.profiles.get? id = some profile ↔ profile ∈ roster.all ∧ profile.id = id := by
  rw [wellFormed.mem_all_iff]
  constructor
  · intro found
    have same := wellFormed.keyed id profile found
    exact ⟨same ▸ found, same⟩
  · rintro ⟨found, rfl⟩
    exact found

theorem id_of_get? (wellFormed : roster.WellFormed) (found : roster.get? id = some profile) : profile.id = id :=
  wellFormed.keyed id profile (get?_eq_some.1 found).1

theorem mem_visible (wellFormed : roster.WellFormed) : profile ∈ roster.visible ↔ roster.get? profile.id = some profile := by
  rw [visible, List.mem_filter, get?_eq_some, wellFormed.mem_all_iff]

theorem eq_of_id (wellFormed : roster.WellFormed) (present : profile ∈ roster.all) (among : other ∈ roster.all)
    (same : profile.id = other.id) : profile = other := by
  rw [wellFormed.mem_all_iff] at present among
  rw [same, among] at present
  exact (Option.some.inj present).symm

theorem index_get? (wellFormed : roster.WellFormed) (present : profile ∈ roster.all) :
    roster.index.get? profile.key = some profile.id :=
  (wellFormed.indexed profile.key profile.id).2 ⟨profile, wellFormed.mem_all_iff.1 present, rfl⟩

theorem eq_of_key (wellFormed : roster.WellFormed) (present : profile ∈ roster.all) (among : other ∈ roster.all)
    (same : profile.key = other.key) : profile = other := by
  have here := wellFormed.index_get? present
  rw [same, wellFormed.index_get? among, Option.some.injEq] at here
  exact wellFormed.eq_of_id present among here.symm

theorem map_id_all (wellFormed : roster.WellFormed) : roster.all.map Profile.id = roster.profiles.keys := by
  unfold all SortedMap.values SortedMap.keys
  rw [List.map_map]
  exact List.map_congr_left fun entry among =>
    wellFormed.keyed entry.1 entry.2 ((SortedMap.mem_entries_iff ..).1 among)

theorem nodup_ids (wellFormed : roster.WellFormed) : (roster.all.map Profile.id).Nodup := by
  rw [wellFormed.map_id_all]
  exact roster.profiles.keys_nodup

theorem increasing_ids (wellFormed : roster.WellFormed) :
    (roster.all.map Profile.id).Pairwise fun left right => left.value < right.value := by
  rw [wellFormed.map_id_all, SortedMap.keys, List.pairwise_map]
  exact roster.profiles.increasing.imp fun before => Std.compare_eq_lt (α := UInt32).1 before

theorem nodup_keys (wellFormed : roster.WellFormed) : (roster.all.map Profile.key).Nodup := by
  refine List.pairwise_map.2 (List.Pairwise.imp_of_mem ?_ (List.pairwise_map.1 wellFormed.nodup_ids))
  exact fun present among apart same => apart (congrArg Profile.id (wellFormed.eq_of_key present among same))

theorem holder?_eq_some_iff (wellFormed : roster.WellFormed) :
    roster.holder? key = some profile ↔ profile ∈ roster.all ∧ profile.key = key := by
  simp only [holder?, Option.bind_eq_some_iff, wellFormed.indexed]
  constructor
  · rintro ⟨id, ⟨stored, found, named⟩, same⟩
    rw [found, Option.some.injEq] at same
    subst same
    exact ⟨(wellFormed.get?_eq_some_iff.1 found).1, named⟩
  · rintro ⟨present, named⟩
    have found := wellFormed.mem_all_iff.1 present
    exact ⟨profile.id, ⟨profile, found, named⟩, found⟩

theorem holder?_eq_none_iff (wellFormed : roster.WellFormed) :
    roster.holder? key = none ↔ ∀ profile ∈ roster.all, profile.key ≠ key := by
  rw [Option.eq_none_iff_forall_ne_some]
  constructor
  · rintro free profile present named
    exact free profile (wellFormed.holder?_eq_some_iff.2 ⟨present, named⟩)
  · intro unused profile held
    obtain ⟨present, named⟩ := wellFormed.holder?_eq_some_iff.1 held
    exact unused profile present named

theorem getByKey?_eq_some (wellFormed : roster.WellFormed) :
    roster.getByKey? key = some profile ↔ roster.get? profile.id = some profile ∧ profile.key = key := by
  rw [getByKey?_eq, Option.filter_eq_some_iff, wellFormed.holder?_eq_some_iff, get?_eq_some, wellFormed.mem_all_iff]
  exact and_right_comm

end WellFormed

theorem wellFormed_of_empty (none : ∀ id, roster.profiles.get? id = .none) (free : ∀ key, roster.index.get? key = .none) :
    roster.WellFormed :=
  ⟨fun id profile found => by simp [none] at found, fun key id => by simp [none, free]⟩

theorem wellFormed_empty : empty.WellFormed := wellFormed_of_empty (fun _ => rfl) fun _ => rfl

theorem wellFormed_clear (roster : Roster) : roster.clear.WellFormed :=
  wellFormed_of_empty (fun _ => rfl) fun _ => rfl

@[simp] theorem holder?_switchTo (roster : Roster) (tenant : Tenant) (key : ProfileKey) :
    (roster.switchTo tenant).holder? key = roster.holder? key := rfl

theorem WellFormed.switchTo (wellFormed : roster.WellFormed) (tenant : Tenant) : (roster.switchTo tenant).WellFormed :=
  ⟨wellFormed.keyed, wellFormed.indexed⟩

theorem put_eq_ok_iff : roster.put profile = .ok after ↔
    (∀ holder, roster.index.get? profile.key = some holder → holder = profile.id) ∧
      after = { roster with
        profiles := roster.profiles.insert profile.id profile
        index := (roster.freeKey profile).insert profile.key profile.id } := by
  unfold put
  cases held : roster.index.get? profile.key with
  | none => simp [eq_comm]
  | some holder =>
      by_cases same : holder = profile.id
      · simp [same, eq_comm]
      · simp [same]

theorem tenant_put (stored : roster.put profile = .ok after) : after.tenant = roster.tenant := by
  obtain ⟨_, rfl⟩ := put_eq_ok_iff.1 stored
  rfl

/-- Once the previous key of an id is free, no other key leads to that id. -/
theorem get?_freeKey (wellFormed : roster.WellFormed) (different : key ≠ profile.key) :
    (roster.freeKey profile).get? key = some id ↔ roster.index.get? key = some id ∧ id ≠ profile.id := by
  have previous : roster.index.get? key = some profile.id ↔
      ∃ stored, roster.profiles.get? profile.id = some stored ∧ stored.key = key := wellFormed.indexed key profile.id
  unfold freeKey
  cases found : roster.profiles.get? profile.id with
  | none =>
      simp only [found, reduceCtorEq, false_and, exists_false, iff_false] at previous
      grind
  | some stored =>
      simp only [found, Option.some.injEq, exists_eq_left'] at previous
      by_cases same : stored.key = profile.key
      · simp only [same, if_true]
        grind
      · simp only [same, if_false, SortedMap.get?_erase]
        grind

namespace WellFormed

theorem put (wellFormed : roster.WellFormed) (stored : roster.put profile = .ok after) : after.WellFormed := by
  obtain ⟨free, rfl⟩ := put_eq_ok_iff.1 stored
  refine ⟨fun id other found => ?_, fun key id => ?_⟩
  · rw [SortedMap.get?_insert] at found
    split at found
    · next same =>
        rw [← Option.some.inj found, same]
    · exact wellFormed.keyed id other found
  · simp only [SortedMap.get?_insert]
    by_cases asked : key = profile.key
    · subst asked
      simp only [if_true, Option.some.injEq]
      constructor
      · rintro rfl
        exact ⟨profile, by simp, rfl⟩
      · rintro ⟨other, found, named⟩
        split at found
        · next same => exact same.symm
        · exact (free id ((wellFormed.indexed profile.key id).2 ⟨other, found, named⟩)).symm
    · rw [if_neg asked, get?_freeKey wellFormed asked, wellFormed.indexed]
      by_cases same : id = profile.id
      · simp only [same, not_true_eq_false, ne_eq, and_false, if_true, Option.some.injEq, exists_eq_left', false_iff]
        exact fun named => asked named.symm
      · simp [same]

theorem mem_put (wellFormed : roster.WellFormed) (stored : roster.put profile = .ok after) :
    other ∈ after.all ↔ other = profile ∨ other ∈ roster.all ∧ other.id ≠ profile.id := by
  rw [(wellFormed.put stored).mem_all_iff, wellFormed.mem_all_iff]
  obtain ⟨_, rfl⟩ := put_eq_ok_iff.1 stored
  by_cases same : other.id = profile.id
  · simp only [same, SortedMap.get?_insert_self, Option.some.injEq, ne_eq, not_true_eq_false, and_false, or_false]
    exact eq_comm
  · rw [SortedMap.get?_insert_of_ne _ _ same]
    constructor
    · exact fun found => .inr ⟨found, same⟩
    · rintro (rfl | ⟨found, _⟩)
      · exact absurd rfl same
      · exact found

theorem put_ok_iff (wellFormed : roster.WellFormed) : (∃ after, roster.put profile = .ok after) ↔
    ∀ other ∈ roster.all, other.key = profile.key → other.id = profile.id := by
  simp only [put_eq_ok_iff, exists_and_left, exists_eq, and_true]
  constructor
  · intro free other present same
    exact free other.id (same ▸ wellFormed.index_get? present)
  · intro free holder held
    obtain ⟨stored, found, named⟩ := (wellFormed.indexed profile.key holder).1 held
    obtain ⟨present, rfl⟩ := wellFormed.get?_eq_some_iff.1 found
    exact free stored present named

end WellFormed

theorem tenant_remove (roster : Roster) (id : ProfileId) : (roster.remove id).tenant = roster.tenant := by
  unfold remove
  split <;> rfl

theorem get?_remove (roster : Roster) (id other : ProfileId) :
    (roster.remove id).profiles.get? other = if other = id then none else roster.profiles.get? other := by
  unfold remove
  split
  · exact SortedMap.get?_erase roster.profiles id other
  · next absent =>
      split
      · next same => rw [same, absent]
      · rfl

theorem index_remove (wellFormed : roster.WellFormed) (id other : ProfileId) (key : ProfileKey) :
    (roster.remove id).index.get? key = some other ↔ roster.index.get? key = some other ∧ other ≠ id := by
  have holder : roster.index.get? key = some id ↔
      ∃ stored, roster.profiles.get? id = some stored ∧ stored.key = key := wellFormed.indexed key id
  unfold remove
  cases found : roster.profiles.get? id with
  | none =>
      simp only [found, reduceCtorEq, false_and, exists_false, iff_false] at holder
      grind
  | some stored =>
      simp only [found, Option.some.injEq, exists_eq_left'] at holder
      simp only [SortedMap.get?_erase]
      grind

namespace WellFormed

theorem remove (wellFormed : roster.WellFormed) (id : ProfileId) : (roster.remove id).WellFormed := by
  refine ⟨fun other profile found => ?_, fun key other => ?_⟩
  · rw [get?_remove] at found
    split at found
    · cases found
    · exact wellFormed.keyed other profile found
  · rw [index_remove wellFormed, wellFormed.indexed, get?_remove]
    by_cases same : other = id <;> simp [same]

theorem mem_remove (wellFormed : roster.WellFormed) :
    profile ∈ (roster.remove id).all ↔ profile ∈ roster.all ∧ profile.id ≠ id := by
  rw [(wellFormed.remove id).mem_all_iff, wellFormed.mem_all_iff, get?_remove]
  by_cases same : profile.id = id <;> simp [same]

end WellFormed

/-! Changing profiles in place. The change keeps the id and the key. -/

def KeepsName (change : Profile → Profile) : Prop :=
  ∀ profile, (change profile).id = profile.id ∧ (change profile).key = profile.key

/-- What `modifyVisible` makes of one profile. -/
def changeVisible (roster : Roster) (change : Profile → Profile) (profile : Profile) : Profile :=
  if roster.isVisible profile then change profile else profile

theorem changeVisible_of_tenant (same : after.tenant = roster.tenant) (change : Profile → Profile) :
    after.changeVisible change = roster.changeVisible change := by
  funext profile
  unfold changeVisible isVisible
  rw [same]

/-- What `modify` makes of one profile. -/
def changeAt (roster : Roster) (id : ProfileId) (change : Profile → Profile) (profile : Profile) : Profile :=
  if profile.id = id then roster.changeVisible change profile else profile

theorem KeepsName.changeVisible (keeps : KeepsName change) (roster : Roster) : KeepsName (roster.changeVisible change) := by
  intro profile
  unfold Roster.changeVisible
  split
  · exact keeps profile
  · exact ⟨rfl, rfl⟩

theorem KeepsName.changeAt (keeps : KeepsName change) (roster : Roster) (id : ProfileId) :
    KeepsName (roster.changeAt id change) := by
  intro profile
  unfold Roster.changeAt
  split
  · exact keeps.changeVisible roster profile
  · exact ⟨rfl, rfl⟩

/-- One change to every profile leaves the index right. -/
theorem WellFormed.of_changed (wellFormed : roster.WellFormed) (keeps : KeepsName change)
    (index : after.index = roster.index)
    (profiles : ∀ id, after.profiles.get? id = (roster.profiles.get? id).map change) : after.WellFormed := by
  refine ⟨fun id profile found => ?_, fun key id => ?_⟩
  · rw [profiles, Option.map_eq_some_iff] at found
    obtain ⟨old, found, rfl⟩ := found
    rw [(keeps old).1]
    exact wellFormed.keyed id old found
  · rw [index, wellFormed.indexed, profiles]
    cases found : roster.profiles.get? id with
    | none => simp
    | some old => simp [(keeps old).2]

theorem WellFormed.mem_of_changed (wellFormed : roster.WellFormed) (keeps : KeepsName change)
    (index : after.index = roster.index)
    (profiles : ∀ id, after.profiles.get? id = (roster.profiles.get? id).map change) :
    profile ∈ after.all ↔ ∃ old ∈ roster.all, change old = profile := by
  rw [(wellFormed.of_changed keeps index profiles).mem_all_iff, profiles, Option.map_eq_some_iff]
  constructor
  · rintro ⟨old, found, rfl⟩
    exact ⟨old, (wellFormed.get?_eq_some_iff.1 found).1, rfl⟩
  · rintro ⟨old, present, rfl⟩
    refine ⟨old, ?_, rfl⟩
    rw [(keeps old).1]
    exact wellFormed.mem_all_iff.1 present

theorem get?_modifyVisible (roster : Roster) (change : Profile → Profile) (id : ProfileId) :
    (roster.modifyVisible change).profiles.get? id = (roster.profiles.get? id).map (roster.changeVisible change) :=
  SortedMap.get?_mapValues roster.profiles _ id

@[simp] theorem index_modify (roster : Roster) (id : ProfileId) (change : Profile → Profile) :
    (roster.modify id change).index = roster.index := by
  unfold modify
  split <;> rfl

@[simp] theorem tenant_modify (roster : Roster) (id : ProfileId) (change : Profile → Profile) :
    (roster.modify id change).tenant = roster.tenant := by
  unfold modify
  split <;> rfl

theorem get?_modify_of_ne {other : ProfileId} (apart : other ≠ id) (change : Profile → Profile) :
    (roster.modify id change).get? other = roster.get? other := by
  unfold modify
  split
  · unfold get?
    rw [SortedMap.get?_insert_of_ne _ _ apart]
    rfl
  · rfl

theorem modify_congr {profile : Profile} {change other : Profile → Profile} (found : roster.get? id = some profile)
    (same : change profile = other profile) : roster.modify id change = roster.modify id other := by
  rw [modify, modify, found]
  simp only [same]

theorem WellFormed.get?_modify (wellFormed : roster.WellFormed) (id other : ProfileId) (change : Profile → Profile) :
    (roster.modify id change).profiles.get? other =
      (roster.profiles.get? other).map (roster.changeAt id change) := by
  unfold modify
  cases seen : roster.get? id with
  | none =>
      cases found : roster.profiles.get? other with
      | none => simp
      | some profile =>
          have named := wellFormed.keyed other profile found
          simp only [Option.map_some, Option.some.injEq, changeAt, changeVisible]
          split
          · next same =>
              have unseen : ¬ roster.isVisible profile = true := by
                intro visible
                rw [get?_eq_some.2 ⟨same ▸ named ▸ found, visible⟩] at seen
                cases seen
              rw [if_neg unseen]
          · rfl
  | some stored =>
      obtain ⟨found, visible⟩ := get?_eq_some.1 seen
      have named := wellFormed.keyed id stored found
      simp only [SortedMap.get?_insert]
      by_cases same : other = id
      · simp [same, found, changeAt, changeVisible, visible, named]
      · rw [if_neg same]
        cases here : roster.profiles.get? other with
        | none => rfl
        | some profile =>
            have apart : profile.id ≠ id := wellFormed.keyed other profile here ▸ same
            simp [changeAt, apart]

namespace WellFormed

theorem modifyVisible (wellFormed : roster.WellFormed) (keeps : KeepsName change) :
    (roster.modifyVisible change).WellFormed :=
  wellFormed.of_changed (keeps.changeVisible roster) rfl (get?_modifyVisible roster change)

theorem mem_modifyVisible (wellFormed : roster.WellFormed) (keeps : KeepsName change) :
    profile ∈ (roster.modifyVisible change).all ↔ ∃ old ∈ roster.all, roster.changeVisible change old = profile :=
  wellFormed.mem_of_changed (keeps.changeVisible roster) rfl (get?_modifyVisible roster change)

theorem modify (wellFormed : roster.WellFormed) (keeps : KeepsName change) (id : ProfileId) :
    (roster.modify id change).WellFormed :=
  wellFormed.of_changed (keeps.changeAt roster id) (index_modify roster id change) (wellFormed.get?_modify id · change)

theorem mem_modify (wellFormed : roster.WellFormed) (keeps : KeepsName change) :
    profile ∈ (roster.modify id change).all ↔ ∃ old ∈ roster.all, roster.changeAt id change old = profile :=
  wellFormed.mem_of_changed (keeps.changeAt roster id) (index_modify roster id change) (wellFormed.get?_modify id · change)

end WellFormed

/-- The roster without a profile, and without the choices and links that refer to its key. -/
def drop (roster : Roster) (id : ProfileId) (key : ProfileKey) : Roster :=
  ((roster.modifyVisible (·.forgetChoice key)).remove id).modifyVisible (·.unlink key)

/-- What is left of a profile when another one with `key` is dropped. -/
def released (roster : Roster) (key : ProfileKey) (profile : Profile) : Profile :=
  roster.changeVisible (·.unlink key) (roster.changeVisible (·.forgetChoice key) profile)

theorem keepsName_forgetChoice (key : ProfileKey) : KeepsName (·.forgetChoice key) := fun _ => ⟨rfl, rfl⟩

theorem keepsName_link (key : ProfileKey) : KeepsName (·.link key) := fun _ => ⟨rfl, rfl⟩

theorem keepsName_unlink (key : ProfileKey) : KeepsName (·.unlink key) := fun _ => ⟨rfl, rfl⟩

theorem released_of_isVisible (visible : roster.isVisible profile = true) :
    roster.released key profile = (profile.forgetChoice key).unlink key := by
  have still : roster.isVisible (profile.forgetChoice key) = true := visible
  rw [released, changeVisible, changeVisible, if_pos visible, if_pos still]

theorem released_of_not_isVisible (unseen : ¬ roster.isVisible profile = true) : roster.released key profile = profile := by
  rw [released, changeVisible, changeVisible, if_neg unseen, if_neg unseen]

theorem tenant_drop (roster : Roster) (id : ProfileId) (key : ProfileKey) : (roster.drop id key).tenant = roster.tenant :=
  tenant_remove _ id

theorem get?_drop (roster : Roster) (id other : ProfileId) (key : ProfileKey) :
    (roster.drop id key).profiles.get? other =
      if other = id then none else (roster.profiles.get? other).map (roster.released key) := by
  have tenant : ((roster.modifyVisible (·.forgetChoice key)).remove id).tenant = roster.tenant := tenant_remove _ id
  unfold drop
  rw [get?_modifyVisible, get?_remove, get?_modifyVisible, changeVisible_of_tenant tenant]
  split
  · rfl
  · rw [Option.map_map]
    rfl

theorem WellFormed.drop (wellFormed : roster.WellFormed) (id : ProfileId) (key : ProfileKey) :
    (roster.drop id key).WellFormed :=
  ((wellFormed.modifyVisible (keepsName_forgetChoice key)).remove id).modifyVisible (keepsName_unlink key)

theorem released_name (roster : Roster) (key : ProfileKey) (profile : Profile) :
    (roster.released key profile).id = profile.id ∧ (roster.released key profile).key = profile.key := by
  by_cases visible : roster.isVisible profile = true
  · rw [released_of_isVisible visible]
    exact ⟨rfl, rfl⟩
  · rw [released_of_not_isVisible visible]
    exact ⟨rfl, rfl⟩

theorem released_owner (roster : Roster) (key : ProfileKey) (profile : Profile) :
    (roster.released key profile).shared = profile.shared ∧ (roster.released key profile).creator = profile.creator := by
  by_cases visible : roster.isVisible profile = true
  · rw [released_of_isVisible visible]
    exact ⟨rfl, rfl⟩
  · rw [released_of_not_isVisible visible]
    exact ⟨rfl, rfl⟩

theorem WellFormed.mem_drop (wellFormed : roster.WellFormed) :
    profile ∈ (roster.drop id key).all ↔ ∃ old ∈ roster.all, old.id ≠ id ∧ roster.released key old = profile := by
  rw [(wellFormed.drop id key).mem_all_iff, get?_drop]
  constructor
  · intro found
    split at found
    · cases found
    · next apart =>
        obtain ⟨old, earlier, rfl⟩ := Option.map_eq_some_iff.1 found
        rw [(released_name roster key old).1] at apart earlier
        exact ⟨old, wellFormed.mem_all_iff.2 earlier, apart, rfl⟩
  · rintro ⟨old, present, apart, rfl⟩
    rw [(released_name roster key old).1, if_neg apart, wellFormed.mem_all_iff.1 present, Option.map_some]

theorem get?_drop_of_ne {other : ProfileId} (found : roster.get? other = some profile) (apart : other ≠ id) :
    (roster.drop id key).get? other = some ((profile.forgetChoice key).unlink key) := by
  obtain ⟨stored, visible⟩ := get?_eq_some.1 found
  refine get?_eq_some.2 ⟨?_, ?_⟩
  · rw [get?_drop, if_neg apart, stored, Option.map_some, released_of_isVisible visible]
  · rw [isVisible, tenant_drop]
    exact visible

end Roster

end SavedNetworks
