import SavedNetworks.Proofs.Manager.Loads

/-!
Changing everything that the current tenant sees, and taking profiles in: in either order it comes to the same, as long
as the change leaves names and owners alone (`Roster.takeIn_modifyVisible`).
-/

namespace SavedNetworks.Roster

variable {roster left right after : Roster} {profile : Profile} {change : Profile → Profile}

/-- Well-formed rosters of the same profiles and the same tenant are the same. -/
theorem WellFormed.eq_of_mem_iff (here : left.WellFormed) (there : right.WellFormed) (tenant : left.tenant = right.tenant)
    (same : ∀ profile, profile ∈ left.all ↔ profile ∈ right.all) : left = right := by
  have profiles : left.profiles = right.profiles := by
    refine SortedMap.ext_get? fun id => Option.ext fun profile => ?_
    rw [here.get?_eq_some_iff, there.get?_eq_some_iff, same]
  have index : left.index = right.index := by
    refine SortedMap.ext_get? fun key => Option.ext fun id => ?_
    rw [here.indexed, there.indexed, profiles]
  cases left
  cases right
  simp_all

/-- Leaves alone what a profile is found by, and who sees it. -/
structure KeepsPlace (change : Profile → Profile) : Prop where
  name : KeepsName change
  seen : ∀ profile tenant, (change profile).visibleTo tenant = profile.visibleTo tenant

theorem changeVisible_changeVisible (keeps : KeepsPlace change)
    (settles : ∀ profile, change (change profile) = change profile) (roster : Roster) (profile : Profile) :
    roster.changeVisible change (roster.changeVisible change profile) = roster.changeVisible change profile := by
  unfold changeVisible
  by_cases visible : roster.isVisible profile = true
  · have still : roster.isVisible (change profile) = true := (keeps.seen profile roster.tenant).trans visible
    rw [if_pos visible, if_pos still, settles]
  · rw [if_neg visible, if_neg visible]

theorem modifyVisible_modifyVisible (keeps : KeepsPlace change) (settles : ∀ profile, change (change profile) = change profile)
    (roster : Roster) : (roster.modifyVisible change).modifyVisible change = roster.modifyVisible change := by
  have profiles : ((roster.modifyVisible change).modifyVisible change).profiles = (roster.modifyVisible change).profiles := by
    refine SortedMap.ext_get? fun id => ?_
    rw [get?_modifyVisible, get?_modifyVisible, Option.map_map]
    exact congrArg (Option.map · _) (funext fun profile => changeVisible_changeVisible keeps settles roster profile)
  exact congrArg (fun profiles => { roster with profiles }) profiles

/-- Nothing that is seen is changed. -/
theorem modifyVisible_eq_self_iff (roster : Roster) (change : Profile → Profile) :
    roster.modifyVisible change = roster ↔ ∀ profile ∈ roster.visible, change profile = profile := by
  constructor
  · intro same profile shown
    obtain ⟨present, visible⟩ := List.mem_filter.1 shown
    obtain ⟨id, found⟩ := SortedMap.mem_values_iff.1 present
    have changed := get?_modifyVisible roster change id
    rw [same, found, Option.map_some, changeVisible, if_pos visible] at changed
    exact (Option.some.inj changed).symm
  · intro still
    have profiles : (roster.modifyVisible change).profiles = roster.profiles := by
      refine SortedMap.ext_get? fun id => ?_
      rw [get?_modifyVisible]
      cases found : roster.profiles.get? id with
      | none => rfl
      | some profile =>
          rw [Option.map_some, changeVisible]
          split
          · next visible => rw [still profile (List.mem_filter.2 ⟨SortedMap.mem_values_iff.2 ⟨id, found⟩, visible⟩)]
          · rfl
    exact congrArg (fun profiles => { roster with profiles }) profiles

theorem put_modifyVisible (keeps : KeepsPlace change) (roster : Roster) (profile : Profile) :
    (roster.modifyVisible change).put (roster.changeVisible change profile) =
      (roster.put profile).map (·.modifyVisible change) := by
  obtain ⟨id, key⟩ := keeps.name.changeVisible roster profile
  have freed : (roster.modifyVisible change).freeKey (roster.changeVisible change profile) = roster.freeKey profile := by
    unfold freeKey
    rw [id, key, get?_modifyVisible]
    cases roster.profiles.get? profile.id with
    | none => rfl
    | some previous =>
        simp only [Option.map_some, (keeps.name.changeVisible roster previous).2]
        rfl
  have inserted : (roster.modifyVisible change).profiles.insert profile.id (roster.changeVisible change profile) =
      ({ roster with profiles := roster.profiles.insert profile.id profile }.modifyVisible change).profiles := by
    refine SortedMap.ext_get? fun other => ?_
    rw [SortedMap.get?_insert, get?_modifyVisible, get?_modifyVisible, SortedMap.get?_insert]
    split <;> rfl
  unfold put
  rw [freed, id, key, inserted]
  rw [show (roster.modifyVisible change).index = roster.index from rfl]
  cases roster.index.get? profile.key with
  | none => rfl
  | some holder =>
      dsimp only
      split <;> rfl

theorem takeIn_modifyVisible (keeps : KeepsPlace change) (roster : Roster) (profile : Profile) :
    (roster.modifyVisible change).takeIn (roster.changeVisible change profile) =
      (roster.takeIn profile).modifyVisible change := by
  unfold takeIn
  rw [put_modifyVisible keeps]
  cases roster.put profile <;> rfl

end SavedNetworks.Roster
