import SavedNetworks.Proofs.Manager.Runs
import SavedNetworks.Proofs.Roster.Visible
import SavedNetworks.Proofs.Selection.Backoff

/-!
Polling all profiles enables exactly those whose backoff is over, and leaves nothing to do for a second poll
(`Manager.tryEnableAll_enables_due`).
-/

namespace SavedNetworks

namespace Roster

variable {roster : Roster} {change : Profile → Profile}

/-- Changes the profiles of some ids, one after the other. -/
def modifyEach (roster : Roster) (ids : List ProfileId) (change : Profile → Profile) : Roster :=
  ids.foldl (fun roster id => roster.modify id change) roster

theorem frame_modifyEach (roster : Roster) (ids : List ProfileId) (change : Profile → Profile) :
    (roster.modifyEach ids change).index = roster.index ∧ (roster.modifyEach ids change).tenant = roster.tenant := by
  induction ids generalizing roster with
  | nil => exact ⟨rfl, rfl⟩
  | cons id rest ih =>
      obtain ⟨index, tenant⟩ := ih (roster.modify id change)
      exact ⟨index.trans (index_modify ..), tenant.trans (tenant_modify ..)⟩

/-- Meeting a profile again makes no difference. -/
theorem WellFormed.get?_modifyEach (wellFormed : roster.WellFormed) (keeps : KeepsPlace change)
    (settles : ∀ profile, change (change profile) = change profile) (ids : List ProfileId) (other : ProfileId) :
    (roster.modifyEach ids change).profiles.get? other = (roster.profiles.get? other).map fun profile =>
      if profile.id ∈ ids then roster.changeVisible change profile else profile := by
  induction ids generalizing roster with
  | nil => simp [modifyEach]
  | cons id rest ih =>
      have later := ih (wellFormed.modify keeps.name id)
      rw [changeVisible_of_tenant (tenant_modify ..), wellFormed.get?_modify, Option.map_map] at later
      refine later.trans (congrArg (Option.map · _) (funext fun profile => ?_))
      have named : (roster.changeAt id change profile).id = profile.id := (keeps.name.changeAt roster id profile).1
      rw [Function.comp_apply, named]
      unfold changeAt
      by_cases here : profile.id = id
      · simp [here, changeVisible_changeVisible keeps settles]
      · simp [here]

/-- Where the others stay as they are, that comes to changing all that is seen. -/
theorem WellFormed.modifyEach_eq (wellFormed : roster.WellFormed) (keeps : KeepsPlace change)
    (settles : ∀ profile, change (change profile) = change profile) {ids : List ProfileId}
    (others : ∀ profile ∈ roster.visible, profile.id ∉ ids → change profile = profile) :
    roster.modifyEach ids change = roster.modifyVisible change := by
  have profiles : (roster.modifyEach ids change).profiles = (roster.modifyVisible change).profiles := by
    refine SortedMap.ext_get? fun other => ?_
    rw [wellFormed.get?_modifyEach keeps settles, get?_modifyVisible]
    cases found : roster.profiles.get? other with
    | none => rfl
    | some profile =>
        simp only [Option.map_some, Option.some.injEq]
        split
        · rfl
        · next absent =>
            unfold changeVisible
            split
            · next visible =>
                have shown : profile ∈ roster.visible :=
                  List.mem_filter.2 ⟨SortedMap.mem_values_iff.2 ⟨other, found⟩, visible⟩
                exact (others profile shown absent).symm
            · rfl
  obtain ⟨index, tenant⟩ := roster.frame_modifyEach ids change
  calc roster.modifyEach ids change
      = ⟨(roster.modifyEach ids change).profiles, (roster.modifyEach ids change).index,
          (roster.modifyEach ids change).tenant⟩ := rfl
    _ = roster.modifyVisible change := by rw [profiles, index, tenant]; rfl

theorem WellFormed.exists_of_mem_visible (wellFormed : roster.WellFormed) (keeps : KeepsName change) {profile : Profile}
    (shown : profile ∈ (roster.modifyVisible change).visible) : ∃ old ∈ roster.visible, change old = profile := by
  obtain ⟨present, visible⟩ := List.mem_filter.1 shown
  obtain ⟨old, among, rfl⟩ := (wellFormed.mem_modifyVisible keeps).1 present
  unfold changeVisible at visible ⊢
  split at visible
  · next seen => exact ⟨old, List.mem_filter.2 ⟨among, seen⟩, by rw [if_pos seen]⟩
  · next unseen => exact absurd visible unseen

end Roster

namespace Manager

variable {manager : Manager} {profile : Profile} {id : ProfileId}

/-- How many blocked transmitters lengthen the backoff of a profile. -/
def blockedFor (manager : Manager) (profile : Profile) : Nat :=
  min (min (manager.platform.blockedCount profile.ssid).toNat manager.settings.maxBlocked.toNat) 10

/-- The profile is temporarily disabled, and its backoff is over. -/
def IsDue (manager : Manager) (profile : Profile) : Prop :=
  profile.selection.state = .temporarilyDisabled ∧
    (manager.settings.rules.rule profile.selection.reason).IsOver (manager.blockedFor profile)
      (profile.selection.lasted manager.platform.elapsed)

instance (manager : Manager) (profile : Profile) : Decidable (manager.IsDue profile) := inferInstanceAs (Decidable (_ ∧ _))

/-- What a poll makes of a profile. -/
def polled (manager : Manager) (profile : Profile) : Profile :=
  if manager.IsDue profile then { profile with selection := profile.selection.readied, status := .enabled } else profile

theorem releases_iff_isDue (precedes : profile.selection.Precedes manager.platform.elapsed) :
    manager.settings.rules.Releases profile.selection manager.platform.elapsed
        (min (manager.platform.blockedCount profile.ssid) manager.settings.maxBlocked).toNat ↔
      manager.IsDue profile := by
  have state : profile.selection.isTemporarilyDisabled = true ↔ profile.selection.state = .temporarilyDisabled := by
    simp [SelectionStatus.isTemporarilyDisabled]
  rw [Rules.Releases, UInt32.toNat_min, state, and_iff_right precedes]
  rfl

theorem isDue_polled (manager : Manager) (profile : Profile) : ¬ manager.IsDue (manager.polled profile) := by
  unfold polled
  split
  · exact fun due => nomatch due.1
  · next waits => exact waits

theorem polled_polled (manager : Manager) (profile : Profile) :
    manager.polled (manager.polled profile) = manager.polled profile := if_neg (manager.isDue_polled profile)

theorem keepsPlace_polled (manager : Manager) : Roster.KeepsPlace manager.polled where
  name profile := by
    unfold polled
    split <;> exact ⟨rfl, rfl⟩
  seen profile tenant := by
    unfold polled
    split <;> rfl

/-- What follows a move of the selection is told and written, and changes nothing else. -/
theorem setSelection_eq (manager : Manager) (id : ProfileId) (profile : Profile) (selection : SelectionStatus)
    (transition : Transition) :
    ∃ store journal, manager.setSelection id profile selection transition =
      { manager with
        roster := manager.roster.modify id fun _ =>
          { profile with selection, status := (statusAfter transition).getD profile.status }
        store, journal } := by
  unfold setSelection
  simp only
  split
  · rw [persist_eq]
    exact ⟨_, _, rfl⟩
  · exact ⟨_, _, rfl⟩

theorem rules_tryEnable_eq (manager : Manager) (profile : Profile) :
    manager.settings.rules.tryEnable profile.selection manager.platform.elapsed
        (min (manager.platform.blockedCount profile.ssid) manager.settings.maxBlocked) =
      if manager.settings.rules.Releases profile.selection manager.platform.elapsed
          (min (manager.platform.blockedCount profile.ssid) manager.settings.maxBlocked).toNat then
        (profile.selection.readied, .enabled)
      else (profile.selection, .unchanged) :=
  Rules.tryEnable_eq (Rules.timeout_nonneg manager.settings.ruleOverrides profile.selection.reason) _ _

theorem tryEnable_eq (follows : ∀ profile, manager.roster.get? id = some profile →
    profile.selection.Precedes manager.platform.elapsed) :
    ∃ store journal, manager.tryEnable id =
      ({ manager with roster := manager.roster.modify id manager.polled, store, journal },
        (manager.roster.get? id).any (manager.IsDue ·)) := by
  cases found : manager.roster.get? id with
  | none =>
      have same : manager.roster.modify id manager.polled = manager.roster := by rw [Roster.modify, found]
      refine ⟨manager.store, manager.journal, ?_⟩
      rw [tryEnable, found, same]
      rfl
  | some profile =>
      have moved : manager.settings.rules.tryEnable profile.selection manager.platform.elapsed
          (min (manager.platform.blockedCount profile.ssid) manager.settings.maxBlocked) =
            if manager.IsDue profile then (profile.selection.readied, .enabled) else (profile.selection, .unchanged) :=
        (manager.rules_tryEnable_eq profile).trans (if_congr (releases_iff_isDue (follows profile found)) rfl rfl)
      have becomes {changed : Profile} (same : manager.polled profile = changed) :
          (manager.roster.modify id fun _ => changed) = manager.roster.modify id manager.polled := by
        rw [Roster.modify, Roster.modify, found, ← same]
      rw [tryEnable, found]
      by_cases due : manager.IsDue profile
      · obtain ⟨store, journal, frame⟩ := manager.setSelection_eq id profile profile.selection.readied .enabled
        simp only [moved, if_pos due, frame]
        refine ⟨store, journal, Prod.ext ?_ (by simp [due])⟩
        exact congrArg (fun roster => { manager with roster, store, journal }) (becomes (if_pos due))
      · obtain ⟨store, journal, frame⟩ := manager.setSelection_eq id profile profile.selection .unchanged
        simp only [moved, if_neg due, frame]
        refine ⟨store, journal, Prod.ext ?_ (by simp [due])⟩
        exact congrArg (fun roster => { manager with roster, store, journal }) (becomes (if_neg due))

/-- Each one is met once, so that it is found as it was at the beginning. -/
theorem collect_tryEnable_eq {ids : List ProfileId} (wellFormed : manager.roster.WellFormed) (distinct : ids.Nodup)
    (follows : ∀ id ∈ ids, ∀ profile, manager.roster.get? id = some profile →
      profile.selection.Precedes manager.platform.elapsed) :
    ∃ store journal, collect tryEnable manager ids =
      ({ manager with roster := manager.roster.modifyEach ids manager.polled, store, journal },
        ids.filter fun id => (manager.roster.get? id).any (manager.IsDue ·)) := by
  induction ids generalizing manager with
  | nil => exact ⟨manager.store, manager.journal, rfl⟩
  | cons id rest ih =>
      obtain ⟨fresh, others⟩ := List.nodup_cons.1 distinct
      obtain ⟨store, journal, first⟩ := tryEnable_eq (follows id (List.mem_cons_self ..))
      have kept : ∀ other ∈ rest, (manager.roster.modify id manager.polled).get? other = manager.roster.get? other :=
        fun other among => Roster.get?_modify_of_ne (fun same : other = id => fresh (same ▸ among)) _
      obtain ⟨lastStore, lastJournal, later⟩ := @ih
        { manager with roster := manager.roster.modify id manager.polled, store, journal }
        (wellFormed.modify manager.keepsPlace_polled.name id) others fun other among profile found =>
          follows other (List.mem_cons_of_mem _ among) profile ((kept other among).symm.trans found)
      have same : (rest.filter fun other => ((manager.roster.modify id manager.polled).get? other).any (manager.IsDue ·)) =
          rest.filter fun other => (manager.roster.get? other).any (manager.IsDue ·) :=
        List.filter_congr fun other among => by rw [kept other among]
      refine ⟨lastStore, lastJournal, ?_⟩
      rw [collect, first, List.filter_cons, ← same]
      exact congrArg (fun polls => (polls.1, if (manager.roster.get? id).any (manager.IsDue ·) then id :: polls.2 else polls.2))
        later

/-- The clock has not been turned back since any profile that is seen was disabled. -/
def ClockFollows (manager : Manager) : Prop :=
  ∀ profile ∈ manager.roster.visible, profile.selection.Precedes manager.platform.elapsed

instance (manager : Manager) : Decidable manager.ClockFollows := inferInstanceAs (Decidable (∀ _ ∈ _, _))

theorem tryEnableAll_eq (wellFormed : manager.roster.WellFormed) (follows : manager.ClockFollows) :
    ∃ store journal, manager.tryEnableAll =
      ({ manager with roster := manager.roster.modifyVisible manager.polled, store, journal },
        (manager.roster.visible.filter (manager.IsDue ·)).map Profile.id) := by
  generalize waiting : (manager.roster.visible.filter (·.selection.isTemporarilyDisabled)).map Profile.id = ids
  have distinct : ids.Nodup := by
    rw [← waiting]
    exact wellFormed.nodup_ids.sublist (manager.roster.sublist_ids _)
  obtain ⟨store, journal, collected⟩ := collect_tryEnable_eq wellFormed distinct fun id _ profile found =>
    follows profile (wellFormed.mem_visible.2 (wellFormed.id_of_get? found ▸ found))
  have others : ∀ profile ∈ manager.roster.visible, profile.id ∉ ids → manager.polled profile = profile := by
    intro profile shown absent
    refine if_neg fun due => absent ?_
    rw [← waiting]
    exact List.mem_map.2 ⟨profile, List.mem_filter.2 ⟨shown, by simp [SelectionStatus.isTemporarilyDisabled, due.1]⟩, rfl⟩
  have enabled : (ids.filter fun id => (manager.roster.get? id).any (manager.IsDue ·)) =
      (manager.roster.visible.filter (manager.IsDue ·)).map Profile.id := by
    rw [← waiting, List.filter_map, List.filter_filter]
    refine congrArg (List.map _) (List.filter_congr fun profile shown => ?_)
    rw [Function.comp_apply, wellFormed.mem_visible.1 shown]
    by_cases due : manager.IsDue profile
    · simp [due, SelectionStatus.isTemporarilyDisabled, due.1]
    · simp [due]
  refine ⟨store, journal, ?_⟩
  rw [tryEnableAll, waiting, collected, enabled,
    wellFormed.modifyEach_eq manager.keepsPlace_polled manager.polled_polled others]

/-- A profile that was enabled is not disabled at any time. -/
theorem precedes_polled (precedes : profile.selection.Precedes manager.platform.elapsed) :
    (manager.polled profile).selection.Precedes manager.platform.elapsed := by
  unfold polled
  split
  · have now : profile.selection.readied.lasted manager.platform.elapsed = 0 := by
      simp [SelectionStatus.lasted, SelectionStatus.readied]
    exact ⟨now ▸ Int.le_refl 0, now ▸ by decide⟩
  · exact precedes

/-- What is seen after a poll of all profiles is in order, and waits. -/
theorem polled_spec (wellFormed : manager.roster.WellFormed) (follows : manager.ClockFollows) {after : Manager}
    (settings : after.settings = manager.settings) (platform : after.platform = manager.platform)
    (roster : after.roster = manager.roster.modifyVisible manager.polled) :
    after.roster.WellFormed ∧ after.ClockFollows ∧ after.roster.visible.filter (after.IsDue ·) = [] := by
  have shown : ∀ profile ∈ after.roster.visible, ∃ old ∈ manager.roster.visible, manager.polled old = profile := by
    rw [roster]
    exact fun profile => wellFormed.exists_of_mem_visible manager.keepsPlace_polled.name
  have same : after.IsDue = manager.IsDue := by
    unfold IsDue blockedFor
    rw [settings, platform]
  refine ⟨?_, fun profile present => ?_, List.filter_eq_nil_iff.2 fun profile present => ?_⟩
  · rw [roster]
    exact wellFormed.modifyVisible manager.keepsPlace_polled.name
  · obtain ⟨old, earlier, rfl⟩ := shown profile present
    rw [platform]
    exact precedes_polled (follows old earlier)
  · obtain ⟨old, _, rfl⟩ := shown profile present
    rw [decide_eq_true_iff, same]
    exact manager.isDue_polled old

/-- A poll of all profiles enables those whose backoff is over and no other, and answers with their ids in order. -/
theorem tryEnableAll_enables_due (reached : manager.Reachable) (follows : manager.ClockFollows) :
    manager.tryEnableAll.2 = (manager.roster.visible.filter (manager.IsDue ·)).map Profile.id ∧
      manager.tryEnableAll.2.Pairwise (fun left right => left.value < right.value) ∧
      manager.tryEnableAll.1.roster = manager.roster.modifyVisible manager.polled ∧
      manager.tryEnableAll.1.tryEnableAll.2 = [] := by
  have wellFormed : manager.roster.WellFormed := reached.sound.wellFormed
  obtain ⟨store, journal, polls⟩ := tryEnableAll_eq wellFormed follows
  rw [polls]
  refine ⟨rfl, wellFormed.increasing_ids.sublist (manager.roster.sublist_ids _), rfl, ?_⟩
  obtain ⟨formed, still, none⟩ := @polled_spec manager wellFormed follows
    { manager with roster := manager.roster.modifyVisible manager.polled, store, journal } rfl rfl rfl
  obtain ⟨_, _, again⟩ := tryEnableAll_eq formed still
  rw [again, none]
  rfl

/-- Ten minutes after three networks lost the internet: for Home the backoff was doubled, for Cafe there is none. -/
def tenMinutesOffline : Manager :=
  onEmptyStore.run
    [.load, .addOrUpdate (.psk "Home" "password") ⟨Uid.system, "android"⟩,
      .addOrUpdate (.psk "Cafe" "espresso1") ⟨Uid.system, "android"⟩,
      .addOrUpdate (.psk "Work" "overtime1") ⟨Uid.system, "android"⟩,
      .change (.block "Home" 2), .change (.block "Work" 1), .updateSelection ⟨0⟩ .noInternetTemporary,
      .updateSelection ⟨1⟩ .noInternetTemporary, .updateSelection ⟨2⟩ .noInternetTemporary,
      .change (.advance (10 * Millis.minute))]

theorem tryEnableAll_tenMinutesOffline :
    tenMinutesOffline.Reachable ∧ tenMinutesOffline.ClockFollows ∧ tenMinutesOffline.tryEnableAll.2 = [⟨1⟩, ⟨2⟩] ∧
      tenMinutesOffline.tryEnableAll.1.tryEnableAll.2 = [] := by
  have reached : tenMinutesOffline.Reachable := (reachableAlone_onEmptyStore.run (by decide)).reachable
  have follows : tenMinutesOffline.ClockFollows := by decide
  obtain ⟨enabled, _, _, again⟩ := tryEnableAll_enables_due reached follows
  exact ⟨reached, follows, enabled.trans (by decide), again⟩

end Manager

end SavedNetworks
