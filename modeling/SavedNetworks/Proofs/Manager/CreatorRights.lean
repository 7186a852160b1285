import Mathlib.Tactic.MkIffOfInductiveProp
import SavedNetworks.Proofs.Manager.Dismissing
import SavedNetworks.Proofs.Manager.Everywhere
import SavedNetworks.Proofs.Manager.Following
import SavedNetworks.Proofs.Manager.Permission

/-!
What the creator of a profile may do with it. Everything, but for one case: the device is owned under the bare name of the
package that the creator names, and not under the name that it gives (`Manager.creator_controls_iff`).
-/

namespace SavedNetworks

namespace Books

/-- A profile whose id is known has the creator that it had. -/
structure KeepsCreators (known : UInt32) (before after : Books) : Prop where
  handed : known ≤ after.nextId
  same : ∀ profile ∈ after.roster.all, profile.id.value < known →
    ∃ old ∈ before.roster.all, old.id = profile.id ∧ old.creator = profile.creator

namespace KeepsCreators

variable {known : UInt32} {first before after : Books} {move : Move} {allowed : Move → Prop}

theorem refl (handed : known ≤ before.nextId) : before.KeepsCreators known before :=
  ⟨handed, fun profile present _ => ⟨profile, present, rfl, rfl⟩⟩

theorem trans (former : first.KeepsCreators known before) (latter : before.KeepsCreators known after) :
    first.KeepsCreators known after := by
  refine ⟨latter.handed, fun profile present below => ?_⟩
  obtain ⟨middle, among, id, creator⟩ := latter.same profile present below
  obtain ⟨old, earlier, same, created⟩ := former.same middle among (id ▸ below)
  exact ⟨old, earlier, same.trans id, created.trans creator⟩

theorem through {look : Profile → Profile} (handed : known ≤ after.nextId)
    (same : after.roster.through look = before.roster.through look)
    (keeps : ∀ profile, (look profile).id = profile.id ∧ (look profile).creator = profile.creator) :
    before.KeepsCreators known after := by
  refine ⟨handed, fun profile present _ => ?_⟩
  obtain ⟨old, earlier, looks⟩ := Roster.mem_of_through same present
  exact ⟨old, earlier, Profile.same_of_look Profile.id (fun profile => (keeps profile).1) looks,
    Profile.same_of_look Profile.creator (fun profile => (keeps profile).2) looks⟩

theorem of_roster (handed : known ≤ after.nextId) (roster : after.roster = before.roster) :
    before.KeepsCreators known after :=
  ⟨handed, fun profile present _ => ⟨profile, roster ▸ present, rfl, rfl⟩⟩

theorem step (taken : Step move before after) (wellFormed : before.roster.WellFormed) (handed : known ≤ before.nextId) :
    before.KeepsCreators known after := by
  have later (room : before.nextId.toNat + 1 < UInt32.size) : known ≤ before.nextId + 1 := by
    rw [UInt32.le_iff_toNat_le, Manager.toNat_succ_of_room room]
    exact Nat.le_succ_of_le (UInt32.le_iff_toNat_le.1 handed)
  cases taken with
  | note outlines => exact .through handed outlines fun _ => ⟨rfl, rfl⟩
  | relink rule caches id =>
      exact .through handed (Roster.through_reconsider rule before.roster caches id) fun _ => ⟨rfl, rfl⟩
  | dismiss | forgive | write | settle => exact .of_roster handed rfl
  | skip room => exact .of_roster (later room) rfl
  | @drop _ _ gone found =>
      refine ⟨handed, fun profile present _ => ?_⟩
      obtain ⟨old, earlier, _, rfl⟩ := wellFormed.mem_drop.1 present
      exact ⟨old, earlier, (Roster.released_name before.roster gone.key old).1.symm,
        (Roster.released_owner before.roster gone.key old).2.symm⟩
  | add read room fresh unlinked owned stored =>
      refine ⟨later room, fun profile present below => ?_⟩
      rcases (wellFormed.mem_put stored).1 present with rfl | ⟨earlier, _⟩
      · rw [fresh] at below
        exact absurd handed (UInt32.not_le.2 below)
      · exact ⟨profile, earlier, rfl, rfl⟩
  | update found shared creator saved stored =>
      refine ⟨handed, fun profile present _ => ?_⟩
      rcases (wellFormed.mem_put stored).1 present with rfl | ⟨earlier, _⟩
      · exact ⟨_, Roster.mem_of_get? found, wellFormed.id_of_get? found, creator.symm⟩
      · exact ⟨profile, earlier, rfl, rfl⟩

theorem moves (moves : Moves allowed before after) (wellFormed : before.roster.WellFormed) (handed : known ≤ before.nextId) :
    before.KeepsCreators known after := by
  have keeps : ∀ move middle last, allowed move → Step move middle last →
      middle.roster.WellFormed ∧ before.KeepsCreators known middle → last.roster.WellFormed ∧ before.KeepsCreators known last :=
    fun move _ _ _ taken both => ⟨taken.wellFormed both.1, both.2.trans (step taken both.1 both.2.handed)⟩
  exact (moves.invariant keeps ⟨wellFormed, refl handed⟩).2

end KeepsCreators

end Books

namespace Manager

variable {manager : Manager} {operation : Operation} {operations : List Operation} {draft : Draft} {caller : Owner}
  {edit : Edit} {replaced : Option ProfileId} {result : EditResult} {profile : Profile} {known : UInt32} {id : ProfileId}

/-- The ids last, and they are not handed out again from the first one. -/
structure LastsOn (manager : Manager) (operation : Operation) : Prop where
  goes : operation ≠ .restart
  room : manager.HasRoom operation

instance (manager : Manager) (operation : Operation) : Decidable (manager.LastsOn operation) :=
  decidable_of_iff (operation ≠ .restart ∧ manager.HasRoom operation)
    ⟨fun both => ⟨both.1, both.2⟩, fun lasting => ⟨lasting.goes, lasting.room⟩⟩

theorem keepsCreators_perform (wellFormed : manager.roster.WellFormed) (lasting : manager.LastsOn operation)
    (handed : known ≤ manager.nextId) : manager.books.KeepsCreators known (manager.perform operation).1.books := by
  by_cases away : operation.followsTenants = true ∨ operation.isForeign = true
  · have leaves := leaves_perform wellFormed lasting.goes (fun _ => lasting.room.taking) away
    have counted := (handsOut_perform wellFormed lasting.goes lasting.room.taking).counted
    refine ⟨UInt32.le_trans handed ?_, fun profile present below => ?_⟩
    · exact UInt32.le_iff_toNat_le.2 (counted ▸ Nat.le_add_right _ _)
    · exact ⟨profile, leaves.same profile present (UInt32.lt_of_lt_of_le below handed), rfl, rfl⟩
  · obtain ⟨stays, ours⟩ := not_or.1 away
    exact .moves (moves_perform wellFormed lasting.room.taking (Bool.eq_false_iff.2 stays) (Bool.eq_false_iff.2 ours))
      wellFormed handed

/-- As long as the ids last, a profile is its creator's. -/
theorem keepsCreators_run (wellFormed : manager.roster.WellFormed) (lasting : manager.Along LastsOn operations)
    (handed : known ≤ manager.nextId) : manager.books.KeepsCreators known (manager.run operations).books := by
  induction operations generalizing manager with
  | nil => exact .refl handed
  | cons operation rest ih =>
      obtain ⟨now, later⟩ := lasting
      have step := keepsCreators_perform wellFormed now handed
      exact step.trans (ih (wellFormed_perform wellFormed operation) later step.handed)

theorem creator_of_addition (wellFormed : manager.roster.WellFormed)
    (accepted : (manager.addOrUpdate draft caller).2 = .ok result) (new : result.isNew = true) :
    ∃ profile, (manager.addOrUpdate draft caller).1.roster.get? result.id = some profile ∧ profile.creator = caller := by
  obtain ⟨edit, stored, prepared, rfl, _, _, found⟩ := settled_addOrUpdate wellFormed accepted
  obtain ⟨_, profile, again, seen, looks, _⟩ := addOrUpdate_eq_ok wellFormed accepted
  obtain rfl := Except.ok.inj (again.symm.trans prepared)
  have creator := Profile.same_of_look Profile.creator (fun profile => profile.owner_outline.2) looks
  refine ⟨profile, seen, creator.trans ?_⟩
  rcases prepare_eq_ok prepared with ⟨existing, _, rfl⟩ | ⟨_, ssid, security, _, _, rfl⟩
  · cases new
  · rfl

theorem Reachable.lastsOn (reached : manager.Reachable) (lasting : manager.Along LastsOn operations) :
    (manager.run operations).Reachable :=
  lasting.invariant (fun _ _ now before => before.perform now.room) reached

/-- A profile that was added is its creator's as long as the ids last. -/
theorem creator_of_run (reached : manager.Reachable) (accepted : (manager.addOrUpdate draft caller).2 = .ok result)
    (new : result.isNew = true) (lasting : manager.Along LastsOn (.addOrUpdate draft caller :: operations))
    (found : (manager.run (.addOrUpdate draft caller :: operations)).roster.profiles.get? result.id = some profile) :
    profile.creator = caller := by
  have ⟨now, later⟩ := lasting
  have sound : (manager.addOrUpdate draft caller).1.books.Sound := (reached.perform now.room).sound
  have last := (reached.lastsOn lasting).sound.wellFormed
  obtain ⟨newcomer, seen, creator⟩ := creator_of_addition reached.sound.wellFormed accepted new
  have known : newcomer.id.value < (manager.addOrUpdate draft caller).1.nextId :=
    sound.numbered newcomer (Roster.mem_of_get? seen)
  have named : newcomer.id = result.id := Roster.WellFormed.id_of_get? sound.wellFormed seen
  obtain ⟨present, same⟩ := last.get?_eq_some_iff.1 found
  have kept := keepsCreators_run sound.wellFormed later (UInt32.le_refl _)
  obtain ⟨old, earlier, again, created⟩ := kept.same profile present (by rw [same, ← named]; exact known)
  have first : old = newcomer := sound.wellFormed.eq_of_id earlier (Roster.mem_of_get? seen) (by rw [again, same, named])
  rw [← created, first, creator]

/-- Who adds a profile by an operation. -/
def creators (manager : Manager) : Operation → List Owner
  | .addOrUpdate draft caller =>
    match (manager.addOrUpdate draft caller).2 with
    | .ok result => if result.isNew then [caller] else []
    | .error _ => []
  | _ => []

def CreatedBy (known : List Owner) (profile : Profile) : Prop := profile.creator ∈ known

theorem isSteady_createdBy (known : List Owner) : Profile.IsSteady (CreatedBy known) where
  frame _ := Iff.rfl
  number _ _ := Iff.rfl

theorem createdBy_of_prepared {known : List Owner} (wellFormed : manager.roster.WellFormed)
    (created : ∀ profile ∈ manager.roster.all, CreatedBy known profile)
    (prepared : manager.prepare draft caller (manager.replaced? draft) = .ok edit)
    (accepted : (manager.addOrUpdate draft caller).2 = .ok result) :
    CreatedBy (known ++ manager.creators (.addOrUpdate draft caller)) edit.profile := by
  obtain ⟨_, stored, again, rfl, _⟩ := settled_addOrUpdate wellFormed accepted
  obtain rfl := Except.ok.inj (again.symm.trans prepared)
  rcases prepare_eq_ok prepared with ⟨existing, chosen, rfl⟩ | ⟨_, ssid, security, _, _, rfl⟩
  · exact List.mem_append_left _ (created existing (Roster.mem_of_get? (edited?_eq_some wellFormed chosen).1))
  · refine List.mem_append_right _ ?_
    rw [creators, accepted]
    exact List.mem_singleton_self caller

/-- The creator of a profile has no right to it: the device is owned under the bare name of the creator's package, though
not under the name that it gives. -/
@[mk_iff]
structure ShutsOut (manager : Manager) (profile : Profile) : Prop where
  ordinary : profile.creator.uid ≠ Uid.system
  unconcerned : (profile.passpoint || profile.usesSim) = true → profile.creator.uid ≠ Uid.wifi
  unrecognized : manager.platform.privileges.ownsDevice profile.creator.uid profile.creator.package = false
  owned : manager.platform.privileges.ownsDevice profile.creator.uid profile.creator.packageName = true
  withoutRight : manager.settings.deviceOwnerLockdown = true ∨
    manager.platform.privileges.changesNetworks profile.creator.uid = false

theorem ShutsOut.differs (shut : manager.ShutsOut profile) : profile.creator.package ≠ profile.creator.packageName := by
  intro same
  have owned := shut.owned
  rw [← same, shut.unrecognized] at owned
  cases owned

theorem canModify_creator_iff : manager.canModify profile profile.creator = true ↔ ¬ manager.ShutsOut profile := by
  rw [shutsOut_iff]
  unfold canModify
  grind

/-- What a caller asks for on a profile, be it granted or not: a change that is not valid, or comes before the store is
read, is refused for that reason. -/
structure Answers (manager : Manager) (profile : Profile) (caller : Owner) (granted : Bool) : Prop where
  removes : (manager.remove profile.id caller).2 = granted
  enables : ∀ exclusive, (manager.enable profile.id exclusive caller).2 = granted
  disables : (manager.disable profile.id caller).2 = granted
  updates : granted = true → ∀ draft, manager.edited? draft (manager.replaced? draft) = some profile →
    ∀ uid id, (manager.addOrUpdate draft caller).2 ≠ .error (.permissionDenied uid id)
  refuses : granted = false → ∀ draft, manager.edited? draft (manager.replaced? draft) = some profile →
    manager.awaitsStore = false → draft.validate .update = .ok () →
    (manager.addOrUpdate draft caller).2 = .error (.permissionDenied caller.uid profile.id)

theorem isAccepted_enable (rules : Rules) (status : SelectionStatus) (now : Millis) (ignoring : Bool) :
    (rules.apply status .enable now ignoring).2.isAccepted = true := by
  rw [Rules.apply, if_pos rfl, SelectionStatus.force_enable]
  cases status.isEnabled <;> rfl

/-- Whatever is picked last, a decision that is not ignored is carried out if the caller may modify the profile. -/
theorem decide_eq_canModify {reason : Reason} (lastSelected : Option (ProfileId × Millis))
    (found : manager.roster.get? id = some profile)
    (accepted : (manager.settings.rules.apply profile.selection reason manager.platform.elapsed
      manager.platform.watchdog).2.isAccepted = true) :
    (({ manager with lastSelected } : Manager).decide id reason caller).2 = manager.canModify profile caller := by
  generalize picked : ({ manager with lastSelected } : Manager) = picking
  have seen : picking.roster.get? id = some profile := by rw [← picked]; exact found
  have same : picking.canModify profile caller = manager.canModify profile caller := by rw [← picked]; rfl
  have takes : (picking.settings.rules.apply profile.selection reason picking.platform.elapsed
      picking.platform.watchdog).2.isAccepted = true := by rw [← picked]; exact accepted
  obtain ⟨store, journal, moved⟩ := updateSelection_of_isAccepted seen takes
  unfold Manager.decide
  rw [seen, Option.any_some, same]
  cases manager.canModify profile caller with
  | false => rfl
  | true => rw [if_pos rfl, moved]

/-- Nobody else is told that the permission is missing. -/
theorem exists_barred_of_denied {uid : Uid} (denied : (manager.addOrUpdate draft caller).2 = .error (.permissionDenied uid id)) :
    ∃ existing, manager.edited? draft (manager.replaced? draft) = some existing ∧ manager.canModify existing caller = false := by
  unfold addOrUpdate at denied
  split at denied
  · cases denied
  · split at denied
    · cases denied
    · cases prepared : manager.prepare draft caller (manager.replaced? draft) with
      | error reason =>
          simp only [prepared] at denied
          obtain rfl := Except.error.inj denied
          obtain ⟨_, other⟩ | other | other | ⟨existing, chosen, _, barred⟩ := prepare_eq_error prepared
          · cases other
          · cases other
          · cases other
          · exact ⟨existing, chosen, barred⟩
      | ok edit =>
          simp only [prepared] at denied
          split at denied
          · next after failure stopped =>
              have refused : (manager.giveWay draft).carryOut draft edit = (after, .error failure) := stopped
              obtain rfl := Except.error.inj denied
              rcases (manager.giveWay draft).carryOut_spec draft edit with
                rejected | ⟨_, _, _, ⟨_, _, duplicate⟩ | ⟨_, _, carried⟩⟩
              · cases refused.symm.trans rejected
              · cases refused.symm.trans duplicate
              · cases refused.symm.trans carried
          · cases denied

theorem answers_of_found (found : manager.roster.get? profile.id = some profile) (here : manager.hasUid caller.uid = true) :
    manager.Answers profile caller (manager.canModify profile caller) where
  removes := by
    unfold remove
    simp only [here, found, Bool.not_true, Bool.false_eq_true, if_false]
    cases manager.canModify profile caller with
    | false => rfl
    | true => simp only [if_true, removeAnyway_of_found found]
  enables exclusive := by
    unfold enable
    simp only [here, found, Option.isNone_some, Bool.not_true, Bool.or_false, Bool.false_eq_true, if_false]
    cases exclusive with
    | false => exact decide_eq_canModify manager.lastSelected found (isAccepted_enable ..)
    | true => exact decide_eq_canModify (some (profile.id, manager.platform.elapsed)) found (isAccepted_enable ..)
  disables := by
    unfold disable
    simp only [here, found, Option.isNone_some, Bool.not_true, Bool.or_false, Bool.false_eq_true, if_false]
    rw [deselect_eq]
    exact decide_eq_canModify (manager.lastSelected.filter (·.1 != profile.id)) found (isAccepted_byManager ..)
  updates granted draft chosen uid id denied := by
    obtain ⟨existing, again, barred⟩ := exists_barred_of_denied denied
    obtain rfl := Option.some.inj (chosen.symm.trans again)
    cases granted.symm.trans barred
  refuses barred draft chosen read valid := by
    have denied : manager.prepare draft caller (manager.replaced? draft) = .error (.permissionDenied caller.uid profile.id) := by
      unfold prepare revise
      simp only [chosen, valid, barred]
      rfl
    unfold addOrUpdate
    simp only [here, read, denied, Bool.not_true, Bool.false_eq_true, if_false]

/-- A profile that was added is its creator's as long as the ids last, and in records and through loads each has a creator
who added it. The creator's removal, enabling, disabling and changes of a profile that is seen are granted, whatever the
privileges and the settings, if and only if the creator is not shut out, which takes a package whose bare name is another. -/
theorem creator_controls_iff (reached : manager.Reachable) :
    (∀ draft caller result operations profile, (manager.addOrUpdate draft caller).2 = .ok result → result.isNew = true →
      manager.Along LastsOn (.addOrUpdate draft caller :: operations) →
      (manager.run (.addOrUpdate draft caller :: operations)).roster.profiles.get? result.id = some profile →
      profile.creator = caller) ∧
    (∀ known operations, manager.books.Everywhere (CreatedBy known) →
      (∀ operation ∈ operations, operation.isForeign = false) →
      (manager.run operations).books.Everywhere (CreatedBy (known ++ manager.gathered creators operations))) ∧
    ∀ profile, manager.roster.get? profile.id = some profile → manager.hasUid profile.creator.uid = true →
      ∀ privileges acceptsKeys,
        (manager.answering privileges acceptsKeys).Answers profile profile.creator
          ((manager.answering privileges acceptsKeys).canModify profile profile.creator) ∧
        ((manager.answering privileges acceptsKeys).canModify profile profile.creator = true ↔
          ¬ (manager.answering privileges acceptsKeys).ShutsOut profile) ∧
        ((manager.answering privileges acceptsKeys).ShutsOut profile →
          profile.creator.package ≠ profile.creator.packageName) := by
  refine ⟨fun draft caller result operations profile => creator_of_run reached, fun known operations created ours => ?_,
    fun profile found here privileges acceptsKeys => ⟨?_, canModify_creator_iff, ShutsOut.differs⟩⟩
  · exact everywhere_gathered isSteady_createdBy (fun _ _ _ within among => within among)
      (fun _ _ _ _ _ _ wellFormed created => createdBy_of_prepared wellFormed created) reached.sound.wellFormed created ours
  · have seen : (manager.answering privileges acceptsKeys).roster.get? profile.id = some profile := found
    exact answers_of_found seen here

/-- The device is owned by a package of one app. -/
def ownedDevice : Platform :=
  { Platform.start 0 1700000000000 with
    privileges := { Privileges.none with ownsDevice := fun uid package => uid == 10001 && package == "com.dpc" } }

/-- A network that the app adds, under one name or another. -/
def addedByOwner (package : String) : Manager :=
  (start .default ownedDevice (.immediate .empty) [] (fun _ => none) []).run
    [.load, .addOrUpdate (.unsecured "Cafe") ⟨10001, package⟩]

theorem creator_controls_addedByOwner : ∃ profile ∈ (addedByOwner "com.dpc").roster.get? ⟨0⟩,
    ((addedByOwner "com.dpc").answering ownedDevice.privileges fun _ _ => true).Answers profile ⟨10001, "com.dpc"⟩ true := by
  have reached : (addedByOwner "com.dpc").Reachable := (ReachableAlone.start isEmpty_immediate_empty .default ownedDevice ..).run
    (by decide) |>.reachable
  obtain ⟨profile, found, id, creator⟩ : ∃ profile ∈ (addedByOwner "com.dpc").roster.get? ⟨0⟩, profile.id = ⟨0⟩ ∧
      profile.creator = ⟨10001, "com.dpc"⟩ := by decide
  obtain ⟨answers, controls, _⟩ := (creator_controls_iff reached).2.2 profile (id ▸ found) (by rw [creator]; decide)
    ownedDevice.privileges fun _ _ => true
  have recognized : ¬ ((addedByOwner "com.dpc").answering ownedDevice.privileges fun _ _ => true).ShutsOut profile := by
    intro shut
    have unrecognized := shut.unrecognized
    rw [creator] at unrecognized
    cases unrecognized
  rw [controls.2 recognized, creator] at answers
  exact ⟨profile, found, answers⟩

theorem not_canModify_addedUnderSharedName :
    (start .default ownedDevice (.immediate .empty) [] (fun _ => none) []).Along Ordinary
      [.load, .addOrUpdate (.unsecured "Cafe") ⟨10001, "com.dpc:shared"⟩] ∧
    ∃ profile ∈ (addedByOwner "com.dpc:shared").roster.get? ⟨0⟩, profile.creator = ⟨10001, "com.dpc:shared"⟩ ∧
      (addedByOwner "com.dpc:shared").hasUid 10001 = true ∧
      (addedByOwner "com.dpc:shared").canModify profile ⟨10001, "com.dpc:shared"⟩ = false ∧
      ((addedByOwner "com.dpc:shared").remove ⟨0⟩ ⟨10001, "com.dpc:shared"⟩).2 = false := by
  decide

end Manager

end SavedNetworks
