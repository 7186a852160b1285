import SavedNetworks.Proofs.Manager.Everywhere
import SavedNetworks.Proofs.Manager.Outcomes
import SavedNetworks.Proofs.Selection.Standing

/-!
Properties of managers that the everyday operations keep. Those consist of notes on profiles, writes, removals, transitions
other than temporary disablings, and edits that are carried out: a property that these steps keep is kept by all of them
(`Manager.Upkeep.perform`).
-/

namespace SavedNetworks

namespace Profile

/-- A profile's network, owner, station address and standing. -/
def posture (profile : Profile) : Profile :=
  { blank profile.ssid profile.security with
    id := profile.id
    creator := profile.creator
    shared := profile.shared
    status := profile.status
    selection := { SelectionStatus.initial with state := profile.selection.state }
    station := { StationAddress.unset with address := profile.station.address } }

theorem posture_forgetChoice (profile : Profile) (key : ProfileKey) :
    (profile.forgetChoice key).posture = profile.posture := by
  unfold forgetChoice SelectionStatus.forgetChoice
  split <;> rfl

end Profile

namespace Roster

theorem keepsName_posture : KeepsName Profile.posture := fun _ => ⟨rfl, rfl⟩

theorem hidesLinks_posture : HidesLinks Profile.posture := ⟨fun _ _ => rfl, fun _ _ => rfl⟩

theorem posture_released (roster : Roster) (key : ProfileKey) (profile : Profile) :
    (roster.released key profile).posture = profile.posture :=
  hidesLinks_posture.released Profile.posture_forgetChoice roster key profile

end Roster

/-- Neither follows the tenants nor writes to the store from outside, neither gives a station address nor takes in a reason
or the news of a connection. -/
def Operation.isEveryday : Operation → Bool
  | change (.write _ _) | restart | load | switchTenant _ | unlockTenant _ | stopTenant _ | connectionAddress _
  | updateSelection _ _ | updateSelectionCode _ _ | recordConnected _ | recordDisconnected _ => false
  | _ => true

namespace Manager

theorem keeps_collect (holds : Manager → Prop) {each : Manager → ProfileId → Manager × Bool}
    (keeps : ∀ manager id, holds manager → holds (each manager id).1) {manager : Manager} (kept : holds manager)
    (ids : List ProfileId) : holds (collect each manager ids).1 := by
  induction ids generalizing manager with
  | nil => exact kept
  | cons id rest ih => exact ih (keeps manager id kept)

/-- A property that the steps keep of which the everyday operations consist. -/
structure Upkeep (holds : Manager → Prop) : Prop where
  /-- Something changes that shows in no posture. -/
  looks : ∀ {before after : Manager}, holds before → after.randomizer = before.randomizer →
    after.store.SameContents before.store →
    after.roster.through Profile.posture = before.roster.through Profile.posture → holds after
  persist : ∀ {manager : Manager}, holds manager → ∀ force, holds (manager.persist force)
  drop : ∀ {manager : Manager} {id : ProfileId} {profile : Profile}, holds manager →
    manager.roster.get? id = some profile → holds { manager with roster := manager.roster.drop id profile.key }
  moves : ∀ {manager : Manager} {id : ProfileId} {profile : Profile} {selection : SelectionStatus} {transition : Transition},
    holds manager → manager.roster.get? id = some profile → Moved profile.selection selection transition →
    transition.suspends = false →
    holds (manager.modify id fun _ => { profile with selection, status := (statusAfter transition).getD profile.status })
  /-- An edit is carried out once an ephemeral profile gave way. -/
  files : ∀ {manager : Manager} {draft : Draft} {caller : Owner} {edit : Edit}, holds manager →
    manager.prepare draft caller (manager.replaced? draft) = .ok edit → holds (manager.giveWay draft) →
    holds ((manager.giveWay draft).carryOut draft edit).1

namespace Upkeep

variable {holds : Manager → Prop} (upkeep : Upkeep holds) {manager : Manager} (kept : holds manager) {id : ProfileId}

include upkeep kept

theorem notice (notice : Notice) : holds (manager.notice notice) := upkeep.looks kept rfl (.refl _) rfl

theorem announce (event : Event) : holds (manager.announce event) := upkeep.notice kept (.event event)

theorem forgive (dismissed : SortedMap String Millis) : holds { manager with dismissed } :=
  upkeep.looks kept rfl (.refl _) rfl

theorem select (lastSelected : Option (ProfileId × Millis)) : holds { manager with lastSelected } :=
  upkeep.looks kept rfl (.refl _) rfl

theorem modify {change : Profile → Profile}
    (noted : ∀ profile, manager.roster.get? id = some profile → (change profile).posture = profile.posture) :
    holds (manager.modify id change) :=
  upkeep.looks kept rfl (.refl _) (Roster.through_modify noted)

theorem note {change : Profile → Profile} (noted : ∀ profile, (change profile).posture = profile.posture)
    (id : ProfileId) : holds (manager.note id change).1 := by
  unfold Manager.note
  split
  · exact upkeep.modify kept fun profile _ => noted profile
  · exact kept

omit kept in
/-- What a note makes of the profile is all that counts. -/
theorem noteStored_of_modify (kept : holds manager) {change : Profile → Profile}
    (changed : ∀ profile, manager.roster.get? id = some profile → holds (manager.modify id change)) :
    holds (manager.noteStored id change).1 := by
  unfold Manager.noteStored
  split
  · next profile found => exact upkeep.persist (changed profile found) false
  · exact kept

theorem noteStored {change : Profile → Profile} (noted : ∀ profile, (change profile).posture = profile.posture)
    (id : ProfileId) : holds (manager.noteStored id change).1 :=
  upkeep.noteStored_of_modify kept fun _ _ => upkeep.modify kept fun profile _ => noted profile

theorem removeAnyway (id : ProfileId) : holds (manager.removeAnyway id).1 := by
  cases found : manager.roster.get? id with
  | none =>
      rw [removeAnyway_of_not_found found]
      exact kept
  | some profile =>
      obtain ⟨journal, told⟩ := manager.exists_forgetKeys profile
      have gone : holds ((manager.forgetKeys profile).without id profile) := by
        rw [told]
        exact upkeep.looks (upkeep.drop kept found) rfl (.refl _) rfl
      rw [removeAnyway_of_found found]
      cases profile.isSaved with
      | true => exact upkeep.announce (upkeep.persist gone true) _
      | false => exact upkeep.announce gone _

theorem removeByKey (key : ProfileKey) (doomed : Profile → Bool) : holds (manager.removeByKey key doomed).1 := by
  unfold Manager.removeByKey
  split
  · exact upkeep.removeAnyway kept _
  · exact kept

theorem remove (id : ProfileId) (caller : Owner) : holds (manager.remove id caller).1 := by
  obtain refused | ⟨granted, _⟩ := manager.remove_cases id caller
  · rw [refused]
    exact kept
  · rw [granted]
    exact upkeep.removeAnyway kept id

omit kept in
/-- What a move makes of the profile is all that counts. -/
theorem setSelection {profile : Profile} {selection : SelectionStatus} {transition : Transition}
    (moved : holds (manager.modify id fun _ =>
      { profile with selection, status := (statusAfter transition).getD profile.status })) :
    holds (manager.setSelection id profile selection transition) := by
  unfold Manager.setSelection
  simp only
  split
  · exact upkeep.persist (upkeep.announce moved _) false
  · exact moved

omit kept in
/-- What a reason makes of the profile is all that counts. -/
theorem updateSelection_of_modify (kept : holds manager) {reason : Reason}
    (taken : ∀ profile, manager.roster.get? id = some profile →
      holds (manager.modify id fun _ => manager.taking reason profile)) : holds (manager.updateSelection id reason).1 := by
  unfold Manager.updateSelection
  split
  · exact kept
  · next profile found =>
      simp only
      split
      · exact upkeep.setSelection (taken profile found)
      · exact kept

/-- A reason that disables nobody for a time. -/
theorem updateSelection {reason : Reason} (lasting : reason.isTemporary = false) (id : ProfileId) :
    holds (manager.updateSelection id reason).1 := by
  refine upkeep.updateSelection_of_modify kept fun profile found => ?_
  refine upkeep.moves kept found (.applied ..) (Bool.eq_false_iff.2 fun suspends => ?_)
  exact Bool.noConfusion (lasting.symm.trans (Rules.takesHold_of_suspends suspends).1)

theorem tryEnable (id : ProfileId) : holds (manager.tryEnable id).1 := by
  unfold Manager.tryEnable
  split
  · exact kept
  · next profile found =>
      exact upkeep.setSelection (upkeep.moves kept found (.polled ..) (Rules.suspends_tryEnable ..))

theorem decide {reason : Reason} (lasting : reason.isTemporary = false) (id : ProfileId) (caller : Owner) :
    holds (manager.decide id reason caller).1 := by
  have moved := upkeep.updateSelection kept lasting id
  unfold Manager.decide
  split
  · generalize manager.updateSelection id reason = outcome at moved
    obtain ⟨after, accepted⟩ := outcome
    cases accepted with
    | true => exact upkeep.persist moved true
    | false => exact moved
  · exact kept

theorem enable (id : ProfileId) (exclusive : Bool) (caller : Owner) : holds (manager.enable id exclusive caller).1 := by
  unfold Manager.enable
  split
  · exact kept
  · split
    · exact upkeep.decide (upkeep.select kept _) rfl id caller
    · exact upkeep.decide kept rfl id caller

theorem disable (id : ProfileId) (caller : Owner) : holds (manager.disable id caller).1 := by
  unfold Manager.disable
  split
  · exact kept
  · rw [deselect_eq]
    exact upkeep.decide (upkeep.select kept _) rfl id caller

theorem forgetChoices (key : ProfileKey) : holds (manager.forgetChoices key) :=
  upkeep.looks kept rfl (.refl _) (Roster.through_modifyVisible fun profile => profile.posture_forgetChoice key)

theorem dismiss (ssid : String) : holds (manager.dismiss ssid).1 := by
  unfold Manager.dismiss
  split
  · exact kept
  · next profile _ =>
      have dismissed := upkeep.forgive kept (manager.dismissed.insert ssid manager.platform.wall)
      exact upkeep.updateSelection (upkeep.forgetChoices dismissed profile.key) rfl profile.id

theorem checkDismissal (ssid : String) : holds (manager.checkDismissal ssid).1 := by
  rw [checkDismissal_eq]
  split
  · exact kept
  · split
    · exact kept
    · have forgiven := upkeep.forgive kept (manager.dismissed.erase ssid)
      simp only
      split
      · exact upkeep.updateSelection forgiven rfl _
      · exact forgiven

theorem observe (id : ProfileId) (sighting : Sighting) : holds (manager.observe id sighting).1 := by
  unfold Manager.observe
  split
  · exact kept
  · exact upkeep.looks kept rfl (.refl _) (Roster.hidesLinks_posture.through_reconsider _ _ _ _)

theorem observeLive (id : ProfileId) (bssid : Address) (level : Int32) : holds (manager.observeLive id bssid level).1 := by
  unfold Manager.observeLive
  split
  · exact upkeep.looks kept rfl (.refl _) rfl
  · exact kept

theorem renewLease (id : ProfileId) (seconds : UInt32) : holds (manager.renewLease id seconds).1 := by
  unfold Manager.renewLease
  split
  · exact upkeep.modify kept fun profile _ => by simp only [Profile.posture, StationAddress.address_renew]
  · exact kept

theorem giveWay (draft : Draft) : holds (manager.giveWay draft) := by
  unfold Manager.giveWay
  split
  · exact upkeep.removeAnyway kept _
  · exact kept

theorem undismiss (id : ProfileId) : holds (manager.undismiss id) := by
  unfold Manager.undismiss
  simp only
  split
  · exact upkeep.updateSelection (upkeep.forgive kept _) rfl id
  · exact kept

theorem followUp (result : EditResult) : holds (manager.followUp result) := by
  have settled := upkeep.undismiss kept result.id
  unfold Manager.followUp
  simp only
  split
  · exact settled
  · split
    · exact upkeep.persist (upkeep.announce settled _) true
    · exact upkeep.announce settled _

theorem addOrUpdate (draft : Draft) (caller : Owner) : holds (manager.addOrUpdate draft caller).1 := by
  obtain ⟨failure, refused⟩ | ⟨edit, _, _, prepared, outcome⟩ := addOrUpdate_cases manager draft caller
  · rw [refused]
    exact kept
  · have done := upkeep.files kept prepared (upkeep.giveWay kept draft)
    rw [outcome]
    generalize (manager.giveWay draft).carryOut draft edit = carried at done
    obtain ⟨after, failure | result⟩ := carried
    · exact done
    · exact upkeep.followUp done result

/-- Whatever the steps keep is kept by every everyday operation. -/
theorem perform {operation : Operation} (everyday : operation.isEveryday = true) :
    holds (manager.perform operation).1 := by
  have aside : ∀ {after : Manager}, after.randomizer = manager.randomizer → after.store.SameContents manager.store →
      after.roster = manager.roster → holds after := fun randomizer same roster =>
    upkeep.looks kept randomizer same (roster ▸ rfl)
  have noted : ∀ id {change : Profile → Profile}, (∀ profile, (change profile).posture = profile.posture) →
      holds (manager.note id change).1 := fun id _ unseen => upkeep.note kept unseen id
  have stored : ∀ id {change : Profile → Profile}, (∀ profile, (change profile).posture = profile.posture) →
      holds (manager.noteStored id change).1 := fun id _ unseen => upkeep.noteStored kept unseen id
  cases operation with
  | restart | load | switchTenant | unlockTenant | stopTenant | connectionAddress | updateSelection | updateSelectionCode
  | recordConnected | recordDisconnected => cases everyday
  | change change =>
      cases change with
      | failNextRead => exact aside rfl manager.store.sameContents_failNextRead rfl
      | failWrites fail => exact aside rfl (manager.store.sameContents_failWrites fail) rfl
      | write => cases everyday
      | advance | setWall | block | setWatchdog | unlock | lock => exact aside rfl (.refl _) rfl
  | addListener | setVerbose | clearDismissals => exact aside rfl (.refl _) rfl
  | save force => exact upkeep.persist kept force
  | flush => exact aside rfl manager.store.sameContents_flush rfl
  | addOrUpdate draft caller => exact upkeep.addOrUpdate kept draft caller
  | remove id caller => exact upkeep.remove kept id caller
  | enable id exclusive caller => exact upkeep.enable kept id exclusive caller
  | disable id caller => exact upkeep.disable kept id caller
  | dismiss ssid => exact upkeep.dismiss kept ssid
  | checkDismissal ssid => exact upkeep.checkDismissal kept ssid
  | removeForApp | removeForTenant | removeUnsaved =>
      exact keeps_collect holds (fun _ id before => upkeep.removeAnyway before id) kept _
  | removeSuggestion key | removePasspoint key => exact upkeep.removeByKey kept key _
  | tryEnable id => exact upkeep.tryEnable kept id
  | tryEnableAll => exact keeps_collect holds (fun _ id before => upkeep.tryEnable before id) kept _
  | setConnectChoice id | clearConnectChoice id | reportNoInternet id | setValidated id | setNoInternetExpected id
  | setAutojoin id | setGateway id => exact stored id fun _ => rfl
  | setCandidate id | clearCandidate id | setRecentFailure id | clearRecentFailure id => exact noted id fun _ => rfl
  | setLastConnectUid id uid =>
      simp only [Manager.perform, setLastConnectUid, Prod.map_fst, id_eq]
      split
      · exact stored id fun _ => rfl
      · exact kept
  | observe id sighting => exact upkeep.observe kept id sighting
  | observeLive id bssid level => exact upkeep.observeLive kept id bssid level
  | renewLease id seconds => exact upkeep.renewLease kept id seconds
  | resetSim => exact upkeep.looks kept rfl (.refl _) (Roster.through_modifyVisible fun _ => rfl)

end Upkeep

end Manager

end SavedNetworks
