import SavedNetworks.Proofs.Manager.Reloading
import SavedNetworks.Proofs.Manager.Upkeep

/-!
Usable addresses in memory and in the store. As long as the device secret gives usable addresses, no operation puts another
one there, unless somebody else writes it to the store (`Manager.addressed_perform`).
-/

namespace SavedNetworks

namespace Profile

def HasAddress (profile : Profile) : Prop := profile.station.address.isUsable = true

/-- A profile's network, owner and station address. -/
def face (profile : Profile) : Profile :=
  { blank profile.ssid profile.security with
    id := profile.id
    creator := profile.creator
    shared := profile.shared
    station := { StationAddress.unset with address := profile.station.address } }

theorem hasAddress_of_face {left right : Profile} (same : left.face = right.face) : left.HasAddress ↔ right.HasAddress := by
  have addresses : left.station.address = right.station.address := congrArg (fun face => face.station.address) same
  rw [HasAddress, addresses, HasAddress]

theorem face_of_posture {left right : Profile} (same : left.posture = right.posture) : left.face = right.face := by
  have shown : ∀ profile : Profile, profile.posture.face = profile.face := fun _ => rfl
  exact same_of_look face shown same

theorem face_disconnected (profile : Profile) (stats : ConnectionStats) (now : Millis) (status : ProfileStatus) :
    ({ profile with stats, station := profile.station.extendAfterDisconnect now, status } : Profile).face = profile.face := by
  simp only [face, StationAddress.address_extendAfterDisconnect]

theorem isLasting_hasAddress : IsLasting HasAddress where
  persisted _ has := has
  number _ _ has := has
  address profile address has sentinel := by
    have usable : profile.station.address.isUsable = true := has
    rw [sentinel] at usable
    cases usable
  reset _ has := has

end Profile

theorem Roster.keepsName_face : KeepsName Profile.face := fun _ => ⟨rfl, rfl⟩

/-- Every record can be read and has a usable address. -/
structure Store.Addressed (store : Store) : Prop where
  shared : StoredProfile.AllRead Profile.HasAddress store.storedShared
  sections : ∀ tenant, StoredProfile.AllRead Profile.HasAddress (store.storedSection tenant).profiles

/-- Somebody else who writes to the store writes usable addresses. -/
def Operation.WritesAddresses : Operation → Prop
  | .change (.write _ data) => ∀ profile ∈ data.shared ++ data.tenant.profiles, profile.HasAddress
  | _ => True

namespace Manager

variable {manager after : Manager} {operation : Operation} {id : ProfileId}

theorem digest_supplyAddress (manager : Manager) (id : ProfileId) :
    (manager.supplyAddress id).randomizer.digest = manager.randomizer.digest := by
  unfold supplyAddress
  split
  · rfl
  · next profile _ =>
      split
      · simp only
        split <;> exact (manager.randomizer.initial_spec profile).1.digest
      · rfl

theorem digest_supplyAddresses (manager : Manager) : manager.supplyAddresses.randomizer.digest = manager.randomizer.digest := by
  unfold supplyAddresses
  generalize manager.roster.ids = ids
  induction ids generalizing manager with
  | nil => rfl
  | cons id rest ih => exact (ih _).trans (digest_supplyAddress manager id)

theorem digest_load (manager : Manager) : manager.load.1.randomizer.digest = manager.randomizer.digest := by
  cases read : (manager.store.read manager.tenant).2 with
  | error failure => rw [load_of_error read]
  | ok data =>
      rw [load_of_ok read]
      generalize (manager.unlockDeferred || manager.platform.isUnlocked manager.tenant) = withSection
      generalize reading : ({ manager with store := (manager.store.read manager.tenant).1, unlockDeferred := false } :
        Manager) = reader
      have same : reader.randomizer = manager.randomizer := reading ▸ rfl
      have supplied := digest_supplyAddresses (reader.filled data withSection)
      rw [randomizer_filled, same] at supplied
      exact supplied

/-- The device secret gives usable addresses, and no others are in memory or in the store. -/
structure Addressed (manager : Manager) : Prop where
  wellFormed : manager.roster.WellFormed
  reliable : manager.randomizer.Reliable
  everywhere : manager.books.Everywhere Profile.HasAddress

namespace Addressed

variable (addressed : manager.Addressed)

include addressed

theorem of_faces (reliable : after.randomizer.Reliable) (same : after.store.SameContents manager.store)
    (faces : after.roster.through Profile.face = manager.roster.through Profile.face) : after.Addressed where
  wellFormed := addressed.wellFormed.of_through Roster.keepsName_face faces
  reliable := reliable
  everywhere := addressed.everywhere.of_through (fun _ _ => Profile.hasAddress_of_face) faces same

theorem modify {change : Profile → Profile}
    (noted : ∀ profile, manager.roster.get? id = some profile → (change profile).face = profile.face) :
    (manager.modify id change).Addressed :=
  addressed.of_faces addressed.reliable (.refl _) (Roster.through_modify noted)

theorem persist (force : Bool) : (manager.persist force).Addressed := by
  refine ⟨wellFormed_persist addressed.wellFormed force, ?_, everywhere_persist Profile.isLasting_hasAddress addressed.everywhere force⟩
  rw [persist_eq]
  exact addressed.reliable

theorem connectionAddress (id : ProfileId) : (manager.connectionAddress id).1.Addressed := by
  have wellFormed := wellFormed_perform addressed.wellFormed (.connectionAddress id)
  simp only [perform, Prod.map_fst, id_eq] at wellFormed
  revert wellFormed
  unfold Manager.connectionAddress
  split
  · exact fun _ => addressed
  · next profile found =>
      split
      · exact fun _ => addressed
      · have pruned := manager.randomizer.prunes_forConnection profile manager.platform.wall
        have usable := Randomizer.isUsable_forConnection addressed.reliable
          (addressed.everywhere.memory profile (Roster.mem_of_get? found)) manager.platform.wall
        generalize manager.randomizer.forConnection profile manager.platform.wall = shown at pruned usable
        obtain ⟨randomizer, changed, address⟩ := shown
        refine fun wellFormed => ⟨wellFormed, addressed.reliable.congr pruned.digest, ?_⟩
        exact addressed.everywhere.of_sameContents (.refl _)
          (keeps_modify addressed.everywhere.memory fun _ _ => usable)

theorem showKeys (draft : Draft) (edit : Edit) : (manager.showKeys draft edit).1.Addressed := by
  obtain ⟨journal, told⟩ := manager.exists_showKeys draft edit
  rw [told]
  exact addressed.of_faces addressed.reliable (.refl _) rfl

theorem register (profile : Profile) :
    (manager.register profile).1.Addressed ∧ (manager.register profile).2.HasAddress := by
  obtain ⟨address, drawn, usable⟩ := Randomizer.exists_initial addressed.reliable { profile with id := ⟨manager.nextId⟩ }
  have pruned := (manager.randomizer.initial_spec { profile with id := ⟨manager.nextId⟩ }).1
  refine ⟨addressed.of_faces (addressed.reliable.congr pruned.digest) (.refl _) rfl, ?_⟩
  have given : (manager.register profile).2.station.address =
      (manager.randomizer.initial { profile with id := ⟨manager.nextId⟩ }).2.getD profile.station.address := rfl
  rw [Profile.HasAddress, given, drawn]
  exact usable

theorem put {profile : Profile} {roster : Roster} (has : profile.HasAddress) (stored : manager.roster.put profile = .ok roster) :
    ({ manager with roster } : Manager).Addressed where
  wellFormed := addressed.wellFormed.put stored
  reliable := addressed.reliable
  everywhere := addressed.everywhere.put addressed.wellFormed has stored manager.nextId

/-- The outcome of a change has the address of what is changed. -/
theorem carryOut {edit : Edit} (kept : edit.isNew = false → edit.outcome.HasAddress) (draft : Draft) :
    (manager.carryOut draft edit).1.Addressed := by
  have told := addressed.showKeys draft edit
  unfold Manager.carryOut
  generalize manager.showKeys draft edit = shown at told
  obtain ⟨shown, accepted⟩ := shown
  cases accepted with
  | false => exact told
  | true =>
      simp only [Bool.not_true, Bool.false_eq_true, if_false]
      obtain ⟨ready, has⟩ : (if edit.isNew then shown.register edit.outcome else (shown, edit.outcome)).1.Addressed ∧
          (if edit.isNew then shown.register edit.outcome else (shown, edit.outcome)).2.HasAddress := by
        cases new : edit.isNew with
        | true => exact Addressed.register told edit.outcome
        | false => exact ⟨told, kept new⟩
      generalize (if edit.isNew then shown.register edit.outcome else (shown, edit.outcome)) = readied at ready has
      obtain ⟨readied, profile⟩ := readied
      cases stored : readied.roster.put profile with
      | error conflict => exact ready
      | ok roster => exact Addressed.put ready has stored

/-- What an accepted edit changes has its address from before. -/
theorem hasAddress_outcome {draft : Draft} {caller : Owner} {edit : Edit}
    (prepared : manager.prepare draft caller (manager.replaced? draft) = .ok edit) (old : edit.isNew = false) :
    edit.outcome.HasAddress := by
  obtain ⟨existing, chosen, rfl⟩ | ⟨_, ssid, security, _, _, rfl⟩ := prepare_eq_ok prepared
  · have found := (edited?_eq_some addressed.wellFormed chosen).1
    have before := addressed.everywhere.memory existing (Roster.mem_of_get? found)
    unfold Edit.outcome
    split <;> exact before
  · cases old

theorem loadSection : manager.loadSection.Addressed := by
  refine ⟨wellFormed_loadSection addressed.wellFormed, ?_,
    everywhere_loadSection Profile.isLasting_hasAddress addressed.wellFormed addressed.everywhere⟩
  rw [randomizer_loadSection]
  exact addressed.reliable

theorem load : manager.load.1.Addressed := by
  refine ⟨wellFormed_load addressed.wellFormed, addressed.reliable.congr (digest_load manager),
    everywhere_load Profile.isLasting_hasAddress addressed.everywhere⟩

theorem clearTenant : manager.clearTenant.Addressed where
  wellFormed := wellFormed_clearTenant addressed.wellFormed
  reliable := addressed.reliable
  everywhere := everywhere_clearTenant addressed.wellFormed addressed.everywhere

theorem switchTenant (tenant : Tenant) : (manager.switchTenant tenant).1.Addressed := by
  refine ⟨wellFormed_perform addressed.wellFormed (.switchTenant tenant), ?_,
    everywhere_switchTenant Profile.isLasting_hasAddress addressed.wellFormed addressed.everywhere tenant⟩
  rw [randomizer_switchTenant]
  exact addressed.reliable

theorem unlockTenant (tenant : Tenant) : (manager.unlockTenant tenant).Addressed := by
  unfold Manager.unlockTenant
  split
  · exact addressed
  · split
    · exact addressed.of_faces addressed.reliable (.refl _) rfl
    · split
      · exact addressed.loadSection
      · exact addressed

theorem stopTenant (tenant : Tenant) : (manager.stopTenant tenant).Addressed := by
  unfold Manager.stopTenant
  split
  · exact (addressed.persist true).clearTenant
  · exact addressed

theorem restart : manager.restart.Addressed where
  wellFormed := Roster.wellFormed_empty
  reliable := addressed.reliable
  everywhere := addressed.everywhere.of_empty (Store.sameContents_reopen manager.store) rfl

end Addressed

theorem upkeep_addressed : Upkeep Addressed where
  looks addressed randomizer same postures :=
    { wellFormed := addressed.wellFormed.of_through Roster.keepsName_posture postures
      reliable := randomizer ▸ addressed.reliable
      everywhere := addressed.everywhere.of_through
        (fun _ _ looks => Profile.hasAddress_of_face (Profile.face_of_posture looks)) postures same }
  persist addressed force := addressed.persist force
  drop {manager id profile} addressed _ := by
    refine ⟨addressed.wellFormed.drop id profile.key, addressed.reliable, ?_⟩
    refine addressed.everywhere.of_sameContents (.refl _) fun last present => ?_
    obtain ⟨old, earlier, _, rfl⟩ := addressed.wellFormed.mem_drop.1 present
    have faces := Profile.face_of_posture (Roster.posture_released manager.roster profile.key old)
    exact (Profile.hasAddress_of_face faces).2 (addressed.everywhere.memory old earlier)
  moves addressed found _ _ := addressed.modify fun same again => by
    rw [← Option.some.inj (found.symm.trans again)]
    rfl
  files addressed prepared given := given.carryOut (addressed.hasAddress_outcome prepared) _

theorem addressed_updateSelection (addressed : manager.Addressed) (id : ProfileId) (reason : Reason) :
    (manager.updateSelection id reason).1.Addressed := by
  refine upkeep_addressed.updateSelection_of_modify addressed fun profile found => addressed.modify fun same again => ?_
  rw [← Option.some.inj (found.symm.trans again)]
  rfl

/-- No operation puts an address that is not usable into memory or into the store. -/
theorem addressed_perform (addressed : manager.Addressed) (operation : Operation) (writes : operation.WritesAddresses) :
    (manager.perform operation).1.Addressed := by
  have stored : ∀ id {change : Profile → Profile}, (∀ profile, (change profile).face = profile.face) →
      (manager.noteStored id change).1.Addressed := fun id _ unseen =>
    upkeep_addressed.noteStored_of_modify addressed fun _ _ => addressed.modify fun profile _ => unseen profile
  cases everyday : operation.isEveryday with
  | true => exact upkeep_addressed.perform addressed everyday
  | false =>
      cases operation with
      | change change =>
          cases change with
          | write tenant data =>
              exact ⟨addressed.wellFormed, addressed.reliable, addressed.everywhere.writeOutside tenant data writes⟩
          | _ => cases everyday
      | restart => exact addressed.restart
      | load => exact addressed.load
      | switchTenant tenant => exact addressed.switchTenant tenant
      | unlockTenant tenant => exact addressed.unlockTenant tenant
      | stopTenant tenant => exact addressed.stopTenant tenant
      | connectionAddress id => exact addressed.connectionAddress id
      | updateSelection id reason => exact addressed_updateSelection addressed id reason
      | updateSelectionCode id code =>
          simp only [perform, updateSelectionCode, Prod.map_fst, id_eq]
          split
          · exact addressed_updateSelection addressed id _
          · exact addressed
      | recordConnected id => exact stored id fun _ => rfl
      | recordDisconnected id => exact stored id fun profile => profile.face_disconnected _ _ _
      | _ => cases everyday

theorem addressed_start (settings : Settings) (platform : Platform) {store : Store} (stored : store.Addressed)
    (listeners : List Listener) {digest : String → Option (List UInt8)} (random : List UInt8)
    (reliable : (Randomizer.ofPolicy settings.randomizationPolicy digest random).Reliable) :
    (start settings platform store listeners digest random).Addressed where
  wellFormed := Roster.wellFormed_empty
  reliable := reliable
  everywhere := ⟨fun _ present => absurd present List.not_mem_nil, stored.shared, stored.sections⟩

theorem addressed_run (addressed : manager.Addressed) {operations : List Operation}
    (writes : ∀ operation ∈ operations, operation.WritesAddresses) : (manager.run operations).Addressed := by
  induction operations generalizing manager with
  | nil => exact addressed
  | cons operation rest ih =>
      obtain ⟨first, later⟩ := List.forall_mem_cons.1 writes
      exact ih (addressed_perform addressed operation first) later

end Manager

end SavedNetworks
