import SavedNetworks.Proofs.Manager.Soundness

/-!
What refers to a profile by its id from outside the roster: the observations of it, and the last pick. Both are
only ever of profiles that the current tenant sees (`Manager.attached_perform`).
-/

namespace SavedNetworks

namespace Roster

variable {roster after : Roster} {profile : Profile} {id : ProfileId}

def Sees (roster : Roster) (id : ProfileId) : Prop := ∃ profile, roster.get? id = some profile

theorem WellFormed.sees_iff (wellFormed : roster.WellFormed) :
    roster.Sees id ↔ ∃ profile ∈ roster.all, profile.id = id ∧ roster.isVisible profile = true := by
  simp only [Sees, get?_eq_some, wellFormed.get?_eq_some_iff, and_assoc]

theorem get?_of_look {look : Profile → Profile} {old : Profile}
    (visible : ∀ profile tenant, (look profile).visibleTo tenant = profile.visibleTo tenant)
    (same : after.through look = roster.through look) (found : roster.get? id = some old) :
    ∃ new, after.get? id = some new ∧ look new = look old := by
  obtain ⟨there, shown⟩ := get?_eq_some.1 found
  obtain ⟨new, present, looks⟩ := get?_of_through same.symm there
  refine ⟨new, get?_eq_some.2 ⟨present, ?_⟩, looks⟩
  unfold isVisible at shown ⊢
  rw [tenant_of_through same]
  exact (Profile.same_of_look (Profile.visibleTo · roster.tenant) (visible · roster.tenant) looks).trans shown

theorem sees_of_through {look : Profile → Profile}
    (visible : ∀ profile tenant, (look profile).visibleTo tenant = profile.visibleTo tenant)
    (same : after.through look = roster.through look) (seen : roster.Sees id) : after.Sees id := by
  obtain ⟨old, found⟩ := seen
  obtain ⟨new, there, _⟩ := get?_of_look visible same found
  exact ⟨new, there⟩

theorem WellFormed.get?_put (wellFormed : roster.WellFormed) (stored : roster.put profile = .ok after)
    (visible : roster.isVisible profile = true) : after.get? profile.id = some profile := by
  refine get?_eq_some.2 ⟨?_, ?_⟩
  · exact (wellFormed.put stored).get?_eq_some_iff.2 ⟨(wellFormed.mem_put stored).2 (.inl rfl), rfl⟩
  · rw [isVisible, tenant_put stored]
    exact visible

/-- Whatever profile is stored, its id is seen if it is visible, and no other id is lost. -/
theorem WellFormed.sees_put (wellFormed : roster.WellFormed) (stored : roster.put profile = .ok after)
    (visible : roster.isVisible profile = true) (seen : id = profile.id ∨ roster.Sees id) : after.Sees id := by
  have tenant : ∀ other, after.isVisible other = roster.isVisible other := by
    intro other
    unfold isVisible
    rw [tenant_put stored]
  rw [(wellFormed.put stored).sees_iff]
  by_cases same : id = profile.id
  · exact (wellFormed.put stored).sees_iff.1 ⟨profile, same ▸ wellFormed.get?_put stored visible⟩
  · obtain ⟨other, present, named, shown⟩ := wellFormed.sees_iff.1 (seen.resolve_left same)
    exact ⟨other, (wellFormed.mem_put stored).2 (.inr ⟨present, named ▸ same⟩), named, (tenant other).trans shown⟩

theorem WellFormed.sees_update {current : Profile} (wellFormed : roster.WellFormed)
    (found : roster.get? profile.id = some current) (shared : profile.shared = current.shared)
    (creator : profile.creator = current.creator) (stored : roster.put profile = .ok after) (seen : roster.Sees id) :
    after.Sees id := by
  refine wellFormed.sees_put stored ?_ (.inr seen)
  rw [isVisible, Profile.visibleTo, shared, creator]
  exact (get?_eq_some.1 found).2

end Roster

theorem Step.sees {move : Move} {before after : Books} (taken : Step move before after)
    (wellFormed : before.roster.WellFormed) {id : ProfileId} (kept : move ≠ .drop id) (seen : before.roster.Sees id) :
    after.roster.Sees id := by
  cases taken with
  | note outlines => exact Roster.sees_of_through Profile.visibleTo_outline outlines seen
  | relink rule caches subject =>
      exact Roster.sees_of_through Profile.visibleTo_frame (Roster.through_reconsider rule before.roster caches subject) seen
  | dismiss | forgive | write | settle | skip => exact seen
  | @drop _ dropped profile found =>
      obtain ⟨other, there⟩ := seen
      have apart : id ≠ dropped := fun same => kept (by rw [same])
      exact ⟨_, Roster.get?_drop_of_ne there apart⟩
  | add read room fresh unlinked owned stored =>
      exact wellFormed.sees_put stored (by simp [Roster.isVisible, Profile.visibleTo, owned]) (.inr seen)
  | update found shared creator saved stored => exact wellFormed.sees_update found shared creator stored seen

theorem Filed.sees {allowed : Move → Prop} {before after : Books} (filed : Filed allowed before after)
    (wellFormed : before.roster.WellFormed) {id : ProfileId} (seen : before.roster.Sees id) : after.roster.Sees id := by
  cases filed with
  | refused | lost => exact seen
  | added permitted read fresh unlinked owned stored =>
      exact wellFormed.sees_put stored (by simp [Roster.isVisible, Profile.visibleTo, owned]) (.inr seen)
  | updated permitted found shared creator saved stored => exact wellFormed.sees_update found shared creator stored seen

theorem Moves.sees {before after : Books} {id : ProfileId} (moves : Moves (· ≠ .drop id) before after)
    (wellFormed : before.roster.WellFormed) (seen : before.roster.Sees id) : after.roster.Sees id := by
  have step : ∀ move before after, move ≠ .drop id → Step move before after →
      before.roster.WellFormed ∧ before.roster.Sees id → after.roster.WellFormed ∧ after.roster.Sees id :=
    fun _ _ _ kept taken both => ⟨taken.wellFormed both.1, taken.sees both.1 kept both.2⟩
  exact (moves.invariant step ⟨wellFormed, seen⟩).2

theorem lenient_ne_drop (id : ProfileId) : Lenient (· ≠ .drop id) := ⟨nofun, nofun, nofun, nofun⟩

/-- Leaves alone the observations and the last pick. -/
def Operation.keepsReferences : Operation → Bool
  | restart | load | addOrUpdate _ _ | remove _ _ | removeForApp _ | removeForTenant _ | removeUnsaved
  | removeSuggestion _ | removePasspoint _ | enable _ _ _ | disable _ _ | observe _ _ | observeLive _ _ _
  | switchTenant _ | stopTenant _ => false
  | _ => true

namespace Manager

variable {manager after : Manager} {operation : Operation} {id : ProfileId}

/-- The observations and the last pick. -/
def references (manager : Manager) : Caches × Option (ProfileId × Millis) := (manager.caches, manager.lastSelected)

def Mentions (manager : Manager) (id : ProfileId) : Prop :=
  (∃ cache, manager.caches.get? id = some cache) ∨ ∃ time, manager.lastSelected = some (id, time)

/-- The current tenant sees every profile that is referred to. -/
def Attached (manager : Manager) : Prop := ∀ id, manager.Mentions id → manager.roster.Sees id

theorem mentions_of_references (same : after.references = manager.references) : after.Mentions id ↔ manager.Mentions id := by
  obtain ⟨caches, last⟩ := Prod.mk.inj same
  rw [Mentions, Mentions, caches, last]

theorem attached_of_references (attached : manager.Attached) (same : after.references = manager.references)
    (sight : ∀ id, manager.roster.Sees id → after.roster.Sees id) : after.Attached :=
  fun id mentioned => sight id (attached id ((mentions_of_references same).1 mentioned))

theorem attached_of_cleared (cleared : manager.references = (.empty, none)) : manager.Attached := by
  obtain ⟨caches, last⟩ := Prod.mk.inj cleared
  rintro id (⟨cache, found⟩ | ⟨time, picked⟩)
  · rw [caches] at found
    cases found
  · rw [last] at picked
    cases picked

theorem references_persist (manager : Manager) (force : Bool) : (manager.persist force).references = manager.references := by
  rw [persist_eq]
  rfl

theorem references_note (manager : Manager) (id : ProfileId) (change : Profile → Profile) :
    (manager.note id change).1.references = manager.references := by
  unfold note
  split <;> rfl

theorem references_noteStored (manager : Manager) (id : ProfileId) (change : Profile → Profile) :
    (manager.noteStored id change).1.references = manager.references := by
  unfold noteStored
  split
  · exact references_persist (manager.modify id change) false
  · rfl

theorem references_setSelection (manager : Manager) (id : ProfileId) (profile : Profile) (selection : SelectionStatus)
    (transition : Transition) : (manager.setSelection id profile selection transition).references = manager.references := by
  unfold setSelection
  simp only
  split
  · exact references_persist (Manager.announce _ _) false
  · rfl

theorem references_updateSelection (manager : Manager) (id : ProfileId) (reason : Reason) :
    (manager.updateSelection id reason).1.references = manager.references := by
  unfold updateSelection
  split
  · rfl
  · simp only
    split
    · exact references_setSelection ..
    · rfl

theorem references_tryEnable (manager : Manager) (id : ProfileId) :
    (manager.tryEnable id).1.references = manager.references := by
  unfold tryEnable
  split
  · rfl
  · exact references_setSelection ..

theorem references_tryEnableAll (manager : Manager) : manager.tryEnableAll.1.references = manager.references := by
  unfold tryEnableAll
  generalize (manager.roster.visible.filter (·.selection.isTemporarilyDisabled)).map Profile.id = ids
  induction ids generalizing manager with
  | nil => rfl
  | cons id rest ih => exact (ih (manager.tryEnable id).1).trans (references_tryEnable manager id)

theorem references_decide (manager : Manager) (id : ProfileId) (reason : Reason) (caller : Owner) :
    (manager.decide id reason caller).1.references = manager.references := by
  have selected := references_updateSelection manager id reason
  unfold decide
  split
  · split
    · next after moved =>
        rw [moved] at selected
        exact (references_persist after true).trans selected
    · next after moved =>
        rw [moved] at selected
        exact selected
  · rfl

theorem references_dismiss (manager : Manager) (ssid : String) :
    (manager.dismiss ssid).1.references = manager.references := by
  unfold dismiss
  split
  · rfl
  · exact references_updateSelection (Manager.forgetChoices _ _) _ _

theorem references_checkDismissal (manager : Manager) (ssid : String) :
    (manager.checkDismissal ssid).1.references = manager.references := by
  rw [checkDismissal_eq]
  split
  · rfl
  · split
    · rfl
    · simp only
      split
      · exact references_updateSelection { manager with dismissed := manager.dismissed.erase ssid } _ _
      · rfl

theorem references_undismiss (manager : Manager) (id : ProfileId) :
    (manager.undismiss id).references = manager.references := by
  unfold undismiss
  simp only
  split
  · exact references_updateSelection { manager with dismissed := _ } id .enable
  · rfl

theorem references_followUp (manager : Manager) (result : EditResult) :
    (manager.followUp result).references = manager.references := by
  have undismissed := references_undismiss manager result.id
  unfold followUp
  simp only
  split
  · exact undismissed
  · split
    · exact (references_persist (Manager.announce _ _) true).trans undismissed
    · exact undismissed

theorem references_connectionAddress (manager : Manager) (id : ProfileId) :
    (manager.connectionAddress id).1.references = manager.references := by
  unfold connectionAddress
  split
  · rfl
  · split <;> rfl

theorem references_renewLease (manager : Manager) (id : ProfileId) (seconds : UInt32) :
    (manager.renewLease id seconds).1.references = manager.references := by
  unfold renewLease
  split <;> rfl

theorem references_insertAll (manager : Manager) (profiles : List Profile) :
    (manager.insertAll profiles).references = manager.references := by
  rw [insertAll_eq]
  rfl

theorem references_loadSection (manager : Manager) : manager.loadSection.references = manager.references := by
  unfold loadSection
  generalize manager.store.readTenant manager.tenant = answered
  obtain ⟨store, failure | tenantSection⟩ := answered
  · rfl
  · have taken : (({ manager with store } : Manager).takeSection tenantSection).references = manager.references :=
      references_insertAll { manager with store } tenantSection.profiles
    exact (references_persist { ({ manager with store } : Manager).takeSection tenantSection with awaitsUnlock := false }
      true).trans taken

theorem references_unlockTenant (manager : Manager) (tenant : Tenant) :
    (manager.unlockTenant tenant).references = manager.references := by
  unfold unlockTenant
  split
  · rfl
  · split
    · rfl
    · split
      · exact references_loadSection manager
      · rfl

theorem references_perform (keeps : operation.keepsReferences = true) :
    (manager.perform operation).1.references = manager.references := by
  cases operation with
  | change change => cases change <;> rfl
  | addListener | setVerbose | flush | clearDismissals | resetSim => rfl
  | save force => exact references_persist manager force
  | dismiss ssid => exact references_dismiss manager ssid
  | checkDismissal ssid => exact references_checkDismissal manager ssid
  | updateSelection id reason => exact references_updateSelection manager id reason
  | updateSelectionCode id code =>
      simp only [perform, updateSelectionCode, Prod.map_fst, id_eq]
      split
      · exact references_updateSelection manager id _
      · rfl
  | tryEnable id => exact references_tryEnable manager id
  | tryEnableAll => exact references_tryEnableAll manager
  | recordConnected | recordDisconnected | setConnectChoice | clearConnectChoice | reportNoInternet | setValidated
  | setNoInternetExpected | setAutojoin | setGateway => exact references_noteStored manager _ _
  | setCandidate | clearCandidate | setRecentFailure | clearRecentFailure => exact references_note manager _ _
  | setLastConnectUid id uid =>
      simp only [perform, setLastConnectUid, Prod.map_fst, id_eq]
      split
      · exact references_noteStored manager id _
      · rfl
  | connectionAddress id => exact references_connectionAddress manager id
  | renewLease id seconds => exact references_renewLease manager id seconds
  | unlockTenant tenant => exact references_unlockTenant manager tenant
  | _ => cases keeps

theorem not_takesOut_of_keepsReferences (keeps : operation.keepsReferences = true) : ¬ manager.takesOut operation id := by
  cases operation with
  | remove | removeForApp | removeForTenant | removeUnsaved | removeSuggestion | removePasspoint | addOrUpdate => cases keeps
  | _ => exact fun out => out

theorem sees_perform (wellFormed : manager.roster.WellFormed) (stays : operation.followsTenants = false)
    (kept : ¬ manager.takesOut operation id) (seen : manager.roster.Sees id) :
    (manager.perform operation).1.roster.Sees id := by
  cases ours : operation.isForeign with
  | false =>
      refine (perform_invariant wellFormed stays ours (fun move _ _ permitted taken ready seen => ?_)
        (fun _ _ files ready seen => files.sees ready seen) seen).2
      refine taken.sees ready ?_ seen
      rintro rfl
      exact kept permitted
  | true =>
      obtain ⟨store, written⟩ := perform_of_isForeign manager ours
      rw [written]
      exact seen

/-- A profile is removed together with its observations and the pick of it. -/
theorem removeAnyway_spec {profile : Profile} (found : manager.roster.get? id = some profile) :
    (manager.removeAnyway id).1.roster = manager.roster.drop id profile.key ∧
      (manager.removeAnyway id).1.references = (manager.caches.erase id, manager.lastSelected.filter (·.1 != id)) := by
  obtain ⟨journal, told⟩ := manager.exists_forgetKeys profile
  rw [removeAnyway_of_found found, told]
  split
  · rw [persist_eq]
    exact ⟨rfl, rfl⟩
  · exact ⟨rfl, rfl⟩

theorem attached_removeAnyway (attached : manager.Attached) (id : ProfileId) : (manager.removeAnyway id).1.Attached := by
  cases found : manager.roster.get? id with
  | none =>
      rw [removeAnyway_of_not_found found]
      exact attached
  | some profile =>
      obtain ⟨roster, references⟩ := removeAnyway_spec found
      obtain ⟨caches, last⟩ := Prod.mk.inj references
      have stays : ∀ other, other ≠ id → manager.Mentions other → (manager.removeAnyway id).1.roster.Sees other := by
        intro other apart mentioned
        obtain ⟨seen, there⟩ := attached other mentioned
        rw [roster]
        exact ⟨_, Roster.get?_drop_of_ne there apart⟩
      rintro other (⟨cache, cached⟩ | ⟨time, picked⟩)
      · rw [caches, SortedMap.get?_erase] at cached
        split at cached
        · cases cached
        · next apart => exact stays other apart (.inl ⟨cache, cached⟩)
      · rw [last, Option.filter_eq_some_iff] at picked
        exact stays other (by simpa using picked.2) (.inr ⟨time, picked.1⟩)

theorem attached_collect (attached : manager.Attached) (ids : List ProfileId) :
    (collect removeAnyway manager ids).1.Attached := by
  induction ids generalizing manager with
  | nil => exact attached
  | cons id rest ih => exact ih (attached_removeAnyway attached id)

theorem attached_removeByKey (attached : manager.Attached) (key : ProfileKey) (doomed : Profile → Bool) :
    (manager.removeByKey key doomed).1.Attached := by
  unfold removeByKey
  split
  · exact attached_removeAnyway attached _
  · exact attached

theorem attached_giveWay (attached : manager.Attached) (draft : Draft) : (manager.giveWay draft).Attached := by
  unfold giveWay
  split
  · exact attached_removeAnyway attached _
  · exact attached

theorem references_carryOut (manager : Manager) (draft : Draft) (edit : Edit) :
    (manager.carryOut draft edit).1.references = manager.references := by
  obtain ⟨_, _, _, _, same, _⟩ := carryOut_frame manager draft edit
  rw [same]
  rfl

theorem attached_followUp (wellFormed : manager.roster.WellFormed) (attached : manager.Attached) (result : EditResult) :
    (manager.followUp result).Attached :=
  attached_of_references attached (references_followUp manager result) fun id seen =>
    (moves_followUp (lenient_ne_drop id) manager result).sees wellFormed seen

theorem attached_addOrUpdate (wellFormed : manager.roster.WellFormed) (attached : manager.Attached) (draft : Draft)
    (caller : Owner) : (manager.addOrUpdate draft caller).1.Attached := by
  rcases addOrUpdate_cases manager draft caller with ⟨failure, refused⟩ | ⟨edit, owned, read, prepared, outcome⟩
  · rw [refused]
    exact attached
  · have files : Filed (fun _ => True) (manager.giveWay draft).books ((manager.giveWay draft).carryOut draft edit).1.books :=
      filed_carryOut wellFormed owned read prepared (fun _ => trivial) fun _ _ => trivial
    have way : (manager.giveWay draft).roster.WellFormed := wellFormed_giveWay wellFormed draft
    have carried := attached_of_references (attached_giveWay attached draft)
      (references_carryOut (manager.giveWay draft) draft edit) fun id seen => files.sees way seen
    have ready : ((manager.giveWay draft).carryOut draft edit).1.roster.WellFormed := files.wellFormed way
    rw [outcome]
    generalize (manager.giveWay draft).carryOut draft edit = done at carried ready
    obtain ⟨done, answer⟩ := done
    cases answer with
    | error failure => exact carried
    | ok result => exact attached_followUp ready carried result

theorem attached_decide (wellFormed : manager.roster.WellFormed) (attached : manager.Attached) (id : ProfileId)
    (reason : Reason) (caller : Owner) : (manager.decide id reason caller).1.Attached :=
  attached_of_references attached (references_decide manager id reason caller) fun other seen =>
    (moves_decide (lenient_ne_drop other) manager id reason caller).sees wellFormed seen

theorem attached_enable (wellFormed : manager.roster.WellFormed) (attached : manager.Attached) (id : ProfileId)
    (exclusive : Bool) (caller : Owner) : (manager.enable id exclusive caller).1.Attached := by
  unfold enable
  split
  · exact attached
  · next granted =>
      split
      · have seen : manager.roster.Sees id := by
          simp only [Bool.or_eq_true, not_or, Option.isNone_iff_eq_none] at granted
          exact Option.ne_none_iff_exists'.1 granted.2
        have ready : ({ manager with lastSelected := some (id, manager.platform.elapsed) } : Manager).roster.WellFormed :=
          wellFormed
        refine attached_decide ready ?_ id .enable caller
        rintro other (⟨cache, cached⟩ | ⟨time, picked⟩)
        · exact attached other (.inl ⟨cache, cached⟩)
        · cases picked
          exact seen
      · exact attached_decide wellFormed attached id .enable caller

theorem attached_disable (wellFormed : manager.roster.WellFormed) (attached : manager.Attached) (id : ProfileId)
    (caller : Owner) : (manager.disable id caller).1.Attached := by
  unfold disable
  split
  · exact attached
  · have deselected : (manager.deselect id).Attached := by
      rw [deselect_eq]
      refine fun other mentioned => attached other (mentioned.imp_right ?_)
      rintro ⟨time, picked⟩
      exact ⟨time, (Option.filter_eq_some_iff.1 picked).1⟩
    have still : (manager.deselect id).roster.WellFormed := by
      rw [deselect_eq]
      exact wellFormed
    exact attached_decide still deselected id .byManager caller

/-- A profile is observed while it is seen. -/
theorem attached_insert {caches : Caches} {cache : SightingCache} (attached : manager.Attached) (seen : manager.roster.Sees id)
    (inserted : caches = manager.caches.insert id cache) : ({ manager with caches } : Manager).Attached := by
  rintro other (⟨kept, cached⟩ | picked)
  · by_cases same : other = id
    · rw [same]
      exact seen
    · have earlier : caches.get? other = some kept := cached
      rw [inserted, SortedMap.get?_insert_of_ne _ _ same] at earlier
      exact attached other (.inl ⟨kept, earlier⟩)
  · exact attached other (.inr picked)

theorem attached_observe (wellFormed : manager.roster.WellFormed) (attached : manager.Attached) (id : ProfileId)
    (sighting : Sighting) : (manager.observe id sighting).1.Attached := by
  have sight : ∀ other, manager.roster.Sees other → (manager.observe id sighting).1.roster.Sees other := fun other seen =>
    (moves_observe nofun manager id sighting : Moves (· ≠ .drop other) _ _).sees wellFormed seen
  unfold observe at sight ⊢
  split
  · exact attached
  · next profile found =>
      simp only [found] at sight
      exact attached_of_references (attached_insert attached ⟨profile, found⟩ rfl) rfl sight

theorem attached_observeLive (attached : manager.Attached) (id : ProfileId) (bssid : Address) (level : Int32) :
    (manager.observeLive id bssid level).1.Attached := by
  unfold observeLive
  split
  · next profile _ found _ => exact attached_insert attached ⟨profile, found⟩ rfl
  · exact attached

theorem references_clearTenant (manager : Manager) : manager.clearTenant.references = (.empty, none) := rfl

theorem references_leave (manager : Manager) (tenant : Tenant) : (manager.leave tenant).references = (.empty, none) := rfl

theorem references_load_of_ok {data : StoreData} (read : (manager.store.read manager.tenant).2 = .ok data) :
    manager.load.1.references = (.empty, none) := by
  rw [load_of_ok read]
  generalize ({ manager with store := (manager.store.read manager.tenant).1, unlockDeferred := false } : Manager) = reader
  generalize (manager.unlockDeferred || manager.platform.isUnlocked manager.tenant) = withSection
  have full : (reader.filled data withSection).references = (.empty, none) := by
    have shared := references_insertAll reader.clearMemory data.shared
    unfold filled
    cases withSection with
    | false => exact shared
    | true => exact (references_insertAll { reader.clearMemory.insertAll data.shared with
        randomizer := (reader.clearMemory.insertAll data.shared).randomizer.loadLegacy data.addresses } _).trans shared
  have replaced : reader.replaceMemory data withSection =
      { (reader.filled data withSection).supplyAddresses.resetSim.announceReload with awaitsStore := false } := rfl
  obtain ⟨randomizer, roster, supplied, _⟩ := supplyAddresses_eq (reader.filled data withSection)
  rw [replaced, supplied]
  exact full

theorem sees_loadSection (sound : manager.books.Sound)
    (room : manager.nextId.toNat + (manager.sectionOf manager.tenant).length < UInt32.size)
    (seen : manager.roster.Sees id) : manager.loadSection.roster.Sees id := by
  have wellFormed : manager.roster.WellFormed := sound.wellFormed
  obtain ⟨profile, present, named, visible⟩ := wellFormed.sees_iff.1 seen
  rw [(wellFormed_loadSection wellFormed).sees_iff]
  refine ⟨profile, mem_loadSection sound room present, named, ?_⟩
  unfold Roster.isVisible at visible ⊢
  rw [roster_loadSection, tenant_insertAll]
  exact visible

theorem attached_loadSection (sound : manager.books.Sound)
    (room : manager.nextId.toNat + (manager.sectionOf manager.tenant).length < UInt32.size) (attached : manager.Attached) :
    manager.loadSection.Attached :=
  attached_of_references attached (references_loadSection manager) fun _ seen => sees_loadSection sound room seen

theorem attached_load (attached : manager.Attached) : manager.load.1.Attached := by
  cases read : (manager.store.read manager.tenant).2 with
  | error failure =>
      rw [load_of_error read]
      exact attached
  | ok data => exact attached_of_cleared (references_load_of_ok read)

theorem attached_switchTenant (sound : manager.books.Sound) (idle : manager.books.Idle) (attached : manager.Attached)
    {tenant : Tenant} (room : manager.nextId.toNat + manager.idsTaken (.switchTenant tenant) < UInt32.size) :
    (manager.switchTenant tenant).1.Attached := by
  have left : (manager.leave tenant).Attached := attached_of_cleared (references_leave manager tenant)
  obtain ⟨_, switched⟩ | ⟨_, unread, switched⟩ | ⟨different, read, unlocked, switched⟩ | ⟨_, _, _, switched⟩ :=
    manager.switchTenant_cases tenant
  all_goals rw [switched]
  · exact attached
  · intro id mentioned
    have nobody : manager.roster.all = [] := idle unread
    have wellFormed : manager.roster.WellFormed := sound.wellFormed
    obtain ⟨profile, present, _⟩ := wellFormed.sees_iff.1 (attached id mentioned)
    rw [nobody] at present
    cases present
  · rw [idsTaken, if_pos ⟨different, read, unlocked⟩, ← nextId_leave manager tenant] at room
    exact attached_loadSection (sound_leave sound tenant) room left
  · exact left

theorem attached_unlockTenant (sound : manager.books.Sound) (attached : manager.Attached) {tenant : Tenant}
    (room : manager.nextId.toNat + manager.idsTaken (.unlockTenant tenant) < UInt32.size) :
    (manager.unlockTenant tenant).Attached := by
  obtain ⟨_, same⟩ | ⟨rfl, read, waits, loads⟩ := manager.unlockTenant_cases tenant
  · have roster : (manager.unlockTenant tenant).roster = manager.roster := congrArg Books.roster same
    exact attached_of_references attached (references_unlockTenant manager tenant) fun _ seen => roster ▸ seen
  · rw [idsTaken, if_pos ⟨rfl, read, waits⟩] at room
    rw [loads]
    exact attached_loadSection sound room attached

theorem attached_stopTenant (attached : manager.Attached) (tenant : Tenant) : (manager.stopTenant tenant).Attached := by
  obtain ⟨_, same⟩ | ⟨_, _, stops⟩ := manager.stopTenant_cases tenant
  · rw [same]
    exact attached
  · rw [stops]
    exact attached_of_cleared (references_clearTenant _)

/-- Observations and the last pick stay with profiles that the current tenant sees. -/
theorem attached_perform (sound : manager.books.Sound) (idle : manager.books.Idle)
    (room : manager.nextId.toNat + manager.idsTaken operation < UInt32.size) (attached : manager.Attached) :
    (manager.perform operation).1.Attached := by
  have wellFormed : manager.roster.WellFormed := sound.wellFormed
  cases keeps : operation.keepsReferences with
  | true =>
      cases operation with
      | unlockTenant tenant => exact attached_unlockTenant sound attached room
      | restart | load | switchTenant | stopTenant => cases keeps
      | _ =>
          exact attached_of_references attached (references_perform keeps) fun _ =>
            sees_perform wellFormed rfl (not_takesOut_of_keepsReferences keeps)
  | false =>
      cases operation with
      | restart => exact attached_of_cleared rfl
      | load => exact attached_load attached
      | addOrUpdate draft caller => exact attached_addOrUpdate wellFormed attached draft caller
      | remove id caller =>
          simp only [perform, Prod.map_fst, id_eq]
          rcases manager.remove_cases id caller with refused | ⟨granted, _⟩
          · rw [refused]
            exact attached
          · rw [granted]
            exact attached_removeAnyway attached id
      | removeForApp | removeForTenant | removeUnsaved => exact attached_collect attached _
      | removeSuggestion key | removePasspoint key => exact attached_removeByKey attached key _
      | enable id exclusive caller => exact attached_enable wellFormed attached id exclusive caller
      | disable id caller => exact attached_disable wellFormed attached id caller
      | observe id sighting => exact attached_observe wellFormed attached id sighting
      | observeLive id bssid level => exact attached_observeLive attached id bssid level
      | switchTenant tenant => exact attached_switchTenant sound idle attached room
      | stopTenant tenant => exact attached_stopTenant attached tenant
      | _ => cases keeps

end Manager

end SavedNetworks
