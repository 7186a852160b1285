import SavedNetworks.Proofs.Manager.Returning

/-!
An unlock that is remembered from before the store was read. Loads, restarts and tenant changes before the first load
settle what becomes of it; whatever else happens to a manager happens the same way with and without it
(`Manager.perform_recalling`).
-/

namespace SavedNetworks.Manager

variable {manager : Manager} {operation : Operation} {operations : List Operation} {unlock : Bool}

/-- The manager, but for whether it remembers an unlock from before the store was read. -/
def recalling (manager : Manager) (unlock : Bool) : Manager := { manager with unlockDeferred := unlock }

/-- The same for the manager that an operation leaves behind. -/
def recallingIn {α : Type} (unlock : Bool) (answered : Manager × α) : Manager × α :=
  (answered.1.recalling unlock, answered.2)

theorem roster_recalling (manager : Manager) (unlock : Bool) : (manager.recalling unlock).roster = manager.roster := rfl

theorem tenant_recalling (manager : Manager) (unlock : Bool) : (manager.recalling unlock).tenant = manager.tenant := rfl

theorem store_recalling (manager : Manager) (unlock : Bool) : (manager.recalling unlock).store = manager.store := rfl

theorem caches_recalling (manager : Manager) (unlock : Bool) : (manager.recalling unlock).caches = manager.caches := rfl

theorem dismissed_recalling (manager : Manager) (unlock : Bool) :
    (manager.recalling unlock).dismissed = manager.dismissed := rfl

theorem unsaved_recalling (manager : Manager) (unlock : Bool) (ssid : String) :
    (manager.recalling unlock).unsaved? ssid = manager.unsaved? ssid := rfl

theorem replaced_recalling (manager : Manager) (unlock : Bool) (draft : Draft) :
    (manager.recalling unlock).replaced? draft = manager.replaced? draft := rfl

theorem prepare_recalling (manager : Manager) (unlock : Bool) (draft : Draft) (caller : Owner) (id : Option ProfileId) :
    (manager.recalling unlock).prepare draft caller id = manager.prepare draft caller id := rfl

theorem save_recalling (manager : Manager) (unlock force : Bool) :
    (manager.recalling unlock).save force = recallingIn unlock (manager.save force) := by
  unfold save
  change (if manager.awaitsStore then _ else _) = _
  split <;> rfl

theorem persist_recalling (manager : Manager) (unlock force : Bool) :
    (manager.recalling unlock).persist force = (manager.persist force).recalling unlock :=
  congrArg Prod.fst (save_recalling manager unlock force)

theorem setSelection_recalling (manager : Manager) (unlock : Bool) (id : ProfileId) (profile : Profile)
    (selection : SelectionStatus) (transition : Transition) :
    (manager.recalling unlock).setSelection id profile selection transition =
      (manager.setSelection id profile selection transition).recalling unlock := by
  unfold setSelection
  dsimp only
  cases eventOf? _ transition with
  | none => rfl
  | some event => exact persist_recalling ((manager.modify id _).announce event) unlock false

theorem updateSelection_recalling (manager : Manager) (unlock : Bool) (id : ProfileId) (reason : Reason) :
    (manager.recalling unlock).updateSelection id reason = recallingIn unlock (manager.updateSelection id reason) := by
  unfold updateSelection
  rw [roster_recalling]
  cases manager.roster.get? id with
  | none => rfl
  | some profile =>
      change (if Transition.isAccepted (manager.settings.rules.apply profile.selection reason
        manager.platform.elapsed manager.platform.watchdog).2 then _ else _) = _
      dsimp only
      split
      · exact congrArg (·, true) (setSelection_recalling ..)
      · rfl

theorem tryEnable_recalling (manager : Manager) (unlock : Bool) (id : ProfileId) :
    (manager.recalling unlock).tryEnable id = recallingIn unlock (manager.tryEnable id) := by
  unfold tryEnable
  rw [roster_recalling]
  cases manager.roster.get? id with
  | none => rfl
  | some profile => exact congrArg (·, _) (setSelection_recalling ..)

theorem note_recalling (manager : Manager) (unlock : Bool) (id : ProfileId) (change : Profile → Profile) :
    (manager.recalling unlock).note id change = recallingIn unlock (manager.note id change) := by
  unfold note
  rw [roster_recalling]
  cases manager.roster.get? id <;> rfl

theorem noteStored_recalling (manager : Manager) (unlock : Bool) (id : ProfileId) (change : Profile → Profile) :
    (manager.recalling unlock).noteStored id change = recallingIn unlock (manager.noteStored id change) := by
  unfold noteStored
  rw [roster_recalling]
  cases manager.roster.get? id with
  | none => rfl
  | some profile => exact congrArg (·, true) (persist_recalling (manager.modify id change) unlock false)

theorem collect_recalling {step : Manager → ProfileId → Manager × Bool}
    (overlooks : ∀ manager id, step (recalling manager unlock) id = recallingIn unlock (step manager id))
    (manager : Manager) (ids : List ProfileId) :
    collect step (manager.recalling unlock) ids = recallingIn unlock (collect step manager ids) := by
  induction ids generalizing manager with
  | nil => rfl
  | cons id rest ih =>
      unfold collect
      rw [overlooks]
      simp only [recallingIn]
      rw [ih]
      rfl

theorem observe_recalling (manager : Manager) (unlock : Bool) (id : ProfileId) (sighting : Sighting) :
    (manager.recalling unlock).observe id sighting = recallingIn unlock (manager.observe id sighting) := by
  unfold observe
  rw [roster_recalling]
  cases manager.roster.get? id <;> rfl

theorem observeLive_recalling (manager : Manager) (unlock : Bool) (id : ProfileId) (bssid : Address) (level : Int32) :
    (manager.recalling unlock).observeLive id bssid level = recallingIn unlock (manager.observeLive id bssid level) := by
  unfold observeLive
  rw [roster_recalling, caches_recalling]
  cases manager.roster.get? id <;> cases manager.caches.get? id <;> rfl

theorem connectionAddress_recalling (manager : Manager) (unlock : Bool) (id : ProfileId) :
    (manager.recalling unlock).connectionAddress id = recallingIn unlock (manager.connectionAddress id) := by
  unfold connectionAddress
  rw [roster_recalling]
  cases manager.roster.get? id with
  | none => rfl
  | some profile =>
      change (if !manager.randomizer.policy.supported || profile.addressChoice == .own then _ else _) = _
      dsimp only
      split <;> rfl

theorem renewLease_recalling (manager : Manager) (unlock : Bool) (id : ProfileId) (seconds : UInt32) :
    (manager.recalling unlock).renewLease id seconds = recallingIn unlock (manager.renewLease id seconds) := by
  unfold renewLease
  change (if manager.isAggressive id then _ else _) = _
  split <;> rfl

theorem removeAnyway_recalling (manager : Manager) (unlock : Bool) (id : ProfileId) :
    (manager.recalling unlock).removeAnyway id = recallingIn unlock (manager.removeAnyway id) := by
  cases found : manager.roster.get? id with
  | none =>
      have still : (manager.recalling unlock).roster.get? id = none := found
      rw [removeAnyway_of_not_found found, removeAnyway_of_not_found still]
      rfl
  | some profile =>
      have still : (manager.recalling unlock).roster.get? id = some profile := found
      rw [removeAnyway_of_found found, removeAnyway_of_found still]
      have told : (manager.recalling unlock).forgetKeys profile = (manager.forgetKeys profile).recalling unlock := by
        unfold forgetKeys
        cases profile.enterprise with
        | none => rfl
        | some enterprise => dsimp only; split <;> rfl
      have without : ((manager.recalling unlock).forgetKeys profile).without id profile =
          ((manager.forgetKeys profile).without id profile).recalling unlock := by
        rw [told]
        rfl
      rw [without, persist_recalling]
      split <;> rfl

theorem removeMatching_recalling (manager : Manager) (unlock : Bool) (doomed : Profile → Bool) :
    (manager.recalling unlock).removeMatching doomed = recallingIn unlock (manager.removeMatching doomed) :=
  collect_recalling (fun manager id => removeAnyway_recalling manager unlock id) manager _

theorem removeByKey_recalling (manager : Manager) (unlock : Bool) (key : ProfileKey) (doomed : Profile → Bool) :
    (manager.recalling unlock).removeByKey key doomed = recallingIn unlock (manager.removeByKey key doomed) := by
  unfold removeByKey
  rw [roster_recalling]
  cases (manager.roster.getByKey? key).filter doomed with
  | none => rfl
  | some profile => exact removeAnyway_recalling manager unlock profile.id

theorem remove_recalling (manager : Manager) (unlock : Bool) (id : ProfileId) (caller : Owner) :
    (manager.recalling unlock).remove id caller = recallingIn unlock (manager.remove id caller) := by
  unfold remove
  change (if !manager.hasUid caller.uid then _ else _) = _
  rw [roster_recalling]
  split
  · rfl
  cases manager.roster.get? id with
  | none => rfl
  | some profile =>
      change (if manager.canModify profile caller then _ else _) = _
      dsimp only
      split
      · exact removeAnyway_recalling manager unlock id
      · rfl

theorem carryOut_recalling (manager : Manager) (unlock : Bool) (draft : Draft) (edit : Edit) :
    (manager.recalling unlock).carryOut draft edit = recallingIn unlock (manager.carryOut draft edit) := by
  have shown : (manager.recalling unlock).showKeys draft edit = recallingIn unlock (manager.showKeys draft edit) := by
    unfold showKeys
    dsimp only
    split <;> rfl
  unfold carryOut
  rw [shown]
  obtain ⟨after, accepted⟩ := manager.showKeys draft edit
  cases accepted with
  | false => rfl
  | true =>
      have registered : (if edit.isNew then (after.recalling unlock).register edit.outcome else
          (after.recalling unlock, edit.outcome)) =
          recallingIn unlock (if edit.isNew then after.register edit.outcome else (after, edit.outcome)) := by
        split <;> rfl
      simp only [recallingIn] at registered ⊢
      simp only [registered, Bool.not_true, Bool.false_eq_true, if_false]
      generalize (if edit.isNew then after.register edit.outcome else (after, edit.outcome)) = stored
      rw [roster_recalling]
      cases stored.1.roster.put stored.2 <;> rfl

theorem undismiss_recalling (manager : Manager) (unlock : Bool) (id : ProfileId) :
    (manager.recalling unlock).undismiss id = (manager.undismiss id).recalling unlock := by
  unfold undismiss
  dsimp only
  change (if manager.dismissed.contains (((manager.roster.get? id).map Profile.ssid).getD "") then _ else _) = _
  split
  · exact congrArg Prod.fst (updateSelection_recalling { manager with dismissed := _ } unlock id .enable)
  · rfl

theorem followUp_recalling (manager : Manager) (unlock : Bool) (result : EditResult) :
    (manager.recalling unlock).followUp result = (manager.followUp result).recalling unlock := by
  unfold followUp
  rw [undismiss_recalling]
  generalize manager.undismiss result.id = after
  dsimp only
  rw [roster_recalling]
  cases after.roster.get? result.id with
  | none => rfl
  | some profile =>
      dsimp only
      split
      · exact persist_recalling (after.announce _) unlock true
      · rfl

theorem giveWay_recalling (manager : Manager) (unlock : Bool) (draft : Draft) :
    (manager.recalling unlock).giveWay draft = (manager.giveWay draft).recalling unlock := by
  unfold giveWay
  rw [replaced_recalling]
  cases manager.replaced? draft with
  | none => rfl
  | some id => exact congrArg Prod.fst (removeAnyway_recalling manager unlock id)

theorem followedUp_recalling (manager : Manager) (unlock : Bool) (draft : Draft) (edit : Edit) :
    (match (manager.recalling unlock).carryOut draft edit with
      | (after, .error failure) => (after, Except.error failure)
      | (after, .ok result) => (after.followUp result, Except.ok result)) =
      recallingIn unlock (match manager.carryOut draft edit with
        | (after, .error failure) => (after, Except.error failure)
        | (after, .ok result) => (after.followUp result, Except.ok result)) := by
  rw [carryOut_recalling]
  obtain ⟨after, failure | result⟩ := manager.carryOut draft edit
  · rfl
  · exact congrArg (·, Except.ok result) (followUp_recalling after unlock result)

theorem addOrUpdate_recalling (manager : Manager) (unlock : Bool) (draft : Draft) (caller : Owner) :
    (manager.recalling unlock).addOrUpdate draft caller = recallingIn unlock (manager.addOrUpdate draft caller) := by
  unfold addOrUpdate
  change (if !manager.hasUid caller.uid then _ else if manager.awaitsStore then _ else _) = _
  dsimp only
  split
  · rfl
  split
  · rfl
  rw [replaced_recalling, prepare_recalling]
  cases manager.prepare draft caller (manager.replaced? draft) with
  | error failure => rfl
  | ok edit =>
      have carried := followedUp_recalling (manager.giveWay draft) unlock draft edit
      rw [← giveWay_recalling] at carried
      exact carried

theorem decide_recalling (manager : Manager) (unlock : Bool) (id : ProfileId) (reason : Reason) (caller : Owner) :
    (manager.recalling unlock).decide id reason caller = recallingIn unlock (manager.decide id reason caller) := by
  unfold decide
  rw [updateSelection_recalling]
  change (if (manager.roster.get? id).any (manager.canModify · caller) then _ else _) = _
  split
  · generalize manager.updateSelection id reason = moved
    obtain ⟨after, done⟩ := moved
    cases done with
    | false => rfl
    | true => exact congrArg (·, true) (persist_recalling after unlock true)
  · rfl

theorem enable_recalling (manager : Manager) (unlock : Bool) (id : ProfileId) (exclusive : Bool) (caller : Owner) :
    (manager.recalling unlock).enable id exclusive caller = recallingIn unlock (manager.enable id exclusive caller) := by
  unfold enable
  change (if !manager.hasUid caller.uid || (manager.roster.get? id).isNone then _ else _) = _
  dsimp only
  split
  · rfl
  · cases exclusive with
    | false => exact decide_recalling manager unlock id .enable caller
    | true => exact decide_recalling { manager with lastSelected := _ } unlock id .enable caller

theorem disable_recalling (manager : Manager) (unlock : Bool) (id : ProfileId) (caller : Owner) :
    (manager.recalling unlock).disable id caller = recallingIn unlock (manager.disable id caller) := by
  unfold disable
  change (if !manager.hasUid caller.uid || (manager.roster.get? id).isNone then _ else _) = _
  split
  · rfl
  · rw [deselect_eq, deselect_eq]
    exact decide_recalling { manager with lastSelected := _ } unlock id .byManager caller

theorem dismiss_recalling (manager : Manager) (unlock : Bool) (ssid : String) :
    (manager.recalling unlock).dismiss ssid = recallingIn unlock (manager.dismiss ssid) := by
  unfold dismiss
  rw [unsaved_recalling]
  cases manager.unsaved? ssid with
  | none => rfl
  | some profile =>
      have moved := updateSelection_recalling
        (forgetChoices { manager with dismissed := manager.dismissed.insert ssid manager.platform.wall } profile.key)
        unlock profile.id .byManager
      exact congrArg (fun answered : Manager × Bool => (answered.1, answered.1.roster.get? profile.id)) moved

theorem checkDismissal_recalling (manager : Manager) (unlock : Bool) (ssid : String) :
    (manager.recalling unlock).checkDismissal ssid = recallingIn unlock (manager.checkDismissal ssid) := by
  rw [checkDismissal_eq, checkDismissal_eq, dismissed_recalling]
  cases manager.dismissed.get? ssid with
  | none => rfl
  | some dismissedAt =>
      dsimp only
      change (if (Millis.sub? manager.platform.wall dismissedAt).all (· ≤ manager.settings.dismissalExpiry) then _ else _) = _
      split
      · rfl
      · rw [show ({ manager.recalling unlock with dismissed := manager.dismissed.erase ssid } : Manager) =
          recalling { manager with dismissed := manager.dismissed.erase ssid } unlock from rfl]
        generalize { manager with dismissed := manager.dismissed.erase ssid } = forgiven
        rw [unsaved_recalling]
        cases forgiven.unsaved? ssid with
        | none => rfl
        | some profile => exact congrArg (·.1, false) (updateSelection_recalling forgiven unlock profile.id .enable)

theorem insertAll_recalling (manager : Manager) (unlock : Bool) (profiles : List Profile) :
    (manager.recalling unlock).insertAll profiles = (manager.insertAll profiles).recalling unlock := by
  have same : (manager.recalling unlock).roster = manager.roster := rfl
  obtain ⟨roster, next⟩ := insertAll_congr same rfl profiles
  rw [insertAll_eq, roster, next, insertAll_eq manager]
  rfl

theorem loadSection_recalling (manager : Manager) (unlock : Bool) :
    (manager.recalling unlock).loadSection = manager.loadSection.recalling unlock := by
  unfold loadSection
  rw [store_recalling, tenant_recalling]
  generalize manager.store.readTenant manager.tenant = answered
  obtain ⟨store, failure | tenantSection⟩ := answered
  · rfl
  · dsimp only
    have taken : takeSection { manager.recalling unlock with store } tenantSection =
        (takeSection { manager with store } tenantSection).recalling unlock := by
      unfold takeSection
      rw [show ({ manager.recalling unlock with store } : Manager) = recalling { manager with store } unlock from rfl,
        insertAll_recalling]
      rfl
    rw [taken]
    exact congrArg announceReload (persist_recalling { takeSection _ tenantSection with awaitsUnlock := false } unlock true)

theorem leave_recalling (manager : Manager) (unlock : Bool) (target : Tenant) :
    (manager.recalling unlock).leave target = (manager.leave target).recalling unlock := by
  have away : (manager.recalling unlock).putAway = manager.putAway.recalling unlock := by
    unfold putAway
    change (if manager.platform.isUnlocked manager.tenant then _ else _) = _
    split
    · exact persist_recalling manager unlock true
    · rfl
  unfold leave
  rw [away]
  rfl

theorem switchTenant_recalling (unlock : Bool) {target : Tenant}
    (settled : ¬ (target ≠ manager.tenant ∧ manager.awaitsStore = true)) :
    (manager.recalling unlock).switchTenant target = recallingIn unlock (manager.switchTenant target) := by
  by_cases current : target = manager.tenant
  · unfold switchTenant
    rw [if_pos current, if_pos (show target = (manager.recalling unlock).tenant from current)]
    rfl
  have read : manager.awaitsStore = false := Bool.eq_false_iff.2 fun waits => settled ⟨current, waits⟩
  have different : target ≠ (manager.recalling unlock).tenant := current
  have after : ((manager.recalling unlock).switchTenant target).1 = (manager.switchTenant target).1.recalling unlock := by
    rw [switchTenant_of_read different read, switchTenant_of_read current read, leave_recalling]
    change (if manager.platform.isUnlocked target then _ else _) = _
    split
    · exact loadSection_recalling (manager.leave target) unlock
    · rfl
  refine Prod.ext after ?_
  change ((manager.recalling unlock).switchTenant target).2 = (manager.switchTenant target).2
  rw [returned_switchTenant different, returned_switchTenant current]
  rfl

theorem stopTenant_recalling (manager : Manager) (unlock : Bool) (target : Tenant) :
    (manager.recalling unlock).stopTenant target = (manager.stopTenant target).recalling unlock := by
  unfold stopTenant
  change (if target = manager.tenant ∧ manager.platform.isUnlocked target then _ else _) = _
  split
  · rw [persist_recalling]
    rfl
  · rfl

theorem unlockTenant_recalling (unlock : Bool) {target : Tenant}
    (settled : ¬ (target = manager.tenant ∧ manager.awaitsStore = true)) :
    (manager.recalling unlock).unlockTenant target = (manager.unlockTenant target).recalling unlock := by
  unfold unlockTenant
  change (if target ≠ manager.tenant then _ else if manager.awaitsStore then _ else if manager.awaitsUnlock then _ else _) = _
  split
  · rfl
  split
  · next current waits => exact absurd ⟨not_not.1 current, waits⟩ settled
  split
  · exact loadSection_recalling manager unlock
  · rfl

/-- Whether an operation decides what becomes of an unlock that is remembered: a load, a restart, and a tenant change
before the store was read. -/
def settlesUnlock (manager : Manager) : Operation → Bool
  | .load | .restart => true
  | .switchTenant tenant => tenant != manager.tenant && manager.awaitsStore
  | .unlockTenant tenant => tenant == manager.tenant && manager.awaitsStore
  | _ => false

theorem perform_recalling (leaves : manager.settlesUnlock operation = false) (unlock : Bool) :
    (manager.recalling unlock).perform operation = recallingIn unlock (manager.perform operation) := by
  have told {α : Type} {answered other : Manager × α} (same : other = recallingIn unlock answered) (answer : α → Answer) :
      other.map id answer = recallingIn unlock (answered.map id answer) := by
    rw [same]
    rfl
  have noted (id : ProfileId) (change : Profile → Profile) := told (note_recalling manager unlock id change) .flag
  have kept (id : ProfileId) (change : Profile → Profile) := told (noteStored_recalling manager unlock id change) .flag
  cases operation with
  | change change => cases change <;> rfl
  | restart | load => cases leaves
  | addListener | setVerbose | clearDismissals | resetSim => rfl
  | flush => rfl
  | save force => exact told (save_recalling manager unlock force) _
  | addOrUpdate draft caller => exact told (addOrUpdate_recalling manager unlock draft caller) _
  | remove id caller => exact told (remove_recalling manager unlock id caller) _
  | enable id exclusive caller => exact told (enable_recalling manager unlock id exclusive caller) _
  | disable id caller => exact told (disable_recalling manager unlock id caller) _
  | dismiss ssid => exact told (dismiss_recalling manager unlock ssid) _
  | checkDismissal ssid => exact told (checkDismissal_recalling manager unlock ssid) _
  | removeForApp app => exact told (removeMatching_recalling manager unlock _) _
  | removeForTenant tenant => exact told (removeMatching_recalling manager unlock _) _
  | removeUnsaved =>
      exact told (removeMatching_recalling manager unlock fun profile => !profile.isSaved) fun ids => .flag !ids.isEmpty
  | removeSuggestion key => exact told (removeByKey_recalling manager unlock key _) _
  | removePasspoint key => exact told (removeByKey_recalling manager unlock key _) _
  | updateSelection id reason => exact told (updateSelection_recalling manager unlock id reason) _
  | updateSelectionCode id code =>
      refine told (?_ : _ = recallingIn unlock (manager.updateSelectionCode id code)) _
      unfold updateSelectionCode
      cases Reason.ofCode? code with
      | none => rfl
      | some reason => exact updateSelection_recalling manager unlock id reason
  | tryEnable id => exact told (tryEnable_recalling manager unlock id) _
  | tryEnableAll => exact told (collect_recalling (fun manager id => tryEnable_recalling manager unlock id) manager _) _
  | recordConnected | recordDisconnected | setConnectChoice | clearConnectChoice | reportNoInternet | setValidated
  | setNoInternetExpected | setAutojoin | setGateway => exact kept _ _
  | setCandidate | clearCandidate | setRecentFailure | clearRecentFailure => exact noted _ _
  | setLastConnectUid id uid =>
      refine told (?_ : _ = recallingIn unlock (manager.setLastConnectUid id uid)) _
      unfold setLastConnectUid
      change (if manager.hasUid uid then _ else _) = _
      split
      · exact noteStored_recalling manager unlock id _
      · rfl
  | observe id sighting => exact told (observe_recalling manager unlock id sighting) _
  | observeLive id bssid level => exact told (observeLive_recalling manager unlock id bssid level) _
  | connectionAddress id => exact told (connectionAddress_recalling manager unlock id) _
  | renewLease id seconds => exact told (renewLease_recalling manager unlock id seconds) _
  | switchTenant tenant => exact told (switchTenant_recalling unlock (by simpa [settlesUnlock] using leaves)) _
  | unlockTenant tenant =>
      have settled : ¬ (tenant = manager.tenant ∧ manager.awaitsStore = true) := by simpa [settlesUnlock] using leaves
      exact congrArg (·, Answer.done) (unlockTenant_recalling unlock settled)
  | stopTenant tenant => exact congrArg (·, Answer.done) (stopTenant_recalling manager unlock tenant)

theorem load_eq_error {failure : StoreError} (read : (manager.store.read manager.tenant).2 = .error failure) :
    manager.load = ({ manager with store := (manager.store.read manager.tenant).1, unlockDeferred := false },
      .error (.store failure)) := by
  refine Prod.ext (load_of_error read) ?_
  unfold load
  simp only [tenant] at read ⊢
  generalize manager.store.read manager.roster.tenant = answered at read
  obtain ⟨store, answer⟩ := answered
  cases read
  rfl

theorem read_of_load_eq_error {failure : ManagerError} (failed : manager.load.2 = .error failure) :
    ∃ reason, (manager.store.read manager.tenant).2 = .error reason := by
  cases read : (manager.store.read manager.tenant).2 with
  | error reason => exact ⟨reason, rfl⟩
  | ok data =>
      rw [(load_eq_ok read).1] at failed
      cases failed

theorem unlockTenant_of_unread (unread : manager.awaitsStore = true) :
    manager.unlockTenant manager.tenant = manager.recalling true := by
  unfold unlockTenant
  rw [if_neg (not_not_intro rfl), if_pos unread]
  rfl

/-- A settling operation, unless it is a load that reads the store, leaves nothing of the difference. -/
theorem perform_recalling_of_settles (settles : manager.settlesUnlock operation = true)
    (fails : operation = .load → ∃ failure, manager.load.2 = .error failure) (unlock : Bool) :
    (manager.recalling unlock).perform operation = manager.perform operation := by
  cases operation with
  | restart => rfl
  | load =>
      obtain ⟨failure, failed⟩ := fails rfl
      obtain ⟨reason, read⟩ := read_of_load_eq_error failed
      have again : ((manager.recalling unlock).store.read (manager.recalling unlock).tenant).2 = .error reason := read
      have alike : (manager.recalling unlock).load = manager.load := by
        rw [load_eq_error read, load_eq_error again]
        rfl
      exact congrArg (fun answered : Manager × Except ManagerError Nat => answered.map id (Answer.ofExcept .count)) alike
  | switchTenant tenant =>
      obtain ⟨different, waits⟩ : tenant ≠ manager.tenant ∧ manager.awaitsStore = true := by
        simpa [settlesUnlock] using settles
      have still : tenant ≠ (manager.recalling unlock).tenant := different
      have alike : (manager.recalling unlock).switchTenant tenant = manager.switchTenant tenant := by
        refine Prod.ext ?_ ?_
        · rw [switchTenant_of_unread different waits, switchTenant_of_unread still waits]
          rfl
        · rw [returned_switchTenant different, returned_switchTenant still]
          rfl
      exact congrArg (fun answered : Manager × List ProfileId => answered.map id Answer.ids) alike
  | unlockTenant tenant =>
      obtain ⟨rfl, waits⟩ : tenant = manager.tenant ∧ manager.awaitsStore = true := by
        simpa [settlesUnlock] using settles
      have still : (manager.recalling unlock).awaitsStore = true := waits
      have alike : (manager.recalling unlock).unlockTenant manager.tenant = manager.unlockTenant manager.tenant :=
        (unlockTenant_of_unread still).trans (unlockTenant_of_unread waits).symm
      exact congrArg (·, Answer.done) alike
  | _ => cases settles

end SavedNetworks.Manager
