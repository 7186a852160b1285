import SavedNetworks.Proofs.Manager.Edits
import SavedNetworks.Proofs.Manager.Tenants

/-!
Every operation that neither restarts, reads the store nor follows the tenants is a sequence of moves, and
the profiles that it may take out or replace are known beforehand.
-/

namespace SavedNetworks

namespace Operation

/-- Restarts, reads the store or follows the tenants. -/
def followsTenants : Operation → Bool
  | restart | load | switchTenant _ | unlockTenant _ | stopTenant _ => true
  | _ => false

/-- Somebody else writes to the store. -/
def isForeign : Operation → Bool
  | change (.write _ _) => true
  | _ => false

end Operation

namespace Manager

/-- May take out the profile of an id. -/
def removes (manager : Manager) : Operation → ProfileId → Prop
  | .remove target _, id => id = target
  | .removeForApp app, id => ∃ profile, manager.roster.get? id = some profile ∧
      profile.creator.uid = app.uid ∧ profile.creator.packageName = app.package
  | .removeForTenant tenant, id => ∃ profile, manager.roster.get? id = some profile ∧
      profile.creator.uid.tenant = tenant
  | .removeUnsaved, id | .removeSuggestion _, id | .removePasspoint _, id | .addOrUpdate _ _, id =>
      ∃ profile, manager.roster.get? id = some profile ∧ profile.isSaved = false
  | _, _ => False

/-- Takes out the profile of an id: the caller's removal goes through, the profile is what is to be removed, or a saved
profile is accepted in its place. -/
def takesOut (manager : Manager) : Operation → ProfileId → Prop
  | .remove target caller, id => id = target ∧ (manager.remove target caller).2 = true
  | .removeForApp app, id => ∃ profile, manager.roster.get? id = some profile ∧
      profile.creator.uid = app.uid ∧ profile.creator.packageName = app.package
  | .removeForTenant tenant, id => ∃ profile, manager.roster.get? id = some profile ∧
      profile.creator.uid.tenant = tenant
  | .removeUnsaved, id => ∃ profile, manager.roster.get? id = some profile ∧ profile.isSaved = false
  | .removeSuggestion key, id => ∃ profile, manager.roster.getByKey? key = some profile ∧
      profile.ephemeral = true ∧ profile.fromSuggestion = true ∧ profile.id = id
  | .removePasspoint key, id => ∃ profile, manager.roster.getByKey? key = some profile ∧
      profile.passpoint = true ∧ profile.id = id
  | .addOrUpdate draft caller, id => manager.replaced? draft = some id ∧
      ∃ edit, manager.prepare draft caller (manager.replaced? draft) = .ok edit
  | _, _ => False

/-- The profile that an operation may replace by an updated one. -/
def updates (manager : Manager) : Operation → ProfileId → Prop
  | .addOrUpdate draft _, id => ∃ existing, manager.edited? draft (manager.replaced? draft) = some existing ∧
      existing.id = id
  | _, _ => False

/-- How many ids an operation may hand out. -/
def idsFor (manager : Manager) : Operation → Nat
  | .addOrUpdate _ _ => 1
  | .load => match (manager.store.read manager.tenant).2 with
    | .ok data => data.shared.length + data.tenant.profiles.length
    | .error _ => 0
  | .switchTenant tenant => if manager.platform.isUnlocked tenant then (manager.putAway.sectionOf tenant).length else 0
  | .unlockTenant tenant => (manager.sectionOf tenant).length
  | _ => 0

/-- The ids do not run out with this operation. -/
def HasRoom (manager : Manager) (operation : Operation) : Prop :=
  manager.nextId.toNat + manager.idsFor operation < UInt32.size

theorem idsTaken_le_idsFor (manager : Manager) (operation : Operation) : manager.idsTaken operation ≤ manager.idsFor operation := by
  cases operation with
  | addOrUpdate draft caller =>
      simp only [idsTaken, idsFor]
      split <;> simp
  | load =>
      simp only [idsTaken, idsFor, StoreData.loaded]
      cases (manager.store.read manager.tenant).2 with
      | error failure => exact Nat.le_refl 0
      | ok data => cases manager.unlockDeferred || manager.platform.isUnlocked manager.tenant <;> simp
  | switchTenant tenant =>
      simp only [idsTaken, idsFor]
      split
      · next opens => exact Nat.le_of_eq (if_pos opens.2.2).symm
      · exact Nat.zero_le _
  | unlockTenant tenant =>
      simp only [idsTaken, idsFor]
      split
      · exact Nat.le_refl _
      · exact Nat.zero_le _
  | _ => exact Nat.le_refl 0

theorem HasRoom.taking {manager : Manager} {operation : Operation} (room : manager.HasRoom operation) :
    manager.nextId.toNat + manager.idsTaken operation < UInt32.size :=
  Nat.lt_of_le_of_lt (Nat.add_le_add_left (manager.idsTaken_le_idsFor operation) _) room

theorem hasRoom_of_idsFor {manager : Manager} {operation : Operation} (none : manager.idsFor operation = 0) :
    manager.HasRoom operation := by
  unfold HasRoom
  rw [none, Nat.add_zero]
  exact manager.nextId.toNat_lt_size

/-- The moves that may be part of an operation. -/
def permits (manager : Manager) (operation : Operation) : Move → Prop
  | .drop id => manager.takesOut operation id
  | .update id => manager.updates operation id
  | .add shared => ∃ draft caller, operation = .addOrUpdate draft caller ∧ shared = draft.shared ∧
      manager.edited? draft (manager.replaced? draft) = none
  | .dismiss => ∃ ssid, operation = .dismiss ssid
  | .skip => ∃ draft caller, operation = .addOrUpdate draft caller
  | _ => True

theorem lenient_permits (manager : Manager) (operation : Operation) : Lenient (manager.permits operation) :=
  ⟨trivial, trivial, trivial, trivial⟩

variable {manager : Manager}

theorem moves_undergo (manager : Manager) (operation : Operation) (change : Change)
    (ours : (Operation.change change).isForeign = false) :
    Moves (manager.permits operation) manager.books (manager.undergo change).books := by
  have lenient := manager.lenient_permits operation
  cases change with
  | failNextRead => exact .one lenient.settle (.settle manager.store.sameContents_failNextRead)
  | failWrites fail => exact .one lenient.settle (.settle (manager.store.sameContents_failWrites fail))
  | write tenant data => cases ours
  | advance | setWall | block | setWatchdog | unlock | lock => exact .refl

/-- Somebody else's write changes nothing but the store. -/
theorem perform_of_isForeign (manager : Manager) {operation : Operation} (foreign : operation.isForeign = true) :
    ∃ store, (manager.perform operation).1 = { manager with store } := by
  cases operation with
  | change change =>
      cases change with
      | write tenant data => exact ⟨_, rfl⟩
      | _ => cases foreign
  | _ => cases foreign

theorem removes_of_takesOut (wellFormed : manager.roster.WellFormed) {operation : Operation} {id : ProfileId}
    (out : manager.takesOut operation id) : manager.removes operation id := by
  cases operation with
  | remove target caller => exact out.1
  | removeForApp | removeForTenant | removeUnsaved => exact out
  | removeSuggestion key =>
      obtain ⟨profile, held, ephemeral, _, rfl⟩ := out
      exact ⟨profile, (wellFormed.getByKey?_eq_some.1 held).1, by simp [Profile.isSaved, ephemeral]⟩
  | removePasspoint key =>
      obtain ⟨profile, held, passpoint, rfl⟩ := out
      exact ⟨profile, (wellFormed.getByKey?_eq_some.1 held).1, by simp [Profile.isSaved, passpoint]⟩
  | addOrUpdate draft caller =>
      obtain ⟨profile, found, ephemeral, _⟩ := replaced?_eq_some wellFormed out.1
      exact ⟨profile, found, by simp [Profile.isSaved, ephemeral]⟩
  | _ => exact out

/-- Every operation but those that follow the tenants consists of the moves that it permits. -/
theorem moves_perform (wellFormed : manager.roster.WellFormed) {operation : Operation}
    (room : manager.nextId.toNat + manager.idsTaken operation < UInt32.size) (stays : operation.followsTenants = false)
    (ours : operation.isForeign = false) :
    Moves (manager.permits operation) manager.books (manager.perform operation).1.books := by
  have lenient := manager.lenient_permits operation
  have noted : ∀ id {change : Profile → Profile}, (∀ profile, (change profile).outline = profile.outline) →
      Moves (manager.permits operation) manager.books (manager.note id change).1.books :=
    fun id _ same => moves_note lenient same manager id
  have kept : ∀ id {change : Profile → Profile}, (∀ profile, (change profile).outline = profile.outline) →
      Moves (manager.permits operation) manager.books (manager.noteStored id change).1.books :=
    fun id _ same => moves_noteStored lenient same manager id
  cases operation with
  | restart | load | switchTenant | unlockTenant | stopTenant => cases stays
  | change change => exact moves_undergo manager _ change ours
  | addListener | setVerbose => exact .refl
  | save force => exact moves_persist lenient.write manager force
  | flush => exact moves_flush lenient manager
  | addOrUpdate draft caller =>
      refine moves_addOrUpdate lenient wellFormed ⟨draft, caller, rfl⟩ (fun spent => ?_)
        (fun _ edit replaced prepared => ⟨replaced, edit, prepared⟩) (fun new => ⟨draft, caller, rfl, rfl, new⟩)
        fun existing chosen => ⟨existing, chosen, rfl⟩
      simp only [idsTaken, if_neg spent] at room
      exact room
  | remove id caller =>
      simp only [perform, Prod.map_fst, id_eq]
      rcases manager.remove_cases id caller with refused | ⟨granted, done⟩
      · rw [refused]
        exact .refl
      · rw [granted]
        exact moves_removeAnyway lenient ⟨rfl, granted ▸ done⟩ manager
  | enable id exclusive caller => exact moves_enable lenient manager id exclusive caller
  | disable id caller => exact moves_disable lenient manager id caller
  | dismiss ssid => exact moves_dismiss lenient ⟨ssid, rfl⟩ manager ssid
  | checkDismissal ssid => exact moves_checkDismissal lenient manager ssid
  | clearDismissals => exact moves_clearDismissals lenient manager
  | removeForApp app =>
      refine moves_removeMatching lenient wellFormed fun id profile found chosen => ⟨profile, found, ?_⟩
      simpa using chosen
  | removeForTenant tenant =>
      refine moves_removeMatching lenient wellFormed fun id profile found chosen => ⟨profile, found, ?_⟩
      simpa using chosen
  | removeUnsaved =>
      refine moves_removeMatching lenient wellFormed fun id profile found chosen => ⟨profile, found, ?_⟩
      simpa using chosen
  | removeSuggestion key =>
      refine moves_removeByKey lenient fun profile held chosen => ?_
      rw [Bool.and_eq_true] at chosen
      exact ⟨profile, held, chosen.1, chosen.2, rfl⟩
  | removePasspoint key =>
      exact moves_removeByKey lenient fun profile held chosen => ⟨profile, held, chosen, rfl⟩
  | updateSelection id reason => exact moves_updateSelection lenient manager id reason
  | updateSelectionCode id code =>
      simp only [perform, updateSelectionCode, Prod.map_fst, id_eq]
      split
      · exact moves_updateSelection lenient manager id _
      · exact .refl
  | tryEnable id => exact moves_tryEnable lenient manager id
  | tryEnableAll => exact moves_collect (fun id _ other => moves_tryEnable lenient other id) manager
  | recordConnected id | recordDisconnected id | setConnectChoice id | clearConnectChoice id | reportNoInternet id
  | setValidated id | setNoInternetExpected id | setAutojoin id | setGateway id => exact kept id fun _ => rfl
  | setCandidate id | clearCandidate id | setRecentFailure id | clearRecentFailure id => exact noted id fun _ => rfl
  | setLastConnectUid id uid =>
      simp only [perform, setLastConnectUid, Prod.map_fst, id_eq]
      split
      · exact kept id fun _ => rfl
      · exact .refl
  | observe id sighting => exact moves_observe trivial manager id sighting
  | observeLive id bssid level =>
      rw [show (manager.perform (.observeLive id bssid level)).1.books = manager.books from
        books_observeLive manager id bssid level]
      exact .refl
  | connectionAddress id => exact moves_connectionAddress lenient manager id
  | renewLease id seconds => exact moves_renewLease lenient manager id seconds
  | resetSim => exact moves_resetSim lenient manager

/-- What permitted moves and filed edits keep is kept by every operation but those that follow the tenants, whether
the ids last or not. -/
theorem perform_invariant (wellFormed : manager.roster.WellFormed) {operation : Operation}
    (stays : operation.followsTenants = false) (ours : operation.isForeign = false) {property : Books → Prop}
    (moved : ∀ move before after, manager.permits operation move → Step move before after → before.roster.WellFormed →
      property before → property after)
    (filed : ∀ before after, Filed (manager.permits operation) before after → before.roster.WellFormed →
      property before → property after)
    (holds : property manager.books) :
    (manager.perform operation).1.roster.WellFormed ∧ property (manager.perform operation).1.books := by
  have keeps : ∀ move before after, manager.permits operation move → Step move before after →
      before.roster.WellFormed ∧ property before → after.roster.WellFormed ∧ property after :=
    fun move before after permitted taken both => ⟨taken.wellFormed both.1, moved move before after permitted taken both.1 both.2⟩
  have initially : manager.books.roster.WellFormed ∧ property manager.books := ⟨wellFormed, holds⟩
  cases operation with
  | restart | load | switchTenant | unlockTenant | stopTenant => cases stays
  | addOrUpdate draft caller =>
      have lenient := manager.lenient_permits (.addOrUpdate draft caller)
      have added : manager.edited? draft (manager.replaced? draft) = none →
          manager.permits (.addOrUpdate draft caller) (.add draft.shared) := fun new => ⟨draft, caller, rfl, rfl, new⟩
      have updated : ∀ existing, manager.edited? draft (manager.replaced? draft) = some existing →
          manager.permits (.addOrUpdate draft caller) (.update existing.id) := fun existing chosen => ⟨existing, chosen, rfl⟩
      rcases filed_addOrUpdate lenient wellFormed added updated with same | ⟨edit, after, prepared, files, moves, _⟩
      · have unchanged : (manager.perform (.addOrUpdate draft caller)).1.books = manager.books := same
        rw [← unchanged] at initially
        exact initially
      · have way : Moves (manager.permits (.addOrUpdate draft caller)) manager.books (manager.giveWay draft).books :=
          moves_giveWay wellFormed draft fun id replaced => ⟨replaced, edit, prepared⟩
        obtain ⟨ready, given⟩ := way.invariant keeps initially
        exact moves.invariant keeps ⟨files.wellFormed ready, filed _ _ files ready given⟩
  | _ => exact (moves_perform wellFormed (hasRoom_of_idsFor rfl).taking stays ours).invariant keeps initially

end Manager

end SavedNetworks
