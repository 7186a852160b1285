import SavedNetworks.Proofs.Manager.Dismissing
import SavedNetworks.Proofs.Millis

/-!
How long a dismissal lasts. It is remembered until it expires, unless the memory is read anew or a profile of the network is
added or changed; that such a profile is saved is not asked for (`Manager.dismissalLasts_run_iff`).
-/

namespace SavedNetworks

/-- Neither dismisses a network nor forgets a dismissal. -/
def Operation.keepsDismissals : Operation → Bool
  | restart | load | addOrUpdate _ _ | dismiss _ | checkDismissal _ | clearDismissals | switchTenant _ | unlockTenant _
  | stopTenant _ => false
  | _ => true

namespace Manager

variable {manager : Manager} {operation : Operation} {operations : List Operation} {ssid : String} {since : Millis}

theorem dismissed_persist (manager : Manager) (force : Bool) : (manager.persist force).dismissed = manager.dismissed := by
  rw [persist_eq]

theorem dismissed_note (manager : Manager) (id : ProfileId) (change : Profile → Profile) :
    (manager.note id change).1.dismissed = manager.dismissed := by
  unfold note
  split <;> rfl

theorem dismissed_noteStored (manager : Manager) (id : ProfileId) (change : Profile → Profile) :
    (manager.noteStored id change).1.dismissed = manager.dismissed := by
  unfold noteStored
  split
  · exact dismissed_persist (manager.modify id change) false
  · rfl

theorem dismissed_setSelection (manager : Manager) (id : ProfileId) (profile : Profile) (selection : SelectionStatus)
    (transition : Transition) : (manager.setSelection id profile selection transition).dismissed = manager.dismissed := by
  obtain ⟨store, journal, moved⟩ := manager.setSelection_eq id profile selection transition
  rw [moved]

theorem dismissed_updateSelection (manager : Manager) (id : ProfileId) (reason : Reason) :
    (manager.updateSelection id reason).1.dismissed = manager.dismissed := by
  unfold updateSelection
  split
  · rfl
  · simp only
    split
    · exact dismissed_setSelection ..
    · rfl

theorem dismissed_tryEnable (manager : Manager) (id : ProfileId) :
    (manager.tryEnable id).1.dismissed = manager.dismissed := by
  unfold tryEnable
  split
  · rfl
  · exact dismissed_setSelection ..

theorem dismissed_collect {work : Manager → ProfileId → Manager × Bool}
    (kept : ∀ manager id, (work manager id).1.dismissed = manager.dismissed) (manager : Manager) (ids : List ProfileId) :
    (collect work manager ids).1.dismissed = manager.dismissed := by
  induction ids generalizing manager with
  | nil => rfl
  | cons id rest ih => exact (ih (work manager id).1).trans (kept manager id)

theorem dismissed_decide (manager : Manager) (id : ProfileId) (reason : Reason) (caller : Owner) :
    (manager.decide id reason caller).1.dismissed = manager.dismissed := by
  have selected := dismissed_updateSelection manager id reason
  unfold decide
  split
  · split
    · next after moved =>
        rw [moved] at selected
        exact (dismissed_persist after true).trans selected
    · next after moved =>
        rw [moved] at selected
        exact selected
  · rfl

theorem dismissed_enable (manager : Manager) (id : ProfileId) (exclusive : Bool) (caller : Owner) :
    (manager.enable id exclusive caller).1.dismissed = manager.dismissed := by
  unfold enable
  split
  · rfl
  · cases exclusive with
    | true => exact dismissed_decide { manager with lastSelected := some (id, manager.platform.elapsed) } id .enable caller
    | false => exact dismissed_decide manager id .enable caller

theorem dismissed_disable (manager : Manager) (id : ProfileId) (caller : Owner) :
    (manager.disable id caller).1.dismissed = manager.dismissed := by
  unfold disable
  split
  · rfl
  · rw [deselect_eq]
    exact dismissed_decide { manager with lastSelected := manager.lastSelected.filter (·.1 != id) } id .byManager caller

theorem dismissed_removeAnyway (manager : Manager) (id : ProfileId) :
    (manager.removeAnyway id).1.dismissed = manager.dismissed := by
  cases found : manager.roster.get? id with
  | none => rw [removeAnyway_of_not_found found]
  | some profile =>
      obtain ⟨left, books, after⟩ := books_removeAnyway found
      have kept : left.dismissed = manager.dismissed := congrArg Books.dismissed books
      have written : (manager.removeAnyway id).1.dismissed = (if profile.isSaved then left.persist true else left).dismissed :=
        congrArg Books.dismissed after
      rw [written, ← kept]
      split
      · exact dismissed_persist left true
      · rfl

theorem dismissed_removeByKey (manager : Manager) (key : ProfileKey) (doomed : Profile → Bool) :
    (manager.removeByKey key doomed).1.dismissed = manager.dismissed := by
  unfold removeByKey
  split
  · exact dismissed_removeAnyway manager _
  · rfl

theorem dismissed_connectionAddress (manager : Manager) (id : ProfileId) :
    (manager.connectionAddress id).1.dismissed = manager.dismissed := by
  unfold connectionAddress
  split
  · rfl
  · split <;> rfl

theorem dismissed_perform (keeps : operation.keepsDismissals = true) :
    (manager.perform operation).1.dismissed = manager.dismissed := by
  cases operation with
  | change change => cases change <;> rfl
  | addListener | setVerbose | flush | resetSim => rfl
  | save force => exact dismissed_persist manager force
  | remove id caller =>
      simp only [perform, Prod.map_fst, id_eq]
      rcases manager.remove_cases id caller with refused | ⟨granted, _⟩
      · rw [refused]
      · rw [granted]
        exact dismissed_removeAnyway manager id
  | enable id exclusive caller => exact dismissed_enable manager id exclusive caller
  | disable id caller => exact dismissed_disable manager id caller
  | removeForApp | removeForTenant | removeUnsaved => exact dismissed_collect dismissed_removeAnyway manager _
  | removeSuggestion key | removePasspoint key => exact dismissed_removeByKey manager key _
  | updateSelection id reason => exact dismissed_updateSelection manager id reason
  | updateSelectionCode id code =>
      simp only [perform, updateSelectionCode, Prod.map_fst, id_eq]
      split
      · exact dismissed_updateSelection manager id _
      · rfl
  | tryEnable id => exact dismissed_tryEnable manager id
  | tryEnableAll => exact dismissed_collect dismissed_tryEnable manager _
  | recordConnected | recordDisconnected | setConnectChoice | clearConnectChoice | reportNoInternet | setValidated
  | setNoInternetExpected | setAutojoin | setGateway => exact dismissed_noteStored manager _ _
  | setCandidate | clearCandidate | setRecentFailure | clearRecentFailure => exact dismissed_note manager _ _
  | setLastConnectUid id uid =>
      simp only [perform, setLastConnectUid, Prod.map_fst, id_eq]
      split
      · exact dismissed_noteStored manager id _
      · rfl
  | observe id sighting =>
      simp only [perform, observe, Prod.map_fst, id_eq]
      split <;> rfl
  | observeLive id bssid level =>
      simp only [perform, observeLive, Prod.map_fst, id_eq]
      split <;> rfl
  | connectionAddress id => exact dismissed_connectionAddress manager id
  | renewLease id seconds =>
      simp only [perform, renewLease, Prod.map_fst, id_eq]
      split <;> rfl
  | _ => cases keeps

/-- The profile that an accepted draft ends as. -/
def resulting? (manager : Manager) : Operation → Option Profile
  | .addOrUpdate draft caller =>
      (manager.addOrUpdate draft caller).2.toOption.bind fun result =>
        (manager.addOrUpdate draft caller).1.roster.get? result.id
  | _ => none

/-- A profile of the network that is not saved is added or changed. -/
def readmits (manager : Manager) (ssid : String) (operation : Operation) : Bool :=
  (manager.resulting? operation).any fun profile => !profile.isSaved && profile.ssid == ssid

/-- The memory is read anew or emptied, another tenant comes, or a saved profile of the network is added or changed. -/
def endsDismissal (manager : Manager) (ssid : String) : Operation → Bool
  | .restart | .clearDismissals => true
  | .load => (manager.store.read manager.tenant).2.isOk
  | .switchTenant tenant => tenant != manager.tenant
  | .unlockTenant tenant => tenant == manager.tenant && !manager.awaitsStore && manager.awaitsUnlock &&
      (manager.store.readTenant manager.tenant).2.isOk
  | .stopTenant tenant => tenant == manager.tenant && manager.platform.isUnlocked tenant
  | .addOrUpdate draft caller =>
      (manager.resulting? (.addOrUpdate draft caller)).any fun profile => profile.isSaved && profile.ssid == ssid
  | _ => false

/-- A profile that results from an edit is turned on if its network was dismissed, and the dismissal is forgotten. -/
theorem resulting?_spec (wellFormed : manager.roster.WellFormed) {profile : Profile}
    (ends : manager.resulting? operation = some profile) :
    (manager.perform operation).1.dismissed = manager.dismissed.erase profile.ssid ∧
      (manager.dismissed.contains profile.ssid = true → profile.selection.isEnabled = true) := by
  cases operation with
  | addOrUpdate draft caller =>
      obtain ⟨result, accepted, there⟩ := Option.bind_eq_some_iff.1 ends
      have accepted : (manager.addOrUpdate draft caller).2 = .ok result := by
        cases answered : (manager.addOrUpdate draft caller).2 with
        | ok other =>
            rw [answered] at accepted
            rw [Option.some.inj accepted]
        | error failure =>
            rw [answered] at accepted
            cases accepted
      obtain ⟨edit, stored, _, named, _, erased, found⟩ := settled_addOrUpdate wellFormed accepted
      rw [named] at there
      obtain rfl := Option.some.inj (there.symm.trans found)
      rw [Profile.ssid_settled]
      refine ⟨erased, fun dismissed => ?_⟩
      rw [dismissed]
      rfl
  | _ => cases ends

theorem dismissed_addOrUpdate_of_error (wellFormed : manager.roster.WellFormed) {draft : Draft} {caller : Owner}
    {failure : ManagerError} (refused : (manager.addOrUpdate draft caller).2 = .error failure) :
    (manager.addOrUpdate draft caller).1.dismissed = manager.dismissed := by
  rcases addOrUpdate_cases manager draft caller with ⟨_, same⟩ | ⟨edit, _, _, _, outcome⟩
  · rw [same]
  · rcases carryOut_cases (manager.giveWay draft) draft edit with
      ⟨_, after, rejected, books⟩ | ⟨stored, _, after, carried, _⟩
    · have same : after.dismissed = (manager.giveWay draft).dismissed := by
        rcases books with books | books <;> exact congrArg Books.dismissed books
      rw [outcome, rejected]
      exact same.trans (dismissed_giveWay wellFormed draft)
    · rw [outcome, carried] at refused
      cases refused

/-- An accepted draft results in a profile. -/
theorem exists_resulting? (wellFormed : manager.roster.WellFormed) {draft : Draft} {caller : Owner} {result : EditResult}
    (accepted : (manager.addOrUpdate draft caller).2 = .ok result) :
    ∃ profile, manager.resulting? (.addOrUpdate draft caller) = some profile := by
  obtain ⟨edit, stored, _, named, _, _, found⟩ := settled_addOrUpdate wellFormed accepted
  rw [named] at accepted
  refine ⟨stored.settled (manager.dismissed.contains stored.ssid), ?_⟩
  rw [resulting?, accepted]
  exact found

/-- A dismissal of that time has not expired, and the time since it, or since a later one, can be told. -/
structure InTime (manager : Manager) (ssid : String) (since : Millis) : Prop where
  unexpired : manager.platform.wall.toInt ≤ since.toInt + manager.settings.dismissalExpiry.toInt
  measured : ∀ dismissedAt ∈ manager.dismissed.get? ssid,
    Int64.minValue.toInt ≤ manager.platform.wall.toInt - dismissedAt.toInt

instance (manager : Manager) (ssid : String) (since : Millis) : Decidable (manager.InTime ssid since) :=
  decidable_of_iff (manager.platform.wall.toInt ≤ since.toInt + manager.settings.dismissalExpiry.toInt ∧
      (manager.dismissed.get? ssid).all (fun dismissedAt =>
        Int64.minValue.toInt ≤ manager.platform.wall.toInt - dismissedAt.toInt) = true)
    ⟨fun both => ⟨both.1, fun dismissedAt noted => of_decide_eq_true ((Option.all_eq_true _ _).1 both.2 dismissedAt noted)⟩,
      fun inTime => ⟨inTime.unexpired, (Option.all_eq_true _ _).2 fun dismissedAt noted =>
        decide_eq_true (inTime.measured dismissedAt noted)⟩⟩

/-- The operation does not end a dismissal, asks for it only while it has not expired, and does not make it anew with an
earlier time. -/
structure Upholds (manager : Manager) (ssid : String) (since : Millis) (operation : Operation) : Prop where
  goesOn : manager.endsDismissal ssid operation = false
  asked : operation = .checkDismissal ssid → manager.InTime ssid since
  renewed : operation = .dismiss ssid → since.toInt ≤ manager.platform.wall.toInt

instance (manager : Manager) (ssid : String) (since : Millis) (operation : Operation) :
    Decidable (manager.Upholds ssid since operation) :=
  decidable_of_iff (manager.endsDismissal ssid operation = false ∧
      (operation = .checkDismissal ssid → manager.InTime ssid since) ∧
      (operation = .dismiss ssid → since.toInt ≤ manager.platform.wall.toInt))
    ⟨fun all => ⟨all.1, all.2.1, all.2.2⟩, fun upholds => ⟨upholds.goesOn, upholds.asked, upholds.renewed⟩⟩

/-- Until it expires, the dismissal is told to whoever asks. -/
def Remembers (manager : Manager) (ssid : String) (since : Millis) : Prop :=
  manager.InTime ssid since → (manager.checkDismissal ssid).2 = true

/-- If the operation adds or changes a profile of the network that is not saved, the dismissal is not forgotten, and the
profile is enabled at most if it was before. -/
def Respects (manager : Manager) (ssid : String) (operation : Operation) : Prop :=
  ∀ profile ∈ manager.resulting? operation, profile.isSaved = false → profile.ssid = ssid →
    (manager.perform operation).1.dismissed.contains ssid = true ∧
      (profile.selection.isEnabled = true → (manager.roster.get? profile.id).any (·.selection.isEnabled) = true)

/-- Wherever in a run somebody asks, a dismissal of that time is remembered, and every operation respects it. -/
def DismissalLasts (manager : Manager) (ssid : String) (since : Millis) (operations : List Operation) : Prop :=
  manager.Along (fun manager operation => manager.Remembers ssid since ∧ manager.Respects ssid operation) operations ∧
    (manager.run operations).Remembers ssid since

/-- The dismissal is on record, with that time or a later one. -/
def HoldsDismissal (manager : Manager) (ssid : String) (since : Millis) : Prop :=
  ∃ dismissedAt, manager.dismissed.get? ssid = some dismissedAt ∧ since.toInt ≤ dismissedAt.toInt

theorem HoldsDismissal.remembers (held : manager.HoldsDismissal ssid since) : manager.Remembers ssid since := by
  intro inTime
  obtain ⟨dismissedAt, noted, later⟩ := held
  have measured := inTime.measured dismissedAt noted
  have unexpired := inTime.unexpired
  have longest := manager.settings.dismissalExpiry.toInt_le
  have fits : Millis.Fits (manager.platform.wall.toInt - dismissedAt.toInt) := ⟨measured, by omega⟩
  have passed : Millis.sub? manager.platform.wall dismissedAt = some (manager.platform.wall - dismissedAt) := if_pos fits
  have lasts : manager.platform.wall - dismissedAt ≤ manager.settings.dismissalExpiry := by
    rw [Int64.le_iff_toInt_le, Millis.toInt_sub_of_fits fits]
    omega
  simp [checkDismissal_eq, noted, passed, lasts]

theorem HoldsDismissal.of_same (held : manager.HoldsDismissal ssid since) {after : Manager}
    (same : after.dismissed.get? ssid = manager.dismissed.get? ssid) : after.HoldsDismissal ssid since := by
  obtain ⟨dismissedAt, noted, later⟩ := held
  exact ⟨dismissedAt, same.trans noted, later⟩

theorem respects_iff (wellFormed : manager.roster.WellFormed) (operation : Operation) :
    manager.Respects ssid operation ↔ manager.readmits ssid operation = false := by
  unfold Respects readmits
  cases ends : manager.resulting? operation with
  | none => simp
  | some profile =>
      have forgotten : profile.ssid = ssid → (manager.perform operation).1.dismissed.contains ssid = false := by
        rintro rfl
        rw [(resulting?_spec wellFormed ends).1, SortedMap.contains, SortedMap.get?_erase, if_pos rfl]
        rfl
      constructor
      · intro respects
        rw [Option.any_some, Bool.and_eq_false_iff, or_iff_not_imp_left]
        intro unsaved
        by_contra named
        have named : profile.ssid = ssid := by simpa using named
        have kept := (respects profile rfl (by simpa using unsaved) named).1
        exact absurd (kept.symm.trans (forgotten named)) (by decide)
      · intro quiet other same unsaved named
        obtain rfl := Option.some.inj same
        simp [unsaved, named] at quiet

theorem dismissed_loadSection_of_not_isOk (failed : (manager.store.readTenant manager.tenant).2.isOk = false) :
    manager.loadSection.dismissed = manager.dismissed := by
  cases read : (manager.store.readTenant manager.tenant).2 with
  | error failure => rw [loadSection_of_error read]
  | ok tenantSection =>
      rw [read] at failed
      cases failed

theorem dismissed_load_of_not_isOk (failed : (manager.store.read manager.tenant).2.isOk = false) :
    manager.load.1.dismissed = manager.dismissed := by
  cases read : (manager.store.read manager.tenant).2 with
  | error failure => rw [load_of_error read]
  | ok data =>
      rw [read] at failed
      cases failed

theorem dismissed_unlockTenant {tenant : Tenant} (goesOn : manager.endsDismissal ssid (.unlockTenant tenant) = false) :
    (manager.unlockTenant tenant).dismissed = manager.dismissed := by
  rcases manager.unlockTenant_cases tenant with ⟨_, same⟩ | ⟨current, read, waits, opened⟩
  · exact congrArg Books.dismissed same
  · rw [opened]
    exact dismissed_loadSection_of_not_isOk (by simpa [endsDismissal, current, read, waits] using goesOn)

theorem dismissed_stopTenant {tenant : Tenant} (goesOn : manager.endsDismissal ssid (.stopTenant tenant) = false) :
    (manager.stopTenant tenant).dismissed = manager.dismissed := by
  rcases manager.stopTenant_cases tenant with ⟨_, same⟩ | ⟨current, unlocked, _⟩
  · rw [same]
  · rw [endsDismissal, current, ← current, unlocked] at goesOn
    simp at goesOn

theorem dismissed_switchTenant {tenant : Tenant} (goesOn : manager.endsDismissal ssid (.switchTenant tenant) = false) :
    (manager.switchTenant tenant).1.dismissed = manager.dismissed := by
  have current : tenant = manager.tenant := by simpa [endsDismissal] using goesOn
  rw [switchTenant, if_pos current]

/-- Other networks may be dismissed, or this one anew. -/
theorem HoldsDismissal.dismiss (wellFormed : manager.roster.WellFormed) (held : manager.HoldsDismissal ssid since)
    {other : String} (renewed : other = ssid → since.toInt ≤ manager.platform.wall.toInt) :
    (manager.dismiss other).1.HoldsDismissal ssid since := by
  cases found : manager.unsaved? other with
  | none =>
      rw [Manager.dismiss, found]
      exact held
  | some first =>
      obtain ⟨store, journal, dismissed⟩ := dismiss_eq wellFormed found
      by_cases same : ssid = other
      · refine ⟨manager.platform.wall, ?_, renewed same.symm⟩
        rw [dismissed, same]
        exact SortedMap.get?_insert_self ..
      · refine held.of_same ?_
        rw [dismissed]
        exact SortedMap.get?_insert_of_ne _ _ same

/-- A query that is answered in the negative leaves no dismissal of the network. -/
theorem dismissed_checkDismissal (manager : Manager) (asked : String) :
    (manager.checkDismissal asked).1.dismissed =
      if (manager.checkDismissal asked).2 then manager.dismissed else manager.dismissed.erase asked := by
  rw [checkDismissal_eq]
  cases noted : manager.dismissed.get? asked with
  | none =>
      have absent : manager.dismissed.contains asked = false := by rw [SortedMap.contains, noted, Option.isSome_none]
      exact (SortedMap.erase_of_not_contains absent).symm
  | some dismissedAt =>
      simp only
      split
      · rfl
      · split
        · exact dismissed_updateSelection ..
        · rfl

theorem HoldsDismissal.checkDismissal (held : manager.HoldsDismissal ssid since) {asked : String}
    (inTime : asked = ssid → manager.InTime ssid since) :
    (manager.checkDismissal asked).1.HoldsDismissal ssid since := by
  refine held.of_same ?_
  rw [dismissed_checkDismissal]
  by_cases same : ssid = asked
  · subst same
    rw [if_pos (held.remembers (inTime rfl))]
  · split
    · rfl
    · rw [SortedMap.get?_erase, if_neg same]

theorem HoldsDismissal.addOrUpdate (wellFormed : manager.roster.WellFormed) (held : manager.HoldsDismissal ssid since)
    {draft : Draft} {caller : Owner} (goesOn : manager.endsDismissal ssid (.addOrUpdate draft caller) = false)
    (quiet : manager.readmits ssid (.addOrUpdate draft caller) = false) :
    (manager.addOrUpdate draft caller).1.HoldsDismissal ssid since := by
  refine held.of_same ?_
  cases answered : (manager.addOrUpdate draft caller).2 with
  | error failure => rw [dismissed_addOrUpdate_of_error wellFormed answered]
  | ok result =>
      obtain ⟨profile, ends⟩ := exists_resulting? wellFormed answered
      have erased : (manager.addOrUpdate draft caller).1.dismissed = manager.dismissed.erase profile.ssid :=
        (resulting?_spec wellFormed ends).1
      rw [endsDismissal, ends, Option.any_some] at goesOn
      rw [readmits, ends, Option.any_some] at quiet
      have other : ssid ≠ profile.ssid := by
        rintro rfl
        cases saved : profile.isSaved <;> simp [saved] at goesOn quiet
      rw [erased, SortedMap.get?_erase, if_neg other]

/-- What one operation keeps, unless it readmits the network. -/
theorem HoldsDismissal.perform (wellFormed : manager.roster.WellFormed) (held : manager.HoldsDismissal ssid since)
    (upholds : manager.Upholds ssid since operation) (quiet : manager.readmits ssid operation = false) :
    (manager.perform operation).1.HoldsDismissal ssid since := by
  obtain ⟨goesOn, asked, renewed⟩ := upholds
  have same {after : Manager} (kept : after.dismissed = manager.dismissed) : after.HoldsDismissal ssid since :=
    held.of_same (congrArg (·.get? ssid) kept)
  cases keeps : operation.keepsDismissals with
  | true => exact same (dismissed_perform keeps)
  | false =>
      cases operation with
      | load => exact same (dismissed_load_of_not_isOk goesOn)
      | addOrUpdate draft caller => exact held.addOrUpdate wellFormed goesOn quiet
      | dismiss other => exact held.dismiss wellFormed fun named => renewed (by rw [named])
      | checkDismissal other => exact held.checkDismissal fun named => asked (by rw [named])
      | switchTenant tenant => exact same (dismissed_switchTenant goesOn)
      | unlockTenant tenant => exact same (dismissed_unlockTenant goesOn)
      | stopTenant tenant => exact same (dismissed_stopTenant goesOn)
      | restart | clearDismissals => cases goesOn
      | _ => cases keeps

/-- Along a whole run, by induction on its operations. -/
theorem dismissalLasts_iff (wellFormed : manager.roster.WellFormed) (held : manager.HoldsDismissal ssid since)
    (upheld : manager.Along (fun manager operation => manager.Upholds ssid since operation) operations) :
    manager.DismissalLasts ssid since operations ↔
      manager.Along (fun manager operation => manager.readmits ssid operation = false) operations := by
  induction operations generalizing manager with
  | nil => exact iff_of_true ⟨trivial, held.remembers⟩ trivial
  | cons operation rest ih =>
      obtain ⟨now, later⟩ := upheld
      have first : manager.Remembers ssid since ∧ manager.Respects ssid operation ↔
          manager.readmits ssid operation = false :=
        (and_iff_right held.remembers).trans (respects_iff wellFormed operation)
      have wellFormedAfter := wellFormed_perform wellFormed operation
      calc manager.DismissalLasts ssid since (operation :: rest)
          ↔ (manager.Remembers ssid since ∧ manager.Respects ssid operation) ∧
              (manager.perform operation).1.DismissalLasts ssid since rest := and_assoc
        _ ↔ manager.readmits ssid operation = false ∧
              (manager.perform operation).1.DismissalLasts ssid since rest := and_congr_left fun _ => first
        _ ↔ _ := and_congr_right fun quiet => ih wellFormedAfter (held.perform wellFormed now quiet) later

/-- After any run, a dismissal that returns a profile lasts just as long as no profile of the network is added or changed
that is not saved: until it expires it is remembered, and nothing enables a profile of the network behind it. The operations
that end it, saved profiles of the network among them, are left out. -/
theorem dismissalLasts_run_iff (settings : Settings) (platform : Platform) (store : Store) (listeners : List Listener)
    (digest : String → Option (List UInt8)) (random : List UInt8) (earlier : List Operation)
    (reached : manager = (start settings platform store listeners digest random).run earlier) {profile : Profile}
    (returned : (manager.dismiss ssid).2 = some profile) (time : manager.platform.wall = since)
    (upheld : (manager.dismiss ssid).1.Along (fun manager operation => manager.Upholds ssid since operation) operations) :
    (manager.dismiss ssid).1.DismissalLasts ssid since operations ↔
      (manager.dismiss ssid).1.Along (fun manager operation => manager.readmits ssid operation = false) operations := by
  have wellFormed : manager.roster.WellFormed := reached ▸ wellFormed_run Roster.wellFormed_empty earlier
  obtain ⟨first, found, _⟩ := exists_unsaved? returned
  obtain ⟨store, journal, dismissed⟩ := dismiss_eq wellFormed found
  have held : (manager.dismiss ssid).1.HoldsDismissal ssid since := by
    rw [dismissed, ← time]
    exact ⟨manager.platform.wall, SortedMap.get?_insert_self .., le_rfl⟩
  exact dismissalLasts_iff (wellFormed_perform wellFormed (.dismiss ssid)) held upheld

/-- A network of a café, which is not saved. -/
def passingCafe : Draft := { Draft.unsecured "Cafe" with ephemeral := true }

def besideCafe : Manager := onEmptyStore.run [.load, .addOrUpdate passingCafe ⟨Uid.system, "android"⟩]

/-- Hours pass; a network is saved, the store cannot be read, and the network of the café is dismissed once more. -/
def overTheDay : List Operation :=
  [.change (.advance 10800000), .addOrUpdate (.psk "Home" "password") ⟨Uid.system, "android"⟩, .checkDismissal "Cafe",
    .change .failNextRead, .load, .dismiss "Cafe", .save true, .change (.advance 50000000)]

theorem dismissalLasts_overTheDay : (besideCafe.dismiss "Cafe").1.DismissalLasts "Cafe" 1700000000000 overTheDay := by
  obtain ⟨profile, returned⟩ : ∃ profile, (besideCafe.dismiss "Cafe").2 = some profile :=
    Option.isSome_iff_exists.1 (by decide)
  exact (dismissalLasts_run_iff .default (.start 0 1700000000000) (.immediate .empty) [] (fun _ => none) [] _ rfl returned
    rfl (by decide)).2 (by decide)

/-- Once the network of the café is found again, its dismissal is forgotten within the same second. -/
theorem not_dismissalLasts_passingCafe :
    (∃ profile, (besideCafe.dismiss "Cafe").2 = some profile) ∧
      (besideCafe.dismiss "Cafe").1.Along (fun manager operation => manager.Upholds "Cafe" 1700000000000 operation)
        [.addOrUpdate passingCafe ⟨Uid.system, "android"⟩] ∧
      ¬ (besideCafe.dismiss "Cafe").1.DismissalLasts "Cafe" 1700000000000
        [.addOrUpdate passingCafe ⟨Uid.system, "android"⟩] := by
  refine ⟨Option.isSome_iff_exists.1 (by decide), by decide, fun lasts => ?_⟩
  have remembered := lasts.2 (by decide)
  exact absurd remembered (by decide)

end Manager

end SavedNetworks
