import SavedNetworks.Manager.Halting
import SavedNetworks.Proofs.Manager.Changes
import SavedNetworks.Proofs.Manager.Loads

/-!
Following the tenants, and reading the store: what is dropped, what is taken in, and what stays.
-/

namespace SavedNetworks

namespace Roster

variable {roster : Roster} {profile : Profile} {ids : List ProfileId}

theorem WellFormed.foldl_remove (wellFormed : roster.WellFormed) (ids : List ProfileId) :
    (ids.foldl Roster.remove roster).WellFormed := by
  induction ids generalizing roster with
  | nil => exact wellFormed
  | cons id rest ih => exact ih (wellFormed.remove id)

theorem WellFormed.mem_foldl_remove (wellFormed : roster.WellFormed) :
    profile ∈ (ids.foldl Roster.remove roster).all ↔ profile ∈ roster.all ∧ profile.id ∉ ids := by
  induction ids generalizing roster with
  | nil => simp
  | cons id rest ih =>
      rw [List.foldl_cons, ih (wellFormed.remove id), wellFormed.mem_remove, List.mem_cons, not_or, and_assoc]

theorem tenant_foldl_remove (roster : Roster) (ids : List ProfileId) :
    (ids.foldl Roster.remove roster).tenant = roster.tenant := by
  induction ids generalizing roster with
  | nil => rfl
  | cons id rest ih => rw [List.foldl_cons, ih, tenant_remove]

end Roster

namespace Manager

variable {manager : Manager} {profile : Profile}

theorem id_mem_privateIds (wellFormed : manager.roster.WellFormed) (present : profile ∈ manager.roster.all) :
    profile.id ∈ manager.privateIds ↔ manager.books.belongsToShared profile = false := by
  have foreign : manager.books.belongsToShared profile =
      (profile.shared || !manager.hasUid profile.creator.uid) := rfl
  rw [foreign]
  unfold privateIds Roster.visible
  simp only [List.mem_map, List.mem_filter]
  constructor
  · rintro ⟨other, ⟨⟨among, _⟩, owned⟩, same⟩
    obtain rfl := wellFormed.eq_of_id among present same
    simpa using owned
  · intro owned
    simp only [Bool.or_eq_false_iff, Bool.not_eq_false'] at owned
    have visible : manager.roster.isVisible profile = true := by
      have uid : profile.creator.uid.inTenant manager.roster.tenant = true := owned.2
      simp [Roster.isVisible, Profile.visibleTo, uid]
    exact ⟨profile, ⟨⟨present, visible⟩, by simp [owned]⟩, rfl⟩

theorem mem_clearTenant (wellFormed : manager.roster.WellFormed) :
    profile ∈ manager.clearTenant.roster.all ↔
      profile ∈ manager.roster.all ∧ manager.books.belongsToShared profile = true := by
  have dropped : profile ∈ manager.clearTenant.roster.all ↔
      profile ∈ manager.roster.all ∧ profile.id ∉ manager.privateIds := wellFormed.mem_foldl_remove
  rw [dropped]
  refine and_congr_right fun present => ?_
  rw [id_mem_privateIds wellFormed present, Bool.not_eq_false]

theorem wellFormed_clearTenant (wellFormed : manager.roster.WellFormed) : manager.clearTenant.roster.WellFormed :=
  wellFormed.foldl_remove manager.privateIds

theorem tenant_clearTenant (manager : Manager) : manager.clearTenant.roster.tenant = manager.roster.tenant :=
  Roster.tenant_foldl_remove manager.roster manager.privateIds

/-- The holder of a key that stays when the private profiles of the current tenant are dropped. -/
def stays? (manager : Manager) (key : ProfileKey) : Option Profile :=
  (manager.roster.holder? key).filter manager.belongsToShared

theorem holder?_clearTenant (wellFormed : manager.roster.WellFormed) (key : ProfileKey) :
    manager.clearTenant.roster.holder? key = manager.stays? key := by
  ext profile
  rw [(wellFormed_clearTenant wellFormed).holder?_eq_some_iff, mem_clearTenant wellFormed, stays?, Option.filter_eq_some_iff,
    wellFormed.holder?_eq_some_iff]
  exact and_right_comm

theorem supplyAddress_eq (manager : Manager) (id : ProfileId) :
    ∃ randomizer roster, manager.supplyAddress id = { manager with randomizer, roster } ∧
      roster.through Profile.outline = manager.roster.through Profile.outline := by
  unfold supplyAddress
  split
  · exact ⟨manager.randomizer, manager.roster, rfl, rfl⟩
  · next profile found =>
      split
      · simp only
        split
        · exact ⟨_, _, rfl, Roster.through_modify fun _ _ => rfl⟩
        · exact ⟨_, manager.roster, rfl, rfl⟩
      · exact ⟨manager.randomizer, manager.roster, rfl, rfl⟩

theorem supplyAddresses_eq (manager : Manager) :
    ∃ randomizer roster, manager.supplyAddresses = { manager with randomizer, roster } ∧
      roster.through Profile.outline = manager.roster.through Profile.outline := by
  unfold supplyAddresses
  generalize manager.roster.ids = ids
  induction ids generalizing manager with
  | nil => exact ⟨manager.randomizer, manager.roster, rfl, rfl⟩
  | cons id rest ih =>
      obtain ⟨randomizer, roster, one, outlines⟩ := supplyAddress_eq manager id
      obtain ⟨last, final, others, later⟩ := ih (manager.supplyAddress id)
      refine ⟨last, final, ?_, ?_⟩
      · rw [List.foldl_cons, others, one]
      · rw [later, one]
        exact outlines

theorem insertAll_append (manager : Manager) (first second : List Profile) :
    (manager.insertAll first).insertAll second = manager.insertAll (first ++ second) :=
  (List.foldl_append ..).symm

theorem insertAll_congr {other : Manager} (same : other.roster = manager.roster) (ids : other.nextId = manager.nextId)
    (profiles : List Profile) :
    (other.insertAll profiles).roster = (manager.insertAll profiles).roster ∧
      (other.insertAll profiles).nextId = (manager.insertAll profiles).nextId := by
  unfold insertAll
  induction profiles generalizing manager other with
  | nil => exact ⟨same, ids⟩
  | cons first rest ih =>
      have here := books_insertLoaded manager first
      have there := books_insertLoaded other first
      rw [same, ids] at there
      exact ih ((congrArg Books.roster there).trans (congrArg Books.roster here).symm)
        ((congrArg Books.nextId there).trans (congrArg Books.nextId here).symm)

/-- The manager once the records are in memory. -/
def filled (manager : Manager) (data : StoreData) (withSection : Bool) : Manager :=
  let manager := manager.clearMemory.insertAll data.shared
  let manager := { manager with randomizer := manager.randomizer.loadLegacy data.addresses }
  let manager := if withSection then manager.takeSection data.tenant else manager
  { manager with awaitsUnlock := !withSection }

theorem books_filled (manager : Manager) (data : StoreData) (withSection : Bool) :
    (manager.filled data withSection).books =
      { roster := (manager.clearMemory.insertAll (data.loaded withSection)).roster
        store := manager.store
        dismissed := if withSection then SortedMap.empty.union data.tenant.dismissed else .empty
        nextId := (manager.clearMemory.insertAll (data.loaded withSection)).nextId
        awaitsStore := manager.awaitsStore
        awaitsUnlock := !withSection } := by
  have shared := insertAll_eq manager.clearMemory data.shared
  unfold filled StoreData.loaded
  cases withSection with
  | false =>
      simp only [Bool.false_eq_true, if_false, List.append_nil]
      rw [shared]
      rfl
  | true =>
      simp only [if_true, takeSection]
      rw [← insertAll_append]
      generalize manager.clearMemory.insertAll data.shared = first at shared
      generalize chosen : ({ first with randomizer := first.randomizer.loadLegacy data.addresses } : Manager) = second
      have rosters : second.roster = first.roster := by rw [← chosen]
      have ids : second.nextId = first.nextId := by rw [← chosen]
      obtain ⟨roster, next⟩ := insertAll_congr rosters ids data.tenant.profiles
      rw [insertAll_eq second, roster, next, ← chosen, shared]
      rfl

/-- A load takes the records in, one after the other, and then notes station addresses and resets SIM
identities. -/
theorem books_replaceMemory (manager : Manager) (data : StoreData) (withSection : Bool) :
    ∃ roster, (manager.replaceMemory data withSection).books =
        { (manager.filled data withSection).books with roster, awaitsStore := false } ∧
      roster.through Profile.outline =
        (manager.clearMemory.insertAll (data.loaded withSection)).roster.through Profile.outline := by
  have replaced : manager.replaceMemory data withSection =
      { (manager.filled data withSection).supplyAddresses.resetSim.announceReload with awaitsStore := false } := rfl
  have full : (manager.filled data withSection).roster =
      (manager.clearMemory.insertAll (data.loaded withSection)).roster :=
    congrArg Books.roster (books_filled manager data withSection)
  obtain ⟨randomizer, roster, supplied, outlines⟩ := supplyAddresses_eq (manager.filled data withSection)
  rw [replaced, supplied]
  refine ⟨_, rfl, ?_⟩
  rw [← full, ← outlines]
  exact Roster.through_modifyVisible outline_resetSim

theorem loadSection_of_error {failure : StoreError} (read : (manager.store.readTenant manager.tenant).2 = .error failure) :
    manager.loadSection = { manager with store := (manager.store.readTenant manager.tenant).1 } := by
  unfold loadSection
  generalize manager.store.readTenant manager.tenant = answered at read
  obtain ⟨store, answer⟩ := answered
  cases read
  rfl

/-- The manager once the section of its tenant is in memory, before that is written back. -/
def opened (manager : Manager) (tenantSection : TenantSection) : Manager :=
  { { manager with store := (manager.store.readTenant manager.tenant).1 }.takeSection tenantSection with
    awaitsUnlock := false }

theorem books_opened (manager : Manager) (tenantSection : TenantSection) :
    (manager.opened tenantSection).books =
      { roster := (manager.insertAll tenantSection.profiles).roster
        store := (manager.store.readTenant manager.tenant).1
        dismissed := manager.dismissed.union tenantSection.dismissed
        nextId := (manager.insertAll tenantSection.profiles).nextId
        awaitsStore := manager.awaitsStore
        awaitsUnlock := false } := by
  unfold opened
  generalize reading : ({ manager with store := (manager.store.readTenant manager.tenant).1 } : Manager) = read
  have rosters : read.roster = manager.roster := by rw [← reading]
  have ids : read.nextId = manager.nextId := by rw [← reading]
  obtain ⟨roster, next⟩ := insertAll_congr rosters ids tenantSection.profiles
  simp only [takeSection]
  rw [insertAll_eq read, roster, next, ← reading]
  rfl

theorem books_loadSection {tenantSection : TenantSection}
    (read : (manager.store.readTenant manager.tenant).2 = .ok tenantSection) :
    manager.loadSection.books = ((manager.opened tenantSection).persist true).books := by
  unfold loadSection opened
  generalize manager.store.readTenant manager.tenant = answered at read
  obtain ⟨store, answer⟩ := answered
  cases read
  rfl

theorem load_of_error {failure : StoreError} (read : (manager.store.read manager.tenant).2 = .error failure) :
    manager.load.1 = { manager with store := (manager.store.read manager.tenant).1, unlockDeferred := false } := by
  unfold load
  simp only [tenant] at read ⊢
  generalize manager.store.read manager.roster.tenant = answered at read
  obtain ⟨store, answer⟩ := answered
  cases read
  rfl

theorem load_eq_ok {data : StoreData} (read : (manager.store.read manager.tenant).2 = .ok data) :
    manager.load = (manager.load.1, .ok manager.load.1.roster.size) ∧ manager.load.1 =
      ({ manager with store := (manager.store.read manager.tenant).1, unlockDeferred := false } : Manager).replaceMemory
        data (manager.unlockDeferred || manager.platform.isUnlocked manager.tenant) := by
  unfold load
  simp only [tenant] at read ⊢
  generalize manager.store.read manager.roster.tenant = answered at read
  obtain ⟨store, answer⟩ := answered
  cases read
  exact ⟨rfl, rfl⟩

theorem load_of_ok {data : StoreData} (read : (manager.store.read manager.tenant).2 = .ok data) :
    manager.load.1 =
      ({ manager with store := (manager.store.read manager.tenant).1, unlockDeferred := false } : Manager).replaceMemory
        data (manager.unlockDeferred || manager.platform.isUnlocked manager.tenant) := (load_eq_ok read).2

theorem wellFormed_persist (wellFormed : manager.roster.WellFormed) (force : Bool) :
    (manager.persist force).roster.WellFormed := by
  rw [persist_eq]
  exact wellFormed

theorem wellFormed_load (wellFormed : manager.roster.WellFormed) : manager.load.1.roster.WellFormed := by
  cases read : (manager.store.read manager.tenant).2 with
  | error failure =>
      rw [load_of_error read]
      exact wellFormed
  | ok data =>
      rw [load_of_ok read]
      generalize ({ manager with store := (manager.store.read manager.tenant).1, unlockDeferred := false } : Manager) = reader
      generalize (manager.unlockDeferred || manager.platform.isUnlocked manager.tenant) = withSection
      obtain ⟨roster, books, outlines⟩ := books_replaceMemory reader data withSection
      have same : (reader.replaceMemory data withSection).roster = roster := congrArg Books.roster books
      have cleared : reader.clearMemory.roster.WellFormed := Roster.wellFormed_clear reader.roster
      rw [same]
      exact (wellFormed_insertAll cleared _).of_through Roster.keepsName_outline outlines

/-- The section of the current tenant is taken in, if it can be read. -/
theorem roster_loadSection (manager : Manager) :
    manager.loadSection.roster = (manager.insertAll (manager.sectionOf manager.tenant)).roster := by
  unfold sectionOf
  cases read : (manager.store.readTenant manager.tenant).2 with
  | error failure => rw [loadSection_of_error read]; rfl
  | ok tenantSection =>
      have after : manager.loadSection.roster = ((manager.opened tenantSection).persist true).roster :=
        congrArg Books.roster (books_loadSection read)
      rw [after, persist_eq]
      exact congrArg Books.roster (books_opened manager tenantSection)

theorem wellFormed_loadSection (wellFormed : manager.roster.WellFormed) : manager.loadSection.roster.WellFormed := by
  rw [roster_loadSection]
  exact wellFormed_insertAll wellFormed _

theorem randomizer_loadSection (manager : Manager) : manager.loadSection.randomizer = manager.randomizer := by
  unfold loadSection
  generalize manager.store.readTenant manager.tenant = answered
  obtain ⟨store, failure | tenantSection⟩ := answered
  · rfl
  · simp only [announceReload, announce, notice]
    rw [persist_eq, takeSection, insertAll_eq]

theorem mem_loadSection (sound : manager.books.Sound)
    (room : manager.nextId.toNat + (manager.sectionOf manager.tenant).length < UInt32.size)
    (present : profile ∈ manager.roster.all) : profile ∈ manager.loadSection.roster.all := by
  rw [roster_loadSection]
  exact mem_insertAll_of_mem sound room present

/-- The manager when the outgoing tenant is put away and another one is in the foreground, but not loaded. -/
def leave (manager : Manager) (tenant : Tenant) : Manager :=
  { manager.putAway.clearTenant with roster := manager.putAway.clearTenant.roster.switchTo tenant }

theorem tenant_leave (manager : Manager) (tenant : Tenant) : (manager.leave tenant).tenant = tenant := rfl

theorem sectionOf_leave (manager : Manager) (tenant other : Tenant) :
    (manager.leave tenant).sectionOf other = manager.putAway.sectionOf other := rfl

theorem putAway_eq (manager : Manager) : manager.putAway = { manager with store := manager.putAway.store } := by
  unfold putAway
  split
  · exact persist_eq manager true
  · rfl

theorem flags_leave (manager : Manager) (target : Tenant) :
    (manager.leave target).awaitsStore = manager.awaitsStore ∧
      (manager.leave target).awaitsUnlock = manager.awaitsUnlock := by
  have away : manager.putAway.awaitsStore = manager.awaitsStore ∧ manager.putAway.awaitsUnlock = manager.awaitsUnlock := by
    rw [putAway_eq]
    exact ⟨rfl, rfl⟩
  exact away

theorem awaitsStore_loadSection (manager : Manager) : manager.loadSection.awaitsStore = manager.awaitsStore := by
  cases read : (manager.store.readTenant manager.tenant).2 with
  | error failure => rw [loadSection_of_error read]
  | ok tenantSection =>
      have opened : (manager.opened tenantSection).awaitsStore = manager.awaitsStore :=
        congrArg Books.awaitsStore (books_opened manager tenantSection)
      have after : manager.loadSection.awaitsStore = ((manager.opened tenantSection).persist true).awaitsStore :=
        congrArg Books.awaitsStore (books_loadSection read)
      rw [after, persist_eq]
      exact opened

theorem switchTenant_of_unread {tenant : Tenant} (different : tenant ≠ manager.tenant)
    (unread : manager.awaitsStore = true) :
    (manager.switchTenant tenant).1 =
      { manager with
        roster := manager.roster.switchTo tenant
        unlockDeferred := false
        awaitsUnlock := true } := by
  unfold switchTenant
  rw [if_neg different, if_pos unread]

theorem switchTenant_of_read {tenant : Tenant} (different : tenant ≠ manager.tenant)
    (read : manager.awaitsStore = false) :
    (manager.switchTenant tenant).1 =
      if manager.platform.isUnlocked tenant then (manager.leave tenant).loadSection
      else { manager.leave tenant with awaitsUnlock := true } := by
  have platform : manager.putAway.platform = manager.platform := by rw [putAway_eq]
  unfold switchTenant
  rw [if_neg different, if_neg (by simp [read])]
  change (if manager.putAway.platform.isUnlocked tenant then _ else _ : Manager × List ProfileId).1 = _
  rw [platform]
  split <;> rfl

theorem switchTenant_cases (manager : Manager) (target : Tenant) :
    (target = manager.tenant ∧ (manager.switchTenant target).1 = manager) ∨
    (target ≠ manager.tenant ∧ manager.awaitsStore = true ∧ (manager.switchTenant target).1 =
      { manager with roster := manager.roster.switchTo target, unlockDeferred := false, awaitsUnlock := true }) ∨
    (target ≠ manager.tenant ∧ manager.awaitsStore = false ∧ manager.platform.isUnlocked target = true ∧
      (manager.switchTenant target).1 = (manager.leave target).loadSection) ∨
    (target ≠ manager.tenant ∧ manager.awaitsStore = false ∧ manager.platform.isUnlocked target = false ∧
      (manager.switchTenant target).1 = { manager.leave target with awaitsUnlock := true }) := by
  by_cases same : target = manager.tenant
  · refine .inl ⟨same, ?_⟩
    unfold switchTenant
    rw [if_pos same]
  · refine .inr ?_
    obtain unread | read := Bool.eq_false_or_eq_true manager.awaitsStore
    · exact .inl ⟨same, unread, switchTenant_of_unread same unread⟩
    · refine .inr ?_
      have switched := switchTenant_of_read same read
      obtain unlocked | locked := Bool.eq_false_or_eq_true (manager.platform.isUnlocked target)
      · exact .inl ⟨same, read, unlocked, switched.trans (if_pos unlocked)⟩
      · exact .inr ⟨same, read, locked, switched.trans (if_neg (ne_true_of_eq_false locked))⟩

theorem randomizer_leave (manager : Manager) (target : Tenant) : (manager.leave target).randomizer = manager.randomizer := by
  have put : manager.putAway.randomizer = manager.randomizer := by rw [putAway_eq]
  exact put

theorem randomizer_switchTenant (manager : Manager) (target : Tenant) :
    (manager.switchTenant target).1.randomizer = manager.randomizer := by
  have away := randomizer_leave manager target
  obtain ⟨_, switched⟩ | ⟨_, _, switched⟩ | ⟨_, _, _, switched⟩ | ⟨_, _, _, switched⟩ := manager.switchTenant_cases target
  all_goals rw [switched]
  · rw [randomizer_loadSection, away]
  · exact away

theorem unlockTenant_of_waits (read : manager.awaitsStore = false) (waits : manager.awaitsUnlock = true) :
    manager.unlockTenant manager.tenant = manager.loadSection := by
  unfold unlockTenant
  rw [if_neg (not_not_intro rfl), if_neg (ne_true_of_eq_false read), if_pos waits]

theorem unlockTenant_cases (manager : Manager) (target : Tenant) :
    ((target = manager.tenant → manager.awaitsStore = false → manager.awaitsUnlock = false) ∧
      (manager.unlockTenant target).books = manager.books) ∨
    (target = manager.tenant ∧ manager.awaitsStore = false ∧ manager.awaitsUnlock = true ∧
      manager.unlockTenant target = manager.loadSection) := by
  unfold unlockTenant
  by_cases current : target = manager.tenant
  · rw [if_neg (not_not_intro current)]
    by_cases unread : manager.awaitsStore = true
    · rw [if_pos unread]
      exact .inl ⟨fun _ read => absurd unread (ne_true_of_eq_false read), rfl⟩
    · rw [if_neg unread]
      by_cases waits : manager.awaitsUnlock = true
      · exact .inr ⟨current, Bool.eq_false_iff.2 unread, waits, if_pos waits⟩
      · rw [if_neg waits]
        exact .inl ⟨fun _ _ => Bool.eq_false_iff.2 waits, rfl⟩
  · rw [if_pos current]
    exact .inl ⟨fun same => absurd same current, rfl⟩

theorem wellFormed_putAway (wellFormed : manager.roster.WellFormed) : manager.putAway.roster.WellFormed := by
  rw [putAway_eq]
  exact wellFormed

theorem wellFormed_leave (wellFormed : manager.roster.WellFormed) (tenant : Tenant) :
    (manager.leave tenant).roster.WellFormed :=
  (wellFormed_clearTenant (wellFormed_putAway wellFormed)).switchTo tenant

theorem mem_leave (wellFormed : manager.roster.WellFormed) {target : Tenant} :
    profile ∈ (manager.leave target).roster.all ↔
      profile ∈ manager.roster.all ∧ manager.books.belongsToShared profile = true := by
  have same : (manager.leave target).roster.all = manager.putAway.clearTenant.roster.all := rfl
  rw [same, mem_clearTenant (wellFormed_putAway wellFormed), putAway_eq]
  rfl

theorem stopTenant_cases (manager : Manager) (target : Tenant) :
    ((target = manager.tenant → manager.platform.isUnlocked target = false) ∧ manager.stopTenant target = manager) ∨
    (target = manager.tenant ∧ manager.platform.isUnlocked target = true ∧
      manager.stopTenant target = (manager.persist true).clearTenant) := by
  unfold stopTenant
  split
  · next running => exact .inr ⟨running.1, running.2, rfl⟩
  · next still => exact .inl ⟨fun current => Bool.eq_false_iff.2 fun unlocked => still ⟨current, unlocked⟩, rfl⟩

end Manager

end SavedNetworks
