import SavedNetworks.Proofs.Manager.FailedLoads
import SavedNetworks.Proofs.Manager.Reloading
import SavedNetworks.Proofs.Roster.Visible

/-!
Loading the store while the tenant is unlocked, and loading it while the tenant is locked and then unlocking the tenant:
the second way leaves the private profiles as they are stored, without the addresses and the forgetting of SIM identities
that the first one gives them (`Manager.loadThenUnlock_iff`).
-/

namespace SavedNetworks

variable {roster : Roster} {randomizer : Randomizer} {profile : Profile} {tenant : Tenant}

/-- The address that a profile has once a missing one was asked for, where no network opted in. -/
def Randomizer.addressFor (randomizer : Randomizer) (profile : Profile) : Address :=
  if profile.station.address = .sentinel then (randomizer.settled? profile.key.text).getD .sentinel
  else profile.station.address

theorem StoreData.loaded_true (data : StoreData) : data.loaded true = data.loaded false ++ data.tenant.profiles := by
  rw [loaded, loaded, if_neg Bool.false_ne_true, List.append_nil]
  rfl

namespace Profile

/-- A profile as a load leaves it, if the tenant sees it: with an address, as far as there is one for its key, and
without identities from a SIM card. -/
def finished (randomizer : Randomizer) (profile : Profile) : Profile :=
  (profile.withAddress (randomizer.addressFor profile)).withoutSim

theorem keepsPlace_finished (randomizer : Randomizer) : Roster.KeepsPlace (finished randomizer) :=
  ⟨fun _ => ⟨rfl, rfl⟩, fun _ _ => rfl⟩

theorem addressFor_finished (randomizer : Randomizer) (profile : Profile) :
    randomizer.addressFor (profile.finished randomizer) = randomizer.addressFor profile := by
  have shown : (profile.finished randomizer).station.address = randomizer.addressFor profile := rfl
  have name : (profile.finished randomizer).key = profile.key := rfl
  by_cases missing : profile.station.address = .sentinel
  · have given : randomizer.addressFor profile = (randomizer.settled? profile.key.text).getD .sentinel := if_pos missing
    unfold Randomizer.addressFor at *
    rw [shown, name, if_pos missing, ite_self]
  · have kept : randomizer.addressFor profile = profile.station.address := if_neg missing
    rw [Randomizer.addressFor, shown, kept, if_neg missing]

theorem withoutSim_withoutSim (profile : Profile) : profile.withoutSim.withoutSim = profile.withoutSim := by
  unfold withoutSim
  rw [Enterprise.map_resetSim_resetSim]

theorem withAddress_withoutSim (profile : Profile) (address : Address) :
    profile.withoutSim.withAddress address = (profile.withAddress address).withoutSim := rfl

theorem withAddress_withAddress (profile : Profile) (former latter : Address) :
    (profile.withAddress former).withAddress latter = profile.withAddress latter := rfl

theorem finished_finished (randomizer : Randomizer) (profile : Profile) :
    (profile.finished randomizer).finished randomizer = profile.finished randomizer := by
  have again : (profile.finished randomizer).finished randomizer =
      ((profile.finished randomizer).withAddress (randomizer.addressFor (profile.finished randomizer))).withoutSim := rfl
  rw [again, addressFor_finished, finished, withAddress_withoutSim, withAddress_withAddress, withoutSim_withoutSim]

/-- What is done to a supplied profile comes to this, if no network opted in. -/
theorem Supplied.withoutSim {new : Profile} (supplied : profile.Supplied tenant randomizer new)
    (never : ∀ ssid, randomizer.policy.optedIn ssid = false) :
    (if new.visibleTo tenant then new.withoutSim else new) =
      if profile.visibleTo tenant then profile.finished randomizer else profile := by
  obtain ⟨same, address⟩ := supplied
  have seen : new.visibleTo tenant = profile.visibleTo tenant := by
    rw [same]
    rfl
  rw [seen]
  by_cases visible : profile.visibleTo tenant = true
  · rw [if_pos visible, if_pos visible]
    have given : new.station.address = randomizer.addressFor profile := by
      unfold Randomizer.addressFor
      by_cases missing : profile.station.address = .sentinel
      · have persistent : randomizer.policy.isAggressive profile = false := by
          rw [RandomizationPolicy.isAggressive, never, Bool.and_false]
        rw [if_pos ⟨visible, missing⟩, Randomizer.Supplies, persistent, if_neg Bool.false_ne_true] at address
        rw [if_pos missing, address, missing]
      · rw [if_neg fun wanting => missing wanting.2] at address
        rw [if_neg missing, address]
    rw [same, given]
    rfl
  · rw [if_neg visible, if_neg visible, same]
    rw [if_neg fun wanting => visible wanting.1] at address
    rw [address]
    rfl

end Profile

namespace Manager

variable {manager left right : Manager} {data : StoreData} {withSection : Bool}

/-- The source of addresses once the store was read. -/
def sourceAfter (manager : Manager) (data : StoreData) : Randomizer := { manager.randomizer with legacy := data.addresses }

theorem roster_supplyAddresses_resetSim (wellFormed : manager.roster.WellFormed)
    (never : ∀ ssid, manager.randomizer.policy.optedIn ssid = false) :
    manager.supplyAddresses.resetSim.roster = manager.roster.modifyVisible (Profile.finished manager.randomizer) := by
  have keeps := (Profile.keepsPlace_finished manager.randomizer).name
  obtain ⟨supplying, supplied⟩ := supplied_supplyAddresses wellFormed
  have reset := corresponds_resetSim supplying.wellFormed
  have tenant : manager.supplyAddresses.tenant = manager.tenant := supplying.tenant
  rw [tenant] at reset
  refine Roster.WellFormed.eq_of_mem_iff (supplying.wellFormed.modifyVisible fun _ => ⟨rfl, rfl⟩) (wellFormed.modifyVisible keeps)
    supplying.tenant fun profile => ?_
  rw [wellFormed.mem_modifyVisible keeps]
  constructor
  · intro present
    obtain ⟨addressed, among, rfl⟩ := reset.back profile present
    obtain ⟨old, stored, given⟩ := supplied.back addressed among
    exact ⟨old, stored, (given.withoutSim never).symm⟩
  · rintro ⟨old, stored, rfl⟩
    obtain ⟨addressed, among, given⟩ := supplied.forth old stored
    obtain ⟨new, present, same⟩ := reset.forth addressed among
    rw [same, given.withoutSim never] at present
    exact present

theorem wellFormed_filled (manager : Manager) (data : StoreData) (withSection : Bool) :
    (manager.filled data withSection).roster.WellFormed := by
  have roster : (manager.filled data withSection).roster = (manager.clearMemory.insertAll (data.loaded withSection)).roster :=
    congrArg Books.roster (books_filled manager data withSection)
  rw [roster]
  exact wellFormed_insertAll (Roster.wellFormed_clear manager.roster) _

theorem roster_replaceMemory (never : ∀ ssid, manager.randomizer.policy.optedIn ssid = false) (data : StoreData)
    (withSection : Bool) :
    (manager.replaceMemory data withSection).roster =
      (manager.clearMemory.insertAll (data.loaded withSection)).roster.modifyVisible
        (Profile.finished (manager.sourceAfter data)) := by
  have source : (manager.filled data withSection).randomizer = manager.sourceAfter data :=
    randomizer_filled manager data withSection
  have roster : (manager.filled data withSection).roster = (manager.clearMemory.insertAll (data.loaded withSection)).roster :=
    congrArg Books.roster (books_filled manager data withSection)
  have finished := roster_supplyAddresses_resetSim (wellFormed_filled manager data withSection)
    (by rw [source]; exact never)
  rw [source, roster] at finished
  exact finished

/-- Records are taken in alike by memories that a change of everything that is seen makes equal. -/
theorem insertAll_alike {change : Profile → Profile} (keeps : Roster.KeepsPlace change)
    (same : left.roster.modifyVisible change = right.roster.modifyVisible change) (ids : left.nextId = right.nextId)
    (profiles : List Profile) :
    (left.insertAll profiles).roster.modifyVisible change = (right.insertAll profiles).roster.modifyVisible change := by
  unfold insertAll
  induction profiles generalizing left right with
  | nil => exact same
  | cons first rest ih =>
      have taken (manager : Manager) : (manager.insertLoaded first).roster =
          manager.roster.takeIn (first.withId ⟨manager.nextId⟩) := congrArg Books.roster (books_insertLoaded manager first)
      have tenant := congrArg Roster.tenant same
      change left.roster.tenant = right.roster.tenant at tenant
      refine ih ?_ ?_
      · rw [taken, taken, ← Roster.takeIn_modifyVisible keeps, ← Roster.takeIn_modifyVisible keeps, same, ids,
          Roster.changeVisible_of_tenant tenant]
      · rw [nextId_insertLoaded, nextId_insertLoaded, ids]

/-- The store is loaded while the current tenant is unlocked. -/
def loadUnlocked (manager : Manager) : Manager := manager.run [.change (.unlock manager.tenant), .load]

/-- The store is loaded while the current tenant is locked, which is unlocked afterwards. -/
def loadThenUnlock (manager : Manager) : Manager :=
  manager.run [.change (.lock manager.tenant), .load, .change (.unlock manager.tenant), .unlockTenant manager.tenant]

/-- The memory after a load, whoever is unlocked. -/
def booksLoaded (manager : Manager) (data : StoreData) (withSection : Bool) : Books :=
  { roster := (manager.clearMemory.insertAll (data.loaded withSection)).roster.modifyVisible
      (Profile.finished (manager.sourceAfter data))
    store := (manager.store.read manager.tenant).1
    dismissed := if withSection then data.tenant.dismissed else .empty
    nextId := (manager.clearMemory.insertAll (data.loaded withSection)).nextId
    awaitsStore := false
    awaitsUnlock := !withSection }

theorem books_load (read : (manager.store.read manager.tenant).2 = .ok data)
    (never : ∀ ssid, manager.randomizer.policy.optedIn ssid = false) :
    manager.load.1.books = manager.booksLoaded data (manager.unlockDeferred || manager.platform.isUnlocked manager.tenant) := by
  rw [load_of_ok read]
  generalize (manager.unlockDeferred || manager.platform.isUnlocked manager.tenant) = withSection
  generalize reading :
    ({ manager with store := (manager.store.read manager.tenant).1, unlockDeferred := false } : Manager) = reader
  have emptied : reader.clearMemory.roster = manager.clearMemory.roster := by rw [← reading]; rfl
  have memory := insertAll_congr emptied (by rw [← reading]; rfl) (data.loaded withSection)
  have source : reader.sourceAfter data = manager.sourceAfter data := by rw [← reading]; rfl
  have still : ∀ ssid, reader.randomizer.policy.optedIn ssid = false := by rw [← reading]; exact never
  have roster := roster_replaceMemory still data withSection
  rw [memory.1, source] at roster
  obtain ⟨finished, books, -⟩ := books_replaceMemory reader data withSection
  have same : finished = (reader.replaceMemory data withSection).roster := (congrArg Books.roster books).symm
  rw [books, books_filled, same, roster, memory.2, ← reading]
  unfold booksLoaded
  rw [SortedMap.empty_union]

/-- The platform plays no part but in the choice of what is taken in. -/
theorem booksLoaded_onPlatform (manager : Manager) (change : Platform → Platform) (data : StoreData) (withSection : Bool) :
    (manager.onPlatform change).booksLoaded data withSection = manager.booksLoaded data withSection := by
  have emptied : (manager.onPlatform change).clearMemory.roster = manager.clearMemory.roster := rfl
  have memory := insertAll_congr emptied rfl (data.loaded withSection)
  unfold booksLoaded
  rw [memory.1, memory.2]
  rfl

theorem books_load_onPlatform (read : (manager.store.read manager.tenant).2 = .ok data)
    (never : ∀ ssid, manager.randomizer.policy.optedIn ssid = false) (change : Platform → Platform) :
    (manager.onPlatform change).load.1.books =
      manager.booksLoaded data (manager.unlockDeferred || (change manager.platform).isUnlocked manager.tenant) := by
  have again : ((manager.onPlatform change).store.read (manager.onPlatform change).tenant).2 = .ok data := read
  have loaded : (manager.onPlatform change).load.1.books = (manager.onPlatform change).booksLoaded data
      (manager.unlockDeferred || (change manager.platform).isUnlocked manager.tenant) := books_load again never
  rw [loaded, booksLoaded_onPlatform]

theorem books_loadUnlocked (read : (manager.store.read manager.tenant).2 = .ok data)
    (never : ∀ ssid, manager.randomizer.policy.optedIn ssid = false) :
    manager.loadUnlocked.books = manager.booksLoaded data true := by
  have unlocked : ({ manager.platform with unlocked := manager.platform.unlocked.insert manager.tenant } : Platform).isUnlocked
      manager.tenant = true := SortedSet.mem_insert.2 (.inl rfl)
  have loaded := books_load_onPlatform read never fun platform =>
    { platform with unlocked := platform.unlocked.insert manager.tenant }
  rw [unlocked, Bool.or_true] at loaded
  exact loaded

/-- The manager that has loaded the store while the tenant was locked. -/
def loadLocked (manager : Manager) : Manager :=
  manager.run [.change (.lock manager.tenant), .load, .change (.unlock manager.tenant)]

theorem books_loadLocked (read : (manager.store.read manager.tenant).2 = .ok data)
    (never : ∀ ssid, manager.randomizer.policy.optedIn ssid = false) :
    manager.loadLocked.books = manager.booksLoaded data manager.unlockDeferred := by
  have locked : ({ manager.platform with unlocked := manager.platform.unlocked.erase manager.tenant } : Platform).isUnlocked
      manager.tenant = false := Bool.eq_false_iff.2 fun member => (SortedSet.mem_erase.1 member).1 rfl
  have loaded := books_load_onPlatform read never fun platform =>
    { platform with unlocked := platform.unlocked.erase manager.tenant }
  rw [locked, Bool.or_false] at loaded
  exact loaded

theorem tenant_booksLoaded (manager : Manager) (data : StoreData) (withSection : Bool) :
    (manager.booksLoaded data withSection).roster.tenant = manager.tenant := tenant_insertAll manager.clearMemory _

/-- The section is taken in as it is stored. -/
theorem books_loadThenUnlock_of_waits (read : (manager.store.read manager.tenant).2 = .ok data)
    (never : ∀ ssid, manager.randomizer.policy.optedIn ssid = false) (forgot : manager.unlockDeferred = false) :
    manager.loadThenUnlock.roster = (manager.loadLocked.insertAll data.tenant.profiles).roster ∧
      manager.loadThenUnlock.dismissed = data.tenant.dismissed ∧ manager.loadThenUnlock.awaitsUnlock = false := by
  have books := books_loadLocked read never
  rw [forgot] at books
  have tenant : manager.loadLocked.tenant = manager.tenant :=
    (congrArg (fun books : Books => books.roster.tenant) books).trans (tenant_booksLoaded ..)
  have stored : (manager.loadLocked.store.readTenant manager.loadLocked.tenant).2 = .ok data.tenant := by
    have store : manager.loadLocked.store = (manager.store.read manager.tenant).1 := congrArg Books.store books
    rw [tenant, store]
    exact Store.readTenant_of_read read
  have unlocked : manager.loadThenUnlock = manager.loadLocked.loadSection := by
    have loaded : manager.loadLocked.awaitsStore = false := congrArg Books.awaitsStore books
    have waits := unlockTenant_of_waits loaded (congrArg Books.awaitsUnlock books)
    rw [tenant] at waits
    exact waits
  have after := books_loadSection stored
  rw [← unlocked, persist_eq] at after
  have opened := books_opened manager.loadLocked data.tenant
  have roster : (manager.loadLocked.opened data.tenant).roster = _ := congrArg Books.roster opened
  have dismissed : (manager.loadLocked.opened data.tenant).dismissed = _ := congrArg Books.dismissed opened
  have nothing : manager.loadLocked.dismissed = .empty := congrArg Books.dismissed books
  rw [nothing, SortedMap.empty_union] at dismissed
  exact ⟨(congrArg Books.roster after).trans roster, (congrArg Books.dismissed after).trans dismissed,
    congrArg Books.awaitsUnlock after⟩

theorem outline_finished (randomizer : Randomizer) (profile : Profile) :
    (profile.finished randomizer).outline = profile.outline :=
  (outline_resetSim (profile.withAddress (randomizer.addressFor profile))).trans rfl

theorem sound_booksLoaded (room : manager.nextId.toNat + (data.loaded withSection).length < UInt32.size) :
    (manager.booksLoaded data withSection).Sound :=
  (sound_insertAll (sound_clearMemory manager) room).of_through Roster.keepsName_outline
    (Roster.through_modifyVisible (outline_finished _)) rfl

/-- Whatever key is held after a load belongs to a record that was taken in. -/
theorem holder?_booksLoaded_eq_none {key : ProfileKey} (absent : ∀ record ∈ data.loaded withSection, record.key ≠ key) :
    (manager.booksLoaded data withSection).roster.holder? key = none := by
  have keeps := Profile.keepsPlace_finished (manager.sourceAfter data)
  have empty := Roster.wellFormed_clear manager.roster
  have wellFormed : (manager.clearMemory.insertAll (data.loaded withSection)).roster.WellFormed := wellFormed_insertAll empty _
  have finished : (manager.booksLoaded data withSection).roster.WellFormed := wellFormed.modifyVisible keeps.name
  rw [finished.holder?_eq_none_iff]
  intro profile present same
  obtain ⟨old, earlier, rfl⟩ := (wellFormed.mem_modifyVisible keeps.name).1 present
  obtain none | ⟨loaded, listed, unnumbered⟩ := mem_insertAll empty earlier
  · cases none
  · have named : old.key = loaded.key := (congrArg Profile.key (Profile.eq_withId_of_unnumbered unnumbered)).trans rfl
    rw [(keeps.name.changeVisible _ old).2, named] at same
    exact absent loaded listed same

/-- A section that was taken in with the first read is left as it is. -/
theorem books_loadThenUnlock_of_deferred (read : (manager.store.read manager.tenant).2 = .ok data)
    (never : ∀ ssid, manager.randomizer.policy.optedIn ssid = false) (deferred : manager.unlockDeferred = true) :
    manager.loadThenUnlock.books = manager.booksLoaded data true := by
  have books := books_loadLocked read never
  rw [deferred] at books
  have taken : manager.loadLocked.awaitsUnlock = false := congrArg Books.awaitsUnlock books
  have unlocked : manager.loadThenUnlock = manager.loadLocked.unlockTenant manager.tenant := rfl
  obtain ⟨_, same⟩ | ⟨_, _, waits, _⟩ := unlockTenant_cases manager.loadLocked manager.tenant
  · rw [unlocked, same, books]
  · exact absurd waits (ne_true_of_eq_false taken)

/-- On the first way, the profiles that the second way leaves in memory get what is missing from them. -/
theorem roster_loadUnlocked (read : (manager.store.read manager.tenant).2 = .ok data)
    (never : ∀ ssid, manager.randomizer.policy.optedIn ssid = false) :
    manager.loadUnlocked.roster = manager.loadThenUnlock.roster.modifyVisible (Profile.finished (manager.sourceAfter data)) := by
  have keeps := Profile.keepsPlace_finished (manager.sourceAfter data)
  have settles := Profile.finished_finished (manager.sourceAfter data)
  have direct : manager.loadUnlocked.roster = _ := congrArg Books.roster (books_loadUnlocked read never)
  cases deferred : manager.unlockDeferred with
  | true =>
      have same : manager.loadThenUnlock.roster = _ := congrArg Books.roster (books_loadThenUnlock_of_deferred read never deferred)
      rw [direct, same]
      exact (Roster.modifyVisible_modifyVisible keeps settles _).symm
  | false =>
      have books := books_loadLocked read never
      rw [deferred] at books
      have roster : manager.loadLocked.roster = (manager.booksLoaded data false).roster := congrArg Books.roster books
      have memory : manager.loadLocked.roster.modifyVisible (Profile.finished (manager.sourceAfter data)) =
          (manager.clearMemory.insertAll (data.loaded false)).roster.modifyVisible
            (Profile.finished (manager.sourceAfter data)) := by
        rw [roster, booksLoaded, Roster.modifyVisible_modifyVisible keeps settles]
      have taken := insertAll_alike keeps memory (congrArg Books.nextId books) data.tenant.profiles
      rw [insertAll_append, ← data.loaded_true] at taken
      rw [direct, (books_loadThenUnlock_of_waits read never deferred).1, taken]
      rfl

/-- If nothing was missing from what is seen, then something is missing afterwards just where it is missing from a
record that is taken in. -/
theorem finished_insertAll_iff {profiles : List Profile} {source : Randomizer} (sound : manager.books.Sound)
    (finished : ∀ profile ∈ manager.roster.visible, profile.finished source = profile)
    (room : manager.nextId.toNat + profiles.length < UInt32.size) (distinct : (profiles.map Profile.key).Nodup)
    (free : ∀ record ∈ profiles, manager.roster.holder? record.key = none) :
    (∀ profile ∈ (manager.insertAll profiles).roster.visible, profile.finished source = profile) ↔
      ∀ record ∈ profiles, record.visibleTo manager.tenant = true → record.finished source = record := by
  have tenant : (manager.insertAll profiles).roster.tenant = manager.tenant := tenant_insertAll manager profiles
  constructor
  · intro nothing record among visible
    obtain ⟨new, present, same⟩ := exists_insertAll sound room distinct among (free record among)
    have seen : (manager.insertAll profiles).roster.isVisible new = true := by
      rw [same, Roster.isVisible, tenant]
      exact visible
    have still := nothing new (List.mem_filter.2 ⟨present, seen⟩)
    rw [same] at still
    exact congrArg (Profile.withId · record.id) still
  · intro nothing profile shown
    obtain ⟨present, seen⟩ := List.mem_filter.1 shown
    rw [Roster.isVisible, tenant] at seen
    obtain earlier | ⟨record, among, same⟩ := mem_insertAll sound.wellFormed present
    · exact finished profile (List.mem_filter.2 ⟨earlier, seen⟩)
    · have numbered := Profile.eq_withId_of_unnumbered same
      rw [numbered] at seen ⊢
      exact congrArg (Profile.withId · profile.id) (nothing record among seen)

/-- Nothing is missing from the profiles that the second way leaves in memory just if nothing is missing from the
private records. -/
theorem finished_loadThenUnlock_iff (read : (manager.store.read manager.tenant).2 = .ok data)
    (never : ∀ ssid, manager.randomizer.policy.optedIn ssid = false) (forgot : manager.unlockDeferred = false)
    (distinct : ((data.loaded true).map Profile.key).Nodup)
    (room : manager.nextId.toNat + (data.loaded true).length < UInt32.size) :
    (∀ profile ∈ manager.loadThenUnlock.roster.visible, profile.finished (manager.sourceAfter data) = profile) ↔
      ∀ record ∈ data.tenant.profiles, record.visibleTo manager.tenant = true →
        record.finished (manager.sourceAfter data) = record := by
  have keeps := Profile.keepsPlace_finished (manager.sourceAfter data)
  have settles := Profile.finished_finished (manager.sourceAfter data)
  have books := books_loadLocked read never
  rw [forgot] at books
  rw [data.loaded_true, List.length_append] at room
  rw [data.loaded_true, List.map_append, List.nodup_append] at distinct
  obtain ⟨_, unique, apart⟩ := distinct
  have firstRoom : manager.clearMemory.nextId.toNat + (data.loaded false).length < UInt32.size := by
    change manager.nextId.toNat + (data.loaded false).length < UInt32.size
    omega
  have roster : manager.loadLocked.roster = (manager.booksLoaded data false).roster := congrArg Books.roster books
  have tenant : manager.loadLocked.tenant = manager.tenant := (congrArg Roster.tenant roster).trans (tenant_booksLoaded ..)
  have sound : manager.loadLocked.books.Sound := books ▸ sound_booksLoaded firstRoom
  rw [(books_loadThenUnlock_of_waits read never forgot).1, ← tenant]
  refine finished_insertAll_iff sound ?_ ?_ unique fun record among => ?_
  · rw [← Roster.modifyVisible_eq_self_iff, roster]
    exact Roster.modifyVisible_modifyVisible keeps settles _
  · have next : manager.loadLocked.nextId = (manager.clearMemory.insertAll (data.loaded false)).nextId :=
      congrArg Books.nextId books
    rw [next, toNat_nextId_insertAll firstRoom]
    change manager.nextId.toNat + (data.loaded false).length + data.tenant.profiles.length < UInt32.size
    omega
  · rw [roster]
    exact holder?_booksLoaded_eq_none fun loaded listed =>
      apart _ (List.mem_map_of_mem listed) _ (List.mem_map_of_mem among)

/-- Both ways leave the same dismissals and the same permission to write the section of the tenant, and the profiles
differ just where a stored private profile still has identities from a SIM card, or lacks an address that its key
would be given. -/
theorem loadThenUnlock_iff (read : (manager.store.read manager.tenant).2 = .ok data)
    (never : ∀ ssid, manager.randomizer.policy.optedIn ssid = false)
    (distinct : ((data.loaded true).map Profile.key).Nodup) :
    manager.loadUnlocked.dismissed = manager.loadThenUnlock.dismissed ∧
      manager.loadUnlocked.writtenTenant = some manager.tenant ∧ manager.loadThenUnlock.writtenTenant = some manager.tenant ∧
      manager.loadUnlocked.roster =
        manager.loadThenUnlock.roster.modifyVisible (Profile.finished (manager.sourceAfter data)) ∧
      (manager.loadUnlocked.roster = manager.loadThenUnlock.roster ↔
        ∀ profile ∈ manager.loadThenUnlock.roster.visible, profile.finished (manager.sourceAfter data) = profile) ∧
      (manager.nextId.toNat + (data.loaded true).length < UInt32.size →
        (manager.loadUnlocked.roster = manager.loadThenUnlock.roster ↔ manager.unlockDeferred = true ∨
          ∀ record ∈ data.tenant.profiles, record.visibleTo manager.tenant = true →
            record.finished (manager.sourceAfter data) = record)) := by
  have direct := books_loadUnlocked read never
  have roster := roster_loadUnlocked read never
  have equal : manager.loadUnlocked.roster = manager.loadThenUnlock.roster ↔
      ∀ profile ∈ manager.loadThenUnlock.roster.visible, profile.finished (manager.sourceAfter data) = profile := by
    rw [roster, Roster.modifyVisible_eq_self_iff]
  have dismissed : manager.loadThenUnlock.dismissed = data.tenant.dismissed ∧ manager.loadThenUnlock.awaitsUnlock = false := by
    cases deferred : manager.unlockDeferred with
    | true =>
        have books := books_loadThenUnlock_of_deferred read never deferred
        exact ⟨congrArg Books.dismissed books, congrArg Books.awaitsUnlock books⟩
    | false => exact (books_loadThenUnlock_of_waits read never deferred).2
  have here : manager.loadUnlocked.tenant = manager.tenant :=
    (congrArg (fun books : Books => books.roster.tenant) direct).trans (tenant_booksLoaded ..)
  have there : manager.loadThenUnlock.tenant = manager.tenant := (congrArg Roster.tenant roster).symm.trans here
  have wiped : manager.loadUnlocked.dismissed = data.tenant.dismissed := congrArg Books.dismissed direct
  refine ⟨wiped.trans dismissed.1.symm, ?_, ?_, roster, equal, fun room => ?_⟩
  · rw [writtenTenant, show manager.loadUnlocked.awaitsUnlock = false from congrArg Books.awaitsUnlock direct, here]
    rfl
  · rw [writtenTenant, dismissed.2, there]
    rfl
  · cases deferred : manager.unlockDeferred with
    | true =>
        have books := books_loadThenUnlock_of_deferred read never deferred
        exact iff_of_true (congrArg Books.roster (direct.trans books.symm)) (.inl rfl)
    | false =>
        rw [equal, finished_loadThenUnlock_iff read never deferred distinct room]
        exact ⟨.inr, fun either => either.resolve_left Bool.false_ne_true⟩

/-- A manager that was given a private profile, after a restart. -/
def restartedWith (draft : Draft) : Manager :=
  onEmptyStore.run [.load, .addOrUpdate { draft with shared := false } ⟨Uid.system, "android"⟩, .restart]

/-- What a load finds. -/
def inStore (manager : Manager) : StoreData :=
  (manager.store.read manager.tenant).2.toOption.getD ⟨[], .empty, .empty⟩

theorem loadThenUnlock_passwordKept :
    ((restartedWith (.psk "Home" "password")).inStore.loaded true).map Profile.ssid = ["Home"] ∧
      (restartedWith (.psk "Home" "password")).loadUnlocked.roster =
        (restartedWith (.psk "Home" "password")).loadThenUnlock.roster := by
  have read : ((restartedWith (.psk "Home" "password")).store.read (restartedWith (.psk "Home" "password")).tenant).2 =
      .ok (restartedWith (.psk "Home" "password")).inStore := by decide
  obtain ⟨_, _, _, _, _, equal⟩ := loadThenUnlock_iff read (fun ssid => rfl) (by decide)
  exact ⟨by decide, (equal (by decide)).2 (.inr (by decide))⟩

/-- A network with an identity from a SIM card. -/
def simCard : Draft :=
  { Draft.ofNetwork "Home" .eap with enterprise := some { Enterprise.ofMethod .sim with identity := "1310410123456789" } }

/-- The identity of the private profile is forgotten if its tenant is unlocked, and not if it is unlocked later. -/
theorem not_loadedAlike_simCard : (restartedWith simCard).ReachableAlone ∧
    ((restartedWith simCard).store.read (restartedWith simCard).tenant).2 = .ok (restartedWith simCard).inStore ∧
    (((restartedWith simCard).inStore.loaded true).map Profile.key).Nodup ∧
    (∀ ssid, (restartedWith simCard).randomizer.policy.optedIn ssid = false) ∧
    (restartedWith simCard).loadUnlocked.roster.visible.map (fun profile => profile.enterprise.map Enterprise.identity) =
      [some ""] ∧
    (restartedWith simCard).loadThenUnlock.roster.visible.map (fun profile => profile.enterprise.map Enterprise.identity) =
      [some "1310410123456789"] :=
  ⟨reachableAlone_onEmptyStore.run (by decide), by decide, by decide, fun _ => rfl, by decide,
    by decide⟩

end Manager

end SavedNetworks
