import SavedNetworks.Proofs.Manager.Stopping

/-!
What becomes of a section that could not be read. It is guarded while it is not the one that writes replace:
a failed read leaves it so, except on a switch from a tenant whose own section is in memory.
-/

namespace SavedNetworks

instance decidableEqExcept {ε α : Type} [DecidableEq ε] [DecidableEq α] : DecidableEq (Except ε α)
  | .ok left, .ok right => decidable_of_iff (left = right) ⟨congrArg Except.ok, Except.ok.inj⟩
  | .error left, .error right => decidable_of_iff (left = right) ⟨congrArg Except.error, Except.error.inj⟩
  | .ok _, .error _ => isFalse nofun
  | .error _, .ok _ => isFalse nofun

/-- Writes pass over the section of the tenant, which is the given one. -/
structure Books.Unharmed (tenant : Tenant) (given : StoredSection) (books : Books) : Prop where
  guarded : books.roster.tenant = tenant → books.awaitsUnlock = true ∨ books.awaitsStore = true
  kept : books.store.storedSection tenant = given

namespace Books.Unharmed

variable {tenant : Tenant} {given : StoredSection} {before after : Books}

theorem of_same (unharmed : before.Unharmed tenant given) (current : after.roster.tenant = before.roster.tenant)
    (unlock : after.awaitsUnlock = before.awaitsUnlock) (read : after.awaitsStore = before.awaitsStore)
    (same : after.store.storedSection tenant = before.store.storedSection tenant) : after.Unharmed tenant given := by
  refine ⟨fun here => ?_, same.trans unharmed.kept⟩
  rw [unlock, read]
  exact unharmed.guarded (current.symm.trans here)

theorem storedSection_write (unharmed : before.Unharmed tenant given) (read : before.awaitsStore = false)
    (data : StoreData) (force : Bool) :
    (before.store.write before.writtenTenant data force).1.storedSection tenant = before.store.storedSection tenant := by
  rw [Store.storedSection_write, if_neg]
  rintro ⟨_, named⟩
  have waits := unharmed.guarded (Placed.tenant_of_writtenTenant named)
  rw [read] at waits
  simp only [Bool.false_eq_true, or_false] at waits
  rw [writtenTenant, if_pos waits] at named
  cases named

theorem step {move : Move} (taken : Step move before after) (unharmed : before.Unharmed tenant given) :
    after.Unharmed tenant given := by
  obtain ⟨current, store, unlock⟩ := taken.flags
  refine unharmed.of_same current unlock store ?_
  rcases taken.write_or_same with ⟨read, addresses, force, rfl⟩ | same
  · exact unharmed.storedSection_write read _ force
  · exact same.sections tenant

end Books.Unharmed

namespace Manager

variable {manager : Manager} {operation : Operation} {operations : List Operation} {tenant : Tenant}
  {given : StoredSection}

/-- What the store answers if an operation reads the section of a tenant to take it in. -/
def sectionRead? (manager : Manager) (tenant : Tenant) : Operation → Option (Except StoreError TenantSection)
  | .switchTenant target =>
      if target = tenant ∧ target ≠ manager.tenant ∧ manager.awaitsStore = false ∧ manager.platform.isUnlocked target = true
      then some (manager.putAway.store.readTenant target).2 else none
  | .unlockTenant target =>
      if target = tenant ∧ target = manager.tenant ∧ manager.awaitsStore = false ∧ manager.awaitsUnlock = true
      then some (manager.store.readTenant target).2 else none
  | .load =>
      if manager.tenant = tenant ∧ (manager.unlockDeferred || manager.platform.isUnlocked tenant) = true
      then some ((manager.store.read tenant).2.map StoreData.tenant) else none
  | _ => none

theorem sectionRead?_switchTenant {target : Tenant} {answer : Except StoreError TenantSection} :
    manager.sectionRead? tenant (.switchTenant target) = some answer ↔
      (target = tenant ∧ target ≠ manager.tenant ∧ manager.awaitsStore = false ∧
        manager.platform.isUnlocked target = true) ∧ (manager.putAway.store.readTenant target).2 = answer := by
  unfold sectionRead?
  simp only [Option.ite_none_right_eq_some, Option.some.injEq]

theorem sectionRead?_unlockTenant {target : Tenant} {answer : Except StoreError TenantSection} :
    manager.sectionRead? tenant (.unlockTenant target) = some answer ↔
      (target = tenant ∧ target = manager.tenant ∧ manager.awaitsStore = false ∧ manager.awaitsUnlock = true) ∧
        (manager.store.readTenant target).2 = answer := by
  unfold sectionRead?
  simp only [Option.ite_none_right_eq_some, Option.some.injEq]

/-- Switches to the tenant from one whose section is in memory, with a read that fails. -/
def Endangers (manager : Manager) (tenant : Tenant) (operation : Operation) : Prop :=
  operation = .switchTenant tenant ∧ manager.awaitsUnlock = false ∧
    ∃ failure, manager.sectionRead? tenant operation = some (.error failure)

/-- An operation that takes in no section of the tenant, and does not endanger it. -/
structure Careful (tenant : Tenant) (manager : Manager) (operation : Operation) : Prop extends
    Ordinary manager operation where
  unread : ∀ tenantSection, manager.sectionRead? tenant operation ≠ some (.ok tenantSection)
  safe : ¬ manager.Endangers tenant operation

theorem unharmed_persist (unharmed : manager.books.Unharmed tenant given) (force : Bool) :
    (manager.persist force).books.Unharmed tenant given := by
  cases read : manager.awaitsStore with
  | true =>
      rw [persist_of_awaitsStore read]
      exact unharmed
  | false =>
      rw [books_persist read]
      exact unharmed.of_same rfl rfl rfl (unharmed.storedSection_write read _ force)

theorem unharmed_clearTenant (unharmed : manager.books.Unharmed tenant given) :
    manager.clearTenant.books.Unharmed tenant given :=
  unharmed.of_same (tenant_clearTenant manager) rfl rfl rfl

theorem unharmed_loadSection (unharmed : manager.books.Unharmed tenant given) (elsewhere : manager.tenant ≠ tenant) :
    manager.loadSection.books.Unharmed tenant given := by
  have same := (manager.store.sameContents_readTenant manager.tenant).sections tenant
  cases read : (manager.store.readTenant manager.tenant).2 with
  | error failure =>
      rw [loadSection_of_error read]
      exact unharmed.of_same rfl rfl rfl same
  | ok tenantSection =>
      rw [books_loadSection read]
      refine unharmed_persist ?_ true
      rw [books_opened]
      refine ⟨fun here => absurd ?_ elsewhere, same.trans unharmed.kept⟩
      exact (tenant_insertAll manager tenantSection.profiles).symm.trans here

theorem unharmed_replaceMemory (kept : manager.store.storedSection tenant = given) (data : StoreData) {withSection : Bool}
    (left : manager.tenant = tenant → withSection = false) :
    (manager.replaceMemory data withSection).books.Unharmed tenant given := by
  obtain ⟨roster, books, outlines⟩ := books_replaceMemory manager data withSection
  have current : roster.tenant = manager.tenant :=
    (Roster.tenant_of_through outlines).trans (tenant_insertAll manager.clearMemory _)
  rw [books, books_filled]
  refine ⟨fun here => .inl ?_, kept⟩
  simp only [left (current.symm.trans here), Bool.not_false]

theorem unharmed_load_of_ok (kept : manager.store.storedSection tenant = given) {data : StoreData}
    (read : (manager.store.read manager.tenant).2 = .ok data)
    (unread : ∀ tenantSection, manager.sectionRead? tenant .load ≠ some (.ok tenantSection)) :
    manager.load.1.books.Unharmed tenant given := by
  rw [load_of_ok read]
  refine unharmed_replaceMemory (((manager.store.sameContents_read manager.tenant).sections tenant).trans kept) data ?_
  intro current
  have here : manager.tenant = tenant := current
  rw [Bool.eq_false_iff]
  intro opens
  refine unread data.tenant ?_
  rw [here] at opens read
  unfold sectionRead?
  dsimp only
  rw [if_pos ⟨here, opens⟩, read]
  rfl

theorem unharmed_load (unharmed : manager.books.Unharmed tenant given)
    (unread : ∀ tenantSection, manager.sectionRead? tenant .load ≠ some (.ok tenantSection)) :
    manager.load.1.books.Unharmed tenant given := by
  cases read : (manager.store.read manager.tenant).2 with
  | error failure =>
      rw [load_of_error read]
      exact unharmed.of_same rfl rfl rfl ((manager.store.sameContents_read manager.tenant).sections tenant)
  | ok data => exact unharmed_load_of_ok unharmed.kept read unread

theorem unharmed_putAway (unharmed : manager.books.Unharmed tenant given) : manager.putAway.books.Unharmed tenant given := by
  unfold putAway
  split
  · exact unharmed_persist unharmed true
  · exact unharmed

theorem switchTenant_of_failure {failure : StoreError}
    (asked : manager.sectionRead? tenant (.switchTenant tenant) = some (.error failure)) :
    (manager.switchTenant tenant).1 =
      { manager.leave tenant with store := (manager.putAway.store.readTenant tenant).1 } := by
  obtain ⟨⟨_, different, read, unlocked⟩, refused⟩ := sectionRead?_switchTenant.1 asked
  have leaving : ((manager.leave tenant).store.readTenant (manager.leave tenant).tenant).2 = .error failure := refused
  rw [switchTenant_of_read different read, if_pos unlocked, loadSection_of_error leaving]
  rfl

theorem unharmed_switchTenant (unharmed : manager.books.Unharmed tenant given) {target : Tenant}
    (unread : ∀ tenantSection, manager.sectionRead? tenant (.switchTenant target) ≠ some (.ok tenantSection))
    (safe : ¬ manager.Endangers tenant (.switchTenant target)) :
    (manager.switchTenant target).1.books.Unharmed tenant given := by
  have away := unharmed_clearTenant (unharmed_putAway unharmed)
  have kept : (manager.leave target).store.storedSection tenant = given := away.kept
  obtain ⟨_, switched⟩ | ⟨_, _, switched⟩ | ⟨different, read, unlocked, switched⟩ | ⟨_, _, _, switched⟩ :=
    manager.switchTenant_cases target
  · rw [switched]
    exact unharmed
  · rw [switched]
    exact ⟨fun _ => .inl rfl, unharmed.kept⟩
  · by_cases arrives : target = tenant
    · subst arrives
      have asked : ∀ {answer}, (manager.putAway.store.readTenant target).2 = answer →
          manager.sectionRead? target (.switchTenant target) = some answer := fun answered =>
        sectionRead?_switchTenant.2 ⟨⟨rfl, different, read, unlocked⟩, answered⟩
      cases answered : (manager.putAway.store.readTenant target).2 with
      | ok tenantSection => exact absurd (asked answered) (unread tenantSection)
      | error failure =>
          have waits : manager.awaitsUnlock = true := by
            rw [← Bool.not_eq_false]
            intro loaded
            exact safe ⟨rfl, loaded, failure, asked answered⟩
          have contents := (manager.putAway.store.sameContents_readTenant target).sections target
          rw [switchTenant_of_failure (asked answered)]
          exact ⟨fun _ => .inl ((flags_leave manager target).2.trans waits), contents.trans kept⟩
    · have elsewhere : (manager.leave target).tenant ≠ tenant := arrives
      rw [switched]
      exact unharmed_loadSection ⟨fun here => absurd here elsewhere, kept⟩ elsewhere
  · rw [switched]
    exact ⟨fun _ => .inl rfl, kept⟩

theorem unharmed_unlockTenant (unharmed : manager.books.Unharmed tenant given) {target : Tenant}
    (unread : ∀ tenantSection, manager.sectionRead? tenant (.unlockTenant target) ≠ some (.ok tenantSection)) :
    (manager.unlockTenant target).books.Unharmed tenant given := by
  obtain ⟨_, same⟩ | ⟨rfl, read, waits, loads⟩ := manager.unlockTenant_cases target
  · rw [same]
    exact unharmed
  · rw [loads]
    by_cases here : manager.tenant = tenant
    · cases answered : (manager.store.readTenant manager.tenant).2 with
      | ok tenantSection =>
          exact absurd (sectionRead?_unlockTenant.2 ⟨⟨here, rfl, read, waits⟩, answered⟩) (unread tenantSection)
      | error failure =>
          rw [loadSection_of_error answered]
          exact unharmed.of_same rfl rfl rfl ((manager.store.sameContents_readTenant manager.tenant).sections tenant)
    · exact unharmed_loadSection unharmed here

theorem unharmed_perform (sound : manager.books.Sound) (careful : manager.Careful tenant operation)
    (unharmed : manager.books.Unharmed tenant given) : (manager.perform operation).1.books.Unharmed tenant given := by
  cases stays : operation.followsTenants with
  | false =>
      exact (moves_perform sound.wellFormed careful.room.taking stays careful.ours).invariant (fun _ _ _ _ taken => .step taken)
        unharmed
  | true =>
      cases operation with
      | restart => exact ⟨fun _ => .inr rfl, ((Store.sameContents_reopen manager.store).sections tenant).trans unharmed.kept⟩
      | load => exact unharmed_load unharmed careful.unread
      | switchTenant target => exact unharmed_switchTenant unharmed careful.unread careful.safe
      | unlockTenant target => exact unharmed_unlockTenant unharmed careful.unread
      | stopTenant target =>
          simp only [perform]
          obtain ⟨_, same⟩ | ⟨_, _, stops⟩ := manager.stopTenant_cases target
          · rw [same]
            exact unharmed
          · rw [stops]
            exact unharmed_clearTenant (unharmed_persist unharmed true)
      | _ => cases stays

theorem storedSection_run (sound : manager.books.Sound) (careful : manager.Along (Careful tenant) operations)
    (unharmed : manager.books.Unharmed tenant given) : (manager.run operations).store.storedSection tenant = given := by
  have keeps : ∀ manager operation, Careful tenant manager operation →
      (manager.books.Sound ∧ manager.books.Unharmed tenant given) →
      (manager.perform operation).1.books.Sound ∧ (manager.perform operation).1.books.Unharmed tenant given := by
    rintro manager operation careful ⟨sound, unharmed⟩
    exact ⟨sound_perform sound careful.room, unharmed_perform sound careful unharmed⟩
  exact (careful.invariant keeps ⟨sound, unharmed⟩).2.kept

/-- A switch or an unlocking whose read of the section fails. -/
structure FailsToRead (manager : Manager) (tenant : Tenant) (operation : Operation) : Prop extends
    Ordinary manager operation where
  follows : operation = .switchTenant tenant ∨ operation = .unlockTenant tenant
  failed : ∃ failure, manager.sectionRead? tenant operation = some (.error failure)

namespace FailsToRead

/-- What a failed read leaves: the tenant is current, and its section counts as in memory if and only if that
of the tenant before it did. -/
theorem spec (failing : manager.FailsToRead tenant operation) :
    (manager.perform operation).1.tenant = tenant ∧ (manager.perform operation).1.awaitsStore = false ∧
      (manager.perform operation).1.awaitsUnlock = manager.awaitsUnlock := by
  obtain ⟨_, rfl | rfl, failure, asked⟩ := failing
  · obtain ⟨⟨_, _, read, _⟩, _⟩ := sectionRead?_switchTenant.1 asked
    obtain ⟨store, unlock⟩ := flags_leave manager tenant
    have after : (manager.perform (.switchTenant tenant)).1 =
        { manager.leave tenant with store := (manager.putAway.store.readTenant tenant).1 } := switchTenant_of_failure asked
    rw [after]
    exact ⟨rfl, store.trans read, unlock⟩
  · obtain ⟨⟨_, rfl, read, waits⟩, refused⟩ := sectionRead?_unlockTenant.1 asked
    have after : (manager.perform (.unlockTenant manager.tenant)).1 = manager.loadSection := unlockTenant_of_waits read waits
    rw [after, loadSection_of_error refused]
    exact ⟨rfl, read, rfl⟩

/-- After a switch from a tenant whose section is in memory, nothing private is in memory, and the section is
the one that writes replace. -/
theorem vacated (alone : manager.ReachableAlone) (failing : manager.FailsToRead tenant operation)
    (loaded : manager.awaitsUnlock = false) : (manager.perform operation).1.books.Vacated tenant := by
  obtain ⟨_, rfl | rfl, failure, asked⟩ := failing
  · have after : (manager.perform (.switchTenant tenant)).1 =
        { manager.leave tenant with store := (manager.putAway.store.readTenant tenant).1 } := switchTenant_of_failure asked
    rw [after]
    refine ⟨rfl, fun profile present => ?_, rfl⟩
    have shared := shared_of_mem_leave alone.sound.wellFormed alone.placed present
    exact Books.belongsToShared_of_shared shared
  · obtain ⟨⟨_, _, _, waits⟩, _⟩ := sectionRead?_unlockTenant.1 asked
    rw [loaded] at waits
    cases waits

theorem unharmed (failing : manager.FailsToRead tenant operation) (waits : manager.awaitsUnlock = true) :
    (manager.perform operation).1.books.Unharmed tenant ((manager.perform operation).1.store.storedSection tenant) :=
  ⟨fun _ => .inl (failing.spec.2.2.trans waits), rfl⟩

end FailsToRead

theorem careful_sureWrite (manager : Manager) : manager.Along (Careful tenant) sureWrite := by
  have passing : ∀ manager : Manager, manager.Careful tenant (.change (.failWrites false)) := by
    intro manager
    refine ⟨⟨rfl, hasRoom_of_idsFor rfl⟩, fun tenantSection asked => ?_, fun endangered => ?_⟩
    · cases asked
    · cases endangered.1
  have saving : ∀ manager : Manager, manager.Careful tenant (.save true) := by
    intro manager
    refine ⟨⟨rfl, hasRoom_of_idsFor rfl⟩, fun tenantSection asked => ?_, fun endangered => ?_⟩
    · cases asked
    · cases endangered.1
  exact ⟨passing manager, saving _, trivial⟩

/-- A manager that has stored a private network of the first tenant, is with another one, and fails to read the
store next. -/
def awayWith (other : Tenant) : Manager :=
  onEmptyStore.run
    [.load, .change (.unlock 1), .switchTenant 1,
      .addOrUpdate { Draft.psk "Home" "password" with shared := false } ⟨Uid.system, "android"⟩, .switchTenant other,
      .change .failNextRead]

/-- When a read of a section has failed, the section stays as it is until it is read, if that of the tenant
before was not in memory either; otherwise all that it holds is lost with the next write. -/
theorem keepsSection_failsToRead_iff (alone : manager.ReachableAlone) (failing : manager.FailsToRead tenant operation) :
    (manager.awaitsUnlock = true → (manager.perform operation).1.KeepsSection tenant (Careful tenant)) ∧
    ((manager.perform operation).1.store.storedSection tenant ≠ .empty →
      ((manager.perform operation).1.KeepsSection tenant (Careful tenant) ↔ manager.awaitsUnlock = true)) := by
  obtain ⟨_, read, unlock⟩ := failing.spec
  have sound := sound_perform alone.sound failing.room
  have guarded : manager.awaitsUnlock = true → (manager.perform operation).1.KeepsSection tenant (Careful tenant) :=
    fun waits operations careful => storedSection_run sound careful (failing.unharmed waits)
  refine ⟨guarded, fun held => ⟨fun keeps => ?_, guarded⟩⟩
  rw [← Bool.not_eq_false]
  intro loaded
  refine held ?_
  rw [← keeps sureWrite (careful_sureWrite _)]
  exact storedSection_sureWrite (failing.vacated alone loaded) read (unlock.trans loaded)

/-- The second tenant is locked, and not in memory. -/
theorem keepsSection_from_locked : ((awayWith 2).perform (.switchTenant 1)).1.KeepsSection 1 (Careful 1) ∧
    ((awayWith 2).perform (.switchTenant 1)).1.store.storedSection 1 ≠ .empty :=
  ⟨(keepsSection_failsToRead_iff (reachableAlone_onEmptyStore.run (by decide))
    ⟨⟨rfl, by decide⟩, .inl rfl, .readRefused, by decide⟩).1 (by decide), by decide⟩

/-- The tenant of the start is unlocked, and in memory. -/
theorem not_keepsSection_from_unlocked : (awayWith 0).ReachableAlone ∧ (awayWith 0).FailsToRead 1 (.switchTenant 1) ∧
    ¬ ((awayWith 0).perform (.switchTenant 1)).1.KeepsSection 1 (Careful 1) :=
  ⟨reachableAlone_onEmptyStore.run (by decide),
    ⟨⟨rfl, by decide⟩, .inl rfl, .readRefused, by decide⟩,
    fun keeps => absurd (keeps sureWrite (careful_sureWrite _)) (by decide)⟩

end Manager

end SavedNetworks
