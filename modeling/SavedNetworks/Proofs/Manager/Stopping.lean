import SavedNetworks.Proofs.Manager.Runs

/-!
What becomes of the section of a tenant that stops. Nothing of the tenant stays in memory, yet its section
is still the one that writes replace: it stays as it is until a write succeeds, which empties it.
-/

namespace SavedNetworks

/-- Nothing of the current tenant is in memory: every profile goes to the shared section. -/
structure Books.Vacated (tenant : Tenant) (books : Books) : Prop where
  current : books.roster.tenant = tenant
  common : ∀ profile ∈ books.roster.all, books.belongsToShared profile = true
  undismissed : books.dismissed = .empty

/-- The moves that bring nothing private into memory. -/
def Move.IsCommon : Move → Prop
  | .dismiss | .add false => False
  | _ => True

namespace Books.Vacated

variable {tenant : Tenant} {before after : Books}

theorem tenant_sections (vacated : before.Vacated tenant) (addresses : SortedMap String String) :
    (before.sections addresses).tenant = .empty := by
  have none : ((before.roster.all.filter Profile.isSaved).filter fun profile => !before.belongsToShared profile) = [] := by
    rw [List.filter_eq_nil_iff]
    intro profile saved
    rw [vacated.common profile (List.mem_filter.1 saved).1]
    exact Bool.false_ne_true
  simp only [sections, none, vacated.undismissed]
  rfl

theorem of_through {look : Profile → Profile} (vacated : before.Vacated tenant)
    (owner : ∀ profile, (look profile).shared = profile.shared ∧ (look profile).creator = profile.creator)
    (same : after.roster.through look = before.roster.through look) (dismissed : after.dismissed = before.dismissed) :
    after.Vacated tenant := by
  have stays := Roster.tenant_of_through same
  refine ⟨stays.trans vacated.current, fun profile present => ?_, dismissed.trans vacated.undismissed⟩
  obtain ⟨old, earlier, looks⟩ := Roster.mem_of_through same present
  have shared := Profile.same_of_look Profile.shared (fun profile => (owner profile).1) looks
  have creator := Profile.same_of_look Profile.creator (fun profile => (owner profile).2) looks
  exact (belongsToShared_congr stays shared.symm creator.symm).trans (vacated.common old earlier)

theorem step {move : Move} (taken : Step move before after) (sound : before.Sound) (allowed : move.IsCommon)
    (vacated : before.Vacated tenant) : after.Vacated tenant := by
  have wellFormed := sound.wellFormed
  -- No move that is left can bring in a profile of the tenant alone: additions are shared, and an update keeps the owner.
  cases taken with
  | note outlines => exact vacated.of_through Profile.owner_outline outlines rfl
  | relink rule caches id =>
      exact vacated.of_through Profile.owner_frame (Roster.through_reconsider rule before.roster caches id) rfl
  | dismiss => cases allowed
  | forgive fewer =>
      refine ⟨vacated.current, vacated.common, SortedMap.ext_get? fun ssid => ?_⟩
      rw [SortedMap.get?_empty, Option.eq_none_iff_forall_ne_some]
      intro dismissedAt found
      have earlier := fewer ssid dismissedAt found
      rw [vacated.undismissed] at earlier
      cases earlier
  | write | settle | skip => exact ⟨vacated.current, vacated.common, vacated.undismissed⟩
  | @drop _ id profile found =>
      have stays := Roster.tenant_drop before.roster id profile.key
      refine ⟨stays.trans vacated.current, fun other present => ?_, vacated.undismissed⟩
      obtain ⟨old, earlier, _, rfl⟩ := wellFormed.mem_drop.1 present
      obtain ⟨shared, creator⟩ := Roster.released_owner before.roster profile.key old
      exact (belongsToShared_congr stays shared creator).trans (vacated.common old earlier)
  | @add _ profile roster read room fresh unlinked owned stored =>
      have stays := Roster.tenant_put stored
      refine ⟨stays.trans vacated.current, fun other present => ?_, vacated.undismissed⟩
      rcases (wellFormed.mem_put stored).1 present with rfl | ⟨earlier, _⟩
      · cases shared : other.shared with
        | true => exact belongsToShared_of_shared shared
        | false =>
            rw [shared] at allowed
            cases allowed
      · exact (belongsToShared_congr stays rfl rfl).trans (vacated.common other earlier)
  | @update _ current profile roster found shared creator saved stored =>
      have stays := Roster.tenant_put stored
      refine ⟨stays.trans vacated.current, fun other present => ?_, vacated.undismissed⟩
      rcases (wellFormed.mem_put stored).1 present with rfl | ⟨earlier, _⟩
      · exact (belongsToShared_congr stays shared creator).trans (vacated.common current (Roster.mem_of_get? found))
      · exact (belongsToShared_congr stays rfl rfl).trans (vacated.common other earlier)

theorem storedSection_step {move : Move} (taken : Step move before after) (vacated : before.Vacated tenant) :
    after.store.storedSection tenant = before.store.storedSection tenant ∨
      after.store.storedSection tenant = .empty := by
  cases taken with
  | write read addresses force =>
      simp only [Store.storedSection_write, vacated.tenant_sections, Store.sectionRendition_empty]
      split
      · exact .inr rfl
      · exact .inl rfl
  | settle same => exact .inl (same.sections tenant)
  | note | relink | dismiss | forgive | skip | drop | add | update => exact .inl rfl

end Books.Vacated

namespace Manager

variable {manager : Manager} {operation : Operation} {operations : List Operation} {tenant : Tenant}

/-- An operation on profiles that all tenants share: nobody follows the tenants, reads the store or dismisses
a network, and every profile that is added is shared. -/
structure SharedWork (manager : Manager) (operation : Operation) : Prop extends Ordinary manager operation where
  stays : operation.followsTenants = false
  undismissed : ∀ ssid, operation ≠ .dismiss ssid
  shared : ∀ draft caller, operation = .addOrUpdate draft caller →
    draft.shared = true ∨ (manager.edited? draft (manager.replaced? draft)).isSome = true

theorem isCommon_of_permits (work : manager.SharedWork operation) {move : Move} (permitted : manager.permits operation move) :
    move.IsCommon := by
  cases move with
  | dismiss =>
      obtain ⟨ssid, same⟩ := permitted
      exact absurd same (work.undismissed ssid)
  | add shared =>
      obtain ⟨draft, caller, same, drafted, new⟩ := permitted
      have chosen := work.shared draft caller same
      rw [new, ← drafted] at chosen
      simp only [Option.isSome_none, Bool.false_eq_true, or_false] at chosen
      rw [chosen]
      trivial
  | note | relink | forgive | write | settle | skip | drop | update => trivial

/-- The tenant is out of memory, and its section is the given one or empty. -/
structure Stopped (tenant : Tenant) (given : StoredSection) (manager : Manager) : Prop where
  sound : manager.books.Sound
  vacated : manager.books.Vacated tenant
  kept : manager.store.storedSection tenant = given ∨ manager.store.storedSection tenant = .empty

namespace Stopped

variable {given : StoredSection}

theorem perform (work : manager.SharedWork operation) (stopped : manager.Stopped tenant given) :
    (manager.perform operation).1.Stopped tenant given := by
  have step : ∀ move before after, manager.permits operation move → Step move before after →
      (before.Sound ∧ before.Vacated tenant ∧
        (before.store.storedSection tenant = given ∨ before.store.storedSection tenant = .empty)) →
      after.Sound ∧ after.Vacated tenant ∧
        (after.store.storedSection tenant = given ∨ after.store.storedSection tenant = .empty) := by
    rintro move before after permitted taken ⟨sound, vacated, kept⟩
    refine ⟨sound.step taken, vacated.step taken sound (isCommon_of_permits work permitted), ?_⟩
    rcases vacated.storedSection_step taken with same | emptied
    · rw [same]
      exact kept
    · exact .inr emptied
  obtain ⟨sound, vacated, kept⟩ := (moves_perform stopped.sound.wellFormed work.room.taking work.stays work.ours).invariant step
    ⟨stopped.sound, stopped.vacated, stopped.kept⟩
  exact ⟨sound, vacated, kept⟩

theorem run (work : manager.Along SharedWork operations) (stopped : manager.Stopped tenant given) :
    (manager.run operations).Stopped tenant given :=
  work.invariant (fun _ _ now before => before.perform now) stopped

end Stopped

theorem stopped_stopTenant (sound : manager.books.Sound) (current : manager.tenant = tenant)
    (unlocked : manager.platform.isUnlocked tenant = true) :
    (manager.stopTenant tenant).Stopped tenant ((manager.stopTenant tenant).store.storedSection tenant) := by
  have stops : manager.stopTenant tenant = (manager.persist true).clearTenant := if_pos ⟨current.symm, unlocked⟩
  have written := sound_persist sound true
  have tenants : (manager.persist true).roster.tenant = manager.roster.tenant := by rw [persist_eq]
  have same := tenant_clearTenant (manager.persist true)
  refine ⟨sound_stopTenant sound tenant, ?_, .inl rfl⟩
  rw [stops]
  refine ⟨same.trans (tenants.trans current), fun profile present => ?_, rfl⟩
  have belongs := ((mem_clearTenant written.wellFormed).1 present).2
  have here : (manager.persist true).clearTenant.books.roster.tenant = (manager.persist true).books.roster.tenant := same
  exact (Books.belongsToShared_congr here rfl rfl).trans belongs

/-- A write that succeeds, whatever writes did before. -/
def sureWrite : List Operation := [.change (.failWrites false), .save true]

theorem sharedWork_sureWrite (manager : Manager) : manager.Along SharedWork sureWrite := by
  have passing : ∀ manager : Manager, manager.SharedWork (.change (.failWrites false)) := by
    intro manager
    refine ⟨⟨rfl, hasRoom_of_idsFor rfl⟩, rfl, fun ssid same => ?_, fun draft caller same => ?_⟩ <;> cases same
  have saving : ∀ manager : Manager, manager.SharedWork (.save true) := by
    intro manager
    refine ⟨⟨rfl, hasRoom_of_idsFor rfl⟩, rfl, fun ssid same => ?_, fun draft caller same => ?_⟩ <;> cases same
  exact ⟨passing manager, saving _, trivial⟩

theorem books_sureWrite (read : manager.awaitsStore = false) :
    (manager.run sureWrite).books =
      { manager.books with
        store := ((manager.store.failWrites false).write manager.books.writtenTenant
          (manager.books.sections manager.randomizer.legacy) true).1 } := by
  have passing : ({ manager with store := manager.store.failWrites false } : Manager).awaitsStore = false := read
  exact books_persist passing true

theorem storedSection_sureWrite (vacated : manager.books.Vacated tenant) (read : manager.awaitsStore = false)
    (loaded : manager.awaitsUnlock = false) : (manager.run sureWrite).store.storedSection tenant = .empty := by
  have named : manager.books.writtenTenant = some tenant := by
    rw [← vacated.current]
    exact if_neg (ne_true_of_eq_false loaded)
  have written := congrArg Books.store (books_sureWrite read)
  have store : (manager.run sureWrite).store = ((manager.store.failWrites false).write manager.books.writtenTenant
      (manager.books.sections manager.randomizer.legacy) true).1 := written
  rw [store, Store.storedSection_write, if_pos ⟨Store.acceptsWrites_failWrites_false manager.store, named⟩,
    vacated.tenant_sections, Store.sectionRendition_empty]

/-- A manager that has read an empty store and was given one network. -/
def withNetwork (shared : Bool) : Manager :=
  onEmptyStore.run [.load, .addOrUpdate { Draft.psk "Home" "password" with shared } ⟨Uid.system, "android"⟩]

theorem reachableAlone_withNetwork (shared : Bool) : (withNetwork shared).ReachableAlone := by
  cases shared <;> exact reachableAlone_onEmptyStore.run (by decide)

/-- When a tenant has stopped, work on shared profiles leaves its section as it is or empties it, and it is
sure to stay if and only if it is empty already. -/
theorem storedSection_stopTenant_iff (reached : manager.Reachable) (current : manager.tenant = tenant)
    (unlocked : manager.platform.isUnlocked tenant = true) (read : manager.awaitsStore = false)
    (loaded : manager.awaitsUnlock = false) :
    (∀ operations, (manager.stopTenant tenant).Along SharedWork operations →
      ((manager.stopTenant tenant).run operations).store.storedSection tenant =
          (manager.stopTenant tenant).store.storedSection tenant ∨
        ((manager.stopTenant tenant).run operations).store.storedSection tenant = .empty) ∧
    ((manager.stopTenant tenant).KeepsSection tenant SharedWork ↔
      (manager.stopTenant tenant).store.storedSection tenant = .empty) := by
  have stopped := stopped_stopTenant reached.sound current unlocked
  have stops : manager.stopTenant tenant = (manager.persist true).clearTenant := if_pos ⟨current.symm, unlocked⟩
  have waits : (manager.stopTenant tenant).awaitsStore = false ∧ (manager.stopTenant tenant).awaitsUnlock = false := by
    rw [stops, persist_eq]
    exact ⟨read, loaded⟩
  refine ⟨fun operations work => (stopped.run work).kept, ?_⟩
  constructor
  · intro stays
    rw [← stays sureWrite (sharedWork_sureWrite _)]
    exact storedSection_sureWrite stopped.vacated waits.1 waits.2
  · intro empty operations work
    rcases (stopped.run work).kept with same | emptied
    · exact same
    · rw [emptied, empty]

theorem keepsSection_stopTenant_shared : ((withNetwork true).stopTenant 0).KeepsSection 0 SharedWork :=
  (storedSection_stopTenant_iff (reachableAlone_withNetwork true).reachable (by decide) (by decide)
    (by decide) (by decide)).2.2 (by decide)

theorem not_keepsSection_stopTenant_private : (withNetwork false).ReachableAlone ∧
    ¬ ((withNetwork false).stopTenant 0).KeepsSection 0 SharedWork :=
  ⟨reachableAlone_withNetwork false, fun keeps =>
    absurd (keeps sureWrite (sharedWork_sureWrite _)) (by decide)⟩

end Manager

end SavedNetworks
