import SavedNetworks.Proofs.Manager.Reloading

/-!
What a tenant finds when it comes back: its private profiles as they were put away, and the shared profiles
that nobody took out. Its section stays aside while another tenant is in the foreground.
-/

namespace SavedNetworks

/-- Another tenant is in the foreground, and a reader of the section of this one finds what is given. -/
structure Books.Aside (tenant : Tenant) (found : TenantSection) (books : Books) : Prop where
  elsewhere : books.roster.tenant ≠ tenant
  read : books.awaitsStore = false
  kept : books.store.sectionFound tenant = .ok found

/-- A profile of the id is in memory, and is shared. -/
def Books.HasShared (id : ProfileId) (books : Books) : Prop :=
  ∃ profile ∈ books.roster.all, profile.id = id ∧ profile.shared = true

namespace Books

variable {tenant : Tenant} {found : TenantSection} {before after : Books} {id : ProfileId}

namespace Aside

theorem of_same (aside : before.Aside tenant found) (current : after.roster.tenant = before.roster.tenant)
    (read : after.awaitsStore = before.awaitsStore)
    (same : after.store.sectionFound tenant = before.store.sectionFound tenant) : after.Aside tenant found :=
  ⟨current ▸ aside.elsewhere, read.trans aside.read, same.trans aside.kept⟩

/-- No write names the tenant. -/
theorem sectionFound_write (aside : before.Aside tenant found) (data : StoreData) (force : Bool) :
    (before.store.write before.writtenTenant data force).1.sectionFound tenant = before.store.sectionFound tenant :=
  Store.sectionFound_write_of_ne (fun named => aside.elsewhere (Placed.tenant_of_writtenTenant named)) before.store data force

theorem step {move : Move} (taken : Step move before after) (aside : before.Aside tenant found) : after.Aside tenant found := by
  refine aside.of_same taken.flags.1 taken.flags.2.1 ?_
  rcases taken.write_or_same with ⟨_, addresses, force, rfl⟩ | same
  · exact aside.sectionFound_write _ force
  · exact same.found tenant

theorem filed {allowed : Move → Prop} (files : Filed allowed before after) (aside : before.Aside tenant found) :
    after.Aside tenant found := by
  cases files with
  | refused => exact aside
  | lost => exact aside.of_same rfl rfl rfl
  | added permitted read fresh unlinked owned stored | updated permitted current shared creator saved stored =>
      exact aside.of_same (Roster.tenant_put stored) rfl rfl

end Aside

namespace HasShared

theorem through {look : Profile → Profile} (has : before.HasShared id) (keeps : Roster.KeepsName look)
    (shared : ∀ profile, (look profile).shared = profile.shared)
    (same : after.roster.through look = before.roster.through look) : after.HasShared id := by
  obtain ⟨old, earlier, rfl, owner⟩ := has
  obtain ⟨profile, present, looks⟩ := Roster.mem_of_through same.symm earlier
  exact ⟨profile, present, (keeps.same looks).1, (Profile.same_of_look Profile.shared shared looks).trans owner⟩

theorem step {move : Move} (taken : Step move before after) (sound : before.Sound) (kept : move ≠ .drop id)
    (has : before.HasShared id) : after.HasShared id := by
  have wellFormed := sound.wellFormed
  cases taken with
  | note outlines => exact has.through Roster.keepsName_outline (fun _ => rfl) outlines
  | relink rule caches subject =>
      exact has.through Roster.keepsName_frame (fun _ => rfl) (Roster.through_reconsider rule before.roster caches subject)
  | dismiss | forgive | write | settle | skip => exact has
  | @drop _ dropped profile found =>
      obtain ⟨old, earlier, rfl, owner⟩ := has
      have apart : old.id ≠ dropped := fun same => kept (by rw [same])
      have released := Roster.released_name before.roster profile.key old
      have stays := Roster.released_owner before.roster profile.key old
      exact ⟨_, wellFormed.mem_drop.2 ⟨old, earlier, apart, rfl⟩, released.1, stays.1.trans owner⟩
  | @add _ added _ read room fresh unlinked owned stored =>
      obtain ⟨old, earlier, rfl, owner⟩ := has
      exact ⟨old, (wellFormed.mem_put stored).2 (.inr ⟨earlier, sound.ne_of_fresh fresh earlier⟩), rfl, owner⟩
  | @update _ current changed _ found shared creator saved stored =>
      obtain ⟨old, earlier, rfl, owner⟩ := has
      by_cases same : old.id = changed.id
      · obtain rfl := wellFormed.eq_of_id earlier (Roster.mem_of_get? found) (same.trans (wellFormed.id_of_get? found).symm)
        exact ⟨changed, (wellFormed.mem_put stored).2 (.inl rfl), same.symm, shared.trans owner⟩
      · exact ⟨old, (wellFormed.mem_put stored).2 (.inr ⟨earlier, same⟩), rfl, owner⟩

end HasShared

end Books

instance (profile : Profile) (tenant : Tenant) : Decidable (profile.IsPrivateOf tenant) :=
  inferInstanceAs (Decidable (_ ∧ _ ∧ _))

/-- Does not bring the tenant back, and neither forgets nor reads again what is in memory. -/
def Operation.StaysAway (tenant : Tenant) (operation : Operation) : Prop :=
  operation ≠ .load ∧ operation ≠ .restart ∧ operation ≠ .switchTenant tenant

namespace Manager

variable {manager : Manager} {operation : Operation} {tenant : Tenant} {found : TenantSection} {id : ProfileId}

theorem aside_persist (aside : manager.books.Aside tenant found) (force : Bool) :
    (manager.persist force).books.Aside tenant found := by
  rw [books_persist aside.read]
  exact aside.of_same rfl rfl (aside.sectionFound_write _ force)

theorem aside_clearTenant (aside : manager.books.Aside tenant found) : manager.clearTenant.books.Aside tenant found :=
  aside.of_same (tenant_clearTenant manager) rfl rfl

theorem aside_putAway (aside : manager.books.Aside tenant found) : manager.putAway.books.Aside tenant found := by
  unfold putAway
  split
  · exact aside_persist aside true
  · exact aside

theorem aside_loadSection (aside : manager.books.Aside tenant found) : manager.loadSection.books.Aside tenant found := by
  have same := (manager.store.sameContents_readTenant manager.tenant).found tenant
  cases read : (manager.store.readTenant manager.tenant).2 with
  | error failure =>
      rw [loadSection_of_error read]
      exact aside.of_same rfl rfl same
  | ok tenantSection =>
      rw [books_loadSection read]
      refine aside_persist ?_ true
      rw [books_opened]
      exact aside.of_same (tenant_insertAll manager tenantSection.profiles) rfl same

theorem aside_switchTenant {target : Tenant} (apart : target ≠ tenant) (aside : manager.books.Aside tenant found) :
    (manager.switchTenant target).1.books.Aside tenant found := by
  have cleared := aside_clearTenant (aside_putAway aside)
  have left : (manager.leave target).books.Aside tenant found := ⟨apart, cleared.read, cleared.kept⟩
  obtain ⟨_, switched⟩ | ⟨_, _, switched⟩ | ⟨_, _, _, switched⟩ | ⟨_, _, _, switched⟩ := manager.switchTenant_cases target
  all_goals rw [switched]
  · exact aside
  · exact ⟨apart, aside.read, aside.kept⟩
  · exact aside_loadSection left
  · exact left.of_same rfl rfl rfl

theorem aside_unlockTenant (aside : manager.books.Aside tenant found) (target : Tenant) :
    (manager.unlockTenant target).books.Aside tenant found := by
  obtain ⟨_, same⟩ | ⟨_, _, _, loads⟩ := manager.unlockTenant_cases target
  · rw [same]
    exact aside
  · rw [loads]
    exact aside_loadSection aside

theorem aside_stopTenant (aside : manager.books.Aside tenant found) (target : Tenant) :
    (manager.stopTenant target).books.Aside tenant found := by
  obtain ⟨_, same⟩ | ⟨_, _, stops⟩ := manager.stopTenant_cases target
  · rw [same]
    exact aside
  · rw [stops]
    exact aside_clearTenant (aside_persist aside true)

theorem aside_perform (wellFormed : manager.roster.WellFormed) (ours : operation.isForeign = false)
    (stays : operation.StaysAway tenant) (aside : manager.books.Aside tenant found) :
    (manager.perform operation).1.books.Aside tenant found := by
  obtain ⟨unread, goes, apart⟩ := stays
  cases follows : operation.followsTenants with
  | false =>
      exact (perform_invariant wellFormed follows ours (fun _ _ _ _ taken _ aside => aside.step taken)
        (fun _ _ files _ aside => aside.filed files) aside).2
  | true =>
      cases operation with
      | restart => exact absurd rfl goes
      | load => exact absurd rfl unread
      | switchTenant target => exact aside_switchTenant (fun same => apart (by rw [same])) aside
      | unlockTenant target => exact aside_unlockTenant aside target
      | stopTenant target => exact aside_stopTenant aside target
      | _ => cases follows

theorem hasShared_clearTenant (wellFormed : manager.roster.WellFormed) (has : manager.books.HasShared id) :
    manager.clearTenant.books.HasShared id := by
  obtain ⟨profile, present, named, shared⟩ := has
  exact ⟨profile, (mem_clearTenant wellFormed).2 ⟨present, Books.belongsToShared_of_shared shared⟩, named, shared⟩

theorem hasShared_loadSection (sound : manager.books.Sound)
    (room : manager.nextId.toNat + (manager.sectionOf manager.tenant).length < UInt32.size)
    (has : manager.books.HasShared id) : manager.loadSection.books.HasShared id := by
  obtain ⟨profile, present, named, shared⟩ := has
  exact ⟨profile, mem_loadSection sound room present, named, shared⟩

theorem hasShared_leave (wellFormed : manager.roster.WellFormed) (has : manager.books.HasShared id) (target : Tenant) :
    (manager.leave target).books.HasShared id := by
  have away : manager.putAway.books.HasShared id := by
    rw [putAway_eq]
    exact has
  obtain ⟨profile, present, named, shared⟩ := hasShared_clearTenant (wellFormed_putAway wellFormed) away
  have same : (manager.leave target).books.roster.all = manager.putAway.clearTenant.books.roster.all := rfl
  exact ⟨profile, same ▸ present, named, shared⟩

theorem hasShared_switchTenant (sound : manager.books.Sound) {target : Tenant}
    (room : manager.nextId.toNat + manager.idsTaken (.switchTenant target) < UInt32.size) (has : manager.books.HasShared id) :
    (manager.switchTenant target).1.books.HasShared id := by
  have left := hasShared_leave sound.wellFormed has target
  obtain ⟨_, switched⟩ | ⟨_, _, switched⟩ | ⟨different, read, unlocked, switched⟩ | ⟨_, _, _, switched⟩ :=
    manager.switchTenant_cases target
  all_goals rw [switched]
  · exact has
  · exact has
  · rw [idsTaken, if_pos ⟨different, read, unlocked⟩, ← nextId_leave manager target] at room
    exact hasShared_loadSection (sound_leave sound target) room left
  · exact left

theorem hasShared_perform (sound : manager.books.Sound)
    (room : manager.nextId.toNat + manager.idsTaken operation < UInt32.size) (ours : operation.isForeign = false)
    (unread : operation ≠ .load) (goes : operation ≠ .restart) (kept : ¬ manager.takesOut operation id)
    (has : manager.books.HasShared id) : (manager.perform operation).1.books.HasShared id := by
  cases follows : operation.followsTenants with
  | false =>
      have step : ∀ move before after, manager.permits operation move → Step move before after →
          before.Sound ∧ before.HasShared id → after.Sound ∧ after.HasShared id := by
        rintro move before after permitted taken ⟨sound, has⟩
        refine ⟨sound.step taken, has.step taken sound ?_⟩
        rintro rfl
        exact kept permitted
      exact ((moves_perform sound.wellFormed room follows ours).invariant step ⟨sound, has⟩).2
  | true =>
      cases operation with
      | restart => exact absurd rfl goes
      | load => exact absurd rfl unread
      | switchTenant target => exact hasShared_switchTenant sound room has
      | unlockTenant target =>
          simp only [perform]
          obtain ⟨_, same⟩ | ⟨rfl, read, waits, loads⟩ := manager.unlockTenant_cases target
          · rw [same]
            exact has
          · rw [idsTaken, if_pos ⟨rfl, read, waits⟩] at room
            rw [loads]
            exact hasShared_loadSection sound room has
      | stopTenant target =>
          simp only [perform]
          obtain ⟨_, same⟩ | ⟨_, _, stops⟩ := manager.stopTenant_cases target
          · rw [same]
            exact has
          · rw [stops]
            have written : (manager.persist true).books.HasShared id := by
              rw [persist_eq]
              exact has
            exact hasShared_clearTenant (wellFormed_persist sound.wellFormed true) written
      | _ => cases follows

/-- A switch returns the ids of the private profiles of the tenant that it leaves, each of them once. -/
def ReturnsPrivate (manager : Manager) (target : Tenant) : Prop :=
  (manager.switchTenant target).2.Nodup ∧ ∀ id, id ∈ (manager.switchTenant target).2 ↔
    ∃ profile ∈ manager.roster.all, profile.id = id ∧ profile.shared = false ∧
      profile.creator.uid.inTenant manager.tenant = true

theorem mem_privateIds : id ∈ manager.privateIds ↔ ∃ profile ∈ manager.roster.all, profile.id = id ∧
    profile.shared = false ∧ profile.creator.uid.inTenant manager.tenant = true := by
  unfold privateIds Roster.visible
  simp only [List.mem_map, List.mem_filter, Bool.and_eq_true, Bool.not_eq_true', hasUid]
  constructor
  · rintro ⟨profile, ⟨⟨present, _⟩, unshared, owned⟩, named⟩
    exact ⟨profile, present, named, unshared, owned⟩
  · rintro ⟨profile, present, named, unshared, owned⟩
    have visible : manager.roster.isVisible profile = true := by
      rw [Roster.isVisible, Profile.visibleTo, Bool.or_eq_true]
      exact .inr owned
    exact ⟨profile, ⟨⟨present, visible⟩, unshared, owned⟩, named⟩

theorem nodup_privateIds (wellFormed : manager.roster.WellFormed) : manager.privateIds.Nodup :=
  wellFormed.nodup_ids.sublist ((List.filter_sublist.trans List.filter_sublist).map _)

theorem returned_switchTenant {target : Tenant} (different : target ≠ manager.tenant) :
    (manager.switchTenant target).2 = if manager.awaitsStore then [] else manager.privateIds := by
  have same : manager.putAway.privateIds = manager.privateIds := by
    rw [putAway_eq]
    rfl
  unfold switchTenant
  rw [if_neg different]
  split
  · rfl
  · rw [← same]
    change (if manager.putAway.platform.isUnlocked target then _ else _ : Manager × List ProfileId).2 = _
    split <;> rfl

theorem returnsPrivate (wellFormed : manager.roster.WellFormed) (idle : manager.books.Idle) {target : Tenant}
    (different : target ≠ manager.tenant) : manager.ReturnsPrivate target := by
  unfold ReturnsPrivate
  rw [returned_switchTenant different]
  cases unread : manager.awaitsStore with
  | true =>
      have none : manager.roster.all = [] := idle unread
      simp [none]
  | false => exact ⟨nodup_privateIds wellFormed, fun id => mem_privateIds⟩

/-- The section of a tenant that is left is put away as it is in memory. -/
theorem aside_of_leaving (wellFormed : manager.roster.WellFormed) (unlocked : manager.platform.isUnlocked manager.tenant = true)
    (read : manager.awaitsStore = false) (loaded : manager.awaitsUnlock = false)
    (accepts : manager.store.acceptsWrites = true) {other : Tenant} (different : other ≠ manager.tenant) :
    ∃ found, (manager.switchTenant other).1.books.Aside manager.tenant found ∧
      found.Alike manager.sections.persisted.tenant := by
  have named : manager.writtenTenant = some manager.tenant := by
    rw [writtenTenant, loaded]
    rfl
  have written : manager.putAway.store = (manager.store.write (some manager.tenant) manager.sections true).1 := by
    rw [putAway, if_pos unlocked, persist, save_of_read read, named]
  obtain ⟨found, kept, alike⟩ :=
    Store.sectionFound_write accepts (keysDistinct_sections wellFormed) manager.tenant true
  have left : (manager.leave other).books.Aside manager.tenant found :=
    ⟨different, (flags_leave manager other).1.trans read, (congrArg (Store.sectionFound manager.tenant) written).trans kept⟩
  refine ⟨found, ?_, alike⟩
  rw [switchTenant_of_read different read]
  split
  · exact aside_loadSection left
  · exact left.of_same rfl rfl rfl

/-- What a tenant finds when it comes back. -/
structure Returned (tenant : Tenant) (found : TenantSection) (before after : Manager) : Prop where
  forth : ∀ record ∈ found.profiles, (∀ profile ∈ before.roster.all, profile.key ≠ record.key) →
    ∃ new ∈ after.roster.all, new = record.withId new.id
  back : ∀ new ∈ after.roster.all, (new ∈ before.roster.all ∧ before.books.belongsToShared new = true) ∨
    ∃ record ∈ found.profiles, new = record.withId new.id
  dismissed : after.dismissed = found.dismissed

theorem returned_of_aside (sound : manager.books.Sound) (room : manager.HasRoom (.switchTenant tenant))
    (aside : manager.books.Aside tenant found) (distinct : (found.profiles.map Profile.key).Nodup)
    (unlocked : manager.platform.isUnlocked tenant = true) {answer : TenantSection}
    (answered : (manager.putAway.store.readTenant tenant).2 = .ok answer) :
    Returned tenant found manager (manager.switchTenant tenant).1 := by
  have wellFormed : manager.roster.WellFormed := sound.wellFormed
  have left := sound_leave sound tenant
  have same : answer = found := by
    have kept : manager.putAway.store.sectionFound tenant = .ok found := (aside_putAway aside).kept
    rw [Store.sectionFound_of_readTenant answered] at kept
    exact Except.ok.inj kept
  subst same
  have reading : ((manager.leave tenant).store.readTenant (manager.leave tenant).tenant).2 = .ok answer := answered
  have taken : (manager.leave tenant).sectionOf (manager.leave tenant).tenant = answer.profiles := by
    unfold sectionOf
    rw [reading]
  have space : (manager.leave tenant).nextId.toNat + answer.profiles.length < UInt32.size := by
    rw [← taken]
    exact room_leave room unlocked
  have away : tenant ≠ manager.tenant := Ne.symm aside.elsewhere
  rw [switchTenant_of_read away aside.read, if_pos unlocked]
  constructor
  · intro record among free
    have nobody : (manager.leave tenant).roster.holder? record.key = none := left.wellFormed.holder?_eq_none_iff.2
      fun profile present => free profile ((mem_leave wellFormed).1 present).1
    rw [roster_loadSection, taken]
    exact exists_insertAll left space distinct among nobody
  · intro new present
    rw [roster_loadSection, taken] at present
    rcases mem_insertAll left.wellFormed present with earlier | ⟨record, among, looks⟩
    · exact .inl ((mem_leave wellFormed).1 earlier)
    · exact .inr ⟨record, among, Profile.eq_withId_of_unnumbered looks⟩
  · have after : (manager.leave tenant).loadSection.dismissed =
        (((manager.leave tenant).opened answer).persist true).dismissed := congrArg Books.dismissed (books_loadSection reading)
    have opened : ((manager.leave tenant).opened answer).dismissed = SortedMap.empty.union answer.dismissed :=
      congrArg Books.dismissed (books_opened (manager.leave tenant) answer)
    rw [after, persist_eq, opened, SortedMap.empty_union]

theorem aside_run {operations : List Operation} (sound : manager.books.Sound) (ordinary : manager.Along Ordinary operations)
    (stays : ∀ operation ∈ operations, operation.StaysAway tenant) (aside : manager.books.Aside tenant found) :
    (manager.run operations).books.Aside tenant found := by
  induction operations generalizing manager with
  | nil => exact aside
  | cons operation rest ih =>
      obtain ⟨now, later⟩ := ordinary
      have away := stays operation (List.mem_cons_self ..)
      exact ih (sound_perform sound now.room) later (fun other among => stays other (List.mem_cons_of_mem _ among))
        (aside_perform sound.wellFormed now.ours away aside)

theorem hasShared_run {operations : List Operation} (sound : manager.books.Sound)
    (ordinary : manager.Along Ordinary operations)
    (stays : ∀ operation ∈ operations, operation ≠ .load ∧ operation ≠ .restart)
    (kept : manager.Along (fun manager operation => ¬ manager.takesOut operation id) operations)
    (has : manager.books.HasShared id) : (manager.run operations).books.HasShared id := by
  induction operations generalizing manager with
  | nil => exact has
  | cons operation rest ih =>
      obtain ⟨now, later⟩ := ordinary
      obtain ⟨unread, goes⟩ := stays operation (List.mem_cons_self ..)
      exact ih (sound_perform sound now.room) later (fun other among => stays other (List.mem_cons_of_mem _ among)) kept.2
        (hasShared_perform sound now.room.taking now.ours unread goes kept.1 has)

theorem returnsPrivate_along {operations : List Operation} (reached : manager.Reachable)
    (ordinary : manager.Along Ordinary operations) :
    manager.Along (fun manager operation => ∀ target, operation = .switchTenant target → target ≠ manager.tenant →
      manager.ReturnsPrivate target) operations := by
  induction operations generalizing manager with
  | nil => trivial
  | cons operation rest ih =>
      obtain ⟨now, later⟩ := ordinary
      exact ⟨fun _ _ different => returnsPrivate reached.sound.wellFormed reached.idle different,
        ih (reached.perform now.room) later⟩

/-- The private profiles that a save of the current tenant's section writes. -/
theorem mem_sections_tenant {profile : Profile} : profile ∈ manager.sections.tenant.profiles ↔
    profile ∈ manager.roster.all ∧ profile.IsPrivateOf manager.tenant := by
  have listed : profile ∈ manager.sections.tenant.profiles ↔
      (profile ∈ manager.roster.all ∧ profile.isSaved = true) ∧ manager.belongsToShared profile = false := by
    simp only [sections, List.mem_filter, Bool.not_eq_true']
  have belongs : manager.belongsToShared profile = (profile.shared || !profile.creator.uid.inTenant manager.tenant) := rfl
  rw [listed, belongs, Profile.IsPrivateOf, Bool.or_eq_false_iff, Bool.not_eq_false', and_assoc]

theorem mem_profiles_of_alike (alike : found.Alike manager.sections.persisted.tenant) {record : Profile} :
    record ∈ found.profiles ↔
      ∃ old ∈ manager.roster.all, old.IsPrivateOf manager.tenant ∧ record = old.persisted := by
  have listed : record ∈ manager.sections.persisted.tenant.profiles ↔
      ∃ old ∈ manager.sections.tenant.profiles, old.persisted = record := List.mem_map
  rw [alike.profiles.mem_iff, listed]
  constructor
  · rintro ⟨old, written, rfl⟩
    obtain ⟨present, ours⟩ := mem_sections_tenant.1 written
    exact ⟨old, present, ours, rfl⟩
  · rintro ⟨old, present, ours, rfl⟩
    exact ⟨old, mem_sections_tenant.2 ⟨present, ours⟩, rfl⟩

theorem nodup_keys_of_alike (wellFormed : manager.roster.WellFormed)
    (alike : found.Alike manager.sections.persisted.tenant) : (found.profiles.map Profile.key).Nodup := by
  have same : manager.sections.persisted.tenant.profiles.map Profile.key =
      manager.sections.tenant.profiles.map Profile.key := List.map_map
  exact (alike.profiles.map Profile.key).nodup_iff.2 (same ▸ (keysDistinct_sections wellFormed).tenant)

/-- A tenant is left, others are at work, and it comes back. -/
def roundTrip (tenant other : Tenant) (operations : List Operation) : List Operation :=
  (.switchTenant other :: operations) ++ [.switchTenant tenant]

/-- The manager before the tenant comes back. -/
def awayAt (manager : Manager) (other : Tenant) (operations : List Operation) : Manager :=
  manager.run (.switchTenant other :: operations)

/-- The manager when the tenant is back. -/
def backAfter (manager : Manager) (other : Tenant) (operations : List Operation) : Manager :=
  manager.run (roundTrip manager.tenant other operations)

/-- A tenant that is unlocked and in memory is left for another one, and comes back to a section that can be read, with
nobody holding the key of one of its private profiles. -/
structure ComesBack (manager : Manager) (other : Tenant) (operations : List Operation) : Prop where
  reached : manager.Reachable
  unlocked : manager.platform.isUnlocked manager.tenant = true
  read : manager.awaitsStore = false
  loaded : manager.awaitsUnlock = false
  different : other ≠ manager.tenant
  ordinary : manager.Along Ordinary (roundTrip manager.tenant other operations)
  stays : ∀ operation ∈ operations, operation.StaysAway manager.tenant
  still : (manager.awayAt other operations).platform.isUnlocked manager.tenant = true
  free : ∀ old ∈ manager.roster.all, old.IsPrivateOf manager.tenant →
    ∀ profile ∈ (manager.awayAt other operations).roster.all, profile.key ≠ old.key
  answered : ((manager.awayAt other operations).putAway.store.readTenant manager.tenant).2.isOk = true

namespace ComesBack

variable {other : Tenant} {operations : List Operation}

theorem away_ordinary (trip : manager.ComesBack other operations) :
    manager.Along Ordinary (.switchTenant other :: operations) := (along_append.1 trip.ordinary).1

theorem away_reached (trip : manager.ComesBack other operations) : (manager.awayAt other operations).Reachable :=
  trip.reached.run trip.away_ordinary

theorem exists_answer (trip : manager.ComesBack other operations) :
    ∃ answer, ((manager.awayAt other operations).putAway.store.readTenant manager.tenant).2 = .ok answer := by
  have answered := trip.answered
  cases reading : ((manager.awayAt other operations).putAway.store.readTenant manager.tenant).2 with
  | ok answer => exact ⟨answer, rfl⟩
  | error failure =>
      rw [reading] at answered
      cases answered

/-- Nothing between the two switches touches the section, and the second one reads it. -/
theorem returned (trip : manager.ComesBack other operations) (accepts : manager.store.acceptsWrites = true) :
    ∃ found, found.Alike manager.sections.persisted.tenant ∧
      Returned manager.tenant found (manager.awayAt other operations) (manager.backAfter other operations) := by
  have wellFormed := trip.reached.sound.wellFormed
  obtain ⟨found, put, alike⟩ := aside_of_leaving wellFormed trip.unlocked trip.read trip.loaded accepts trip.different
  have switched := trip.away_ordinary.1
  have left : (manager.switchTenant other).1.books.Sound := sound_perform trip.reached.sound switched.room
  have aside : ((manager.switchTenant other).1.run operations).books.Aside manager.tenant found :=
    aside_run left trip.away_ordinary.2 trip.stays put
  have last : Ordinary (manager.awayAt other operations) (.switchTenant manager.tenant) :=
    (along_append.1 trip.ordinary).2.1
  obtain ⟨answer, answered⟩ := trip.exists_answer
  have whole : manager.backAfter other operations =
      ((manager.awayAt other operations).switchTenant manager.tenant).1 := run_append ..
  rw [whole]
  exact ⟨found, alike, returned_of_aside trip.away_reached.sound last.room aside (nodup_keys_of_alike wellFormed alike)
    trip.still answered⟩

theorem unread (trip : manager.ComesBack other operations) :
    ∀ operation ∈ roundTrip manager.tenant other operations, operation ≠ .load ∧ operation ≠ .restart := by
  intro operation among
  rcases List.mem_append.1 among with before | last
  · rcases List.mem_cons.1 before with rfl | within
    · exact ⟨by simp, by simp⟩
    · exact ⟨(trip.stays operation within).1, (trip.stays operation within).2.1⟩
  · obtain rfl := List.mem_singleton.1 last
    exact ⟨by simp, by simp⟩

/-- A shared profile that nobody takes out stays from any point of the trip on. -/
theorem hasShared (trip : manager.ComesBack other operations) {earlier later : List Operation}
    (split : roundTrip manager.tenant other operations = earlier ++ later)
    (kept : (manager.run earlier).Along (fun manager operation => ¬ manager.takesOut operation id) later)
    (has : (manager.run earlier).books.HasShared id) : (manager.backAfter other operations).books.HasShared id := by
  have ordinary : manager.Along Ordinary (earlier ++ later) := split ▸ trip.ordinary
  obtain ⟨first, rest⟩ := along_append.1 ordinary
  rw [backAfter, split, run_append]
  refine hasShared_run (trip.reached.run first).sound rest (fun operation among => ?_) kept has
  exact trip.unread operation (split ▸ List.mem_append_right earlier among)

end ComesBack

/-- If the store takes the write when the tenant is left, the tenant finds its saved private profiles and its dismissals
again as they were, whatever others did in between. It finds no other private profile, unless one was in memory
before, hidden from the tenant in the foreground, which never is in a run from an empty store. Shared profiles are
still there unless they were taken out, and every switch returns the ids of the private profiles of the tenant that it
leaves. -/
theorem restored_backAfter {other : Tenant} {operations : List Operation} (trip : manager.ComesBack other operations)
    (accepts : manager.store.acceptsWrites = true) :
    (∀ old ∈ manager.roster.all, old.IsPrivateOf manager.tenant →
        ∃ new ∈ (manager.backAfter other operations).roster.all, new = old.persisted.withId new.id) ∧
      (∀ new ∈ (manager.backAfter other operations).roster.all, new.shared = false →
        new.creator.uid.inTenant manager.tenant = true →
          (∃ old ∈ manager.roster.all, old.IsPrivateOf manager.tenant ∧ new = old.persisted.withId new.id) ∨
            new ∈ (manager.awayAt other operations).roster.all ∧
              (manager.awayAt other operations).roster.isVisible new = false) ∧
      (manager.ReachableAlone → ∀ profile ∈ (manager.awayAt other operations).roster.all,
        (manager.awayAt other operations).roster.isVisible profile = true) ∧
      (manager.backAfter other operations).dismissed = manager.dismissed ∧
      (∀ earlier later, roundTrip manager.tenant other operations = earlier ++ later →
        ∀ profile ∈ (manager.run earlier).roster.all, profile.shared = true →
          (manager.run earlier).Along (fun manager operation => ¬ manager.takesOut operation profile.id) later →
          ∃ kept ∈ (manager.backAfter other operations).roster.all, kept.id = profile.id ∧ kept.shared = true) ∧
      manager.Along (fun manager operation => ∀ target, operation = .switchTenant target → target ≠ manager.tenant →
        manager.ReturnsPrivate target) (roundTrip manager.tenant other operations) := by
  obtain ⟨found, alike, returned⟩ := trip.returned accepts
  refine ⟨fun old present ours => ?_, fun new present unshared ours => ?_, fun alone => (alone.run trip.away_ordinary).placed.seen,
    returned.dismissed.trans alike.dismissed, fun earlier later split profile present shared kept => ?_,
    returnsPrivate_along trip.reached trip.ordinary⟩
  · exact returned.forth old.persisted ((mem_profiles_of_alike alike).2 ⟨old, present, ours, rfl⟩) (trip.free old present ours)
  · rcases returned.back new present with ⟨earlier, belongs⟩ | ⟨record, among, same⟩
    · refine .inr ⟨earlier, ?_⟩
      rw [Books.belongsToShared, unshared, Bool.false_or, Bool.not_eq_true'] at belongs
      rw [Roster.isVisible, Profile.visibleTo, unshared, Bool.false_or]
      exact belongs
    · obtain ⟨old, present, fits, rfl⟩ := (mem_profiles_of_alike alike).1 among
      exact .inl ⟨old, present, fits, same⟩
  · exact trip.hasShared split kept ⟨profile, present, rfl, shared⟩

/-- A private network of the tenant of the start, added while the store takes writes or while it fails to. -/
def withHome (failing : Bool) : Manager :=
  onEmptyStore.run
    [.load, .change (.unlock 1), .change (.failWrites failing),
      .addOrUpdate { Draft.psk "Home" "password" with shared := false } ⟨Uid.system, "android"⟩]

theorem comesBack_withHome : (withHome false).ComesBack 1 [] where
  reached := (reachableAlone_onEmptyStore.run (by decide)).reachable
  unlocked := by decide
  read := by decide
  loaded := by decide
  different := by decide
  ordinary := by decide
  stays := fun _ among => absurd among List.not_mem_nil
  still := by decide
  free := by decide
  answered := by decide

/-- The other tenant adds a private network and one for all, enables one and writes. -/
def workAway : List Operation :=
  [.addOrUpdate { Draft.psk "Attic" "password" with shared := false } ⟨110001, "guest"⟩,
    .addOrUpdate (.psk "Lobby" "password") ⟨110001, "guest"⟩, .enable ⟨1⟩ true ⟨110001, "guest"⟩, .save true]

theorem comesBack_workAway : (withHome false).ComesBack 1 workAway where
  reached := comesBack_withHome.reached
  unlocked := by decide
  read := by decide
  loaded := by decide
  different := by decide
  ordinary := by decide
  stays := by
    unfold workAway
    simp [Operation.StaysAway]
  still := by decide
  free := by decide
  answered := by decide

theorem restored_withHome :
    (∃ guest ∈ ((withHome false).awayAt 1 workAway).roster.all, guest.IsPrivateOf 1 ∧
      guest ∉ ((withHome false).backAfter 1 workAway).roster.all) ∧
    (∃ lobby ∈ ((withHome false).backAfter 1 workAway).roster.all, lobby.ssid = "Lobby" ∧ lobby.shared = true) ∧
    (∃ old ∈ (withHome false).roster.all, old.IsPrivateOf (withHome false).tenant) ∧
    ∀ old ∈ (withHome false).roster.all, old.IsPrivateOf (withHome false).tenant →
      ∃ new ∈ ((withHome false).backAfter 1 workAway).roster.all, new = old.persisted.withId new.id :=
  ⟨by decide, by decide, by decide, (restored_backAfter comesBack_workAway (by decide)).1⟩

/-- Somebody else writes a private network of the first tenant into the section of another one. -/
def withStray : Manager :=
  ((withHome false).perform (.change (.write (some 1)
    ⟨[], ⟨[.ofDraft { Draft.psk "Stray" "wandering" with shared := false } "Stray" .psk ⟨10001, "stray"⟩ ""], .empty⟩, .empty⟩))).1

theorem comesBack_failedWrite : (withHome true).ComesBack 1 [.change (.failWrites false)] where
  reached := (reachableAlone_onEmptyStore.run (by decide)).reachable
  unlocked := by decide
  read := by decide
  loaded := by decide
  different := by decide
  ordinary := by decide
  stays := fun operation among => by
    obtain rfl := List.mem_singleton.1 among
    exact ⟨nofun, nofun, nofun⟩
  still := by decide
  free := by decide
  answered := by decide

theorem comesBack_withStray : withStray.ComesBack 1 [] where
  reached := comesBack_withHome.reached.perform (by decide)
  unlocked := by decide
  read := by decide
  loaded := by decide
  different := by decide
  ordinary := by decide
  stays := fun _ among => absurd among List.not_mem_nil
  still := by decide
  free := by decide
  answered := by decide

/-- A private profile is lost if the store refuses the write when its tenant is left, and one more is found if the
section of the other tenant has one. -/
theorem not_restored_backAfter :
    ((withHome true).ComesBack 1 [.change (.failWrites false)] ∧
      ∃ old ∈ (withHome true).roster.all, old.IsPrivateOf (withHome true).tenant ∧
        ∀ new ∈ ((withHome true).backAfter 1 [.change (.failWrites false)]).roster.all, new ≠ old.persisted.withId new.id) ∧
      withStray.ComesBack 1 [] ∧ ∃ new ∈ (withStray.backAfter 1 []).roster.all, new.shared = false ∧
        new.creator.uid.inTenant withStray.tenant = true ∧
        ∀ old ∈ withStray.roster.all, new ≠ old.persisted.withId new.id :=
  ⟨⟨comesBack_failedWrite, by decide⟩, comesBack_withStray, by decide⟩

end Manager

end SavedNetworks
