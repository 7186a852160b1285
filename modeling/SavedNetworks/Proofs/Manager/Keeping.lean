import SavedNetworks.Proofs.Manager.FailedReads
import SavedNetworks.Proofs.Store.Records

/-!
How a network in the section of a tenant stays stored from one operation to the next: in the section, while
writes pass over it, or by a profile in memory that every write puts there or into the shared section.
-/

namespace SavedNetworks

namespace Books

variable {books before after : Books} {given record : Profile} {tenant : Tenant}

/-- The given profile is in memory, whatever was noted on it since. -/
def Has (given : Profile) (books : Books) : Prop := ∃ profile ∈ books.roster.all, profile.frame = given.frame

namespace Has

theorem of_through (has : before.Has given)
    (same : after.roster.through Profile.frame = before.roster.through Profile.frame) : after.Has given := by
  obtain ⟨profile, present, framed⟩ := has
  obtain ⟨later, among, looks⟩ := Roster.mem_of_through same.symm present
  exact ⟨later, among, looks.trans framed⟩

theorem step {move : Move} (taken : Step move before after) (sound : before.Sound) (undropped : move ≠ .drop given.id)
    (unchanged : move ≠ .update given.id) (has : before.Has given) : after.Has given := by
  have wellFormed := sound.wellFormed
  cases taken with
  | note outlines => exact has.of_through (Roster.frame_of_outline outlines)
  | relink rule caches id => exact has.of_through (Roster.through_reconsider rule before.roster caches id)
  | dismiss | forgive | write | settle | skip => exact has
  | @drop _ id profile found =>
      obtain ⟨kept, present, framed⟩ := has
      have named := (Roster.keepsName_frame.same framed).1
      have apart : kept.id ≠ id := fun same => undropped (by rw [← named, same])
      exact ⟨_, wellFormed.mem_drop.2 ⟨kept, present, apart, rfl⟩, (Roster.frame_released ..).trans framed⟩
  | @add _ profile _ read room fresh unlinked owned stored =>
      obtain ⟨kept, present, framed⟩ := has
      exact ⟨kept, (wellFormed.mem_put stored).2 (.inr ⟨present, sound.ne_of_fresh fresh present⟩), framed⟩
  | @update _ current profile _ found shared creator saved stored =>
      obtain ⟨kept, present, framed⟩ := has
      have named := (Roster.keepsName_frame.same framed).1
      have apart : kept.id ≠ profile.id := fun same => unchanged (by rw [← named, same])
      exact ⟨kept, (wellFormed.mem_put stored).2 (.inr ⟨present, apart⟩), framed⟩

theorem standsIn (has : books.Has given) (good : given.StandsIn record) :
    ∃ profile ∈ books.roster.all, profile.StandsIn record ∧ profile.shared = given.shared ∧
      profile.creator = given.creator := by
  obtain ⟨profile, present, framed⟩ := has
  have bare := Profile.bare_of_frame framed
  exact ⟨profile, present, good.of_bare bare, Profile.owner_of_bare bare⟩

end Has

theorem holdsShared_write (sound : books.Sound) (has : books.Has given) (good : given.StandsIn record)
    (shared : given.shared = true) (accepts : books.store.acceptsWrites = true) (addresses : SortedMap String String)
    (force : Bool) :
    (books.store.write books.writtenTenant (books.sections addresses) force).1.HoldsShared record := by
  obtain ⟨profile, present, stands, common, _⟩ := has.standsIn good
  have belongs : books.belongsToShared profile = true := by
    rw [belongsToShared, common, shared, Bool.true_or]
  have written : profile ∈ (books.sections addresses).shared :=
    List.mem_filter.2 ⟨List.mem_filter.2 ⟨present, stands.saved⟩, belongs⟩
  have among : ∀ {other}, other ∈ (books.sections addresses).shared → other ∈ books.roster.all := fun listed =>
    (List.mem_filter.1 (List.mem_filter.1 listed).1).1
  have stored := Store.storedShared_write books.store books.writtenTenant (books.sections addresses) force
  rw [if_pos accepts] at stored
  refine ⟨⟨profile.persisted, ?_, stands.key⟩, fun other found named => ?_⟩
  · rw [stored]
    refine Store.among_rendition_of_mem written fun other listed same => ?_
    exact sound.wellFormed.eq_of_key (among listed) present (congrArg ProfileKey.mk same)
  · rw [stored] at found
    obtain ⟨one, listed, rfl⟩ := Store.among_rendition found
    obtain rfl := sound.wellFormed.eq_of_key (among listed) present (Eq.trans named stands.key.symm)
    exact ⟨common.trans shared, stands.of_bare rfl⟩

theorem holdsPrivately_write (sound : books.Sound) (has : books.Has given) (good : given.StandsIn record)
    (owned : given.shared = false ∧ given.creator.uid.inTenant books.roster.tenant = true)
    (loaded : books.awaitsUnlock = false) (accepts : books.store.acceptsWrites = true)
    (addresses : SortedMap String String) (force : Bool) :
    (books.store.write books.writtenTenant (books.sections addresses) force).1.HoldsPrivately books.roster.tenant
      record := by
  obtain ⟨profile, present, stands, shared, creator⟩ := has.standsIn good
  have ours : books.belongsToShared profile = false := by
    rw [belongsToShared, shared, creator, owned.1, owned.2]
    rfl
  have written : profile ∈ (books.sections addresses).tenant.profiles :=
    List.mem_filter.2 ⟨List.mem_filter.2 ⟨present, stands.saved⟩, by rw [ours]; rfl⟩
  have among : ∀ {other}, other ∈ (books.sections addresses).tenant.profiles → other ∈ books.roster.all := fun listed =>
    (List.mem_filter.1 (List.mem_filter.1 listed).1).1
  have named : books.writtenTenant = some books.roster.tenant := if_neg (ne_true_of_eq_false loaded)
  have kept : profile.persisted.StandsIn record := stands.of_bare rfl
  refine ⟨profile.persisted, ?_, kept.same⟩
  rw [Store.storedSection_write, if_pos ⟨accepts, named⟩]
  refine Store.among_rendition_of_mem written fun other listed same => ?_
  have keys := (StoreFile.tenantKey_injective same).2
  exact sound.wellFormed.eq_of_key (among listed) present (congrArg ProfileKey.mk keys)

/-- A shared profile in memory stands in for the record, which is still stored. -/
structure Common (tenant : Tenant) (record given : Profile) (books : Books) : Prop where
  has : books.Has given
  good : given.StandsIn record
  shared : given.shared = true
  held : books.store.HoldsPrivately tenant record ∨ books.store.HoldsShared record

/-- A private profile in memory does, and the section of the tenant is the one that writes replace. -/
structure Owned (tenant : Tenant) (record given : Profile) (books : Books) : Prop where
  current : books.roster.tenant = tenant
  read : books.awaitsStore = false
  loaded : books.awaitsUnlock = false
  has : books.Has given
  good : given.StandsIn record
  owned : given.shared = false ∧ given.creator.uid.inTenant tenant = true
  held : books.store.HoldsPrivately tenant record

theorem Common.of_same (common : before.Common tenant record given) (has : after.Has given)
    (same : after.store.SameContents before.store) : after.Common tenant record given :=
  ⟨has, common.good, common.shared, common.held.imp (·.of_section (same.sections tenant)) (·.of_shared same.shared)⟩

theorem Common.step {move : Move} (taken : Step move before after) (sound : before.Sound) (undropped : move ≠ .drop given.id)
    (unchanged : move ≠ .update given.id) (common : before.Common tenant record given) :
    after.Common tenant record given := by
  have has := common.has.step taken sound undropped unchanged
  rcases taken.write_or_same with ⟨_, addresses, force, rfl⟩ | same
  · refine ⟨has, common.good, common.shared, ?_⟩
    by_cases accepts : before.store.acceptsWrites = true
    · exact .inr (holdsShared_write sound common.has common.good common.shared accepts addresses force)
    · refine common.held.imp (·.of_section ?_) (·.of_shared ?_)
      · rw [Store.storedSection_write, if_neg fun both => accepts both.1]
      · rw [Store.storedShared_write, if_neg accepts]
  · exact common.of_same has same

theorem Owned.step {move : Move} (taken : Step move before after) (sound : before.Sound) (undropped : move ≠ .drop given.id)
    (unchanged : move ≠ .update given.id) (owned : before.Owned tenant record given) : after.Owned tenant record given := by
  obtain ⟨current, read, unlock⟩ := taken.flags
  refine ⟨current.trans owned.current, read.trans owned.read, unlock.trans owned.loaded,
    owned.has.step taken sound undropped unchanged, owned.good, owned.owned, ?_⟩
  rcases taken.write_or_same with ⟨_, addresses, force, rfl⟩ | same
  · by_cases accepts : before.store.acceptsWrites = true
    · have ours := owned.owned
      rw [← owned.current] at ours ⊢
      exact holdsPrivately_write sound owned.has owned.good ours owned.loaded accepts addresses force
    · refine owned.held.of_section ?_
      rw [Store.storedSection_write, if_neg fun both => accepts both.1]
  · exact owned.held.of_section (same.sections tenant)

/-- The ways in which a record of the section of a tenant stays stored. -/
inductive Keeps (tenant : Tenant) (record : Profile) (books : Books) : Prop where
  /-- The section has it, and writes pass over the section. -/
  | aside (guarded : books.roster.tenant = tenant → books.awaitsUnlock = true ∨ books.awaitsStore = true)
    (held : books.store.HoldsPrivately tenant record)
  | owned (given : Profile) (owned : books.Owned tenant record given)
  | common (given : Profile) (common : books.Common tenant record given)
  /-- The shared section has it, and nothing is written before it is read. -/
  | unread (unread : books.awaitsStore = true) (held : books.store.HoldsShared record)

theorem Keeps.holds (keeps : books.Keeps tenant record) : books.store.Holds tenant record := by
  cases keeps with
  | aside _ held => exact held.holds
  | owned given owned => exact owned.held.holds
  | common given common => exact common.held.elim (·.holds) (·.holds)
  | unread _ held => exact held.holds

end Books

theorem Moves.of_writes {first last : Books} {property : Books → Prop}
    (keeps : ∀ before after, Step .write before after → before.Sound → property before → property after)
    (moves : Moves (· = .write) first last) (sound : first.Sound) (holds : property first) : property last := by
  have step : ∀ move before after, move = .write → Step move before after → before.Sound ∧ property before →
      after.Sound ∧ property after := by
    rintro move before after rfl taken ⟨sound, holds⟩
    exact ⟨sound.step taken, keeps before after taken sound holds⟩
  exact (moves.invariant step ⟨sound, holds⟩).2

namespace Manager

variable {manager : Manager} {operation : Operation} {operations : List Operation} {tenant : Tenant}
  {record given : Profile}

/-- An operation that does not take in the section of the tenant, does not stop the tenant, and takes out or
updates no profile with the key that the tenant sees. -/
structure Spares (tenant : Tenant) (key : ProfileKey) (manager : Manager) (operation : Operation) : Prop extends
    Careful tenant manager operation where
  running : operation ≠ .stopTenant tenant
  spared : ∀ profile ∈ manager.roster.all, profile.key = key → profile.shared = true ∨ manager.tenant = tenant →
    ¬ manager.removes operation profile.id ∧ ¬ manager.updates operation profile.id

theorem writes_persist (manager : Manager) (force : Bool) :
    Moves (· = .write) manager.books (manager.persist force).books := by
  refine moves_persist ?_ manager force
  rfl

theorem common_persist (sound : manager.books.Sound) (common : manager.books.Common tenant record given) (force : Bool) :
    (manager.persist force).books.Common tenant record given :=
  (manager.writes_persist force).of_writes (fun _ _ taken sound common => common.step taken sound nofun nofun) sound common

theorem owned_persist (sound : manager.books.Sound) (owned : manager.books.Owned tenant record given) (force : Bool) :
    (manager.persist force).books.Owned tenant record given :=
  (manager.writes_persist force).of_writes (fun _ _ taken sound owned => owned.step taken sound nofun nofun) sound owned

theorem common_clearTenant (sound : manager.books.Sound) (common : manager.books.Common tenant record given) :
    manager.clearTenant.books.Common tenant record given := by
  obtain ⟨profile, present, framed⟩ := common.has
  have shared := (Profile.owner_of_bare (Profile.bare_of_frame framed)).1.trans common.shared
  have kept := (mem_clearTenant sound.wellFormed).2 ⟨present, Books.belongsToShared_of_shared shared⟩
  exact common.of_same ⟨profile, kept, framed⟩ (.refl _)

theorem common_putAway (sound : manager.books.Sound) (common : manager.books.Common tenant record given) :
    manager.putAway.books.Common tenant record given := by
  unfold putAway
  split
  · exact common_persist sound common true
  · exact common

theorem common_loadSection (sound : manager.books.Sound)
    (room : manager.nextId.toNat + (manager.sectionOf manager.tenant).length < UInt32.size)
    (common : manager.books.Common tenant record given) : manager.loadSection.books.Common tenant record given := by
  have same := manager.store.sameContents_readTenant manager.tenant
  cases read : (manager.store.readTenant manager.tenant).2 with
  | error failure =>
      rw [loadSection_of_error read]
      exact common.of_same common.has same
  | ok tenantSection =>
      simp only [sectionOf, read] at room
      rw [books_loadSection read]
      have opened : (manager.opened tenantSection).books.Sound ∧
          (manager.opened tenantSection).books.Common tenant record given := by
        obtain ⟨profile, present, framed⟩ := common.has
        rw [books_opened]
        exact ⟨(sound_insertAll sound room).of_same rfl rfl,
          common.of_same ⟨profile, mem_insertAll_of_mem sound room present, framed⟩ same⟩
      exact common_persist opened.1 opened.2 true

/-- The holders of keys after a load are the first records with those keys. -/
theorem holder?_load {data : StoreData} (read : (manager.store.read manager.tenant).2 = .ok data) (room : manager.HasRoom .load)
    (key : ProfileKey) :
    (manager.load.1.roster.holder? key).map Profile.bare =
      ((data.loaded (manager.unlockDeferred || manager.platform.isUnlocked manager.tenant)).find? (·.key = key)).map
        Profile.bare := by
  simp only [HasRoom, idsFor, read] at room
  rw [load_of_ok read]
  generalize (manager.unlockDeferred || manager.platform.isUnlocked manager.tenant) = withSection
  generalize reading : ({ manager with store := (manager.store.read manager.tenant).1, unlockDeferred := false } : Manager) =
    reader
  have ids : reader.nextId = manager.nextId := by rw [← reading]
  obtain ⟨roster, books, outlines⟩ := books_replaceMemory reader data withSection
  have same : (reader.replaceMemory data withSection).roster = roster := congrArg Books.roster books
  have looks := congrArg (Option.map fun one : Profile => { one with id := .unset, linked := .empty })
    (Roster.holder?_of_through outlines key)
  have first := congrArg (Option.map Profile.frame)
    (holder?_insertAll (sound_clearMemory reader) (room_loaded (ids ▸ room) withSection) key)
  rw [Option.map_map, Option.map_map] at looks first
  rw [same]
  exact looks.trans first

theorem sameContents_load (manager : Manager) : manager.load.1.store.SameContents manager.store := by
  have same := manager.store.sameContents_read manager.tenant
  cases read : (manager.store.read manager.tenant).2 with
  | error failure =>
      rw [load_of_error read]
      exact same
  | ok data =>
      rw [load_of_ok read]
      generalize (manager.unlockDeferred || manager.platform.isUnlocked manager.tenant) = withSection
      generalize reading : ({ manager with store := (manager.store.read manager.tenant).1, unlockDeferred := false } :
        Manager) = reader
      obtain ⟨roster, books, _⟩ := books_replaceMemory reader data withSection
      rw [books_filled] at books
      have store : (reader.replaceMemory data withSection).store = reader.store := congrArg Books.store books
      rw [store, ← reading]
      exact same

theorem common_load (sound : manager.books.Sound) (room : manager.HasRoom .load) {data : StoreData}
    (read : (manager.store.read manager.tenant).2 = .ok data) (held : manager.store.HoldsShared record) :
    ∃ given, manager.load.1.books.Common tenant record given := by
  obtain ⟨profile, among, named⟩ := held.listed
  have listed : (data.shared.find? (·.key = record.key)).isSome = true :=
    List.find?_isSome.2 ⟨profile, (Store.among_of_read read).1.1 among, by simpa using named⟩
  obtain ⟨first, found⟩ := Option.isSome_iff_exists.1 listed
  obtain ⟨shared, good⟩ := held.good first ((Store.among_of_read read).1.2 (List.mem_of_find?_eq_some found))
    (by simpa using List.find?_some found)
  have holder := holder?_load read room record.key
  rw [StoreData.loaded, List.find?_append, found, Option.some_or, Option.map_some, Option.map_eq_some_iff] at holder
  obtain ⟨later, holds, bare⟩ := holder
  have wellFormed : manager.load.1.roster.WellFormed := (sound_load sound room.taking).wellFormed
  exact ⟨later, ⟨later, (wellFormed.holder?_eq_some_iff.1 holds).1, rfl⟩, good.of_bare bare,
    (Profile.owner_of_bare bare).1.trans shared, .inr (held.of_shared manager.sameContents_load.shared)⟩

theorem aside_load {data : StoreData} (read : (manager.store.read manager.tenant).2 = .ok data)
    (unread : ∀ tenantSection, manager.sectionRead? tenant .load ≠ some (.ok tenantSection))
    (held : manager.store.HoldsPrivately tenant record) : manager.load.1.books.Keeps tenant record := by
  have aside := unharmed_load_of_ok rfl read unread
  exact .aside aside.guarded (held.of_section aside.kept)

theorem keeps_restart (held : manager.store.HoldsPrivately tenant record ∨ manager.store.HoldsShared record) :
    manager.restart.books.Keeps tenant record := by
  have same := Store.sameContents_reopen manager.store
  rcases held with aside | shared
  · exact .aside (fun _ => .inr rfl) (aside.of_section (same.sections tenant))
  · exact .unread rfl (shared.of_shared same.shared)

namespace Spares

theorem untouched (wellFormed : manager.roster.WellFormed) (spares : manager.Spares tenant record.key operation) (has : manager.books.Has given)
    (good : given.StandsIn record) (seen : given.shared = true ∨ manager.tenant = tenant) {move : Move}
    (permitted : manager.permits operation move) : move ≠ .drop given.id ∧ move ≠ .update given.id := by
  obtain ⟨profile, present, framed⟩ := has
  have bare := Profile.bare_of_frame framed
  have named := (Roster.keepsName_frame.same framed).1
  have visible : profile.shared = true ∨ manager.tenant = tenant := by
    rw [(Profile.owner_of_bare bare).1]
    exact seen
  obtain ⟨undropped, unchanged⟩ := spares.spared profile present (good.of_bare bare).key visible
  rw [named] at undropped unchanged
  constructor
  · rintro rfl
    exact undropped (removes_of_takesOut wellFormed permitted)
  · rintro rfl
    exact unchanged permitted

end Spares

theorem owned_perform (sound : manager.books.Sound) (spares : manager.Spares tenant record.key operation)
    (stays : operation.followsTenants = false) (owned : manager.books.Owned tenant record given) :
    (manager.perform operation).1.books.Owned tenant record given := by
  have step : ∀ move before after, manager.permits operation move → Step move before after →
      before.Sound ∧ before.Owned tenant record given → after.Sound ∧ after.Owned tenant record given := by
    rintro move before after permitted taken ⟨valid, kept⟩
    obtain ⟨undropped, unchanged⟩ := spares.untouched sound.wellFormed owned.has owned.good (.inr owned.current) permitted
    exact ⟨valid.step taken, kept.step taken valid undropped unchanged⟩
  exact ((moves_perform sound.wellFormed spares.room.taking stays spares.ours).invariant step ⟨sound, owned⟩).2

theorem common_perform (sound : manager.books.Sound) (spares : manager.Spares tenant record.key operation)
    (stays : operation.followsTenants = false) (common : manager.books.Common tenant record given) :
    (manager.perform operation).1.books.Common tenant record given := by
  have step : ∀ move before after, manager.permits operation move → Step move before after →
      before.Sound ∧ before.Common tenant record given → after.Sound ∧ after.Common tenant record given := by
    rintro move before after permitted taken ⟨valid, kept⟩
    obtain ⟨undropped, unchanged⟩ := spares.untouched sound.wellFormed common.has common.good (.inl common.shared) permitted
    exact ⟨valid.step taken, kept.step taken valid undropped unchanged⟩
  exact ((moves_perform sound.wellFormed spares.room.taking stays spares.ours).invariant step ⟨sound, common⟩).2

theorem unread_perform (sound : manager.books.Sound) (ordinary : manager.Ordinary operation)
    (stays : operation.followsTenants = false) (unread : manager.awaitsStore = true)
    (held : manager.store.HoldsShared record) :
    (manager.perform operation).1.awaitsStore = true ∧ (manager.perform operation).1.store.HoldsShared record := by
  have step : ∀ move before after, manager.permits operation move → Step move before after →
      before.awaitsStore = true ∧ before.store.HoldsShared record →
      after.awaitsStore = true ∧ after.store.HoldsShared record := by
    rintro move before after _ taken ⟨unread, held⟩
    refine ⟨taken.flags.2.1.trans unread, ?_⟩
    rcases taken.write_or_same with ⟨read, _⟩ | same
    · cases read.symm.trans unread
    · exact held.of_shared same.shared
  exact (moves_perform sound.wellFormed ordinary.room.taking stays ordinary.ours).invariant step ⟨unread, held⟩

theorem keeps_switchTenant_of_owned (sound : manager.books.Sound) {target : Tenant}
    (owned : manager.books.Owned tenant record given) : (manager.switchTenant target).1.books.Keeps tenant record := by
  have away : manager.putAway.store.HoldsPrivately tenant record := by
    unfold putAway
    split
    · exact (owned_persist sound owned true).held
    · exact owned.held
  have current : manager.tenant = tenant := owned.current
  obtain ⟨_, switched⟩ | ⟨_, unread, _⟩ | ⟨different, _, _, switched⟩ | ⟨_, _, _, switched⟩ :=
    manager.switchTenant_cases target
  · rw [switched]
    exact .owned given owned
  · cases owned.read.symm.trans unread
  · have elsewhere : (manager.leave target).tenant ≠ tenant := fun here => different (here.trans current.symm)
    have unharmed : (manager.leave target).books.Unharmed tenant (manager.putAway.store.storedSection tenant) :=
      ⟨fun here => absurd here elsewhere, rfl⟩
    have aside := unharmed_loadSection unharmed elsewhere
    rw [switched]
    exact .aside aside.guarded (away.of_section aside.kept)
  · rw [switched]
    exact .aside (fun _ => .inl rfl) away

theorem common_leave (sound : manager.books.Sound) (common : manager.books.Common tenant record given) (target : Tenant) :
    (manager.leave target).books.Common tenant record given := by
  have cleared := common_clearTenant (sound_putAway sound) (common_putAway sound common)
  exact cleared.of_same cleared.has (.refl _)

theorem common_switchTenant (sound : manager.books.Sound) {target : Tenant} (room : manager.HasRoom (.switchTenant target))
    (common : manager.books.Common tenant record given) :
    (manager.switchTenant target).1.books.Common tenant record given := by
  have left := common_leave sound common target
  obtain ⟨_, switched⟩ | ⟨_, _, switched⟩ | ⟨_, _, unlocked, switched⟩ | ⟨_, _, _, switched⟩ :=
    manager.switchTenant_cases target
  all_goals rw [switched]
  · exact common
  · exact common.of_same common.has (.refl _)
  · exact common_loadSection (sound_leave sound target) (room_leave room unlocked) left
  · exact left.of_same left.has (.refl _)

theorem common_unlockTenant (sound : manager.books.Sound) {target : Tenant} (room : manager.HasRoom (.unlockTenant target))
    (common : manager.books.Common tenant record given) :
    (manager.unlockTenant target).books.Common tenant record given := by
  obtain ⟨_, same⟩ | ⟨rfl, _, _, loads⟩ := manager.unlockTenant_cases target
  · rw [same]
    exact common
  · rw [loads]
    exact common_loadSection sound room common

theorem keeps_load (sound : manager.books.Sound) (room : manager.HasRoom .load)
    (unread : ∀ tenantSection, manager.sectionRead? tenant .load ≠ some (.ok tenantSection))
    (held : manager.store.HoldsPrivately tenant record ∨ manager.store.HoldsShared record)
    (kept : ∀ store : Store, store.SameContents manager.store →
      ({ manager with store, unlockDeferred := false } : Manager).books.Keeps tenant record) :
    manager.load.1.books.Keeps tenant record := by
  cases read : (manager.store.read manager.tenant).2 with
  | error failure =>
      rw [load_of_error read]
      exact kept _ (manager.store.sameContents_read manager.tenant)
  | ok data =>
      rcases held with aside | shared
      · exact aside_load read unread aside
      · obtain ⟨given, common⟩ := common_load sound room read shared
        exact .common given common

theorem keeps_of_owned (sound : manager.books.Sound) (spares : manager.Spares tenant record.key operation)
    (owned : manager.books.Owned tenant record given) : (manager.perform operation).1.books.Keeps tenant record := by
  cases stays : operation.followsTenants with
  | false => exact .owned given (owned_perform sound spares stays owned)
  | true =>
      cases operation with
      | restart => exact keeps_restart (.inl owned.held)
      | load =>
          refine keeps_load sound spares.room spares.unread (.inl owned.held) fun store same => .owned given ?_
          exact { owned with held := owned.held.of_section (same.sections tenant) }
      | switchTenant target => exact keeps_switchTenant_of_owned sound owned
      | unlockTenant target =>
          simp only [perform]
          obtain ⟨_, same⟩ | ⟨_, _, waits, _⟩ := manager.unlockTenant_cases target
          · rw [same]
            exact .owned given owned
          · cases owned.loaded.symm.trans waits
      | stopTenant target =>
          simp only [perform]
          obtain ⟨_, same⟩ | ⟨here, _, _⟩ := manager.stopTenant_cases target
          · rw [same]
            exact .owned given owned
          · exact absurd (congrArg Operation.stopTenant (here.trans owned.current)) spares.running
      | _ => cases stays

theorem keeps_of_common (sound : manager.books.Sound) (spares : manager.Spares tenant record.key operation)
    (common : manager.books.Common tenant record given) : (manager.perform operation).1.books.Keeps tenant record := by
  cases stays : operation.followsTenants with
  | false => exact .common given (common_perform sound spares stays common)
  | true =>
      cases operation with
      | restart => exact keeps_restart common.held
      | load =>
          exact keeps_load sound spares.room spares.unread common.held fun store same =>
            .common given (common.of_same common.has same)
      | switchTenant target => exact .common given (common_switchTenant sound spares.room common)
      | unlockTenant target => exact .common given (common_unlockTenant sound spares.room common)
      | stopTenant target =>
          simp only [perform]
          obtain ⟨_, same⟩ | ⟨_, _, stops⟩ := manager.stopTenant_cases target
          · rw [same]
            exact .common given common
          · rw [stops]
            exact .common given (common_clearTenant (sound_persist sound true) (common_persist sound common true))
      | _ => cases stays

theorem keeps_of_unread (sound : manager.books.Sound) (spares : manager.Spares tenant record.key operation)
    (unread : manager.awaitsStore = true) (held : manager.store.HoldsShared record) :
    (manager.perform operation).1.books.Keeps tenant record := by
  cases stays : operation.followsTenants with
  | false =>
      obtain ⟨still, kept⟩ := unread_perform sound spares.toOrdinary stays unread held
      exact .unread still kept
  | true =>
      cases operation with
      | restart => exact keeps_restart (.inr held)
      | load =>
          exact keeps_load sound spares.room spares.unread (.inr held) fun store same =>
            .unread unread (held.of_shared same.shared)
      | switchTenant target =>
          simp only [perform, Prod.map_fst, id_eq]
          obtain ⟨_, switched⟩ | ⟨_, _, switched⟩ | ⟨_, read, _⟩ | ⟨_, read, _⟩ := manager.switchTenant_cases target
          · rw [switched]
            exact .unread unread held
          · rw [switched]
            exact .unread unread held
          · cases read.symm.trans unread
          · cases read.symm.trans unread
      | unlockTenant target =>
          simp only [perform]
          obtain ⟨_, same⟩ | ⟨_, read, _⟩ := manager.unlockTenant_cases target
          · rw [same]
            exact .unread unread held
          · cases read.symm.trans unread
      | stopTenant target =>
          simp only [perform]
          obtain ⟨_, same⟩ | ⟨_, _, stops⟩ := manager.stopTenant_cases target
          · rw [same]
            exact .unread unread held
          · rw [stops, persist_of_awaitsStore unread]
            exact .unread unread held
      | _ => cases stays

theorem keeps_perform (sound : manager.books.Sound) (spares : manager.Spares tenant record.key operation)
    (keeps : manager.books.Keeps tenant record) : (manager.perform operation).1.books.Keeps tenant record := by
  -- A record is kept in one of four ways, and each way has its own lemma on what may follow.
  cases keeps with
  | aside guarded held =>
      have aside := unharmed_perform sound spares.toCareful ⟨guarded, rfl⟩
      exact .aside aside.guarded (held.of_section aside.kept)
  | owned given owned => exact keeps_of_owned sound spares owned
  | common given common => exact keeps_of_common sound spares common
  | unread unread held => exact keeps_of_unread sound spares unread held

/-- A record that is kept stays stored through every run that spares it. -/
theorem holds_run (sound : manager.books.Sound) (spares : manager.Along (Spares tenant record.key) operations)
    (keeps : manager.books.Keeps tenant record) : (manager.run operations).store.Holds tenant record := by
  have step : ∀ manager operation, Spares tenant record.key manager operation →
      manager.books.Sound ∧ manager.books.Keeps tenant record →
      (manager.perform operation).1.books.Sound ∧ (manager.perform operation).1.books.Keeps tenant record := by
    rintro manager operation spares ⟨sound, keeps⟩
    exact ⟨sound_perform sound spares.room, keeps_perform sound spares keeps⟩
  exact (spares.invariant step ⟨sound, keeps⟩).2.holds

end Manager

end SavedNetworks
