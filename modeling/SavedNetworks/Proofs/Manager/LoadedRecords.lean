import SavedNetworks.Proofs.Manager.Keeping

/-!
What becomes of the records of a section that is taken in. Of the records with one key the first is kept, a
profile that holds the key already before all of them, and the next write replaces what was read.
-/

namespace SavedNetworks

/-- The section of the tenant was taken in, where the first one with the key is given. -/
structure Books.Opened (tenant : Tenant) (key : ProfileKey) (first : Profile) (books : Books) : Prop where
  sound : books.Sound
  current : books.roster.tenant = tenant
  read : books.awaitsStore = false
  loaded : books.awaitsUnlock = false
  holder : ∃ profile ∈ books.roster.all, profile.key = key ∧ profile.bare = first.bare

theorem Books.Opened.write {before after : Books} {tenant : Tenant} {key : ProfileKey} {first : Profile}
    (opened : before.Opened tenant key first) (taken : Step .write before after) : after.Opened tenant key first := by
  have sound := opened.sound.step taken
  cases taken with
  | write => exact ⟨sound, opened.current, opened.read, opened.loaded, opened.holder⟩

namespace Books.Opened

variable {books : Books} {tenant : Tenant} {key : ProfileKey} {first profile : Profile}

theorem bare_of_key (opened : books.Opened tenant key first) (present : profile ∈ books.roster.all)
    (named : profile.key = key) : profile.bare = first.bare := by
  obtain ⟨holder, among, same, bare⟩ := opened.holder
  obtain rfl := opened.sound.wellFormed.eq_of_key present among (named.trans same.symm)
  exact bare

theorem writtenTenant (opened : books.Opened tenant key first) : books.writtenTenant = some tenant := by
  rw [← opened.current]
  exact if_neg (ne_true_of_eq_false opened.loaded)

theorem belongsToShared (opened : books.Opened tenant key first) (present : profile ∈ books.roster.all)
    (named : profile.key = key) (other : Tenant) :
    (profile.shared || !profile.creator.uid.inTenant other) = (first.shared || !first.creator.uid.inTenant other) := by
  obtain ⟨shared, creator⟩ := Profile.owner_of_bare (opened.bare_of_key present named)
  rw [shared, creator]

end Books.Opened

/-- The section was written without the record, whose key is held. -/
structure Books.Displaced (tenant : Tenant) (record first : Profile) (books : Books) : Prop extends
    books.Opened tenant record.key first where
  accepts : books.store.acceptsWrites = true
  gone : ¬ books.store.HoldsPrivately tenant record

theorem Books.Opened.displaced {books : Books} {tenant : Tenant} {record first : Profile}
    (opened : books.Opened tenant record.key first) (accepts : books.store.acceptsWrites = true)
    (foreign : (first.shared || !first.creator.uid.inTenant tenant) = true) (addresses : SortedMap String String)
    (force : Bool) :
    ({ books with store := (books.store.write books.writtenTenant (books.sections addresses) force).1 } : Books).Displaced
      tenant record first := by
  refine ⟨opened.write (.write opened.read addresses force), (Store.acceptsWrites_write ..).trans accepts, ?_⟩
  rintro ⟨profile, found, same⟩
  simp only [Store.storedSection_write] at found
  rw [if_pos ⟨accepts, opened.writtenTenant⟩] at found
  obtain ⟨one, listed, rfl⟩ := Store.among_rendition found
  obtain ⟨saved, own⟩ := List.mem_filter.1 listed
  have named : one.key = record.key := (Profile.standsFor_iff.1 same).1
  have belongs : books.belongsToShared one = true := by
    rw [Books.belongsToShared, opened.current,
      opened.belongsToShared (List.mem_filter.1 saved).1 named tenant]
    exact foreign
  rw [belongs] at own
  cases own

namespace Manager

variable {manager : Manager} {operation : Operation} {tenant : Tenant} {found : TenantSection} {record first : Profile}
  {key : ProfileKey}

/-- The holder of a key that is in memory before the section of a tenant is taken in. -/
def precedes? (manager : Manager) : Operation → ProfileKey → Option Profile
  | .switchTenant _, key => manager.stays? key
  | .unlockTenant _, key => manager.roster.holder? key
  | .load, key => match (manager.store.read manager.tenant).2 with
    | .ok data => data.shared.find? (·.key = key)
    | .error _ => none
  | _, _ => none

/-- The one with a key that is kept when the section is taken in. -/
def firstHolder? (manager : Manager) (operation : Operation) (found : TenantSection) (key : ProfileKey) : Option Profile :=
  (manager.precedes? operation key).or (found.profiles.find? (·.key = key))

/-- Taking a section in, up to the write that follows. -/
def Opens (tenant : Tenant) (found : TenantSection) (key : ProfileKey) (first : Profile) (after : Books) : Prop :=
  ∃ opened : Books, opened.Opened tenant key first ∧ Moves (· = .write) opened after ∧
    ∀ record ∈ found.profiles, StoredProfile.Among record (opened.store.storedSection tenant).profiles

theorem opens_loadSection (sound : manager.books.Sound) (waits : manager.awaitsStore = false)
    (room : manager.nextId.toNat + (manager.sectionOf manager.tenant).length < UInt32.size)
    (read : (manager.store.readTenant manager.tenant).2 = .ok found)
    (chosen : (manager.roster.holder? key).or (found.profiles.find? (·.key = key)) = some first) :
    Opens manager.tenant found key first manager.loadSection.books := by
  simp only [sectionOf, read] at room
  have same := (manager.store.sameContents_readTenant manager.tenant).sections manager.tenant
  have inserted := sound_insertAll sound room
  have holder := holder?_insertAll sound room key
  rw [chosen, Option.map_some, Option.map_eq_some_iff] at holder
  obtain ⟨profile, holds, looks⟩ := holder
  obtain ⟨present, named⟩ := inserted.wellFormed.holder?_eq_some_iff.1 holds
  refine ⟨(manager.opened found).books, ?_, ?_, fun record member => ?_⟩
  · rw [books_opened]
    exact ⟨inserted.of_same rfl rfl, tenant_insertAll manager found.profiles, waits, rfl, profile, present, named,
      congrArg Profile.frame looks⟩
  · rw [books_loadSection read]
    exact writes_persist _ true
  · rw [books_opened]
    simp only [same]
    exact (Store.among_of_readTenant read).2 member

theorem opens_load (sound : manager.books.Sound) (room : manager.HasRoom .load) {data : StoreData}
    (read : (manager.store.read manager.tenant).2 = .ok data)
    (opens : (manager.unlockDeferred || manager.platform.isUnlocked manager.tenant) = true)
    (chosen : (data.shared.find? (·.key = key)).or (data.tenant.profiles.find? (·.key = key)) = some first) :
    Opens manager.tenant data.tenant key first manager.load.1.books := by
  have loaded := sound_load sound room.taking
  have holder := holder?_load read room key
  rw [opens, StoreData.loaded, if_pos rfl, List.find?_append, chosen, Option.map_some, Option.map_eq_some_iff] at holder
  obtain ⟨profile, holds, bare⟩ := holder
  have wellFormed : manager.load.1.roster.WellFormed := loaded.wellFormed
  obtain ⟨present, named⟩ := wellFormed.holder?_eq_some_iff.1 holds
  have flags : manager.load.1.roster.tenant = manager.tenant ∧ manager.load.1.awaitsStore = false ∧
      manager.load.1.awaitsUnlock = false := by
    rw [load_of_ok read, opens]
    generalize reading : ({ manager with store := (manager.store.read manager.tenant).1, unlockDeferred := false } :
      Manager) = reader
    have current : reader.tenant = manager.tenant := by rw [← reading]; rfl
    obtain ⟨roster, books, outlines⟩ := books_replaceMemory reader data true
    have stays := (Roster.tenant_of_through outlines).trans (tenant_insertAll reader.clearMemory _)
    rw [books_filled] at books
    exact ⟨(congrArg (fun books => books.roster.tenant) books).trans (stays.trans current), congrArg Books.awaitsStore books,
      congrArg Books.awaitsUnlock books⟩
  refine ⟨manager.load.1.books, ⟨loaded, flags.1, flags.2.1, flags.2.2, profile, present, named, bare⟩, .refl,
    fun record member => ?_⟩
  have same : manager.load.1.books.store.storedSection manager.tenant = manager.store.storedSection manager.tenant :=
    manager.sameContents_load.sections manager.tenant
  rw [same]
  exact (Store.among_of_read read).2.2 member

theorem opens_perform (sound : manager.books.Sound) (room : manager.HasRoom operation)
    (taken : manager.sectionRead? tenant operation = some (.ok found))
    (chosen : manager.firstHolder? operation found key = some first) :
    Opens tenant found key first (manager.perform operation).1.books := by
  cases operation with
  | switchTenant target =>
      obtain ⟨⟨rfl, different, read, unlocked⟩, answered⟩ := sectionRead?_switchTenant.1 taken
      obtain ⟨waits, _⟩ := flags_leave manager target
      have switched : (manager.perform (.switchTenant target)).1 = (manager.leave target).loadSection :=
        (switchTenant_of_read different read).trans (if_pos unlocked)
      rw [switched]
      unfold firstHolder? precedes? at chosen
      dsimp only at chosen
      rw [← holder?_leave sound target] at chosen
      exact opens_loadSection (sound_leave sound target) (waits.trans read) (room_leave room unlocked) answered chosen
  | unlockTenant target =>
      obtain ⟨⟨rfl, current, read, waits⟩, answered⟩ := sectionRead?_unlockTenant.1 taken
      subst current
      have unlocked : (manager.perform (.unlockTenant manager.tenant)).1 = manager.loadSection :=
        unlockTenant_of_waits read waits
      rw [unlocked]
      exact opens_loadSection sound read room answered chosen
  | load =>
      unfold sectionRead? at taken
      simp only [Option.ite_none_right_eq_some, Option.some.injEq] at taken
      obtain ⟨⟨rfl, opens⟩, answered⟩ := taken
      cases read : (manager.store.read manager.tenant).2 with
      | error failure =>
          rw [read] at answered
          cases answered
      | ok data =>
          rw [read] at answered
          cases answered
          unfold firstHolder? precedes? at chosen
          simp only [read] at chosen
          exact opens_load sound room read opens chosen
  | _ => cases taken

/-- The network of the record stays stored under all operations that spare it. -/
def KeepsRecord (manager : Manager) (tenant : Tenant) (record : Profile) : Prop :=
  ∀ operations, manager.Along (Spares tenant record.key) operations → (manager.run operations).store.Holds tenant record

theorem keeps_of_opens {after : Books} (opens : Opens tenant found record.key first after) (member : record ∈ found.profiles)
    (good : first.StandsIn record) (placed : first.shared = true ∨ first.creator.uid.inTenant tenant = true) :
    after.Keeps tenant record := by
  obtain ⟨books, opened, writes, stored⟩ := opens
  obtain ⟨profile, present, _, bare⟩ := opened.holder
  obtain ⟨shared, creator⟩ := Profile.owner_of_bare bare
  have held : books.store.HoldsPrivately tenant record := ⟨record, stored record member, .refl record⟩
  have stands := good.of_bare bare
  rw [← shared, ← creator] at placed
  cases common : profile.shared with
  | true =>
      have kept : books.Common tenant record profile := ⟨⟨profile, present, rfl⟩, stands, common, .inl held⟩
      exact .common profile (writes.of_writes (fun _ _ taken sound kept => kept.step taken sound nofun nofun) opened.sound kept)
  | false =>
      rw [common] at placed
      simp only [Bool.false_eq_true, false_or] at placed
      have kept : books.Owned tenant record profile :=
        ⟨opened.current, opened.read, opened.loaded, ⟨profile, present, rfl⟩, stands, ⟨common, placed⟩, held⟩
      exact .owned profile (writes.of_writes (fun _ _ taken sound kept => kept.step taken sound nofun nofun) opened.sound kept)

theorem Opens.opened {after : Books} (opens : Opens tenant found key first after) : after.Opened tenant key first := by
  obtain ⟨books, opened, writes, _⟩ := opens
  exact writes.of_writes (fun _ _ taken _ opened => opened.write taken) opened.sound opened

theorem spares_of_idle (ours : operation.isForeign = false) (ids : manager.idsFor operation = 0)
    (stays : operation.followsTenants = false)
    (untouched : ∀ id, ¬ manager.removes operation id ∧ ¬ manager.updates operation id) :
    manager.Spares tenant key operation := by
  refine ⟨⟨⟨ours, hasRoom_of_idsFor ids⟩, fun tenantSection asked => ?_, fun endangered => ?_⟩, fun same => ?_,
    fun profile _ _ _ => untouched profile.id⟩
  · cases operation with
    | switchTenant | unlockTenant | load => cases stays
    | _ => cases asked
  · rw [endangered.1] at stays
    cases stays
  · rw [same] at stays
    cases stays

theorem spares_sureWrite (manager : Manager) : manager.Along (Spares tenant key) sureWrite :=
  ⟨spares_of_idle rfl rfl rfl fun _ => ⟨id, id⟩, spares_of_idle rfl rfl rfl fun _ => ⟨id, id⟩, trivial⟩

theorem standsIn_of_sureWrite (opened : manager.books.Opened tenant record.key first)
    (held : (manager.run sureWrite).store.Holds tenant record) : first.StandsIn record := by
  have written := congrArg Books.store (books_sureWrite opened.read)
  have store : (manager.run sureWrite).store = ((manager.store.failWrites false).write manager.books.writtenTenant
      (manager.books.sections manager.randomizer.legacy) true).1 := written
  have accepts := Store.acceptsWrites_failWrites_false manager.store
  have among : ∀ {profile}, profile ∈ manager.books.roster.all.filter Profile.isSaved → profile.persisted.StandsFor record →
      first.StandsIn record := by
    intro profile listed same
    obtain ⟨present, saved⟩ := List.mem_filter.1 listed
    have stands : profile.StandsIn record := ⟨saved, same.ssid, same.security, same.credentials⟩
    exact stands.of_bare (opened.bare_of_key present stands.key).symm
  obtain ⟨profile, found, same⟩ := held
  rw [store, Store.storedShared_write, if_pos accepts, Store.storedSection_write,
    if_pos ⟨accepts, opened.writtenTenant⟩] at found
  rcases found with shared | own
  · obtain ⟨one, listed, rfl⟩ := Store.among_rendition shared
    exact among (List.mem_filter.1 listed).1 same
  · obtain ⟨one, listed, rfl⟩ := Store.among_rendition own
    exact among (List.mem_filter.1 listed).1 same

/-- Another tenant, which is locked, comes to the foreground, with a write before and one after. -/
def writeElsewhere (other : Tenant) : List Operation :=
  sureWrite ++ [.change (.lock other), .switchTenant other, .save true]

theorem spares_writeElsewhere {other : Tenant} (apart : other ≠ tenant) (manager : Manager) :
    manager.Along (Spares tenant key) (writeElsewhere other) := by
  have switching : ∀ manager : Manager,
      (manager.undergo (.lock other)).Spares tenant key (.switchTenant other) := by
    intro manager
    have locked : (manager.undergo (.lock other)).platform.isUnlocked other = false := by
      rw [Bool.eq_false_iff]
      intro unlocked
      exact (SortedSet.mem_erase.1 unlocked).1 rfl
    refine ⟨⟨⟨rfl, hasRoom_of_idsFor ?_⟩, fun tenantSection asked => ?_, fun endangered => ?_⟩, nofun,
      fun _ _ _ _ => ⟨id, id⟩⟩
    · simp only [idsFor, locked, Bool.false_eq_true, if_false]
    · exact apart (sectionRead?_switchTenant.1 asked).1.1
    · exact apart (Operation.switchTenant.inj endangered.1)
  exact ⟨spares_of_idle rfl rfl rfl fun _ => ⟨id, id⟩, spares_of_idle rfl rfl rfl fun _ => ⟨id, id⟩,
    spares_of_idle rfl rfl rfl fun _ => ⟨id, id⟩, switching _, spares_of_idle rfl rfl rfl fun _ => ⟨id, id⟩, trivial⟩

theorem displaced_sureWrite (opened : manager.books.Opened tenant record.key first)
    (foreign : (first.shared || !first.creator.uid.inTenant tenant) = true) :
    (manager.run sureWrite).books.Displaced tenant record first := by
  have ready : ({ manager.books with store := manager.store.failWrites false } : Books).Opened tenant record.key first :=
    ⟨opened.sound.of_same rfl rfl, opened.current, opened.read, opened.loaded, opened.holder⟩
  rw [books_sureWrite opened.read]
  exact ready.displaced (Store.acceptsWrites_failWrites_false manager.store) foreign manager.randomizer.legacy true

theorem displaced_putAway (displaced : manager.books.Displaced tenant record first)
    (foreign : (first.shared || !first.creator.uid.inTenant tenant) = true) :
    manager.putAway.books.Displaced tenant record first := by
  unfold putAway
  split
  · rw [books_persist displaced.read]
    exact displaced.toOpened.displaced displaced.accepts foreign manager.randomizer.legacy true
  · exact displaced

theorem tenant_ne_of_not_inTenant {uid : Uid} (foreign : uid.inTenant tenant = false) : Uid.tenant uid ≠ tenant := by
  rintro rfl
  rw [Uid.inTenant_tenant] at foreign
  cases foreign

theorem not_holds_persist (read : manager.awaitsStore = false) (accepts : manager.store.acceptsWrites = true)
    (waits : manager.awaitsUnlock = true) (gone : ¬ manager.store.HoldsPrivately tenant record)
    (unshared : ∀ profile ∈ manager.roster.all, profile.key = record.key → manager.books.belongsToShared profile = false) :
    ¬ (manager.persist true).store.Holds tenant record := by
  have written := congrArg Books.store (books_persist read true)
  have store : (manager.persist true).store =
      (manager.store.write none (manager.books.sections manager.randomizer.legacy) true).1 := by
    have unnamed : manager.books.writtenTenant = none := if_pos waits
    rw [unnamed] at written
    exact written
  rintro ⟨profile, found, same⟩
  rw [store, Store.storedShared_write, if_pos accepts, Store.storedSection_write, if_neg fun both => nomatch both.2] at found
  rcases found with shared | own
  · obtain ⟨one, listed, rfl⟩ := Store.among_rendition shared
    obtain ⟨saved, belongs⟩ := List.mem_filter.1 listed
    rw [unshared one (List.mem_filter.1 saved).1 (Profile.standsFor_iff.1 same).1] at belongs
    cases belongs
  · exact gone ⟨profile, own, same⟩

/-- A profile of another tenant goes to neither place once that tenant is in the foreground. -/
theorem not_holds_writeElsewhere (opened : manager.books.Opened tenant record.key first) (unshared : first.shared = false)
    (foreign : first.creator.uid.inTenant tenant = false) :
    ¬ (manager.run (writeElsewhere (Uid.tenant first.creator.uid))).store.Holds tenant record := by
  have apart := tenant_ne_of_not_inTenant foreign
  have ours := Uid.inTenant_tenant first.creator.uid
  generalize Uid.tenant first.creator.uid = other at apart ours
  have common : (first.shared || !first.creator.uid.inTenant tenant) = true := by rw [foreign, Bool.not_false, Bool.or_true]
  generalize started : (manager.run sureWrite).undergo (.lock other) = start
  have displaced : start.books.Displaced tenant record first := by
    rw [← started]
    exact displaced_sureWrite opened common
  have away := displaced_putAway displaced common
  have locked : ¬ start.platform.isUnlocked other = true := by
    rw [← started]
    exact fun unlocked => (SortedSet.mem_erase.1 unlocked).1 rfl
  have current : start.tenant = tenant := displaced.current
  have switched : (start.perform (.switchTenant other)).1 = { start.leave other with awaitsUnlock := true } :=
    (switchTenant_of_read (fun same => apart (same.trans current)) displaced.read).trans (if_neg locked)
  have run : manager.run (writeElsewhere other) = (start.perform (.switchTenant other)).1.persist true := by
    rw [← started]
    rfl
  rw [run, switched]
  refine not_holds_persist away.read away.accepts rfl away.gone fun profile present named => ?_
  have among := ((mem_clearTenant away.sound.wellFormed).1 present).1
  have owner := away.belongsToShared among named other
  rw [unshared, ours] at owner
  exact owner

/-- A manager that has stored a private network of the tenant of the start and then, under another tenant, a
shared one with the same key. -/
def withTwin (passphrase : String) : Manager :=
  onEmptyStore.run
    [.load, .change (.unlock 1), .addOrUpdate { Draft.psk "Home" "password" with shared := false } ⟨Uid.system, "android"⟩,
      .switchTenant 1, .addOrUpdate (Draft.psk "Home" passphrase) ⟨Uid.system, "android"⟩]

def homeRecord : Profile := ((withTwin "password").putAway.sectionOf 0).headD (.blank "" .unsecured)

/-- A record of a section that is taken in stays stored, if and only if the first profile with its key is saved
with the same credentials, and is shared or belongs to the tenant. -/
theorem keepsRecord_iff (reached : manager.Reachable) (room : manager.HasRoom operation)
    (taken : manager.sectionRead? tenant operation = some (.ok found)) (member : record ∈ found.profiles) :
    (manager.perform operation).1.KeepsRecord tenant record ↔
      ∃ first ∈ manager.firstHolder? operation found record.key, first.StandsIn record ∧
        (first.shared = true ∨ first.creator.uid.inTenant tenant = true) := by
  have listed : (found.profiles.find? (·.key = record.key)).isSome = true :=
    List.find?_isSome.2 ⟨record, member, by simp⟩
  obtain ⟨first, chosen⟩ : ∃ first, manager.firstHolder? operation found record.key = some first := by
    rw [← Option.isSome_iff_exists, firstHolder?, Option.isSome_or, listed, Bool.or_true]
  have opens := opens_perform reached.sound room taken chosen
  constructor
  · intro keeps
    refine ⟨first, chosen, ?_, ?_⟩
    · exact standsIn_of_sureWrite opens.opened (keeps sureWrite (spares_sureWrite _))
    · cases shared : first.shared with
      | true => exact .inl rfl
      | false =>
          refine .inr ?_
          rw [← Bool.not_eq_false]
          intro foreign
          exact not_holds_writeElsewhere opens.opened shared foreign
            (keeps _ (spares_writeElsewhere (tenant_ne_of_not_inTenant foreign) _))
  · rintro ⟨other, same, good, placed⟩ operations spares
    rw [chosen, Option.mem_some_iff] at same
    subst same
    exact holds_run (sound_perform reached.sound room) spares (keeps_of_opens opens member good placed)

/-- The twin has the same credentials. -/
theorem keepsRecord_withTwin : ((withTwin "password").perform (.switchTenant 0)).1.KeepsRecord 0 homeRecord :=
  have taken : (withTwin "password").sectionRead? 0 (.switchTenant 0) = some (.ok ⟨[homeRecord], .empty⟩) := by
    decide
  (keepsRecord_iff (reachableAlone_onEmptyStore.run (by decide)).reachable (by decide) taken
    (List.mem_cons_self ..)).2 (by decide)

/-- The twin has other credentials. -/
theorem not_keepsRecord_withTwin : (withTwin "different").Reachable ∧ (withTwin "different").HasRoom (.switchTenant 0) ∧
    (withTwin "different").sectionRead? 0 (.switchTenant 0) = some (.ok ⟨[homeRecord], .empty⟩) ∧
    ¬ ((withTwin "different").perform (.switchTenant 0)).1.KeepsRecord 0 homeRecord :=
  ⟨(reachableAlone_onEmptyStore.run (by decide)).reachable, by decide, by decide,
    fun keeps => absurd (keeps [] trivial) (by decide)⟩

end Manager

end SavedNetworks
