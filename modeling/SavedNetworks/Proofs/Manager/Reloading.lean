import SavedNetworks.Proofs.Manager.Stopping
import SavedNetworks.Proofs.Randomization
import SavedNetworks.Proofs.Store.Reading

/-!
Saving and reading back: the manager that takes over has the saved profiles of the one before, as they are
stored, with SIM identities forgotten and missing addresses supplied (`Manager.load_successor`).
-/

namespace SavedNetworks

universe u

/-- Each one of either list has a counterpart in the other. -/
structure Corresponds {α β : Type u} (relation : α → β → Prop) (left : List α) (right : List β) : Prop where
  forth : ∀ old ∈ left, ∃ new ∈ right, relation old new
  back : ∀ new ∈ right, ∃ old ∈ left, relation old new

namespace Corresponds

variable {α β γ : Type u} {first : α → β → Prop} {second : β → γ → Prop} {both : α → γ → Prop} {left : List α}
  {middle : List β} {right : List γ}

theorem trans (here : Corresponds first left middle) (there : Corresponds second middle right)
    (compose : ∀ old ∈ left, ∀ between ∈ middle, ∀ new ∈ right, first old between → second between new → both old new) :
    Corresponds both left right := by
  constructor
  · intro old among
    obtain ⟨between, present, one⟩ := here.forth old among
    obtain ⟨new, listed, other⟩ := there.forth between present
    exact ⟨new, listed, compose old among between present new listed one other⟩
  · intro new listed
    obtain ⟨between, present, other⟩ := there.back new listed
    obtain ⟨old, among, one⟩ := here.back between present
    exact ⟨old, among, compose old among between present new listed one other⟩

theorem refl {relation : α → α → Prop} (related : ∀ old ∈ left, relation old old) : Corresponds relation left left :=
  ⟨fun old present => ⟨old, present, related old present⟩, fun new present => ⟨new, present, related new present⟩⟩

theorem of_mem_iff {change : α → β} (members : ∀ new, new ∈ middle ↔ ∃ old ∈ left, change old = new)
    (related : ∀ old ∈ left, first old (change old)) : Corresponds first left middle := by
  refine ⟨fun old present => ⟨_, (members _).2 ⟨old, present, rfl⟩, related old present⟩, fun new among => ?_⟩
  obtain ⟨old, present, rfl⟩ := (members new).1 among
  exact ⟨old, present, related old present⟩

/-- Counterparts of one name are as many on either side, where no name is given twice. -/
theorem length_eq {name : α → γ} {rename : β → γ} (corresponds : Corresponds first left middle)
    (same : ∀ old new, first old new → rename new = name old) (distinct : (left.map name).Nodup)
    (unique : (middle.map rename).Nodup) : middle.length = left.length := by
  have names : (middle.map rename).Perm (left.map name) := by
    rw [List.perm_ext_iff_of_nodup unique distinct]
    simp only [List.mem_map]
    intro value
    constructor
    · rintro ⟨new, listed, rfl⟩
      obtain ⟨old, among, related⟩ := corresponds.back new listed
      exact ⟨old, among, (same old new related).symm⟩
    · rintro ⟨old, among, rfl⟩
      obtain ⟨new, listed, related⟩ := corresponds.forth old among
      exact ⟨new, listed, same old new related⟩
  simpa using names.length_eq

end Corresponds

namespace Profile

def withAddress (profile : Profile) (address : Address) : Profile :=
  { profile with station := { profile.station with address } }

/-- A visible profile without an address was given one. -/
structure Supplied (tenant : Tenant) (randomizer : Randomizer) (old new : Profile) : Prop where
  same : new = old.withAddress new.station.address
  address : if old.visibleTo tenant = true ∧ old.station.address = .sentinel then
    randomizer.Supplies old new.station.address else new.station.address = old.station.address

namespace Supplied

variable {tenant : Tenant} {randomizer later : Randomizer} {profile new : Profile} {address : Address}

theorem settled (settled : ¬ (profile.visibleTo tenant = true ∧ profile.station.address = .sentinel)) :
    profile.Supplied tenant randomizer profile :=
  ⟨rfl, by rw [if_neg settled]⟩

theorem supply (wanting : profile.visibleTo tenant = true ∧ profile.station.address = .sentinel)
    (supplies : randomizer.Supplies profile address) : profile.Supplied tenant randomizer (profile.withAddress address) :=
  ⟨rfl, by rw [if_pos wanting]; exact supplies⟩

theorem of_pruned (supplied : profile.Supplied tenant later new) (pruned : randomizer.Prunes later) :
    profile.Supplied tenant randomizer new := by
  obtain ⟨same, address⟩ := supplied
  rw [pruned.supplies_iff] at address
  exact ⟨same, address⟩

end Supplied

/-- What a load makes of a record: of a profile that the tenant sees, identities from a SIM card are forgotten, and a
missing address is supplied. -/
structure ReadAs (tenant : Tenant) (randomizer : Randomizer) (record new : Profile) : Prop where
  same : new = { record with
    id := new.id
    enterprise := if record.visibleTo tenant then record.enterprise.map Enterprise.resetSim else record.enterprise
    station := { record.station with address := new.station.address } }
  address : if record.visibleTo tenant = true ∧ record.station.address = .sentinel then
    randomizer.Supplies record new.station.address else new.station.address = record.station.address

theorem ReadAs.key {tenant : Tenant} {randomizer : Randomizer} {record new : Profile}
    (readAs : record.ReadAs tenant randomizer new) : new.key = record.key :=
  (congrArg Profile.key readAs.same).trans rfl

/-- A profile without the identities that came from a SIM card. -/
def withoutSim (profile : Profile) : Profile := { profile with enterprise := profile.enterprise.map Enterprise.resetSim }

/-- A record is given an id, then an address, and then SIM identities are forgotten. -/
theorem Supplied.readAs {tenant : Tenant} {randomizer : Randomizer} {record addressed : Profile} {id : ProfileId}
    (supplied : (record.withId id).Supplied tenant randomizer addressed) :
    record.ReadAs tenant randomizer (if addressed.visibleTo tenant then addressed.withoutSim else addressed) := by
  obtain ⟨same, address⟩ := supplied
  have seen : addressed.visibleTo tenant = record.visibleTo tenant := by rw [same]; rfl
  rw [seen]
  by_cases visible : record.visibleTo tenant = true
  · rw [if_pos visible]
    exact ⟨by rw [if_pos visible, same]; rfl, address⟩
  · rw [if_neg visible]
    exact ⟨by rw [if_neg visible, same]; rfl, address⟩

end Profile

namespace Manager

variable {manager after : Manager} {id : ProfileId}

/-- What supplying addresses to the profiles of some ids does. -/
structure Supplying (ids : List ProfileId) (before after : Manager) : Prop where
  frame : ∃ randomizer roster, after = { before with randomizer, roster }
  pruned : before.randomizer.Prunes after.randomizer
  tenant : after.roster.tenant = before.roster.tenant
  wellFormed : after.roster.WellFormed
  supplied : Corresponds (fun old new => if old.id ∈ ids then old.Supplied before.tenant before.randomizer new else new = old)
    before.roster.all after.roster.all

theorem Supplying.of_same {ids : List ProfileId} {randomizer : Randomizer} (wellFormed : manager.roster.WellFormed)
    (pruned : manager.randomizer.Prunes randomizer)
    (settled : ∀ old ∈ manager.roster.all, old.id ∈ ids → old.Supplied manager.tenant manager.randomizer old) :
    Supplying ids manager { manager with randomizer } := by
  refine ⟨⟨randomizer, manager.roster, rfl⟩, pruned, rfl, wellFormed, .refl fun old present => ?_⟩
  split
  · next asked => exact settled old present asked
  · rfl

/-- One visible profile is asked for. -/
theorem Supplying.of_single {profile : Profile} {randomizer : Randomizer} (wellFormed : manager.roster.WellFormed)
    (present : profile ∈ manager.roster.all) (named : profile.id = id) (pruned : manager.randomizer.Prunes randomizer)
    (settled : profile.Supplied manager.tenant manager.randomizer profile) :
    Supplying [id] manager { manager with randomizer } := by
  refine .of_same wellFormed pruned fun old among asked => ?_
  obtain rfl := wellFormed.eq_of_id among present ((List.mem_singleton.1 asked).trans named.symm)
  exact settled

theorem keepsName_withAddress (address : Address) : Roster.KeepsName (·.withAddress address) := fun _ => ⟨rfl, rfl⟩

theorem supplying_modify {profile : Profile} {randomizer : Randomizer} {address : Address}
    (wellFormed : manager.roster.WellFormed) (found : manager.roster.get? id = some profile)
    (pruned : manager.randomizer.Prunes randomizer)
    (supplied : profile.Supplied manager.tenant manager.randomizer (profile.withAddress address)) :
    Supplying [id] manager ({ manager with randomizer }.modify id (·.withAddress address)) := by
  obtain ⟨stored, visible⟩ := Roster.get?_eq_some.1 found
  obtain ⟨present, named⟩ := wellFormed.get?_eq_some_iff.1 stored
  have changed : ∀ old ∈ manager.roster.all,
      if old.id ∈ [id] then
        old.Supplied manager.tenant manager.randomizer (manager.roster.changeAt id (·.withAddress address) old)
      else manager.roster.changeAt id (·.withAddress address) old = old := by
    intro old among
    unfold Roster.changeAt Roster.changeVisible
    split
    · next asked =>
        obtain rfl := wellFormed.eq_of_id among present ((List.mem_singleton.1 asked).trans named.symm)
        rw [if_pos named, if_pos visible]
        exact supplied
    · next other => rw [if_neg fun same => other (List.mem_singleton.2 same)]
  exact ⟨⟨_, _, rfl⟩, pruned, Roster.tenant_modify .., wellFormed.modify (keepsName_withAddress address) id,
    .of_mem_iff (fun _ => wellFormed.mem_modify (keepsName_withAddress address)) changed⟩

theorem supplying_supplyAddress (wellFormed : manager.roster.WellFormed) (id : ProfileId) :
    Supplying [id] manager (manager.supplyAddress id) := by
  unfold supplyAddress
  cases found : manager.roster.get? id with
  | none =>
      refine .of_same wellFormed (.refl _) fun old present asked => .settled fun wanting => ?_
      obtain rfl := List.mem_singleton.1 asked
      rw [Roster.get?_eq_some.2 ⟨wellFormed.mem_all_iff.1 present, wanting.1⟩] at found
      cases found
  | some profile =>
      obtain ⟨stored, visible⟩ := Roster.get?_eq_some.1 found
      obtain ⟨present, named⟩ := wellFormed.get?_eq_some_iff.1 stored
      obtain ⟨pruned, supplies⟩ := manager.randomizer.initial_spec profile
      by_cases missing : profile.station.address = .sentinel
      · simp only [missing, if_true]
        have supplied := Profile.Supplied.supply ⟨visible, missing⟩ supplies
        cases drawn : (manager.randomizer.initial profile).2 with
        | none =>
            rw [drawn, Option.getD_none] at supplied
            exact .of_single wellFormed present named pruned supplied
        | some address =>
            rw [drawn, Option.getD_some] at supplied
            exact supplying_modify wellFormed found pruned supplied
      · simp only [missing, if_false]
        exact .of_single wellFormed present named (.refl _) (.settled fun wanting => missing wanting.2)

theorem Supplying.trans {ids : List ProfileId} {before middle : Manager} (fresh : id ∉ ids) (first : Supplying [id] before middle)
    (rest : Supplying ids middle after) : Supplying (id :: ids) before after := by
  refine ⟨?_, first.pruned.trans rest.pruned, rest.tenant.trans first.tenant, rest.wellFormed,
    first.supplied.trans rest.supplied fun old _ between _ new _ one others => ?_⟩
  · obtain ⟨_, _, rfl⟩ := first.frame
    obtain ⟨randomizer, roster, rfl⟩ := rest.frame
    exact ⟨randomizer, roster, rfl⟩
  · have tenant : middle.tenant = before.tenant := first.tenant
    rw [tenant] at others
    simp only [List.mem_singleton] at one
    by_cases here : old.id = id
    · rw [if_pos here] at one
      have named : between.id = id := (congrArg Profile.id one.same).trans here
      rw [named, if_neg fresh] at others
      rw [if_pos (by simp [here]), others]
      exact one
    · rw [if_neg here] at one
      subst one
      by_cases there : between.id ∈ ids
      · rw [if_pos there] at others
        rw [if_pos (List.mem_cons_of_mem _ there)]
        exact others.of_pruned first.pruned
      · rw [if_neg there] at others
        rw [if_neg (by simp [here, there])]
        exact others

theorem supplying_foldl {ids : List ProfileId} (wellFormed : manager.roster.WellFormed) (distinct : ids.Nodup) :
    Supplying ids manager (ids.foldl supplyAddress manager) := by
  induction ids generalizing manager with
  | nil => exact .of_same wellFormed (.refl manager.randomizer) fun _ _ asked => absurd asked List.not_mem_nil
  | cons id rest ih =>
      obtain ⟨fresh, others⟩ := List.nodup_cons.1 distinct
      have first := supplying_supplyAddress wellFormed id
      exact first.trans fresh (ih first.wellFormed others)

/-- Every profile that wants an address is asked for one source of addresses, as it was at the beginning. -/
theorem supplied_supplyAddresses (wellFormed : manager.roster.WellFormed) :
    Supplying manager.roster.ids manager manager.supplyAddresses ∧
      Corresponds (Profile.Supplied manager.tenant manager.randomizer) manager.roster.all
        manager.supplyAddresses.roster.all := by
  have distinct : manager.roster.ids.Nodup := wellFormed.nodup_ids.sublist (List.filter_sublist.map _)
  have supplying := supplying_foldl wellFormed distinct
  have settled {old new : Profile} (present : old ∈ manager.roster.all)
      (supplied : if old.id ∈ manager.roster.ids then old.Supplied manager.tenant manager.randomizer new else new = old) :
      old.Supplied manager.tenant manager.randomizer new := by
    split at supplied
    · exact supplied
    · next unseen =>
        rw [supplied]
        refine .settled fun wanting => unseen ?_
        exact List.mem_map.2 ⟨old, List.mem_filter.2 ⟨present, wanting.1⟩, rfl⟩
  refine ⟨supplying, fun old present => ?_, fun new among => ?_⟩
  · obtain ⟨new, among, supplied⟩ := supplying.supplied.forth old present
    exact ⟨new, among, settled present supplied⟩
  · obtain ⟨old, present, supplied⟩ := supplying.supplied.back new among
    exact ⟨old, present, settled present supplied⟩

theorem corresponds_insertAll {profiles : List Profile} (sound : manager.books.Sound) (empty : manager.roster.all = [])
    (room : manager.nextId.toNat + profiles.length < UInt32.size) (distinct : (profiles.map Profile.key).Nodup) :
    Corresponds (fun loaded new => new = loaded.withId new.id) profiles (manager.insertAll profiles).roster.all := by
  have wellFormed : manager.roster.WellFormed := sound.wellFormed
  constructor
  · intro loaded among
    have free : manager.roster.holder? loaded.key = none := by
      rw [wellFormed.holder?_eq_none_iff, empty]
      exact fun _ absent => absurd absent List.not_mem_nil
    exact exists_insertAll sound room distinct among free
  · intro new present
    obtain absent | ⟨loaded, among, same⟩ := mem_insertAll sound.wellFormed present
    · rw [empty] at absent
      cases absent
    · exact ⟨loaded, among, Profile.eq_withId_of_unnumbered same⟩

theorem randomizer_filled (manager : Manager) (data : StoreData) (withSection : Bool) :
    (manager.filled data withSection).randomizer = { manager.randomizer with legacy := data.addresses } := by
  have kept (other : Manager) (profiles : List Profile) : (other.insertAll profiles).randomizer = other.randomizer := by
    rw [insertAll_eq]
  have loaded : (manager.filled data withSection).randomizer = manager.randomizer.clearLegacy.loadLegacy data.addresses := by
    cases withSection <;> simp only [filled, takeSection, if_true, if_false, Bool.false_eq_true, kept] <;> rfl
  rw [loaded, Randomizer.loadLegacy, Randomizer.clearLegacy, SortedMap.empty_union]

theorem corresponds_resetSim (wellFormed : manager.roster.WellFormed) :
    Corresponds (fun old new => new = if old.visibleTo manager.tenant then old.withoutSim else old) manager.roster.all
      manager.resetSim.roster.all := by
  have keeps : Roster.KeepsName Profile.withoutSim := fun _ => ⟨rfl, rfl⟩
  exact .of_mem_iff (fun _ => wellFormed.mem_modifyVisible keeps) fun _ _ => rfl

/-- The memory after a load of the shared section and of that of the current tenant. -/
structure ReadBack (data : StoreData) (before after : Manager) : Prop where
  tenant : after.tenant = before.tenant
  done : after.awaitsStore = false ∧ after.awaitsUnlock = false
  wellFormed : after.roster.WellFormed
  profiles : Corresponds (Profile.ReadAs before.tenant { before.randomizer with legacy := data.addresses })
    (data.loaded true) after.roster.all
  dismissed : after.dismissed = data.tenant.dismissed
  addresses : Randomizer.Prunes { before.randomizer with legacy := data.addresses } after.randomizer

theorem readBack_replaceMemory {data : StoreData} (room : manager.nextId.toNat + (data.loaded true).length < UInt32.size)
    (distinct : ((data.loaded true).map Profile.key).Nodup) : ReadBack data manager (manager.replaceMemory data true) := by
  have books := books_filled manager data true
  have roster : (manager.filled data true).roster = (manager.clearMemory.insertAll (data.loaded true)).roster :=
    congrArg Books.roster books
  have dismissed : (manager.filled data true).dismissed = SortedMap.empty.union data.tenant.dismissed :=
    congrArg Books.dismissed books
  have unlocked : (manager.filled data true).awaitsUnlock = false := congrArg Books.awaitsUnlock books
  have tenant : (manager.filled data true).tenant = manager.tenant := by
    unfold Manager.tenant
    rw [roster, tenant_insertAll]
    rfl
  have source := randomizer_filled manager data true
  have sound := sound_clearMemory manager
  have wellFormed : (manager.filled data true).roster.WellFormed := roster ▸ (sound_insertAll sound room).wellFormed
  have inserted := corresponds_insertAll sound rfl room distinct
  rw [← roster] at inserted
  have replaced : manager.replaceMemory data true =
      { (manager.filled data true).supplyAddresses.resetSim.announceReload with awaitsStore := false } := rfl
  generalize manager.filled data true = filled at *
  obtain ⟨supplying, supplied⟩ := supplied_supplyAddresses wellFormed
  have current : filled.supplyAddresses.tenant = manager.tenant := Eq.trans supplying.tenant tenant
  have reset := corresponds_resetSim supplying.wellFormed
  obtain ⟨randomizer, last, frame⟩ := supplying.frame
  have pruned := supplying.pruned
  rw [source] at pruned supplied
  rw [tenant] at supplied
  rw [current] at reset
  rw [replaced]
  refine ⟨current, ⟨rfl, ?_⟩, supplying.wellFormed.modifyVisible fun _ => ⟨rfl, rfl⟩, ?_, ?_, pruned⟩
  · rw [frame]
    exact unlocked
  · have addressed : Corresponds (fun record addressed => ∃ id,
        (record.withId id).Supplied manager.tenant { manager.randomizer with legacy := data.addresses } addressed)
        (data.loaded true) filled.supplyAddresses.roster.all :=
      inserted.trans supplied fun record _ numbered _ addressed _ same given => ⟨numbered.id, same ▸ given⟩
    refine addressed.trans reset fun record _ addressed _ new _ given same => ?_
    obtain ⟨id, given⟩ := given
    rw [same]
    exact given.readAs
  · rw [frame]
    exact dismissed.trans (SortedMap.empty_union _)

def saved (manager : Manager) : List Profile := manager.roster.all.filter Profile.isSaved

theorem keysDistinct_sections (wellFormed : manager.roster.WellFormed) : manager.sections.KeysDistinct :=
  ⟨wellFormed.nodup_keys.sublist ((List.filter_sublist.trans List.filter_sublist).map _),
    wellFormed.nodup_keys.sublist ((List.filter_sublist.trans List.filter_sublist).map _)⟩

/-- The two sections together hold the saved profiles. -/
theorem perm_loaded {found : StoreData} (alike : found.Alike manager.sections.persisted) :
    (found.loaded true).Perm (manager.saved.map Profile.persisted) := by
  have parts : (manager.sections.shared ++ manager.sections.tenant.profiles).Perm manager.saved :=
    List.filter_append_perm manager.belongsToShared manager.saved
  have written : manager.sections.persisted.shared ++ manager.sections.persisted.tenant.profiles =
      (manager.sections.shared ++ manager.sections.tenant.profiles).map Profile.persisted := List.map_append.symm
  have read : (found.loaded true).Perm
      (manager.sections.persisted.shared ++ manager.sections.persisted.tenant.profiles) :=
    alike.shared.append alike.tenant.profiles
  rw [written] at read
  exact read.trans (parts.map _)

/-- There are no more profiles than ids were handed out. -/
theorem length_all_le (sound : manager.books.Sound) : manager.roster.all.length ≤ manager.nextId.toNat := by
  have wellFormed : manager.roster.WellFormed := sound.wellFormed
  have distinct : (manager.roster.all.map fun profile => profile.id.value.toNat).Nodup :=
    List.pairwise_map.2 ((List.pairwise_map.1 wellFormed.nodup_ids).imp fun apart same =>
      apart (congrArg ProfileId.mk (UInt32.toNat_inj.1 same)))
  have below : (manager.roster.all.map fun profile => profile.id.value.toNat) ⊆ List.range manager.nextId.toNat := by
    intro value among
    obtain ⟨profile, present, rfl⟩ := List.mem_map.1 among
    exact List.mem_range.2 (UInt32.lt_iff_toNat_lt.1 (sound.numbered profile present))
  simpa using distinct.length_le_of_subset below

/-- Another manager with the same settings and the same secret opens the store, and the same tenant is brought to
the foreground. -/
def successor (manager : Manager) (platform : Platform) (listeners : List Listener) (random : List UInt8) : Manager :=
  ((start manager.settings platform manager.store.reopen listeners manager.randomizer.digest random).switchTenant
    manager.tenant).1

theorem successor_eq (manager : Manager) (platform : Platform) (listeners : List Listener) (random : List UInt8) :
    ∃ awaitsUnlock, manager.successor platform listeners random =
      { start manager.settings platform manager.store.reopen listeners manager.randomizer.digest random with
        roster := Roster.empty.switchTo manager.tenant
        awaitsUnlock } := by
  unfold successor
  obtain ⟨same, switched⟩ | ⟨_, _, switched⟩ | ⟨_, read, _⟩ | ⟨_, read, _⟩ :=
    (start manager.settings platform manager.store.reopen listeners manager.randomizer.digest random).switchTenant_cases
      manager.tenant
  · refine ⟨false, ?_⟩
    rw [switched, same]
    rfl
  · exact ⟨true, switched⟩
  · cases read
  · cases read

/-- The source of addresses when the successor has read those of earlier releases. -/
def source (manager : Manager) (random : List UInt8) : Randomizer :=
  { Randomizer.ofPolicy manager.settings.randomizationPolicy manager.randomizer.digest random with
    legacy := manager.randomizer.legacy }

/-- What a manager has of the one before it: of the profiles, all that are saved and no other. -/
structure Reloaded (random : List UInt8) (before after : Manager) : Prop where
  tenant : after.tenant = before.tenant
  done : after.awaitsStore = false ∧ after.awaitsUnlock = false
  profiles : Corresponds (fun old new => old.persisted.ReadAs before.tenant (before.source random) new) before.saved
    after.roster.all
  count : after.roster.size = before.saved.length
  dismissed : after.dismissed = before.dismissed
  addresses : (before.source random).Prunes after.randomizer

theorem reloaded_replaceMemory {fresh : Manager} {random : List UInt8} {data : StoreData} (sound : manager.books.Sound)
    (alike : data.Alike manager.sections.persisted) (unused : fresh.nextId = 0) (tenant : fresh.tenant = manager.tenant)
    (source : { fresh.randomizer with legacy := manager.randomizer.legacy } = manager.source random) :
    manager.Reloaded random (fresh.replaceMemory data true) := by
  have wellFormed : manager.roster.WellFormed := sound.wellFormed
  have listed := perm_loaded alike
  have addresses : data.addresses = manager.randomizer.legacy := alike.addresses
  have keys : (manager.saved.map Profile.key).Nodup := wellFormed.nodup_keys.sublist (List.filter_sublist.map _)
  -- The successor starts to count at zero, and what it loads was numbered before, so it cannot run out of ids.
  have few : manager.saved.length ≤ manager.nextId.toNat := Nat.le_trans (List.length_filter_le ..) (length_all_le sound)
  have room : fresh.nextId.toNat + (data.loaded true).length < UInt32.size := by
    rw [unused, listed.length_eq, List.length_map, UInt32.toNat_zero, Nat.zero_add]
    exact Nat.lt_of_le_of_lt few manager.nextId.toNat_lt_size
  have distinct : ((data.loaded true).map Profile.key).Nodup := by
    rw [(listed.map Profile.key).nodup_iff, List.map_map]
    exact keys
  have back := readBack_replaceMemory room distinct
  have profiles := back.profiles
  have pruned := back.addresses
  rw [tenant, addresses, source] at profiles
  rw [addresses, source] at pruned
  have kept : Corresponds (fun old record => record = old.persisted) manager.saved (data.loaded true) :=
    .of_mem_iff (fun _ => listed.mem_iff.trans List.mem_map) fun _ _ => rfl
  have corresponds : Corresponds (fun old new => old.persisted.ReadAs manager.tenant (manager.source random) new)
      manager.saved (fresh.replaceMemory data true).roster.all :=
    kept.trans profiles fun _ _ _ _ _ _ same readAs => same ▸ readAs
  refine ⟨back.tenant.trans tenant, back.done, corresponds, ?_, back.dismissed.trans alike.tenant.dismissed, pruned⟩
  have size : (fresh.replaceMemory data true).roster.all.length = (fresh.replaceMemory data true).roster.size :=
    List.length_map ..
  rw [← size]
  exact corresponds.length_eq (fun _ _ readAs => readAs.key) keys back.wellFormed.nodup_keys

/-- A manager that finds what was written loads it. -/
theorem reloaded_load {fresh : Manager} {random : List UInt8} {data : StoreData} (sound : manager.books.Sound)
    (answered : (fresh.store.read manager.tenant).2 = .ok data) (alike : data.Alike manager.sections.persisted)
    (unlocked : fresh.platform.isUnlocked manager.tenant = true) (unused : fresh.nextId = 0)
    (tenant : fresh.tenant = manager.tenant)
    (source : { fresh.randomizer with legacy := manager.randomizer.legacy } = manager.source random) :
    ∃ after, fresh.load = (after, .ok manager.saved.length) ∧ manager.Reloaded random after := by
  rw [← tenant] at answered unlocked
  obtain ⟨loads, memory⟩ := load_eq_ok answered
  rw [unlocked, Bool.or_true] at memory
  have reloaded : manager.Reloaded random fresh.load.1 := by
    rw [memory]
    exact reloaded_replaceMemory sound alike unused tenant source
  exact ⟨_, reloaded.count ▸ loads, reloaded⟩

/-- A save and a load by the successor succeed, and no saved profile is lost, changed or added, apart from what a load
makes of a record. Unless somebody else wrote to the store, the tenant sees each of them. -/
theorem load_successor (reached : manager.Reachable) (read : manager.awaitsStore = false)
    (loaded : manager.awaitsUnlock = false) (working : manager.store.works = true) (platform : Platform)
    (unlocked : platform.isUnlocked manager.tenant = true) (listeners : List Listener) (random : List UInt8) :
    (manager.save true).2 = .ok () ∧
      (∃ after, ((manager.save true).1.successor platform listeners random).load = (after, .ok manager.saved.length) ∧
        manager.Reloaded random after) ∧
      (manager.ReachableAlone → ∀ profile ∈ manager.saved, profile.visibleTo manager.tenant = true) := by
  have sound := reached.sound
  have wellFormed : manager.roster.WellFormed := sound.wellFormed
  obtain ⟨written, data, answered, alike⟩ :=
    Store.read_reopen_write working (keysDistinct_sections wellFormed) manager.tenant true
  have named : manager.writtenTenant = some manager.tenant := if_neg (ne_true_of_eq_false loaded)
  rw [save_of_read read, named, written]
  refine ⟨rfl, ?_, fun alone profile among => alone.placed.seen profile (List.mem_filter.1 among).1⟩
  obtain ⟨awaitsUnlock, opened⟩ := successor_eq
    { manager with store := (manager.store.write (some manager.tenant) manager.sections true).1 } platform listeners random
  rw [opened]
  exact reloaded_load sound answered alike unlocked rfl rfl rfl

theorem load_successor_withNetwork : (withNetwork false).saved.length = 1 ∧ ((withNetwork false).save true).2 = .ok () ∧
    ∃ after, (((withNetwork false).save true).1.successor (.start 0 1700000000000) [] []).load = (after, .ok 1) ∧
      (withNetwork false).Reloaded [] after := by
  have single : (withNetwork false).saved.length = 1 := by decide
  obtain ⟨saves, loads, _⟩ := load_successor (reachableAlone_withNetwork false).reachable (by decide)
    (by decide) (by decide) (.start 0 1700000000000) (by decide) [] []
  rw [single] at loads
  exact ⟨single, saves, loads⟩

end Manager

end SavedNetworks
