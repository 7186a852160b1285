import SavedNetworks.Proofs.Store.Sections

/-!
What a store that was written to answers: the profiles of the write as they are stored, in some order, with
the dismissals and the addresses of the write.
-/

namespace SavedNetworks

/-- The same profiles, in whatever order, and the same dismissals. -/
structure TenantSection.Alike (left right : TenantSection) : Prop where
  profiles : left.profiles.Perm right.profiles
  dismissed : left.dismissed = right.dismissed

/-- The same sections, with the profiles in whatever order, and the same addresses. -/
structure StoreData.Alike (left right : StoreData) : Prop where
  shared : left.shared.Perm right.shared
  tenant : left.tenant.Alike right.tenant
  addresses : left.addresses = right.addresses

/-- No section has two profiles of one key. -/
structure StoreData.KeysDistinct (data : StoreData) : Prop where
  shared : (data.shared.map Profile.key).Nodup
  tenant : (data.tenant.profiles.map Profile.key).Nodup

instance (data : StoreData) : Decidable data.KeysDistinct :=
  decidable_of_iff ((data.shared.map Profile.key).Nodup ∧ (data.tenant.profiles.map Profile.key).Nodup)
    ⟨fun both => ⟨both.1, both.2⟩, fun distinct => ⟨distinct.shared, distinct.tenant⟩⟩

/-- What is left of written data in a store. -/
def StoreData.persisted (data : StoreData) : StoreData :=
  { data with
    shared := data.shared.map Profile.persisted
    tenant := ImmediateStore.stored data.tenant }

namespace StoreFile

variable {tenant : Tenant} {file left right : StoreFile} {profiles : List Profile} {keyOf : Profile → String}

/-- Either every record is read, in order, or the first one that cannot be is named. -/
theorem readProfiles_cases (records : List (String × String)) :
    (∃ profiles, readProfiles records = .ok profiles ∧
        profiles.map some = records.map fun record => Profile.ofRecord? record.2) ∨
      ∃ record ∈ records, readProfiles records = .error (.corrupt record.1) ∧ Profile.ofRecord? record.2 = none := by
  induction records with
  | nil => exact .inl ⟨[], rfl, rfl⟩
  | cons record rest ih =>
      obtain ⟨key, text⟩ := record
      cases first : Profile.ofRecord? text with
      | none =>
          refine .inr ⟨(key, text), List.mem_cons_self .., ?_, first⟩
          simp only [readProfiles, List.mapM_cons, first]
          rfl
      | some profile =>
          obtain ⟨profiles, read, decoded⟩ | ⟨record, among, refused, unread⟩ := ih
          · refine .inl ⟨profile :: profiles, ?_, by simp [first, decoded]⟩
            unfold readProfiles at read ⊢
            simp only [List.mapM_cons, first, read]
            rfl
          · refine .inr ⟨record, List.mem_cons_of_mem _ among, ?_, unread⟩
            unfold readProfiles at refused ⊢
            simp only [List.mapM_cons, first, refused]
            rfl

theorem readProfiles_eq_ok {records : List (String × String)}
    (readable : ∀ record ∈ records, (Profile.ofRecord? record.2).isSome = true) :
    readProfiles records = .ok (records.filterMap fun record => Profile.ofRecord? record.2) := by
  obtain ⟨profiles, read, decoded⟩ | ⟨record, among, _, unread⟩ := readProfiles_cases records
  · have all : profiles = records.filterMap fun record => Profile.ofRecord? record.2 := by
      calc profiles = (profiles.map some).filterMap id := by simp
        _ = (records.map fun record => Profile.ofRecord? record.2).filterMap id := by rw [decoded]
        _ = records.filterMap fun record => Profile.ofRecord? record.2 := by rw [List.filterMap_map]; rfl
    rw [read, all]
  · have decodes := readable record among
    rw [unread] at decodes
    cases decodes

/-- A table of profiles under different keys holds their records. -/
theorem entries_tableOf (distinct : (profiles.map keyOf).Nodup) :
    (tableOf keyOf profiles).entries.Perm (profiles.map fun profile => (keyOf profile, profile.toRecord)) := by
  have built : tableOf keyOf profiles = .ofList (profiles.map fun profile => (keyOf profile, profile.toRecord)) := by
    rw [SortedMap.ofList, List.foldl_map]
    rfl
  rw [built]
  refine SortedMap.entries_ofList ?_
  rw [List.map_map]
  exact distinct

theorem readProfiles_tableOf (distinct : (profiles.map keyOf).Nodup) :
    ∃ found, readProfiles (tableOf keyOf profiles).entries = .ok found ∧
      found.Perm (profiles.map Profile.persisted) := by
  have listed := entries_tableOf distinct
  have readable : ∀ record ∈ (tableOf keyOf profiles).entries, (Profile.ofRecord? record.2).isSome = true := by
    intro record among
    obtain ⟨profile, _, same⟩ := List.mem_map.1 (listed.mem_iff.1 among)
    rw [← same, Profile.ofRecord?_toRecord, Option.isSome_some]
  have decoded : (profiles.map fun profile => (keyOf profile, profile.toRecord)).filterMap
      (fun record => Profile.ofRecord? record.2) = profiles.map Profile.persisted := by
    simp only [List.filterMap_map, Function.comp_def, Profile.ofRecord?_toRecord, List.filterMap_eq_map']
  exact ⟨_, readProfiles_eq_ok readable, decoded ▸ listed.filterMap _⟩

/-- The dismissals that a read finds. -/
def dismissals (file : StoreFile) (tenant : Tenant) : SortedMap String Millis :=
  .ofList (file.dismissed.entries.filterMap fun (key, at_) => (withoutMark? tenant key).map fun ssid => (ssid, at_))

theorem readTenant_eq (file : StoreFile) (tenant : Tenant) :
    file.readTenant tenant = (readProfiles (file.tenantProfiles.filter (isOf tenant)).entries).map
      (⟨·, file.dismissals tenant⟩) := by
  unfold readTenant
  cases readProfiles (file.tenantProfiles.filter (isOf tenant)).entries <;> rfl

theorem get?_dismissals (file : StoreFile) (tenant : Tenant) (ssid : String) :
    (file.dismissals tenant).get? ssid = (file.storedSection tenant).dismissed.get? (tenantKey tenant ssid) := by
  have functional : ((file.dismissed.entries.filterMap fun (key, at_) =>
      (withoutMark? tenant key).map fun ssid => (ssid, at_)).map Prod.fst).Nodup := by
    refine List.pairwise_map.2 (List.Pairwise.filterMap _ ?_ (List.pairwise_map.1 file.dismissed.keys_nodup))
    intro left right apart stripped found other also same
    obtain ⟨rest, unmarked, rfl⟩ := Option.map_eq_some_iff.1 found
    obtain ⟨_, again, rfl⟩ := Option.map_eq_some_iff.1 also
    obtain rfl : rest = _ := same
    exact apart ((withoutMark?_eq_some_iff.1 unmarked).trans (withoutMark?_eq_some_iff.1 again).symm)
  have owned (value : Millis) : isOf tenant (tenantKey tenant ssid) value = true := by simp [isOf_tenantKey]
  ext value
  unfold dismissals storedSection
  rw [SortedMap.get?_ofList_eq_some functional, SortedMap.get?_filter, Option.filter_eq_some_iff,
    and_iff_left (owned value), ← SortedMap.mem_entries_iff]
  simp only [List.mem_filterMap, Option.map_eq_some_iff, Prod.exists, Prod.mk.injEq, withoutMark?_eq_some_iff]
  constructor
  · rintro ⟨key, _, among, _, rfl, rfl, rfl⟩
    exact among
  · exact fun among => ⟨_, value, among, ssid, rfl, rfl, rfl⟩

theorem readTenant_congr (same : left.storedSection tenant = right.storedSection tenant) :
    left.readTenant tenant = right.readTenant tenant := by
  have dismissed : left.dismissals tenant = right.dismissals tenant :=
    SortedMap.ext_get? fun ssid => by rw [get?_dismissals, get?_dismissals, same]
  have rows : rows (left.tenantProfiles.filter (isOf tenant)) = rows (right.tenantProfiles.filter (isOf tenant)) :=
    congrArg StoredSection.profiles same
  have entries : (left.tenantProfiles.filter (isOf tenant)).entries =
      (right.tenantProfiles.filter (isOf tenant)).entries := by
    refine (List.map_inj_right fun left right equal => ?_).1 rows
    exact Prod.ext (StoredProfile.record.inj equal).1 (StoredProfile.record.inj equal).2
  rw [readTenant_eq, readTenant_eq, dismissed, entries]

/-- A committed section is read as it was committed. -/
theorem readTenant_commitTenant {data : TenantSection} (distinct : (data.profiles.map Profile.key).Nodup) (file : StoreFile)
    (tenant : Tenant) : ∃ found, (file.commitTenant tenant data).readTenant tenant = .ok found ∧
      found.Alike (ImmediateStore.stored data) := by
  have marked : (data.profiles.map fun profile => tenantKey tenant profile.key.text).Nodup := by
    rw [List.Nodup, List.pairwise_map] at distinct ⊢
    refine distinct.imp fun apart same => apart ?_
    exact congrArg ProfileKey.mk (tenantKey_injective same).2
  obtain ⟨profiles, read, listed⟩ := readProfiles_tableOf marked
  refine ⟨⟨profiles, (file.commitTenant tenant data).dismissals tenant⟩, ?_, listed, ?_⟩
  · rw [readTenant_eq, tenantProfiles_commitTenant, read]
    rfl
  · refine SortedMap.ext_get? fun ssid => ?_
    rw [get?_dismissals]
    have kept : ((file.commitTenant tenant data).storedSection tenant).dismissed =
        .ofList (data.dismissed.entries.map fun entry => (tenantKey tenant entry.1, entry.2)) := by
      rw [SortedMap.ofList, List.foldl_map]
      exact dismissed_commitTenant file tenant data
    have functional : ((data.dismissed.entries.map fun entry => (tenantKey tenant entry.1, entry.2)).map Prod.fst).Nodup := by
      rw [List.map_map]
      refine List.pairwise_map.2 ((List.pairwise_map.1 data.dismissed.keys_nodup).imp fun apart same => apart ?_)
      exact (tenantKey_injective same).2
    ext value
    rw [kept, SortedMap.get?_ofList_eq_some functional]
    simp only [List.mem_map, Prod.mk.injEq, Prod.exists]
    constructor
    · rintro ⟨other, _, among, same, rfl⟩
      obtain rfl := (tenantKey_injective same).2
      exact (SortedMap.mem_entries_iff ..).1 among
    · exact fun found => ⟨ssid, value, (SortedMap.mem_entries_iff ..).2 found, rfl, rfl⟩

theorem read_eq_ok {shared : List Profile} {tenantSection : TenantSection} (sectionRead : file.readTenant tenant = .ok tenantSection)
    (rest : readProfiles file.shared.entries = .ok shared) :
    file.read tenant = .ok ⟨shared, tenantSection, file.addresses⟩ := by
  unfold read
  rw [sectionRead, rest]
  rfl

end StoreFile

namespace BufferedStore

variable {data : StoreData}

theorem addresses_write (store : BufferedStore) (named : Option Tenant) (data : StoreData) (force : Bool) :
    (store.write named data force).flush.file.addresses = data.addresses := by
  rw [file_flush_write]
  obtain ⟨file, pending⟩ := store
  match pending, named with
  | none, _ => rfl
  | some (none, _), _ => rfl
  | some (some _, _), none => rfl
  | some (some _, _), some _ => rfl

/-- Whether a write waits or not, it replaces the shared section. -/
theorem readShared_write (distinct : data.KeysDistinct) (store : BufferedStore) (named : Option Tenant) (force : Bool) :
    ∃ found, StoreFile.readProfiles (store.write named data force).flush.file.shared.entries = .ok found ∧
      found.Perm data.persisted.shared := by
  rw [shared_write]
  refine StoreFile.readProfiles_tableOf ?_
  rw [List.Nodup, List.pairwise_map]
  exact (List.pairwise_map.1 distinct.shared).imp fun apart same => apart (congrArg ProfileKey.mk same)

theorem readTenant_write (distinct : data.KeysDistinct) (store : BufferedStore) (tenant : Tenant) (force : Bool) :
    ∃ found, (store.write (some tenant) data force).flush.file.readTenant tenant = .ok found ∧
      found.Alike data.persisted.tenant := by
  have sectionRead := storedSection_write store (some tenant) data force tenant
  rw [if_pos rfl] at sectionRead
  rw [StoreFile.readTenant_congr sectionRead]
  exact StoreFile.readTenant_commitTenant distinct.tenant .empty tenant

theorem readTenant_write_of_ne {named : Option Tenant} {tenant : Tenant} (other : named ≠ some tenant)
    (store : BufferedStore) (data : StoreData) (force : Bool) :
    (store.write named data force).flush.file.readTenant tenant = store.flush.file.readTenant tenant := by
  refine StoreFile.readTenant_congr ?_
  rw [storedSection_write, if_neg other]

end BufferedStore

namespace Store

theorem sectionFound_write {store : Store} {data : StoreData} (accepts : store.acceptsWrites = true)
    (distinct : data.KeysDistinct) (tenant : Tenant) (force : Bool) :
    ∃ found, (store.write (some tenant) data force).1.sectionFound tenant = .ok found ∧ found.Alike data.persisted.tenant := by
  cases store with
  | immediate store =>
      have writes : store.failWrites = false := by simpa [acceptsWrites] using accepts
      refine ⟨data.persisted.tenant, ?_, .refl _, rfl⟩
      simp [write, ImmediateStore.write, writes, sectionFound, ImmediateStore.accept, ImmediateStore.section?,
        StoreData.persisted]
  | buffered store => exact store.readTenant_write distinct tenant force

theorem sectionFound_write_of_ne {named : Option Tenant} {tenant : Tenant} (other : named ≠ some tenant) (store : Store)
    (data : StoreData) (force : Bool) :
    (store.write named data force).1.sectionFound tenant = store.sectionFound tenant := by
  cases store with
  | immediate store =>
      obtain failing | passing := Bool.eq_false_or_eq_true store.failWrites
      · simp [write, ImmediateStore.write, failing]
      · cases named with
        | none => simp [write, ImmediateStore.write, ImmediateStore.accept, passing, sectionFound, ImmediateStore.section?]
        | some owner =>
            have different : tenant ≠ owner := fun same => other (congrArg some same.symm)
            simp [write, ImmediateStore.write, ImmediateStore.accept, passing, sectionFound, ImmediateStore.section?,
              SortedMap.get?_insert_of_ne _ _ different]
  | buffered store => exact store.readTenant_write_of_ne other data force

/-- Was not told to fail. -/
def works : Store → Bool
  | immediate store => !store.failNextRead && !store.failWrites
  | buffered _ => true

/-- What was written for a tenant is found when the store is opened again. -/
theorem read_reopen_write {store : Store} {data : StoreData} (working : store.works = true) (distinct : data.KeysDistinct)
    (tenant : Tenant) (force : Bool) :
    (store.write (some tenant) data force).2 = .ok () ∧
      ∃ found, ((store.write (some tenant) data force).1.reopen.read tenant).2 = .ok found ∧ found.Alike data.persisted := by
  cases store with
  | immediate store =>
      obtain ⟨reads, writes⟩ : store.failNextRead = false ∧ store.failWrites = false := by
        simpa [works] using working
      have accepted : store.write (some tenant) data force = (store.accept (some tenant) data force, .ok ()) := by
        simp [ImmediateStore.write, writes]
      have answered : ((store.accept (some tenant) data force).read tenant).2 = .ok data.persisted := by
        simp [ImmediateStore.read, ImmediateStore.answer, ImmediateStore.accept, reads, ImmediateStore.contents,
          ImmediateStore.section?, StoreData.persisted]
      simp only [write, accepted, reopen, read, answered]
      exact ⟨trivial, data.persisted, rfl, .refl _, ⟨.refl _, rfl⟩, rfl⟩
  | buffered store =>
      obtain ⟨shared, sharedRead, listed⟩ := store.readShared_write distinct (some tenant) force
      obtain ⟨tenantSection, sectionRead, alike⟩ := store.readTenant_write distinct tenant force
      exact ⟨rfl, _, StoreFile.read_eq_ok sectionRead sharedRead, listed, alike, store.addresses_write (some tenant) data force⟩

end Store

end SavedNetworks
