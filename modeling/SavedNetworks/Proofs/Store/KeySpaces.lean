import Mathlib.Logic.Function.Basic
import SavedNetworks.Proofs.Profile.Key
import SavedNetworks.Proofs.Store.Reading

/-!
Keys do not collide. The key of a network tells its SSID and security type, and a key of the file tells the tenant and what
the tenant calls the record, whatever characters either has; so a tenant writes and reads its own records and no others
(`keys_apart`).
-/

namespace SavedNetworks

namespace StoreFile

/-- The private records that a tenant reads. -/
def recordsOf (file : StoreFile) (tenant : Tenant) : List (String × String) :=
  (file.tenantProfiles.filter (isOf tenant)).entries

/-- What a commit for `tenant` writes, and what it leaves alone. -/
structure CommitsOwn (file : StoreFile) (tenant : Tenant) (data : StoreData) : Prop where
  profiles : ∀ rest, (file.commit (some tenant) data).tenantProfiles.get? (tenantKey tenant rest) =
    (tableOf (fun profile => profile.key.text) data.tenant.profiles).get? rest
  dismissed : ∀ ssid, (file.commit (some tenant) data).dismissed.get? (tenantKey tenant ssid) = data.tenant.dismissed.get? ssid
  others : ∀ key, withoutMark? tenant key = none →
    (file.commit (some tenant) data).tenantProfiles.get? key = file.tenantProfiles.get? key ∧
      (file.commit (some tenant) data).dismissed.get? key = file.dismissed.get? key

/-- What a read for `tenant` finds: its own records, in the order of their keys, and its own dismissals. -/
structure FindsOwn (file : StoreFile) (tenant : Tenant) (found : TenantSection) : Prop where
  profiles : found.profiles.map some = (file.recordsOf tenant).map fun record => Profile.ofRecord? record.2
  dismissed : ∀ ssid, found.dismissed.get? ssid = file.dismissed.get? (tenantKey tenant ssid)

/-- The keys that start with the mark of `tenant` are the keys of its records. -/
structure KeepsApart (file : StoreFile) (tenant : Tenant) : Prop where
  strips : ∀ other rest, withoutMark? tenant (tenantKey other rest) = if tenant = other then some rest else none
  selects : ∀ key text, (key, text) ∈ file.recordsOf tenant ↔
    ∃ rest, key = tenantKey tenant rest ∧ file.tenantProfiles.get? key = some text
  commits : ∀ data, file.CommitsOwn tenant data
  finds : ∀ found, file.readTenant tenant = .ok found → file.FindsOwn tenant found
  /-- A read fails for a record of the tenant, if at all. -/
  fails : ∀ error, file.readTenant tenant = .error error →
    ∃ record ∈ file.recordsOf tenant, error = .corrupt record.1 ∧ Profile.ofRecord? record.2 = none

variable {file : StoreFile} {tenant : Tenant}

theorem withoutMark?_tenantKey_eq (tenant other : Tenant) (rest : String) :
    withoutMark? tenant (tenantKey other rest) = if tenant = other then some rest else none := by
  split
  · next same => rw [same, withoutMark?_tenantKey]
  · next apart =>
      rw [Option.eq_none_iff_forall_ne_some]
      intro more stripped
      exact apart (tenantKey_injective (withoutMark?_eq_some_iff.1 stripped)).1.symm

theorem mem_recordsOf_iff {key text : String} : (key, text) ∈ file.recordsOf tenant ↔
    ∃ rest, key = tenantKey tenant rest ∧ file.tenantProfiles.get? key = some text := by
  rw [recordsOf, SortedMap.mem_entries_iff, SortedMap.get?_filter, Option.filter_eq_some_iff, isOf,
    Option.isSome_iff_exists]
  simp only [withoutMark?_eq_some_iff, and_comm, exists_and_left]

section Tables

variable {α β : Type} {keyOf : β → String} {valueOf : β → α} {items : List β} {table other : SortedMap String α}

/-- Under the mark a table is filled as it would be without. -/
theorem get?_foldl_insert_tenantKey (same : ∀ rest, table.get? (tenantKey tenant rest) = other.get? rest) (rest : String) :
    (items.foldl (fun table item => table.insert (tenantKey tenant (keyOf item)) (valueOf item)) table).get?
        (tenantKey tenant rest) =
      (items.foldl (fun table item => table.insert (keyOf item) (valueOf item)) other).get? rest := by
  induction items generalizing table other with
  | nil => exact same rest
  | cons item later ih =>
      refine ih fun rest => ?_
      rw [SortedMap.get?_insert, SortedMap.get?_insert, same]
      have keys : tenantKey tenant rest = tenantKey tenant (keyOf item) ↔ rest = keyOf item :=
        ⟨fun marked => (tenantKey_injective marked).2, congrArg _⟩
      simp only [keys]

theorem get?_foldl_insert_of_unmarked {key : String} (unmarked : withoutMark? tenant key = none) :
    (items.foldl (fun table item => table.insert (tenantKey tenant (keyOf item)) (valueOf item)) table).get? key =
      table.get? key := by
  induction items generalizing table with
  | nil => rfl
  | cons item later ih =>
      refine ih.trans (SortedMap.get?_insert_of_ne _ _ ?_)
      rintro rfl
      rw [withoutMark?_tenantKey] at unmarked
      cases unmarked

theorem get?_cleared_tenantKey (table : SortedMap String α) (tenant : Tenant) (rest : String) :
    (table.filter fun key value => !isOf tenant key value).get? (tenantKey tenant rest) = none := by
  rw [SortedMap.get?_filter]
  cases table.get? (tenantKey tenant rest) with
  | none => rfl
  | some value => simp [Option.filter, isOf_tenantKey]

theorem get?_cleared_of_unmarked {key : String} (unmarked : withoutMark? tenant key = none) (table : SortedMap String α) :
    (table.filter fun key value => !isOf tenant key value).get? key = table.get? key := by
  rw [SortedMap.get?_filter]
  cases table.get? key with
  | none => rfl
  | some value => simp [Option.filter, isOf, unmarked]

end Tables

theorem commitsOwn (file : StoreFile) (tenant : Tenant) (data : StoreData) : file.CommitsOwn tenant data where
  profiles rest := get?_foldl_insert_tenantKey (get?_cleared_tenantKey file.tenantProfiles tenant) rest
  dismissed ssid := by
    have filled : (SortedMap.ofList data.tenant.dismissed.entries).get? ssid = data.tenant.dismissed.get? ssid := by
      ext at_
      rw [SortedMap.get?_ofList_eq_some data.tenant.dismissed.keys_nodup, SortedMap.mem_entries_iff]
    exact (get?_foldl_insert_tenantKey (get?_cleared_tenantKey file.dismissed tenant) ssid).trans filled
  others key unmarked :=
    ⟨(get?_foldl_insert_of_unmarked unmarked).trans (get?_cleared_of_unmarked unmarked file.tenantProfiles),
      (get?_foldl_insert_of_unmarked unmarked).trans (get?_cleared_of_unmarked unmarked file.dismissed)⟩

theorem readTenant_cases (file : StoreFile) (tenant : Tenant) :
    (∃ found, file.readTenant tenant = .ok found ∧ file.FindsOwn tenant found) ∨
      ∃ record ∈ file.recordsOf tenant,
        file.readTenant tenant = .error (.corrupt record.1) ∧ Profile.ofRecord? record.2 = none := by
  have dismissed (ssid : String) : (file.dismissals tenant).get? ssid = file.dismissed.get? (tenantKey tenant ssid) := by
    rw [get?_dismissals, storedSection, SortedMap.get?_filter]
    cases file.dismissed.get? (tenantKey tenant ssid) with
    | none => rfl
    | some at_ => simp [Option.filter, isOf_tenantKey]
  rw [readTenant_eq]
  obtain ⟨profiles, read, decoded⟩ | ⟨record, among, refused, unread⟩ := readProfiles_cases (file.recordsOf tenant)
  · refine .inl ⟨⟨profiles, file.dismissals tenant⟩, ?_, decoded, dismissed⟩
    rw [recordsOf] at read
    rw [read]
    rfl
  · refine .inr ⟨record, among, ?_, unread⟩
    rw [recordsOf] at refused
    rw [refused]
    rfl

theorem keepsApart (file : StoreFile) (tenant : Tenant) : file.KeepsApart tenant where
  strips := withoutMark?_tenantKey_eq tenant
  selects _ _ := mem_recordsOf_iff
  commits := file.commitsOwn tenant
  finds found read := by
    obtain ⟨other, also, finds⟩ | ⟨_, _, refused, _⟩ := file.readTenant_cases tenant
    · exact Except.ok.inj (also.symm.trans read) ▸ finds
    · cases refused.symm.trans read
  fails error read := by
    obtain ⟨_, also, _⟩ | ⟨record, among, refused, unread⟩ := file.readTenant_cases tenant
    · cases also.symm.trans read
    · exact ⟨record, among, (Except.error.inj (refused.symm.trans read)).symm, unread⟩

end StoreFile

/-- Different networks have different keys, different records of the tenants stand under different keys of a file, and in
every file each tenant writes and reads what is its own. -/
theorem keys_apart : Function.Injective2 ProfileKey.ofNetwork ∧ Function.Injective2 StoreFile.tenantKey ∧
    ∀ (file : StoreFile) (tenant : Tenant), file.KeepsApart tenant :=
  ⟨fun _ _ _ _ same => ProfileKey.ofNetwork_injective same, fun _ _ _ _ same => StoreFile.tenantKey_injective same,
    StoreFile.keepsApart⟩

end SavedNetworks
