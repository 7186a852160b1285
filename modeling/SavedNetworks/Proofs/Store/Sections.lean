import SavedNetworks.Proofs.Collections
import SavedNetworks.Proofs.Profile.RoundTrip
import SavedNetworks.Proofs.Store.Marks
import SavedNetworks.Store.Basic

/-!
What either kind of store holds, a waiting write included: the shared section, and the private section of
each tenant. A write replaces the shared section and the section of the tenant that it names; nothing else
that a store does changes what it holds.
-/

namespace SavedNetworks

/-- A profile as a store keeps it. -/
inductive StoredProfile where
  | kept (profile : Profile)
  | record (key text : String)
deriving DecidableEq

namespace StoredProfile

def profile? : StoredProfile → Option Profile
  | kept profile => some profile
  | record _ text => Profile.ofRecord? text

end StoredProfile

/-- A private section as a store keeps it. -/
structure StoredSection where
  profiles : List StoredProfile
  /-- The dismissals, under the keys of the store. -/
  dismissed : SortedMap String Millis
deriving DecidableEq

namespace StoredSection

def empty : StoredSection := ⟨[], .empty⟩

end StoredSection

namespace StoreFile

def rows (table : SortedMap String String) : List StoredProfile :=
  table.entries.map fun (key, text) => .record key text

/-- The table of profiles that are put into an empty one. -/
def tableOf (keyOf : Profile → String) (profiles : List Profile) : SortedMap String String :=
  putProfiles keyOf .empty profiles

def storedSection (file : StoreFile) (tenant : Tenant) : StoredSection :=
  ⟨rows (file.tenantProfiles.filter (isOf tenant)), file.dismissed.filter (isOf tenant)⟩

end StoreFile

namespace Store

def storedShared : Store → List StoredProfile
  | immediate store => store.shared.map .kept
  | buffered store => StoreFile.rows store.flush.file.shared

def storedSection (tenant : Tenant) : Store → StoredSection
  | immediate store => ⟨(store.section? tenant).profiles.map .kept, (store.section? tenant).dismissed⟩
  | buffered store => store.flush.file.storedSection tenant

/-- What a reader of the section of a tenant finds, unless the read is made to fail. -/
def sectionFound (tenant : Tenant) : Store → Except StoreError TenantSection
  | immediate store => .ok (store.section? tenant)
  | buffered store => store.flush.file.readTenant tenant

/-- Takes the writes that it is given. -/
def acceptsWrites : Store → Bool
  | immediate store => !store.failWrites
  | buffered _ => true

/-- Written profiles, as this kind of store keeps them. -/
def rendition (profiles : List Profile) (keyOf : Profile → String) : Store → List StoredProfile
  | immediate _ => profiles.map fun profile => .kept profile.persisted
  | buffered _ => StoreFile.rows (StoreFile.tableOf keyOf profiles)

/-- A written section, as this kind of store keeps it. -/
def sectionRendition (tenant : Tenant) (tenantSection : TenantSection) (store : Store) : StoredSection :=
  { profiles := store.rendition tenantSection.profiles fun profile => StoreFile.tenantKey tenant profile.key.text
    dismissed := match store with
      | immediate _ => tenantSection.dismissed
      | buffered _ => tenantSection.dismissed.entries.foldl
        (fun table (ssid, at_) => table.insert (StoreFile.tenantKey tenant ssid) at_) .empty }

end Store

namespace StoreFile

variable {tenant other : Tenant} {file : StoreFile}

section Tables

variable {α β : Type} {keyOf : β → String} {valueOf : β → α} {items : List β}
  {table : SortedMap String α}

theorem filter_filter_not (table : SortedMap String α) :
    (table.filter fun key value => !isOf tenant key value).filter (isOf tenant) = .empty := by
  refine SortedMap.ext_get? fun key => ?_
  rw [SortedMap.get?_filter, SortedMap.get?_filter]
  cases table.get? key with
  | none => rfl
  | some value => cases owned : isOf tenant key value <;> simp [Option.filter, owned]

theorem filter_filter_not_of_ne (different : other ≠ tenant) (table : SortedMap String α) :
    (table.filter fun key value => !isOf tenant key value).filter (isOf other) = table.filter (isOf other) := by
  refine SortedMap.ext_get? fun key => ?_
  rw [SortedMap.get?_filter, SortedMap.get?_filter, SortedMap.get?_filter]
  cases table.get? key with
  | none => rfl
  | some value =>
      cases owned : isOf tenant key value with
      | false => simp [Option.filter, owned]
      | true =>
          have foreign : isOf other key value = false :=
            Bool.eq_false_iff.2 fun also => different (eq_of_isOf also owned)
          simp [Option.filter, owned, foreign]

/-- The keys of one tenant see the insertion of one of them. -/
theorem filter_insert_of_isOf {key : String} {value : α} (owned : isOf tenant key value = true) :
    (table.insert key value).filter (isOf tenant) = (table.filter (isOf tenant)).insert key value := by
  refine SortedMap.ext_get? fun asked => ?_
  simp only [SortedMap.get?_filter, SortedMap.get?_insert]
  split
  · next same => simp [Option.filter, same, owned]
  · rfl

theorem filter_insert_of_not_isOf {key : String} {value : α} (foreign : isOf tenant key value = false) :
    (table.insert key value).filter (isOf tenant) = table.filter (isOf tenant) := by
  refine SortedMap.ext_get? fun asked => ?_
  simp only [SortedMap.get?_filter, SortedMap.get?_insert]
  split
  · next same =>
      subst same
      have unseen : ∀ other : α, isOf tenant asked other = false := fun _ => foreign
      cases table.get? asked <;> simp [Option.filter, unseen]
  · rfl

theorem filter_foldl_insert_of_isOf (owned : ∀ item, isOf tenant (keyOf item) (valueOf item) = true) :
    (items.foldl (fun table item => table.insert (keyOf item) (valueOf item)) table).filter (isOf tenant) =
      items.foldl (fun table item => table.insert (keyOf item) (valueOf item)) (table.filter (isOf tenant)) := by
  induction items generalizing table with
  | nil => rfl
  | cons item others ih => rw [List.foldl_cons, ih, filter_insert_of_isOf (owned item), List.foldl_cons]

theorem filter_foldl_insert_of_not_isOf (foreign : ∀ item, isOf tenant (keyOf item) (valueOf item) = false) :
    (items.foldl (fun table item => table.insert (keyOf item) (valueOf item)) table).filter (isOf tenant) =
      table.filter (isOf tenant) := by
  induction items generalizing table with
  | nil => rfl
  | cons item others ih => rw [List.foldl_cons, ih, filter_insert_of_not_isOf (foreign item)]

end Tables

theorem tenantProfiles_commitTenant (file : StoreFile) (tenant : Tenant) (data : TenantSection) :
    (file.commitTenant tenant data).tenantProfiles.filter (isOf tenant) =
      tableOf (fun profile => tenantKey tenant profile.key.text) data.profiles := by
  unfold commitTenant tableOf putProfiles
  rw [filter_foldl_insert_of_isOf (by simp [isOf_tenantKey]), filter_filter_not]

theorem dismissed_commitTenant (file : StoreFile) (tenant : Tenant) (data : TenantSection) :
    (file.commitTenant tenant data).dismissed.filter (isOf tenant) =
      data.dismissed.entries.foldl (fun table (ssid, at_) => table.insert (tenantKey tenant ssid) at_) .empty := by
  unfold commitTenant
  rw [filter_foldl_insert_of_isOf (by simp [isOf_tenantKey]), filter_filter_not]

theorem storedSection_commitTenant (file : StoreFile) (tenant : Tenant) (data : TenantSection) :
    (file.commitTenant tenant data).storedSection tenant =
      (empty.commitTenant tenant data).storedSection tenant := by
  simp only [storedSection, tenantProfiles_commitTenant, dismissed_commitTenant]

theorem storedSection_commitTenant_of_ne (different : other ≠ tenant) (file : StoreFile) (data : TenantSection) :
    (file.commitTenant tenant data).storedSection other = file.storedSection other := by
  have apart : (other == tenant) = false := by simpa using different
  simp only [storedSection, commitTenant, putProfiles]
  rw [filter_foldl_insert_of_not_isOf (by simp [isOf_tenantKey, apart]), filter_filter_not_of_ne different,
    filter_foldl_insert_of_not_isOf (by simp [isOf_tenantKey, apart]), filter_filter_not_of_ne different]

/-- A commit replaces the section of the tenant that it names. -/
theorem storedSection_commit (file : StoreFile) (named : Option Tenant) (data : StoreData) (tenant : Tenant) :
    (file.commit named data).storedSection tenant =
      if named = some tenant then (empty.commitTenant tenant data.tenant).storedSection tenant
      else file.storedSection tenant := by
  cases named with
  | none => rfl
  | some owner =>
      have same : (file.commit (some owner) data).storedSection tenant =
          (file.commitTenant owner data.tenant).storedSection tenant := rfl
      rw [same]
      by_cases named : owner = tenant
      · subst named
        rw [if_pos rfl, storedSection_commitTenant]
      · rw [if_neg (by simpa using named), storedSection_commitTenant_of_ne (Ne.symm named)]

end StoreFile

namespace BufferedStore

/-- What a write leaves, committed at once or not. -/
theorem file_flush_write (store : BufferedStore) (named : Option Tenant) (data : StoreData) (force : Bool) :
    (store.write named data force).flush.file =
      (store.settled named).commit (merge store.pending named data).1 (merge store.pending named data).2 := by
  unfold write
  cases force <;> rfl

theorem storedSection_write (store : BufferedStore) (named : Option Tenant) (data : StoreData) (force : Bool)
    (tenant : Tenant) :
    (store.write named data force).flush.file.storedSection tenant =
      if named = some tenant then (StoreFile.empty.commitTenant tenant data.tenant).storedSection tenant
      else store.flush.file.storedSection tenant := by
  obtain ⟨file, pending⟩ := store
  rw [file_flush_write, StoreFile.storedSection_commit]
  match pending, named with
  | none, named => rfl
  | some (none, held), named =>
      have same : (file.commit none held).storedSection tenant = file.storedSection tenant := rfl
      simp only [merge, settled, flush, ofFile, same]
      rfl
  | some (some waiting, held), none => simp [merge, settled, flush, ofFile, StoreFile.storedSection_commit]
  | some (some waiting, held), some current =>
      simp only [merge, settled, flush, ofFile, StoreFile.storedSection_commit]
      by_cases named : current = tenant
      · simp [named]
      · by_cases same : waiting = current
        · simp [same, named]
        · simp [same, named, StoreFile.storedSection_commit]

theorem shared_write (store : BufferedStore) (named : Option Tenant) (data : StoreData) (force : Bool) :
    (store.write named data force).flush.file.shared =
      StoreFile.tableOf (fun profile => profile.key.text) data.shared := by
  rw [file_flush_write]
  obtain ⟨file, pending⟩ := store
  match pending, named with
  | none, _ => rfl
  | some (none, _), _ => rfl
  | some (some _, _), none => rfl
  | some (some _, _), some _ => rfl

end BufferedStore

namespace Store

variable {store : Store} {tenant : Tenant}

theorem storedShared_write (store : Store) (named : Option Tenant) (data : StoreData) (force : Bool) :
    (store.write named data force).1.storedShared =
      if store.acceptsWrites then store.rendition data.shared fun profile => profile.key.text
      else store.storedShared := by
  cases store with
  | immediate store =>
      obtain failing | passing := Bool.eq_false_or_eq_true store.failWrites
      · simp [write, ImmediateStore.write, acceptsWrites, failing]
      · simp [write, ImmediateStore.write, ImmediateStore.accept, acceptsWrites, passing, storedShared, rendition]
  | buffered store => simp [write, acceptsWrites, storedShared, rendition, BufferedStore.shared_write]

theorem storedSection_write (store : Store) (named : Option Tenant) (data : StoreData) (force : Bool)
    (tenant : Tenant) :
    (store.write named data force).1.storedSection tenant =
      if store.acceptsWrites ∧ named = some tenant then store.sectionRendition tenant data.tenant
      else store.storedSection tenant := by
  cases store with
  | immediate store =>
      obtain failing | passing := Bool.eq_false_or_eq_true store.failWrites
      · simp [write, ImmediateStore.write, acceptsWrites, failing]
      · cases named with
        | none =>
            simp [write, ImmediateStore.write, ImmediateStore.accept, acceptsWrites, passing, storedSection,
              ImmediateStore.section?]
        | some owner =>
            by_cases same : owner = tenant
            · subst same
              simp [write, ImmediateStore.write, ImmediateStore.accept, acceptsWrites, passing, storedSection,
                ImmediateStore.section?, ImmediateStore.stored, sectionRendition, rendition]
            · simp [write, ImmediateStore.write, ImmediateStore.accept, acceptsWrites, passing, storedSection,
                ImmediateStore.section?, same, SortedMap.get?_insert_of_ne _ _ (Ne.symm same)]
  | buffered store =>
      simp only [write, acceptsWrites, true_and, storedSection, BufferedStore.storedSection_write]
      split
      · simp only [StoreFile.storedSection, StoreFile.tenantProfiles_commitTenant,
          StoreFile.dismissed_commitTenant, sectionRendition, rendition]
      · rfl

theorem acceptsWrites_write (store : Store) (named : Option Tenant) (data : StoreData) (force : Bool) :
    (store.write named data force).1.acceptsWrites = store.acceptsWrites := by
  cases store with
  | immediate store =>
      simp only [write, ImmediateStore.write]
      split <;> rfl
  | buffered store => rfl

theorem acceptsWrites_failWrites_false (store : Store) : (store.failWrites false).acceptsWrites = true := by
  cases store <;> rfl

/-- Holds the same profiles and dismissals. -/
structure SameContents (left right : Store) : Prop where
  shared : left.storedShared = right.storedShared
  sections : ∀ tenant, left.storedSection tenant = right.storedSection tenant
  found : ∀ tenant, left.sectionFound tenant = right.sectionFound tenant

theorem SameContents.refl (store : Store) : SameContents store store := ⟨rfl, fun _ => rfl, fun _ => rfl⟩

theorem sameContents_buffered {left right : BufferedStore} (same : left.flush.file = right.flush.file) :
    SameContents (buffered left) (buffered right) :=
  ⟨by simp only [storedShared, same], fun tenant => by simp only [storedSection, same],
    fun tenant => by simp only [sectionFound, same]⟩

theorem flush_flush (store : BufferedStore) : store.flush.flush = store.flush := by
  obtain ⟨file, pending⟩ := store
  cases pending <;> rfl

theorem sameContents_flush (store : Store) : SameContents store.flush.1 store := by
  cases store with
  | immediate store => exact ⟨rfl, fun _ => rfl, fun _ => rfl⟩
  | buffered store => exact sameContents_buffered (by rw [flush_flush])

theorem sameContents_reopen (store : Store) : SameContents store.reopen store := by
  cases store with
  | immediate store => exact ⟨rfl, fun _ => rfl, fun _ => rfl⟩
  | buffered store => exact sameContents_buffered rfl

theorem sameContents_answer {α : Type} (store : ImmediateStore) (content : α) :
    SameContents (immediate (store.answer content).1) (immediate store) := by
  unfold ImmediateStore.answer
  split <;> exact ⟨rfl, fun _ => rfl, fun _ => rfl⟩

theorem sameContents_read (store : Store) (tenant : Tenant) : SameContents (store.read tenant).1 store := by
  cases store with
  | immediate store => exact sameContents_answer store _
  | buffered store => exact sameContents_buffered (by simp only [flush_flush])

theorem sameContents_readTenant (store : Store) (tenant : Tenant) : SameContents (store.readTenant tenant).1 store := by
  cases store with
  | immediate store => exact sameContents_answer store _
  | buffered store => exact sameContents_buffered (by simp only [flush_flush])

theorem sameContents_failNextRead (store : Store) : SameContents store.failNextRead store := by
  cases store <;> exact ⟨rfl, fun _ => rfl, fun _ => rfl⟩

theorem sameContents_failWrites (store : Store) (fail : Bool) : SameContents (store.failWrites fail) store := by
  cases store <;> exact ⟨rfl, fun _ => rfl, fun _ => rfl⟩

/-- Somebody else's write is one that nothing makes fail. -/
theorem sameContents_writeOutside (store : Store) (tenant : Option Tenant) (data : StoreData) :
    SameContents (store.writeOutside tenant data) ((store.failWrites false).write tenant data true).1 := by
  cases store with
  | immediate store => exact ⟨rfl, fun _ => rfl, fun _ => rfl⟩
  | buffered store => exact sameContents_buffered rfl

end Store

/-- One of the stored profiles reads as `profile`. -/
def StoredProfile.Among (profile : Profile) (stored : List StoredProfile) : Prop :=
  ∃ one ∈ stored, one.profile? = some profile

/-- Each of the stored profiles can be read, and is one that fits. -/
def StoredProfile.AllRead (fits : Profile → Prop) (stored : List StoredProfile) : Prop :=
  ∀ one ∈ stored, ∃ profile, one.profile? = some profile ∧ fits profile

theorem StoredProfile.AllRead.of_among {fits : Profile → Prop} {stored : List StoredProfile} {profile : Profile}
    (all : AllRead fits stored) (among : Among profile stored) : fits profile := by
  obtain ⟨one, listed, reads⟩ := among
  obtain ⟨same, again, fitting⟩ := all one listed
  rw [reads, Option.some.injEq] at again
  exact again ▸ fitting

namespace StoreFile

theorem mem_rows_iff {table : SortedMap String String} {profile : Profile} :
    StoredProfile.Among profile (rows table) ↔
      ∃ key text, table.get? key = some text ∧ Profile.ofRecord? text = some profile := by
  simp only [StoredProfile.Among, rows, List.mem_map, Prod.exists]
  constructor
  · rintro ⟨_, ⟨key, text, present, rfl⟩, reads⟩
    exact ⟨key, text, (SortedMap.mem_entries_iff table key text).1 present, reads⟩
  · rintro ⟨key, text, found, reads⟩
    exact ⟨_, ⟨key, text, (SortedMap.mem_entries_iff table key text).2 found, rfl⟩, reads⟩

/-- Records that can all be read are read one by one. -/
theorem among_of_readProfiles {table : SortedMap String String} {profiles : List Profile}
    (read : readProfiles table.entries = .ok profiles) (profile : Profile) :
    StoredProfile.Among profile (rows table) ↔ profile ∈ profiles := by
  unfold rows
  generalize table.entries = entries at read
  induction entries generalizing profiles with
  | nil =>
      cases read
      simp [StoredProfile.Among]
  | cons entry rest ih =>
      obtain ⟨key, text⟩ := entry
      cases first : Profile.ofRecord? text with
      | none =>
          simp only [readProfiles, List.mapM_cons, first] at read
          cases read
      | some head =>
          cases later : readProfiles rest with
          | error failure =>
              simp only [readProfiles] at later
              simp only [readProfiles, List.mapM_cons, first, later] at read
              cases read
          | ok others =>
              have found := ih later
              simp only [readProfiles] at later
              simp only [readProfiles, List.mapM_cons, first, later] at read
              cases read
              simp only [StoredProfile.Among, List.map_cons, List.mem_cons, exists_eq_or_imp,
                StoredProfile.profile?, first, Option.some.injEq] at found ⊢
              rw [found, eq_comm]

theorem among_of_readTenant {file : StoreFile} {tenantSection : TenantSection} {profile : Profile}
    (read : file.readTenant tenant = .ok tenantSection) :
    StoredProfile.Among profile (file.storedSection tenant).profiles ↔ profile ∈ tenantSection.profiles := by
  unfold readTenant at read
  cases profiles : readProfiles (file.tenantProfiles.filter (isOf tenant)).entries with
  | error failure =>
      rw [profiles] at read
      cases read
  | ok found =>
      rw [profiles] at read
      cases read
      exact among_of_readProfiles profiles profile

theorem parts_of_read {file : StoreFile} {data : StoreData} (read : file.read tenant = .ok data) :
    file.readTenant tenant = .ok data.tenant ∧ readProfiles file.shared.entries = .ok data.shared := by
  unfold StoreFile.read at read
  cases sections : file.readTenant tenant with
  | error failure =>
      rw [sections] at read
      cases read
  | ok found =>
      cases shared : readProfiles file.shared.entries with
      | error failure =>
          rw [sections, shared] at read
          cases read
      | ok profiles =>
          rw [sections, shared] at read
          cases read
          exact ⟨rfl, rfl⟩

end StoreFile

namespace Store

variable {store : Store} {tenant : Tenant} {profile : Profile}

theorem answer_eq_ok {α : Type} {store : ImmediateStore} {content answer : α}
    (read : (store.answer content).2 = .ok answer) : content = answer := by
  unfold ImmediateStore.answer at read
  split at read
  · cases read
  · exact Except.ok.inj read

theorem among_kept {profiles : List Profile} : StoredProfile.Among profile (profiles.map .kept) ↔ profile ∈ profiles := by
  constructor
  · rintro ⟨_, among, reads⟩
    obtain ⟨kept, member, rfl⟩ := List.mem_map.1 among
    cases reads
    exact member
  · exact fun member => ⟨.kept profile, List.mem_map_of_mem member, rfl⟩

/-- A read that succeeds answers with what there is. -/
theorem sectionFound_of_readTenant {tenantSection : TenantSection} (read : (store.readTenant tenant).2 = .ok tenantSection) :
    store.sectionFound tenant = .ok tenantSection := by
  cases store with
  | immediate store => exact congrArg Except.ok (answer_eq_ok read)
  | buffered store => exact read

theorem among_of_readTenant {tenantSection : TenantSection} (read : (store.readTenant tenant).2 = .ok tenantSection) :
    StoredProfile.Among profile (store.storedSection tenant).profiles ↔ profile ∈ tenantSection.profiles := by
  cases store with
  | immediate store =>
      obtain rfl := answer_eq_ok read
      exact among_kept
  | buffered store => exact StoreFile.among_of_readTenant read

theorem among_of_read {data : StoreData} (read : (store.read tenant).2 = .ok data) :
    (StoredProfile.Among profile store.storedShared ↔ profile ∈ data.shared) ∧
      (StoredProfile.Among profile (store.storedSection tenant).profiles ↔ profile ∈ data.tenant.profiles) := by
  cases store with
  | immediate store =>
      obtain rfl := answer_eq_ok read
      exact ⟨among_kept, among_kept⟩
  | buffered store =>
      obtain ⟨sections, shared⟩ := StoreFile.parts_of_read read
      exact ⟨StoreFile.among_of_readProfiles shared profile, StoreFile.among_of_readTenant sections⟩

/-- Where the whole was read, the section alone can be read right after. -/
theorem readTenant_of_read {data : StoreData} (read : (store.read tenant).2 = .ok data) :
    ((store.read tenant).1.readTenant tenant).2 = .ok data.tenant := by
  cases store with
  | immediate store =>
      simp only [Store.read, ImmediateStore.read, Store.readTenant, ImmediateStore.readTenant, ImmediateStore.answer] at read ⊢
      split at read
      · cases read
      · next ready =>
          cases read
          rw [if_neg ready, if_neg ready]
          rfl
  | buffered store =>
      simp only [Store.read, BufferedStore.read, Store.readTenant, BufferedStore.readTenant, flush_flush]
      exact (StoreFile.parts_of_read read).1

theorem sectionRendition_empty (store : Store) (tenant : Tenant) :
    store.sectionRendition tenant .empty = StoredSection.empty := by
  cases store <;> rfl

theorem get?_putProfiles {keyOf : Profile → String} {profiles : List Profile} {table : SortedMap String String}
    {key text : String} (found : (StoreFile.putProfiles keyOf table profiles).get? key = some text) :
    (∃ written ∈ profiles, keyOf written = key ∧ text = written.toRecord) ∨ table.get? key = some text := by
  unfold StoreFile.putProfiles at found
  induction profiles generalizing table with
  | nil => exact .inr found
  | cons first rest ih =>
      rcases ih found with ⟨written, later, named, same⟩ | stored
      · exact .inl ⟨written, List.mem_cons_of_mem _ later, named, same⟩
      · rw [SortedMap.get?_insert] at stored
        split at stored
        · next same => exact .inl ⟨first, List.mem_cons_self .., same.symm, (Option.some.inj stored).symm⟩
        · exact .inr stored

theorem get?_putProfiles_of_notMem {keyOf : Profile → String} {profiles : List Profile}
    (table : SortedMap String String) {key : String} (absent : ∀ other ∈ profiles, keyOf other ≠ key) :
    (StoreFile.putProfiles keyOf table profiles).get? key = table.get? key := by
  unfold StoreFile.putProfiles
  induction profiles generalizing table with
  | nil => rfl
  | cons first rest ih =>
      rw [List.foldl_cons, ih _ fun later present => absent later (List.mem_cons_of_mem _ present),
        SortedMap.get?_insert_of_ne _ _ (absent first (List.mem_cons_self ..)).symm]

theorem get?_putProfiles_of_mem {keyOf : Profile → String} {profiles : List Profile} (table : SortedMap String String)
    (member : profile ∈ profiles) (distinct : ∀ other ∈ profiles, keyOf other = keyOf profile → other = profile) :
    (StoreFile.putProfiles keyOf table profiles).get? (keyOf profile) = some profile.toRecord := by
  induction profiles generalizing table with
  | nil => cases member
  | cons first rest ih =>
      have others : ∀ other ∈ rest, keyOf other = keyOf profile → other = profile := fun other later =>
        distinct other (List.mem_cons_of_mem _ later)
      by_cases later : profile ∈ rest
      · exact ih _ later others
      · obtain rfl : profile = first := (List.mem_cons.1 member).resolve_right later
        have absent : ∀ other ∈ rest, keyOf other ≠ keyOf profile := fun other among same =>
          later (others other among same ▸ among)
        have kept := get?_putProfiles_of_notMem (table.insert (keyOf profile) profile.toRecord) absent
        rw [SortedMap.get?_insert_self] at kept
        exact kept

theorem allRead_rendition {fits : Profile → Prop} {profiles : List Profile} (each : ∀ written ∈ profiles, fits written.persisted)
    (store : Store) (keyOf : Profile → String) : StoredProfile.AllRead fits (store.rendition profiles keyOf) := by
  intro one listed
  cases store with
  | immediate store =>
      simp only [rendition, List.mem_map] at listed
      obtain ⟨written, member, rfl⟩ := listed
      exact ⟨written.persisted, rfl, each written member⟩
  | buffered store =>
      simp only [rendition, StoreFile.rows, List.mem_map, Prod.exists] at listed
      obtain ⟨key, text, present, rfl⟩ := listed
      rcases get?_putProfiles ((SortedMap.mem_entries_iff _ key text).1 present) with ⟨written, member, _, rfl⟩ | absent
      · exact ⟨written.persisted, Profile.ofRecord?_toRecord written, each written member⟩
      · cases absent

/-- What a reader finds of a write was written. -/
theorem among_rendition {profiles : List Profile} {keyOf : Profile → String}
    (found : StoredProfile.Among profile (store.rendition profiles keyOf)) :
    ∃ written ∈ profiles, profile = written.persisted := by
  have all : StoredProfile.AllRead (fun read => ∃ written ∈ profiles, read = written.persisted)
      (store.rendition profiles keyOf) := allRead_rendition (fun written member => ⟨written, member, rfl⟩) store keyOf
  exact all.of_among found

/-- Profiles with different keys do not push each other out. -/
theorem among_rendition_of_mem {profiles : List Profile} {keyOf : Profile → String} (member : profile ∈ profiles)
    (distinct : ∀ other ∈ profiles, keyOf other = keyOf profile → other = profile) :
    StoredProfile.Among profile.persisted (store.rendition profiles keyOf) := by
  cases store with
  | immediate store => exact ⟨.kept profile.persisted, List.mem_map.2 ⟨profile, member, rfl⟩, rfl⟩
  | buffered store =>
      exact StoreFile.mem_rows_iff.2 ⟨keyOf profile, profile.toRecord,
        get?_putProfiles_of_mem .empty member distinct, Profile.ofRecord?_toRecord profile⟩

end Store

end SavedNetworks
