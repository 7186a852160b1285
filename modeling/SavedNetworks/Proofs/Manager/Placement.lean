import SavedNetworks.Proofs.Manager.Soundness

/-!
Where profiles are kept in a run that starts from an empty store: in memory those that the current tenant
sees, in the shared section saved ones that are shared, and in the section of a tenant its private saved ones.
-/

namespace SavedNetworks

namespace Profile

/-- A record of the shared section. -/
def IsCommon (profile : Profile) : Prop := profile.isSaved = true ∧ profile.shared = true

/-- A record of the section of a tenant. -/
def IsPrivateOf (tenant : Tenant) (profile : Profile) : Prop :=
  profile.isSaved = true ∧ profile.shared = false ∧ profile.creator.uid.inTenant tenant = true

end Profile

structure Books.Placed (books : Books) : Prop where
  seen : ∀ profile ∈ books.roster.all, books.roster.isVisible profile = true
  shared : StoredProfile.AllRead Profile.IsCommon books.store.storedShared
  owned : ∀ tenant, StoredProfile.AllRead (Profile.IsPrivateOf tenant) (books.store.storedSection tenant).profiles

namespace Books.Placed

variable {before after : Books}

/-- The store keeps its part through everything but a write. -/
theorem of_sameContents (placed : before.Placed) (same : after.store.SameContents before.store)
    (seen : ∀ profile ∈ after.roster.all, after.roster.isVisible profile = true) : after.Placed :=
  ⟨seen, same.shared ▸ placed.shared, fun tenant => same.sections tenant ▸ placed.owned tenant⟩

theorem of_empty (placed : before.Placed) (same : after.store.SameContents before.store) (none : after.roster.all = []) :
    after.Placed :=
  placed.of_sameContents same fun _ present => absurd present (none ▸ List.not_mem_nil)

/-- What is noted on profiles does not move them. -/
theorem of_through {look : Profile → Profile} (placed : before.Placed)
    (visible : ∀ profile tenant, (look profile).visibleTo tenant = profile.visibleTo tenant)
    (roster : after.roster.through look = before.roster.through look)
    (same : after.store.SameContents before.store) : after.Placed := by
  refine placed.of_sameContents same fun profile present => ?_
  obtain ⟨old, earlier, looks⟩ := Roster.mem_of_through roster present
  have still := placed.seen old earlier
  unfold Roster.isVisible at still ⊢
  rw [Roster.tenant_of_through roster]
  rw [← Profile.same_of_look (Profile.visibleTo · _) (visible · _) looks]
  exact still

theorem shared_of_belongsToShared {books : Books} {profile : Profile} (seen : books.roster.isVisible profile = true)
    (belongs : books.belongsToShared profile = true) : profile.shared = true := by
  unfold Roster.isVisible Profile.visibleTo at seen
  unfold belongsToShared at belongs
  cases shared : profile.shared <;> simp_all

theorem owned_of_not_belongsToShared {books : Books} {profile : Profile}
    (belongs : books.belongsToShared profile = false) :
    profile.shared = false ∧ profile.creator.uid.inTenant books.roster.tenant = true := by
  simpa [belongsToShared] using belongs

theorem tenant_of_writtenTenant {books : Books} {tenant : Tenant} (named : books.writtenTenant = some tenant) :
    books.roster.tenant = tenant := by
  unfold writtenTenant at named
  split at named
  · cases named
  · exact Option.some.inj named

/-- A write puts every profile in its place. -/
theorem write (placed : before.Placed) (addresses : SortedMap String String) (force : Bool) :
    ({ before with
      store := (before.store.write before.writtenTenant (before.sections addresses) force).1 } : Books).Placed := by
  refine ⟨placed.seen, ?_, fun tenant => ?_⟩
  · simp only [Store.storedShared_write]
    split
    · refine Store.allRead_rendition (fun written chosen => ?_) _ _
      obtain ⟨kept, belongs⟩ := List.mem_filter.1 chosen
      obtain ⟨present, saved⟩ := List.mem_filter.1 kept
      exact ⟨saved, shared_of_belongsToShared (placed.seen written present) belongs⟩
    · exact placed.shared
  · simp only [Store.storedSection_write]
    split
    · next accepted =>
        obtain rfl := tenant_of_writtenTenant accepted.2
        refine Store.allRead_rendition (fun written chosen => ?_) _ _
        obtain ⟨kept, belongs⟩ := List.mem_filter.1 chosen
        have ours : before.belongsToShared written = false := by simpa using belongs
        exact ⟨(List.mem_filter.1 kept).2, owned_of_not_belongsToShared ours⟩
    · exact placed.owned tenant

/-- A visible profile may be stored, under whatever id. -/
theorem put {profile : Profile} {roster : Roster} (placed : before.Placed) (wellFormed : before.roster.WellFormed)
    (visible : before.roster.isVisible profile = true) (stored : before.roster.put profile = .ok roster)
    (nextId : UInt32) : ({ before with roster, nextId } : Books).Placed := by
  refine placed.of_sameContents (.refl _) fun other present => ?_
  rw [Roster.isVisible, Roster.tenant_put stored]
  rcases (wellFormed.mem_put stored).1 present with rfl | ⟨earlier, _⟩
  · exact visible
  · exact placed.seen other earlier

theorem update {current profile : Profile} {roster : Roster} (placed : before.Placed)
    (wellFormed : before.roster.WellFormed) (found : before.roster.get? profile.id = some current)
    (shared : profile.shared = current.shared) (creator : profile.creator = current.creator)
    (stored : before.roster.put profile = .ok roster) : ({ before with roster } : Books).Placed := by
  refine placed.put wellFormed ?_ stored before.nextId
  rw [Roster.isVisible, Profile.visibleTo, shared, creator]
  exact (Roster.get?_eq_some.1 found).2

theorem step {move : Move} (taken : Step move before after) (wellFormed : before.roster.WellFormed)
    (placed : before.Placed) : after.Placed := by
  cases taken with
  | note outlines => exact placed.of_through Profile.visibleTo_outline outlines (.refl _)
  | relink rule caches id =>
      exact placed.of_through Profile.visibleTo_frame (Roster.through_reconsider rule before.roster caches id) (.refl _)
  | dismiss | forgive | skip => exact placed.of_sameContents (.refl _) placed.seen
  | settle same => exact placed.of_sameContents same placed.seen
  | write read addresses force => exact placed.write addresses force
  | @drop _ id profile found =>
      refine placed.of_sameContents (.refl _) fun other present => ?_
      obtain ⟨old, earlier, _, rfl⟩ := wellFormed.mem_drop.1 present
      have still := placed.seen old earlier
      rw [Roster.released_of_isVisible still, Roster.isVisible, Roster.tenant_drop]
      exact still
  | add read room fresh unlinked owned stored =>
      exact placed.put wellFormed (by simp [Roster.isVisible, Profile.visibleTo, owned]) stored _
  | update found shared creator saved stored => exact placed.update wellFormed found shared creator stored

theorem filed {allowed : Move → Prop} (files : Filed allowed before after) (wellFormed : before.roster.WellFormed)
    (placed : before.Placed) : after.Placed := by
  cases files with
  | refused => exact placed
  | lost => exact placed.of_sameContents (.refl _) placed.seen
  | added permitted read fresh unlinked owned stored =>
      exact placed.put wellFormed (by simp [Roster.isVisible, Profile.visibleTo, owned]) stored _
  | updated permitted found shared creator saved stored => exact placed.update wellFormed found shared creator stored

end Books.Placed

namespace Manager

variable {manager : Manager} {operation : Operation}

theorem placed_persist (placed : manager.books.Placed) (force : Bool) : (manager.persist force).books.Placed := by
  cases read : manager.awaitsStore with
  | true =>
      rw [persist_of_awaitsStore read]
      exact placed
  | false =>
      rw [books_persist read]
      exact placed.write manager.randomizer.legacy force

theorem placed_clearTenant (wellFormed : manager.roster.WellFormed) (placed : manager.books.Placed) :
    manager.clearTenant.books.Placed := by
  refine placed.of_sameContents (.refl _) fun profile present => ?_
  have still := placed.seen profile ((mem_clearTenant wellFormed).1 present).1
  have same : manager.clearTenant.books.roster.tenant = manager.books.roster.tenant := tenant_clearTenant manager
  unfold Roster.isVisible at still ⊢
  rw [same]
  exact still

theorem shared_of_mem_clearTenant (wellFormed : manager.roster.WellFormed) (placed : manager.books.Placed) {profile : Profile}
    (present : profile ∈ manager.clearTenant.roster.all) : profile.shared = true := by
  obtain ⟨earlier, belongs⟩ := (mem_clearTenant wellFormed).1 present
  exact Books.Placed.shared_of_belongsToShared (placed.seen profile earlier) belongs

theorem seen_insertAll (wellFormed : manager.roster.WellFormed) {profiles : List Profile}
    (seen : ∀ profile ∈ manager.roster.all, profile.visibleTo manager.tenant = true)
    (visible : ∀ profile ∈ profiles, profile.visibleTo manager.tenant = true) :
    ∀ profile ∈ (manager.insertAll profiles).roster.all, profile.visibleTo manager.tenant = true := by
  intro profile present
  rcases mem_insertAll wellFormed present with earlier | ⟨loaded, member, same⟩
  · exact seen profile earlier
  · have looks := Profile.same_of_look (Profile.visibleTo · manager.tenant) (fun _ => rfl) same
    exact looks.trans (visible loaded member)

theorem placed_loadSection (wellFormed : manager.roster.WellFormed) (placed : manager.books.Placed) :
    manager.loadSection.books.Placed := by
  have same := manager.store.sameContents_readTenant manager.tenant
  cases read : (manager.store.readTenant manager.tenant).2 with
  | error failure =>
      rw [loadSection_of_error read]
      exact placed.of_sameContents same placed.seen
  | ok tenantSection =>
      rw [books_loadSection read]
      refine placed_persist ?_ true
      rw [books_opened]
      refine placed.of_sameContents same fun profile present => ?_
      have visible : ∀ profile ∈ tenantSection.profiles, profile.visibleTo manager.tenant = true := by
        intro profile member
        obtain ⟨_, _, ours⟩ := (placed.owned manager.tenant).of_among ((Store.among_of_readTenant read).2 member)
        rw [Profile.visibleTo, ours, Bool.or_true]
      unfold Roster.isVisible
      rw [tenant_insertAll]
      exact seen_insertAll wellFormed placed.seen visible profile present

theorem placed_replaceMemory (placed : manager.books.Placed) {data : StoreData} (withSection : Bool)
    (shared : ∀ profile ∈ data.shared, profile.shared = true)
    (owned : ∀ profile ∈ data.tenant.profiles, profile.creator.uid.inTenant manager.tenant = true) :
    (manager.replaceMemory data withSection).books.Placed := by
  obtain ⟨roster, books, outlines⟩ := books_replaceMemory manager data withSection
  have visible : ∀ profile ∈ data.loaded withSection, profile.visibleTo manager.tenant = true := by
    intro profile member
    rcases List.mem_append.1 member with common | ours
    · rw [Profile.visibleTo, shared profile common, Bool.true_or]
    · split at ours
      · rw [Profile.visibleTo, owned profile ours, Bool.or_true]
      · cases ours
  have none : ∀ profile ∈ manager.clearMemory.roster.all, profile.visibleTo manager.tenant = true :=
    fun profile present => absurd present List.not_mem_nil
  have cleared : manager.clearMemory.roster.WellFormed := Roster.wellFormed_clear manager.roster
  have seen := seen_insertAll cleared none visible
  rw [books, books_filled]
  refine placed.of_sameContents (.refl _) fun profile present => ?_
  obtain ⟨old, earlier, looks⟩ := Roster.mem_of_through outlines present
  have tenant : roster.tenant = manager.tenant :=
    (Roster.tenant_of_through outlines).trans (tenant_insertAll manager.clearMemory _)
  unfold Roster.isVisible
  have same := Profile.same_of_look (Profile.visibleTo · manager.tenant) (fun _ => rfl) looks
  rw [tenant]
  exact same.symm.trans (seen old earlier)

theorem placed_load (placed : manager.books.Placed) : manager.load.1.books.Placed := by
  have same := manager.store.sameContents_read manager.tenant
  cases read : (manager.store.read manager.tenant).2 with
  | error failure =>
      rw [load_of_error read]
      exact placed.of_sameContents same placed.seen
  | ok data =>
      rw [load_of_ok read]
      have reading : ({ manager with store := (manager.store.read manager.tenant).1, unlockDeferred := false } :
          Manager).books.Placed := placed.of_sameContents same placed.seen
      refine placed_replaceMemory reading _ (fun profile member => ?_) fun profile member => ?_
      · exact (placed.shared.of_among ((Store.among_of_read read).1.2 member)).2
      · exact ((placed.owned manager.tenant).of_among ((Store.among_of_read read).2.2 member)).2.2

theorem placed_putAway (placed : manager.books.Placed) : manager.putAway.books.Placed := by
  unfold putAway
  split
  · exact placed_persist placed true
  · exact placed

/-- What is left in memory when a tenant is put away is shared. -/
theorem shared_of_mem_leave (wellFormed : manager.roster.WellFormed) (placed : manager.books.Placed) {tenant : Tenant}
    {profile : Profile} (present : profile ∈ (manager.leave tenant).roster.all) : profile.shared = true :=
  shared_of_mem_clearTenant (wellFormed_putAway wellFormed) (placed_putAway placed) present

theorem placed_leave (wellFormed : manager.roster.WellFormed) (placed : manager.books.Placed) (tenant : Tenant) :
    (manager.leave tenant).books.Placed := by
  have cleared := placed_clearTenant (wellFormed_putAway wellFormed) (placed_putAway placed)
  refine cleared.of_sameContents (.refl _) fun profile present => ?_
  have shared := shared_of_mem_leave wellFormed placed present
  rw [Roster.isVisible, Profile.visibleTo, shared, Bool.true_or]

theorem placed_switchTenant (wellFormed : manager.roster.WellFormed) (idle : manager.books.Idle)
    (placed : manager.books.Placed) (tenant : Tenant) : (manager.switchTenant tenant).1.books.Placed := by
  have left := placed_leave wellFormed placed tenant
  obtain ⟨_, switched⟩ | ⟨_, unread, switched⟩ | ⟨_, _, _, switched⟩ | ⟨_, _, _, switched⟩ :=
    manager.switchTenant_cases tenant
  all_goals rw [switched]
  · exact placed
  · exact placed.of_empty (.refl _) (idle unread)
  · exact placed_loadSection (wellFormed_leave wellFormed tenant) left
  · exact left.of_sameContents (.refl _) left.seen

theorem placed_restart (placed : manager.books.Placed) : manager.restart.books.Placed :=
  placed.of_empty (Store.sameContents_reopen manager.store) rfl

theorem placed_unlockTenant (wellFormed : manager.roster.WellFormed) (placed : manager.books.Placed) (tenant : Tenant) :
    (manager.unlockTenant tenant).books.Placed := by
  obtain ⟨_, same⟩ | ⟨_, _, _, loads⟩ := manager.unlockTenant_cases tenant
  · rw [same]
    exact placed
  · rw [loads]
    exact placed_loadSection wellFormed placed

theorem placed_perform (wellFormed : manager.roster.WellFormed) (idle : manager.books.Idle) (placed : manager.books.Placed)
    (ours : operation.isForeign = false) : (manager.perform operation).1.books.Placed := by
  cases stays : operation.followsTenants with
  | false =>
      exact (perform_invariant wellFormed stays ours (fun _ _ _ _ taken wellFormed placed => placed.step taken wellFormed)
        (fun _ _ files wellFormed placed => placed.filed files wellFormed) placed).2
  | true =>
      cases operation with
      | restart => exact placed_restart placed
      | load => exact placed_load placed
      | switchTenant tenant => exact placed_switchTenant wellFormed idle placed tenant
      | unlockTenant tenant => exact placed_unlockTenant wellFormed placed tenant
      | stopTenant tenant =>
          simp only [perform]
          obtain ⟨_, same⟩ | ⟨_, _, stops⟩ := manager.stopTenant_cases tenant
          · rw [same]
            exact placed
          · rw [stops]
            exact placed_clearTenant (wellFormed_persist wellFormed true) (placed_persist placed true)
      | _ => cases stays

end Manager

end SavedNetworks
