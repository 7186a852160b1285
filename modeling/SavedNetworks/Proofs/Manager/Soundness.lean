import SavedNetworks.Proofs.Manager.Operations
import SavedNetworks.Proofs.Manager.Tenants

/-!
The profiles in memory stay well formed under every operation, whatever the store holds, and they have ids below
the next one as long as the ids last. None is in memory before the store is read.
-/

namespace SavedNetworks

namespace Books.Sound

variable {before after : Books}

theorem of_empty (none : after.roster.all = []) (wellFormed : after.roster.WellFormed) : after.Sound :=
  ⟨wellFormed, fun _ present => absurd present (none ▸ List.not_mem_nil)⟩

/-- Soundness is about the roster and the next id alone. -/
theorem of_same (sound : before.Sound) (roster : after.roster = before.roster) (ids : after.nextId = before.nextId) :
    after.Sound :=
  ⟨roster ▸ sound.wellFormed, fun profile present => ids ▸ sound.numbered profile (roster ▸ present)⟩

theorem of_through {look : Profile → Profile} (sound : before.Sound) (keeps : Roster.KeepsName look)
    (roster : after.roster.through look = before.roster.through look) (ids : after.nextId = before.nextId) :
    after.Sound := by
  refine ⟨sound.wellFormed.of_through keeps roster, fun profile present => ?_⟩
  obtain ⟨old, earlier, looks⟩ := Roster.mem_of_through roster present
  rw [← (keeps.same looks).1, ids]
  exact sound.numbered old earlier

theorem step {move : Move} (taken : Step move before after) (sound : before.Sound) : after.Sound := by
  -- The next id moves only when one is handed out or lost, and there is room; so every profile stays below it.
  cases taken with
  | note outlines => exact sound.of_through Roster.keepsName_outline outlines rfl
  | relink rule caches id =>
      exact sound.of_through Roster.keepsName_frame (Roster.through_reconsider rule before.roster caches id) rfl
  | dismiss | forgive | write | settle => exact sound.of_same rfl rfl
  | skip room =>
      refine ⟨sound.wellFormed, fun profile present => ?_⟩
      exact UInt32.lt_trans (sound.numbered profile present) (Manager.lt_succ_of_room room)
  | drop found =>
      refine ⟨sound.wellFormed.drop _ _, fun profile present => ?_⟩
      obtain ⟨old, earlier, _, rfl⟩ := sound.wellFormed.mem_drop.1 present
      rw [(Roster.released_name before.roster _ old).1]
      exact sound.numbered old earlier
  | add read room fresh unlinked owned stored =>
      have next := Manager.lt_succ_of_room room
      refine ⟨sound.wellFormed.put stored, fun profile present => ?_⟩
      rcases (sound.wellFormed.mem_put stored).1 present with rfl | ⟨earlier, _⟩
      · rw [fresh]
        exact next
      · exact UInt32.lt_trans (sound.numbered profile earlier) next
  | @update _ current changed _ found shared creator saved stored =>
      refine ⟨sound.wellFormed.put stored, fun profile present => ?_⟩
      rcases (sound.wellFormed.mem_put stored).1 present with rfl | ⟨earlier, _⟩
      · rw [← sound.wellFormed.id_of_get? found]
        exact sound.numbered current (Roster.mem_of_get? found)
      · exact sound.numbered profile earlier

end Books.Sound

/-- Nothing is in memory before the store is read. -/
def Books.Idle (books : Books) : Prop := books.awaitsStore = true → books.roster.all = []

namespace Books.Idle

variable {before after : Books}

theorem read_of_mem {profile : Profile} (idle : before.Idle) (present : profile ∈ before.roster.all) :
    before.awaitsStore = false := by
  rw [← Bool.not_eq_true]
  intro unread
  rw [idle unread] at present
  cases present

theorem of_read (read : after.awaitsStore = false) : after.Idle := fun unread => Bool.noConfusion (read.symm.trans unread)

/-- A profile is in memory only if one was, or the store is read. -/
theorem of_mem (idle : before.Idle) (waits : after.awaitsStore = before.awaitsStore)
    (earlier : ∀ profile ∈ after.roster.all, before.awaitsStore = false ∨ ∃ old, old ∈ before.roster.all) : after.Idle := by
  intro unread
  rw [List.eq_nil_iff_forall_not_mem]
  intro profile present
  rcases earlier profile present with read | ⟨old, member⟩
  · cases read.symm.trans (waits.symm.trans unread)
  · cases (idle.read_of_mem member).symm.trans (waits.symm.trans unread)

theorem of_through {look : Profile → Profile} (idle : before.Idle) (waits : after.awaitsStore = before.awaitsStore)
    (same : after.roster.through look = before.roster.through look) : after.Idle := by
  refine idle.of_mem waits fun profile present => .inr ?_
  obtain ⟨old, earlier, _⟩ := Roster.mem_of_through same present
  exact ⟨old, earlier⟩

theorem step {move : Move} (taken : Step move before after) (wellFormed : before.roster.WellFormed) (idle : before.Idle) :
    after.Idle := by
  cases taken with
  | note outlines => exact idle.of_through rfl outlines
  | relink rule caches id => exact idle.of_through rfl (Roster.through_reconsider rule before.roster caches id)
  | dismiss | forgive | write | settle | skip => exact idle
  | drop found =>
      refine idle.of_mem rfl fun profile present => .inr ?_
      obtain ⟨old, earlier, _⟩ := wellFormed.mem_drop.1 present
      exact ⟨old, earlier⟩
  | add read room fresh unlinked owned stored => exact idle.of_mem rfl fun _ _ => .inl read
  | update found shared creator saved stored => exact idle.of_mem rfl fun _ _ => .inr ⟨_, Roster.mem_of_get? found⟩

theorem filed {allowed : Move → Prop} (files : Filed allowed before after) (idle : before.Idle) : after.Idle := by
  cases files with
  | refused | lost => exact idle
  | added permitted read fresh unlinked owned stored => exact idle.of_mem rfl fun _ _ => .inl read
  | updated permitted found shared creator saved stored => exact idle.of_mem rfl fun _ _ => .inr ⟨_, Roster.mem_of_get? found⟩

end Books.Idle

namespace Manager

variable {manager : Manager} {operation : Operation}

theorem wellFormed_perform (wellFormed : manager.roster.WellFormed) (operation : Operation) :
    (manager.perform operation).1.roster.WellFormed := by
  cases stays : operation.followsTenants with
  | false =>
      cases ours : operation.isForeign with
      | false =>
          exact (perform_invariant wellFormed stays ours (fun _ _ _ _ taken _ => taken.wellFormed)
            (fun _ _ files _ => files.wellFormed) wellFormed).1
      | true =>
          obtain ⟨store, written⟩ := perform_of_isForeign manager ours
          rw [written]
          exact wellFormed
  | true =>
      cases operation with
      | restart => exact Roster.wellFormed_empty
      | load => exact wellFormed_load wellFormed
      | switchTenant tenant =>
          have left := wellFormed_leave wellFormed tenant
          simp only [perform, Prod.map_fst, id_eq]
          obtain ⟨_, switched⟩ | ⟨_, _, switched⟩ | ⟨_, _, _, switched⟩ | ⟨_, _, _, switched⟩ :=
            manager.switchTenant_cases tenant
          all_goals rw [switched]
          · exact wellFormed
          · exact wellFormed.switchTo tenant
          · exact wellFormed_loadSection left
          · exact left
      | unlockTenant tenant =>
          simp only [perform]
          obtain ⟨_, same⟩ | ⟨_, _, _, loads⟩ := manager.unlockTenant_cases tenant
          · have roster : (manager.unlockTenant tenant).roster = manager.roster := congrArg Books.roster same
            rw [roster]
            exact wellFormed
          · rw [loads]
            exact wellFormed_loadSection wellFormed
      | stopTenant tenant =>
          simp only [perform]
          obtain ⟨_, same⟩ | ⟨_, _, stops⟩ := manager.stopTenant_cases tenant
          · rw [same]
            exact wellFormed
          · rw [stops]
            exact wellFormed_clearTenant (wellFormed_persist wellFormed true)
      | _ => cases stays

theorem idle_persist (idle : manager.books.Idle) (force : Bool) : (manager.persist force).books.Idle := by
  rw [persist_eq]
  exact idle

theorem idle_clearTenant (wellFormed : manager.roster.WellFormed) (idle : manager.books.Idle) :
    manager.clearTenant.books.Idle :=
  idle.of_mem rfl fun profile present => .inr ⟨profile, ((mem_clearTenant wellFormed).1 present).1⟩

theorem idle_perform (wellFormed : manager.roster.WellFormed) (idle : manager.books.Idle) (operation : Operation) :
    (manager.perform operation).1.books.Idle := by
  cases stays : operation.followsTenants with
  | false =>
      cases ours : operation.isForeign with
      | false =>
          exact (perform_invariant wellFormed stays ours (fun _ _ _ _ taken wellFormed idle => idle.step taken wellFormed)
            (fun _ _ files _ idle => idle.filed files) idle).2
      | true =>
          obtain ⟨store, written⟩ := perform_of_isForeign manager ours
          rw [written]
          exact idle
  | true =>
      cases operation with
      | restart => exact fun _ => rfl
      | load =>
          simp only [perform, Prod.map_fst, id_eq]
          cases read : (manager.store.read manager.tenant).2 with
          | error failure =>
              rw [load_of_error read]
              exact idle
          | ok data =>
              rw [load_of_ok read]
              intro unread
              cases unread
      | switchTenant tenant =>
          simp only [perform, Prod.map_fst, id_eq]
          obtain ⟨_, switched⟩ | ⟨_, _, switched⟩ | ⟨_, read, _, switched⟩ | ⟨_, read, _, switched⟩ :=
            manager.switchTenant_cases tenant
          all_goals rw [switched]
          · exact idle
          · exact idle
          · exact .of_read ((awaitsStore_loadSection _).trans ((flags_leave manager tenant).1.trans read))
          · exact .of_read ((flags_leave manager tenant).1.trans read)
      | unlockTenant tenant =>
          simp only [perform]
          obtain ⟨_, same⟩ | ⟨_, read, _, loads⟩ := manager.unlockTenant_cases tenant
          · rw [same]
            exact idle
          · rw [loads]
            exact .of_read ((awaitsStore_loadSection manager).trans read)
      | stopTenant tenant =>
          simp only [perform]
          obtain ⟨_, same⟩ | ⟨_, _, stops⟩ := manager.stopTenant_cases tenant
          · rw [same]
            exact idle
          · rw [stops]
            exact idle_clearTenant (wellFormed_persist wellFormed true) (idle_persist idle true)
      | _ => cases stays

theorem sound_start (settings : Settings) (platform : Platform) (store : Store) (listeners : List Listener)
    (digest : String → Option (List UInt8)) (random : List UInt8) :
    (start settings platform store listeners digest random).books.Sound :=
  .of_empty rfl Roster.wellFormed_empty

theorem sound_clearMemory (manager : Manager) : manager.clearMemory.books.Sound :=
  .of_empty rfl (Roster.wellFormed_clear manager.roster)

theorem sound_persist (sound : manager.books.Sound) (force : Bool) : (manager.persist force).books.Sound := by
  rw [persist_eq]
  exact sound.of_same rfl rfl

theorem sound_clearTenant (sound : manager.books.Sound) : manager.clearTenant.books.Sound :=
  ⟨wellFormed_clearTenant sound.wellFormed, fun profile present =>
    sound.numbered profile ((mem_clearTenant sound.wellFormed).1 present).1⟩

theorem sound_loadSection (sound : manager.books.Sound)
    (room : manager.nextId.toNat + (manager.sectionOf manager.tenant).length < UInt32.size) :
    manager.loadSection.books.Sound := by
  cases read : (manager.store.readTenant manager.tenant).2 with
  | error failure =>
      rw [loadSection_of_error read]
      exact sound.of_same rfl rfl
  | ok tenantSection =>
      simp only [sectionOf, read] at room
      rw [books_loadSection read]
      have opened : (manager.opened tenantSection).books.Sound := by
        rw [books_opened]
        exact (sound_insertAll sound room).of_same rfl rfl
      exact sound_persist opened true

theorem room_loaded {data : StoreData}
    (room : manager.nextId.toNat + (data.shared.length + data.tenant.profiles.length) < UInt32.size)
    (withSection : Bool) :
    manager.clearMemory.nextId.toNat + (data.loaded withSection).length < UInt32.size := by
  have size : (data.loaded withSection).length ≤ data.shared.length + data.tenant.profiles.length := by
    unfold StoreData.loaded
    cases withSection <;> simp
  have ids : manager.clearMemory.nextId = manager.nextId := rfl
  rw [ids]
  omega

theorem sound_replaceMemory {data : StoreData} {withSection : Bool}
    (room : manager.nextId.toNat + (data.loaded withSection).length < UInt32.size) :
    (manager.replaceMemory data withSection).books.Sound := by
  obtain ⟨roster, books, outlines⟩ := books_replaceMemory manager data withSection
  rw [books, books_filled]
  exact (sound_insertAll (sound_clearMemory manager) room).of_through Roster.keepsName_outline outlines rfl

theorem sound_load (sound : manager.books.Sound)
    (room : manager.nextId.toNat + manager.idsTaken .load < UInt32.size) : manager.load.1.books.Sound := by
  cases read : (manager.store.read manager.tenant).2 with
  | error failure =>
      rw [load_of_error read]
      exact sound.of_same rfl rfl
  | ok data =>
      simp only [idsTaken, read] at room
      rw [load_of_ok read]
      refine sound_replaceMemory ?_
      exact room

theorem sound_putAway (sound : manager.books.Sound) : manager.putAway.books.Sound := by
  rw [putAway_eq]
  exact sound.of_same rfl rfl

theorem sound_giveWay (sound : manager.books.Sound) (draft : Draft) : (manager.giveWay draft).books.Sound := by
  have way : Moves (fun _ => True) manager.books (manager.giveWay draft).books :=
    moves_giveWay sound.wellFormed draft fun _ _ => trivial
  exact way.invariant (fun _ _ _ _ taken before => before.step taken) sound

theorem sound_leave (sound : manager.books.Sound) (tenant : Tenant) : (manager.leave tenant).books.Sound := by
  have cleared := sound_clearTenant (sound_putAway sound)
  exact ⟨cleared.wellFormed.switchTo tenant, cleared.numbered⟩

theorem holder?_leave (sound : manager.books.Sound) (tenant : Tenant) :
    (manager.leave tenant).roster.holder? = manager.stays? := by
  have away : manager.putAway.books.Sound := sound_putAway sound
  have same : manager.putAway.stays? = manager.stays? := by rw [putAway_eq]; rfl
  have left : (manager.leave tenant).roster = manager.putAway.clearTenant.roster.switchTo tenant := rfl
  funext key
  rw [← same, left, Roster.holder?_switchTo]
  exact holder?_clearTenant away.wellFormed key

theorem nextId_leave (manager : Manager) (tenant : Tenant) : (manager.leave tenant).nextId = manager.nextId := by
  have away : manager.putAway.nextId = manager.nextId := by rw [putAway_eq]
  exact away

theorem room_leave {tenant : Tenant} (room : manager.HasRoom (.switchTenant tenant))
    (unlocked : manager.platform.isUnlocked tenant = true) :
    (manager.leave tenant).nextId.toNat + ((manager.leave tenant).sectionOf tenant).length < UInt32.size := by
  simp only [HasRoom, idsFor, if_pos unlocked] at room
  rw [nextId_leave, sectionOf_leave]
  exact room

theorem sound_switchTenant (sound : manager.books.Sound) {tenant : Tenant}
    (room : manager.nextId.toNat + manager.idsTaken (.switchTenant tenant) < UInt32.size) :
    (manager.switchTenant tenant).1.books.Sound := by
  have left := sound_leave sound tenant
  obtain ⟨_, switched⟩ | ⟨_, _, switched⟩ | ⟨different, read, unlocked, switched⟩ | ⟨_, _, _, switched⟩ :=
    manager.switchTenant_cases tenant
  all_goals rw [switched]
  · exact sound
  · exact ⟨sound.wellFormed.switchTo tenant, sound.numbered⟩
  · rw [idsTaken, if_pos ⟨different, read, unlocked⟩] at room
    rw [← nextId_leave manager tenant] at room
    exact sound_loadSection left room
  · exact left.of_same rfl rfl

theorem sound_unlockTenant (sound : manager.books.Sound) {tenant : Tenant}
    (room : manager.nextId.toNat + manager.idsTaken (.unlockTenant tenant) < UInt32.size) :
    (manager.unlockTenant tenant).books.Sound := by
  obtain ⟨_, same⟩ | ⟨rfl, read, waits, loads⟩ := manager.unlockTenant_cases tenant
  · rw [same]
    exact sound
  · simp only [idsTaken, read, waits, and_self, if_true] at room
    rw [loads]
    exact sound_loadSection sound room

theorem sound_stopTenant (sound : manager.books.Sound) (tenant : Tenant) : (manager.stopTenant tenant).books.Sound := by
  obtain ⟨_, same⟩ | ⟨_, _, stops⟩ := manager.stopTenant_cases tenant
  · rw [same]
    exact sound
  · rw [stops]
    exact sound_clearTenant (sound_persist sound true)

/-- The profiles in memory stay sound as long as no more ids are handed out than there are. -/
theorem sound_of_taken (sound : manager.books.Sound) (room : manager.nextId.toNat + manager.idsTaken operation < UInt32.size) :
    (manager.perform operation).1.books.Sound := by
  cases stays : operation.followsTenants with
  | false =>
      cases ours : operation.isForeign with
      | false => exact (moves_perform sound.wellFormed room stays ours).invariant (fun _ _ _ _ => .step) sound
      | true =>
          obtain ⟨store, written⟩ := perform_of_isForeign manager ours
          rw [written]
          exact sound.of_same rfl rfl
  | true =>
      cases operation with
      | restart => exact .of_empty rfl Roster.wellFormed_empty
      | load => exact sound_load sound room
      | switchTenant tenant => exact sound_switchTenant sound room
      | unlockTenant tenant => exact sound_unlockTenant sound room
      | stopTenant tenant => exact sound_stopTenant sound tenant
      | _ => cases stays

theorem sound_perform (sound : manager.books.Sound) (room : manager.HasRoom operation) :
    (manager.perform operation).1.books.Sound := sound_of_taken sound room.taking

end Manager

end SavedNetworks
