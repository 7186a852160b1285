import SavedNetworks.Proofs.Manager.Identity
import SavedNetworks.Proofs.Manager.Passages

/-!
What becomes of an id that was handed out before, under every operation but a restart (`Manager.passage_perform`). A load
and a change of tenants say nothing about profiles, and leave those alone that they do not drop.
-/

namespace SavedNetworks

namespace Ledger

variable {known : UInt32} {first before after last : Ledger}

/-- Nothing is said about profiles, and those with a known id are profiles from before, as they were. -/
structure Leaves (known : UInt32) (before after : Ledger) : Prop where
  same : ∀ profile ∈ after.books.roster.all, profile.id.value < known → profile ∈ before.books.roster.all
  silent : ∀ id, after.heard id = before.heard id

namespace Leaves

theorem refl (ledger : Ledger) : Leaves known ledger ledger := ⟨fun _ present _ => present, fun _ => rfl⟩

theorem trans (former : Leaves known first before) (latter : Leaves known before last) : Leaves known first last :=
  ⟨fun profile present below => former.same profile (latter.same profile present below) below,
    fun id => (latter.silent id).trans (former.silent id)⟩

theorem of_subset (fewer : ∀ profile ∈ after.books.roster.all, profile ∈ before.books.roster.all)
    (journal : after.journal = before.journal) : Leaves known before after :=
  ⟨fun profile present _ => fewer profile present, fun id => by rw [heard, heard, journal]⟩

/-- Whoever has a known id is dropped in silence, or stays as he is. -/
theorem passage (leaves : Leaves known before after) (former : before.books.roster.WellFormed)
    (latter : after.books.roster.WellFormed) {id : ProfileId} (below : id.value < known) : Passage id before after := by
  have silent := leaves.silent id
  have stays : ∀ new, after.profile? id = some new → before.profile? id = some new := by
    intro new now
    obtain ⟨present, named⟩ := latter.get?_eq_some_iff.1 now
    exact former.get?_eq_some_iff.2 ⟨leaves.same new present (named ▸ below), named⟩
  cases now : after.profile? id with
  | some new =>
      have reports : Transition.unchanged.Reports new.selection new.selection := .nothing rfl rfl
      have told : after.heard id = before.heard id ++ (Manager.eventOf? new .unchanged).toList ++ [] := by
        simpa [Manager.eventOf?] using silent
      exact .stayed (stays new now) now (fun _ => reports) told (.inl rfl)
  | none =>
      cases found : before.profile? id with
      | none => exact .absent found now silent
      | some old => exact .dropped found now silent

end Leaves

end Ledger

namespace Manager

open Ledger (Leaves Passage)

variable {manager : Manager} {operation : Operation} {known : UInt32}

/-- Whoever comes in has a later id. -/
theorem of_mem_insertAll (wellFormed : manager.roster.WellFormed) {profiles : List Profile}
    (room : manager.nextId.toNat + profiles.length < UInt32.size) {profile : Profile}
    (present : profile ∈ (manager.insertAll profiles).roster.all) (below : profile.id.value < manager.nextId) :
    profile ∈ manager.roster.all := by
  unfold insertAll at present
  induction profiles generalizing manager with
  | nil => exact present
  | cons first rest ih =>
      rw [List.length_cons] at room
      have later : profile.id.value < (manager.insertLoaded first).nextId := by
        rw [nextId_insertLoaded, UInt32.lt_iff_toNat_lt, toNat_succ_of_room (by omega)]
        exact Nat.lt_succ_of_lt (UInt32.lt_iff_toNat_lt.1 below)
      have among := ih (wellFormed_insertLoaded wellFormed first) (room_insertLoaded room first) present later
      have roster : (manager.insertLoaded first).roster = manager.roster.takeIn (first.withId ⟨manager.nextId⟩) :=
        congrArg Books.roster (books_insertLoaded manager first)
      rw [roster] at among
      rcases wellFormed.of_mem_takeIn among with earlier | rfl
      · exact earlier
      · exact absurd below (UInt32.lt_irrefl _)

theorem leaves_persist (manager : Manager) (force : Bool) : Leaves known manager.ledger (manager.persist force).ledger := by
  rw [persist_eq]
  exact .of_subset (fun _ => id) rfl

theorem leaves_clearTenant (wellFormed : manager.roster.WellFormed) :
    Leaves known manager.ledger manager.clearTenant.ledger :=
  .of_subset (fun _ present => ((mem_clearTenant wellFormed).1 present).1) rfl

theorem leaves_leave (wellFormed : manager.roster.WellFormed) (tenant : Tenant) :
    Leaves known manager.ledger (manager.leave tenant).ledger := by
  refine .of_subset (fun profile present => ((mem_leave wellFormed).1 present).1) ?_
  change manager.putAway.journal = manager.journal
  rw [putAway_eq]

theorem journal_insertAll (manager : Manager) (profiles : List Profile) :
    (manager.insertAll profiles).journal = manager.journal := by
  rw [insertAll_eq]

theorem journal_takeSection (manager : Manager) (tenantSection : TenantSection) :
    (manager.takeSection tenantSection).journal = manager.journal :=
  journal_insertAll manager tenantSection.profiles

theorem journal_filled (manager : Manager) (data : StoreData) (withSection : Bool) :
    (manager.filled data withSection).journal = manager.journal := by
  have shared := journal_insertAll manager.clearMemory data.shared
  unfold filled
  cases withSection with
  | false => exact shared
  | true => exact (journal_takeSection _ _).trans shared

theorem loadSection_of_ok {tenantSection : TenantSection}
    (read : (manager.store.readTenant manager.tenant).2 = .ok tenantSection) :
    manager.loadSection = ((manager.opened tenantSection).persist true).announceReload := by
  unfold loadSection opened
  generalize manager.store.readTenant manager.tenant = answered at read
  obtain ⟨store, answer⟩ := answered
  cases read
  rfl

/-- A reload is announced about nobody. -/
theorem heard_announceReload {after : Manager} (silent : after.journal = manager.journal) (id : ProfileId) :
    after.announceReload.ledger.heard id = manager.ledger.heard id := by
  refine (Ledger.heard_of_not_isAbout rfl after.ledger).trans ?_
  unfold Ledger.heard ledger
  rw [silent]

theorem heard_loadSection (manager : Manager) (id : ProfileId) :
    manager.loadSection.ledger.heard id = manager.ledger.heard id := by
  cases read : (manager.store.readTenant manager.tenant).2 with
  | error failure =>
      rw [loadSection_of_error read]
      rfl
  | ok tenantSection =>
      have told : ((manager.opened tenantSection).persist true).journal = manager.journal := by
        rw [persist_eq]
        exact journal_takeSection _ tenantSection
      rw [loadSection_of_ok read]
      exact heard_announceReload told id

theorem leaves_loadSection (wellFormed : manager.roster.WellFormed)
    (room : manager.nextId.toNat + (manager.sectionOf manager.tenant).length < UInt32.size) :
    Leaves manager.nextId manager.ledger manager.loadSection.ledger := by
  refine ⟨fun profile present below => ?_, heard_loadSection manager⟩
  have taken : profile ∈ (manager.insertAll (manager.sectionOf manager.tenant)).roster.all :=
    roster_loadSection manager ▸ present
  exact of_mem_insertAll wellFormed room taken below

/-- Nobody with an earlier id stays. -/
theorem leaves_replaceMemory (manager : Manager) {data : StoreData} {withSection : Bool}
    (room : manager.nextId.toNat + (data.loaded withSection).length < UInt32.size) :
    Leaves manager.nextId manager.ledger (manager.replaceMemory data withSection).ledger := by
  obtain ⟨roster, books, outlines⟩ := books_replaceMemory manager data withSection
  have cleared : manager.clearMemory.roster.WellFormed := Roster.wellFormed_clear manager.roster
  refine ⟨fun profile present below => ?_, fun id => ?_⟩
  · have same : (manager.replaceMemory data withSection).roster = roster := congrArg Books.roster books
    have among : profile ∈ roster.all := same ▸ present
    obtain ⟨loaded, earlier, looks⟩ := Roster.mem_of_through outlines among
    rw [← (Roster.keepsName_outline.same looks).1] at below
    cases of_mem_insertAll cleared room earlier below
  · obtain ⟨_, _, supplied, _⟩ := supplyAddresses_eq (manager.filled data withSection)
    have told : (manager.filled data withSection).supplyAddresses.resetSim.journal = manager.journal := by
      rw [supplied]
      exact journal_filled manager data withSection
    exact heard_announceReload told id

theorem leaves_load (room : manager.nextId.toNat + manager.idsTaken .load < UInt32.size) :
    Leaves manager.nextId manager.ledger manager.load.1.ledger := by
  cases read : (manager.store.read manager.tenant).2 with
  | error failure =>
      rw [load_of_error read]
      exact .of_subset (fun _ => id) rfl
  | ok data =>
      simp only [idsTaken, read] at room
      rw [load_of_ok read]
      generalize (manager.unlockDeferred || manager.platform.isUnlocked manager.tenant) = withSection at room
      generalize reading : ({ manager with store := (manager.store.read manager.tenant).1, unlockDeferred := false } :
        Manager) = reader
      have ids : reader.nextId = manager.nextId := by rw [← reading]
      have same : Leaves manager.nextId manager.ledger reader.ledger := by
        rw [← reading]
        exact .of_subset (fun _ => id) rfl
      rw [← ids] at room
      have taken := leaves_replaceMemory reader room
      rw [ids] at taken
      exact same.trans taken

theorem leaves_switchTenant (wellFormed : manager.roster.WellFormed) {tenant : Tenant}
    (room : manager.nextId.toNat + manager.idsTaken (.switchTenant tenant) < UInt32.size) :
    Leaves manager.nextId manager.ledger (manager.switchTenant tenant).1.ledger := by
  have left : Leaves manager.nextId manager.ledger (manager.leave tenant).ledger := leaves_leave wellFormed tenant
  obtain ⟨_, switched⟩ | ⟨_, _, switched⟩ | ⟨different, read, unlocked, switched⟩ | ⟨_, _, _, switched⟩ :=
    manager.switchTenant_cases tenant
  all_goals rw [switched]
  · exact .refl _
  · exact .of_subset (fun _ => id) rfl
  · rw [idsTaken, if_pos ⟨different, read, unlocked⟩, ← nextId_leave manager tenant] at room
    have taken := leaves_loadSection (wellFormed_leave wellFormed tenant) room
    rw [nextId_leave] at taken
    exact left.trans taken
  · exact left.trans (.of_subset (fun _ => id) rfl)

theorem leaves_unlockTenant (wellFormed : manager.roster.WellFormed) {tenant : Tenant}
    (room : manager.nextId.toNat + manager.idsTaken (.unlockTenant tenant) < UInt32.size) :
    Leaves manager.nextId manager.ledger (manager.unlockTenant tenant).ledger := by
  unfold unlockTenant
  split
  · exact .refl _
  · next current =>
      split
      · exact .of_subset (fun _ => id) rfl
      · next read =>
          split
          · next waits =>
              rw [idsTaken, if_pos ⟨not_not.1 current, Bool.eq_false_iff.2 read, waits⟩, not_not.1 current] at room
              exact leaves_loadSection wellFormed room
          · exact .refl _

theorem leaves_stopTenant (wellFormed : manager.roster.WellFormed) (tenant : Tenant) :
    Leaves manager.nextId manager.ledger (manager.stopTenant tenant).ledger := by
  obtain ⟨_, same⟩ | ⟨_, _, stops⟩ := manager.stopTenant_cases tenant
  · rw [same]
    exact .refl _
  · rw [stops]
    exact (leaves_persist manager true).trans (leaves_clearTenant (wellFormed_persist wellFormed true))

/-- So does whoever else writes to the store. -/
theorem leaves_perform (wellFormed : manager.roster.WellFormed) (goes : operation ≠ .restart)
    (room : operation.followsTenants = true → manager.nextId.toNat + manager.idsTaken operation < UInt32.size)
    (away : operation.followsTenants = true ∨ operation.isForeign = true) :
    Leaves manager.nextId manager.ledger (manager.perform operation).1.ledger := by
  cases foreign : operation.isForeign with
  | true =>
      obtain ⟨store, written⟩ := perform_of_isForeign manager foreign
      rw [written]
      exact .of_subset (fun _ => id) rfl
  | false =>
      have follows := away.resolve_right (ne_true_of_eq_false foreign)
      cases operation with
      | restart => exact absurd rfl goes
      | load => exact leaves_load (room rfl)
      | switchTenant tenant => exact leaves_switchTenant wellFormed (room rfl)
      | unlockTenant tenant => exact leaves_unlockTenant wellFormed (room rfl)
      | stopTenant tenant => exact leaves_stopTenant wellFormed tenant
      | _ => cases follows

/-- What becomes of an id that was handed out before. -/
theorem passage_perform (wellFormed : manager.roster.WellFormed) (goes : operation ≠ .restart)
    (room : operation.followsTenants = true → manager.nextId.toNat + manager.idsTaken operation < UInt32.size)
    {id : ProfileId} (known : id.value < manager.nextId) :
    Passage id manager.ledger (manager.perform operation).1.ledger := by
  by_cases away : operation.followsTenants = true ∨ operation.isForeign = true
  · exact (leaves_perform wellFormed goes room away).passage wellFormed (wellFormed_perform wellFormed operation) known
  · obtain ⟨stays, ours⟩ := not_or.1 away
    have conduct := conduct_perform wellFormed (Bool.eq_false_iff.2 stays) (Bool.eq_false_iff.2 ours)
    refine conduct.passage wellFormed (.inl fun same => ?_)
    rw [same] at known
    exact UInt32.lt_irrefl _ known

theorem absent_of_unborn (sound : manager.books.Sound) {id : ProfileId} (unborn : manager.nextId ≤ id.value) :
    manager.ledger.profile? id = none := by
  cases found : manager.ledger.profile? id with
  | none => rfl
  | some profile =>
      obtain ⟨present, named⟩ := sound.wellFormed.get?_eq_some_iff.1 found
      have below : profile.id.value < manager.nextId := sound.numbered profile present
      rw [named] at below
      exact absurd unborn (UInt32.not_le.2 below)

/-- Nobody speaks of an id that is not handed out yet. -/
theorem heard_of_unborn (sound : manager.books.Sound) (goes : operation ≠ .restart)
    (room : manager.nextId.toNat + manager.idsTaken operation < UInt32.size) {id : ProfileId}
    (unborn : (manager.perform operation).1.nextId ≤ id.value) :
    (manager.perform operation).1.ledger.heard id = manager.ledger.heard id := by
  have wellFormed : manager.roster.WellFormed := sound.wellFormed
  by_cases away : operation.followsTenants = true ∨ operation.isForeign = true
  · exact (leaves_perform wellFormed goes (fun _ => room) away).silent id
  · obtain ⟨stays, ours⟩ := not_or.1 away
    have conduct := conduct_perform wellFormed (Bool.eq_false_iff.2 stays) (Bool.eq_false_iff.2 ours)
    have counted : (manager.perform operation).1.nextId.toNat = manager.nextId.toNat + manager.idsTaken operation :=
      (handsOut_perform wellFormed goes room).counted
    rw [UInt32.le_iff_toNat_le, counted] at unborn
    have absent : manager.ledger.profile? id = none :=
      absent_of_unborn sound (UInt32.le_iff_toNat_le.2 (Nat.le_of_add_right_le unborn))
    have passage : Passage id manager.ledger (manager.perform operation).1.ledger := by
      refine conduct.passage wellFormed ?_
      by_cases next : id = ⟨manager.nextId⟩
      · refine .inr ⟨absent, UInt32.toNat_inj.1 ?_⟩
        rw [next] at unborn
        exact counted.trans (Nat.le_antisymm unborn (Nat.le_add_right _ _))
      · exact .inl next
    cases passage with
    | absent _ _ silent => exact silent
    | dropped found | removed found | stayed found => cases absent.symm.trans found

end Manager

end SavedNetworks
