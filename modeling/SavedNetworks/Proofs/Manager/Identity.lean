import Mathlib.Data.List.Nodup
import SavedNetworks.Proofs.Manager.References
import SavedNetworks.Proofs.Manager.Runs

/-!
Ids. They are handed out in order, so that none is handed out twice, and an id that nobody has any more comes back to
nobody. An edit returns the id under which its outcome is found.
-/

namespace SavedNetworks

namespace ProfileId

/-- The ids that are handed out one after the other, from a number on. -/
def block (first count : Nat) : List ProfileId := (List.range' first count).map fun number => ⟨UInt32.ofNat number⟩

theorem length_block (first count : Nat) : (block first count).length = count := by
  unfold block
  rw [List.length_map, List.length_range']

theorem block_append (first count more : Nat) : block first count ++ block (first + count) more = block first (count + more) := by
  unfold block
  rw [← List.map_append, List.range'_append_1]

theorem mem_block {first count : Nat} (room : first + count ≤ UInt32.size) {id : ProfileId} :
    id ∈ block first count ↔ first ≤ id.value.toNat ∧ id.value.toNat < first + count := by
  unfold block
  simp only [List.mem_map, List.mem_range'_1]
  constructor
  · rintro ⟨number, ⟨lower, upper⟩, rfl⟩
    rw [UInt32.toNat_ofNat_of_lt' (Nat.lt_of_lt_of_le upper room)]
    exact ⟨lower, upper⟩
  · intro between
    exact ⟨id.value.toNat, between, by rw [UInt32.ofNat_toNat]⟩

theorem nodup_block {first count : Nat} (room : first + count ≤ UInt32.size) : (block first count).Nodup := by
  refine List.Nodup.map_on (fun one among other present same => ?_) List.nodup_range'
  have below : ∀ number ∈ List.range' first count, (UInt32.ofNat number).toNat = number := fun number listed =>
    UInt32.toNat_ofNat_of_lt' (Nat.lt_of_lt_of_le (List.mem_range'_1.1 listed).2 room)
  rw [← below one among, ← below other present, (ProfileId.mk.inj same)]

end ProfileId

/-- So many ids are handed out, and whoever has an id from before was in memory before. -/
structure Books.HandsOut (count : Nat) (before after : Books) : Prop where
  counted : after.nextId.toNat = before.nextId.toNat + count
  earlier : ∀ profile ∈ after.roster.all, profile.id.value < before.nextId → ∃ old ∈ before.roster.all, old.id = profile.id

namespace Books.HandsOut

variable {first before after : Books} {count more : Nat}

theorem trans (former : first.HandsOut count before) (latter : before.HandsOut more after) :
    first.HandsOut (count + more) after := by
  refine ⟨?_, fun profile present below => ?_⟩
  · rw [latter.counted, former.counted, Nat.add_assoc]
  · have still : profile.id.value < before.nextId := by
      rw [UInt32.lt_iff_toNat_lt] at below ⊢
      rw [former.counted]
      exact Nat.lt_add_right count below
    obtain ⟨middle, among, same⟩ := latter.earlier profile present still
    rw [← same] at below ⊢
    exact former.earlier middle among below

theorem refl (books : Books) : books.HandsOut 0 books := ⟨rfl, fun profile present _ => ⟨profile, present, rfl⟩⟩

/-- Nobody else comes in. -/
theorem known (taken : first.HandsOut count before) (ids : after.nextId = before.nextId)
    (known : ∀ profile ∈ after.roster.all, ∃ old ∈ before.roster.all, old.id = profile.id) : first.HandsOut count after := by
  have nothing : before.HandsOut 0 after := ⟨by rw [ids, Nat.add_zero], fun profile present _ => known profile present⟩
  exact taken.trans nothing

theorem same (taken : first.HandsOut count before) (ids : after.nextId = before.nextId)
    (roster : after.roster.all = before.roster.all) : first.HandsOut count after :=
  taken.known ids fun profile present => ⟨profile, roster ▸ present, rfl⟩

theorem through {look : Profile → Profile} (taken : first.HandsOut count before) (keeps : Roster.KeepsName look)
    (same : after.roster.through look = before.roster.through look) (ids : after.nextId = before.nextId) :
    first.HandsOut count after := by
  refine taken.known ids fun profile present => ?_
  obtain ⟨old, earlier, looks⟩ := Roster.mem_of_through same present
  exact ⟨old, earlier, (keeps.same looks).1⟩

/-- The next id is handed out, at most to one profile that comes in. -/
theorem one (ids : after.nextId = before.nextId + 1) (room : before.nextId.toNat + 1 < UInt32.size)
    (known : ∀ profile ∈ after.roster.all, profile ∈ before.roster.all ∨ profile.id = ⟨before.nextId⟩) :
    before.HandsOut 1 after := by
  refine ⟨by rw [ids, Manager.toNat_succ_of_room room], fun profile present below => ?_⟩
  rcases known profile present with earlier | fresh
  · exact ⟨profile, earlier, rfl⟩
  · rw [fresh] at below
    exact absurd below (UInt32.lt_irrefl _)

theorem update {current profile : Profile} {roster : Roster} (wellFormed : before.roster.WellFormed)
    (found : before.roster.get? profile.id = some current) (stored : before.roster.put profile = .ok roster) :
    before.HandsOut 0 { before with roster } := by
  refine (refl before).known rfl fun other present => ?_
  rcases (wellFormed.mem_put stored).1 present with rfl | ⟨earlier, _⟩
  · exact ⟨current, Roster.mem_of_get? found, wellFormed.id_of_get? found⟩
  · exact ⟨other, earlier, rfl⟩

theorem step {move : Move} (taken : Step move before after) (frugal : move.IsFrugal) (wellFormed : before.roster.WellFormed) :
    before.HandsOut 0 after := by
  cases taken with
  | skip | add => cases frugal
  | note outlines => exact (refl before).through Roster.keepsName_outline outlines rfl
  | relink rule caches id =>
      exact (refl before).through Roster.keepsName_frame (Roster.through_reconsider rule before.roster caches id) rfl
  | dismiss | forgive | write | settle => exact (refl before).same rfl rfl
  | drop found =>
      refine (refl before).known rfl fun profile present => ?_
      obtain ⟨old, earlier, _, rfl⟩ := wellFormed.mem_drop.1 present
      exact ⟨old, earlier, (Roster.released_name before.roster _ old).1.symm⟩
  | update found shared creator saved stored => exact update wellFormed found stored

theorem moves {allowed : Move → Prop} (frugal : ∀ move, allowed move → move.IsFrugal) (moves : Moves allowed before after)
    (wellFormed : before.roster.WellFormed) : before.HandsOut 0 after := by
  have keeps : ∀ move middle last, allowed move → Step move middle last →
      middle.roster.WellFormed ∧ before.HandsOut 0 middle → last.roster.WellFormed ∧ before.HandsOut 0 last :=
    fun move _ _ permitted taken both =>
      ⟨taken.wellFormed both.1, both.2.trans (step taken (frugal move permitted) both.1)⟩
  exact (moves.invariant keeps ⟨wellFormed, refl before⟩).2

theorem filed {allowed : Move → Prop} (files : Filed allowed before after) (wellFormed : before.roster.WellFormed)
    (room : after.nextId ≠ before.nextId → before.nextId.toNat + 1 < UInt32.size) :
    before.HandsOut (if after.nextId = before.nextId then 0 else 1) after := by
  have counted : before.nextId + 1 ≠ before.nextId := by grind
  cases files with
  | refused =>
      rw [if_pos rfl]
      exact refl before
  | lost =>
      rw [if_neg counted]
      exact one rfl (room counted) fun _ => .inl
  | added permitted read fresh unlinked owned stored =>
      rw [if_neg counted]
      refine one rfl (room counted) fun profile present => ?_
      rcases (wellFormed.mem_put stored).1 present with rfl | ⟨earlier, _⟩
      · exact .inr fresh
      · exact .inl earlier
  | updated permitted found shared creator saved stored =>
      rw [if_pos rfl]
      exact update wellFormed found stored

end Books.HandsOut

namespace Manager

variable {manager : Manager} {operation : Operation} {given : List ProfileId} {draft : Draft} {caller : Owner}

theorem handsOut_insertAll (wellFormed : manager.roster.WellFormed) {profiles : List Profile}
    (room : manager.nextId.toNat + profiles.length < UInt32.size) :
    manager.books.HandsOut profiles.length (manager.insertAll profiles).books := by
  unfold insertAll
  induction profiles generalizing manager with
  | nil => exact .refl _
  | cons first rest ih =>
      rw [List.length_cons] at room ⊢
      rw [Nat.add_comm]
      have single : manager.nextId.toNat + 1 < UInt32.size := by omega
      refine .trans ?_ (ih (wellFormed_insertLoaded wellFormed first) (room_insertLoaded room first))
      rw [books_insertLoaded]
      refine .one rfl single fun profile present => ?_
      exact (wellFormed.of_mem_takeIn present).imp_right fun same => by rw [same]; rfl

theorem handsOut_clearTenant (wellFormed : manager.roster.WellFormed) :
    manager.books.HandsOut 0 manager.clearTenant.books :=
  (Books.HandsOut.refl _).known rfl fun profile present => ⟨profile, ((mem_clearTenant wellFormed).1 present).1, rfl⟩

theorem handsOut_persist (manager : Manager) (force : Bool) : manager.books.HandsOut 0 (manager.persist force).books := by
  rw [persist_eq]
  exact (Books.HandsOut.refl manager.books).same rfl rfl

theorem handsOut_leave (wellFormed : manager.roster.WellFormed) (tenant : Tenant) :
    manager.books.HandsOut 0 (manager.leave tenant).books := by
  have away : manager.books.HandsOut 0 manager.putAway.books := by
    rw [putAway_eq]
    exact (Books.HandsOut.refl manager.books).same rfl rfl
  have cleared := away.trans (handsOut_clearTenant (wellFormed_putAway wellFormed))
  exact cleared.same rfl rfl

theorem handsOut_loadSection (wellFormed : manager.roster.WellFormed)
    (room : manager.nextId.toNat + (manager.sectionOf manager.tenant).length < UInt32.size) :
    manager.books.HandsOut (manager.sectionOf manager.tenant).length manager.loadSection.books := by
  unfold sectionOf at room ⊢
  cases read : (manager.store.readTenant manager.tenant).2 with
  | error failure =>
      rw [loadSection_of_error read]
      exact (Books.HandsOut.refl manager.books).same rfl rfl
  | ok tenantSection =>
      simp only [read] at room ⊢
      have opened : manager.books.HandsOut tenantSection.profiles.length (manager.opened tenantSection).books := by
        rw [books_opened]
        exact (handsOut_insertAll wellFormed room).same rfl rfl
      rw [books_loadSection read]
      exact opened.trans (handsOut_persist _ true)

theorem handsOut_load (room : manager.nextId.toNat + manager.idsTaken .load < UInt32.size) :
    manager.books.HandsOut (manager.idsTaken .load) manager.load.1.books := by
  unfold idsTaken at room ⊢
  cases read : (manager.store.read manager.tenant).2 with
  | error failure =>
      rw [load_of_error read]
      exact (Books.HandsOut.refl manager.books).same rfl rfl
  | ok data =>
      simp only [read] at room ⊢
      rw [load_of_ok read]
      generalize (manager.unlockDeferred || manager.platform.isUnlocked manager.tenant) = withSection at room
      generalize reading : ({ manager with store := (manager.store.read manager.tenant).1, unlockDeferred := false } :
        Manager) = reader
      have ids : reader.clearMemory.nextId = manager.nextId := by rw [← reading]; rfl
      have emptied : manager.books.HandsOut 0 reader.clearMemory.books :=
        (Books.HandsOut.refl manager.books).known ids fun profile present => absurd present List.not_mem_nil
      obtain ⟨roster, books, outlines⟩ := books_replaceMemory reader data withSection
      have taken := emptied.trans (handsOut_insertAll (Roster.wellFormed_clear reader.roster) (ids ▸ room))
      rw [Nat.zero_add] at taken
      rw [books, books_filled]
      exact taken.through Roster.keepsName_outline outlines rfl

theorem handsOut_addOrUpdate (wellFormed : manager.roster.WellFormed)
    (room : manager.nextId.toNat + manager.idsTaken (.addOrUpdate draft caller) < UInt32.size) :
    manager.books.HandsOut (manager.idsTaken (.addOrUpdate draft caller)) (manager.addOrUpdate draft caller).1.books := by
  have lenient : Lenient Move.IsFrugal := ⟨trivial, trivial, trivial, trivial⟩
  have filing := @filed_addOrUpdate (fun _ => True) manager draft caller Move.IsFrugal lenient wellFormed (fun _ => trivial)
    fun _ _ => trivial
  rcases filing with same | ⟨edit, after, _, files, moves, ids⟩
  · have next : (manager.addOrUpdate draft caller).1.nextId = manager.nextId := congrArg Books.nextId same
    rw [idsTaken, if_pos next, same]
    exact .refl _
  · have given : (manager.giveWay draft).books.nextId = manager.nextId := (giveWay_keeps wellFormed draft).2.2
    have ready : (manager.giveWay draft).books.roster.WellFormed := wellFormed_giveWay wellFormed draft
    have way : Moves (fun move => ∃ id, move = .drop id) manager.books (manager.giveWay draft).books :=
      moves_giveWay wellFormed draft fun id _ => ⟨id, rfl⟩
    have gone : manager.books.HandsOut 0 (manager.giveWay draft).books :=
      .moves (fun move dropped => by obtain ⟨id, rfl⟩ := dropped; trivial) way wellFormed
    rw [idsTaken, ids, ← given] at room ⊢
    have stored := gone.trans (.filed files ready fun spent => by rw [if_neg spent] at room; exact room)
    rw [Nat.zero_add] at stored
    exact stored.trans (.moves (fun _ => id) moves (files.wellFormed ready))

theorem frugal_of_permits (many : ∀ draft caller, operation ≠ .addOrUpdate draft caller) (move : Move)
    (permitted : manager.permits operation move) : move.IsFrugal := by
  cases move with
  | skip =>
      obtain ⟨draft, caller, same⟩ := permitted
      exact many draft caller same
  | add shared =>
      obtain ⟨draft, caller, same, _⟩ := permitted
      exact many draft caller same
  | _ => trivial

theorem handsOut_switchTenant (wellFormed : manager.roster.WellFormed) {tenant : Tenant}
    (room : manager.nextId.toNat + manager.idsTaken (.switchTenant tenant) < UInt32.size) :
    manager.books.HandsOut (manager.idsTaken (.switchTenant tenant)) (manager.switchTenant tenant).1.books := by
  have left := handsOut_leave wellFormed tenant
  obtain ⟨same, switched⟩ | ⟨_, unread, switched⟩ | ⟨different, read, unlocked, switched⟩ | ⟨_, _, locked, switched⟩ :=
    manager.switchTenant_cases tenant
  all_goals rw [switched]
  · rw [idsTaken, if_neg fun opens => opens.1 same]
    exact .refl _
  · rw [idsTaken, if_neg fun opens => Bool.noConfusion (opens.2.1.symm.trans unread)]
    exact (Books.HandsOut.refl manager.books).same rfl rfl
  · rw [idsTaken, if_pos ⟨different, read, unlocked⟩] at room ⊢
    rw [← nextId_leave manager tenant] at room
    have taken := left.trans (handsOut_loadSection (wellFormed_leave wellFormed tenant) room)
    rw [Nat.zero_add] at taken
    exact taken
  · rw [idsTaken, if_neg fun opens => Bool.noConfusion (opens.2.2.symm.trans locked)]
    exact left.same rfl rfl

theorem handsOut_unlockTenant (wellFormed : manager.roster.WellFormed) {tenant : Tenant}
    (room : manager.nextId.toNat + manager.idsTaken (.unlockTenant tenant) < UInt32.size) :
    manager.books.HandsOut (manager.idsTaken (.unlockTenant tenant)) (manager.unlockTenant tenant).books := by
  obtain ⟨still, same⟩ | ⟨rfl, read, waits, loads⟩ := manager.unlockTenant_cases tenant
  · rw [idsTaken, if_neg fun opens => Bool.noConfusion (opens.2.2.symm.trans (still opens.1 opens.2.1)), same]
    exact .refl _
  · rw [idsTaken, if_pos ⟨rfl, read, waits⟩] at room ⊢
    rw [loads]
    exact handsOut_loadSection wellFormed room

theorem handsOut_stopTenant (wellFormed : manager.roster.WellFormed) (tenant : Tenant) :
    manager.books.HandsOut 0 (manager.stopTenant tenant).books := by
  obtain ⟨_, same⟩ | ⟨_, _, stops⟩ := manager.stopTenant_cases tenant
  · rw [same]
    exact .refl _
  · rw [stops]
    exact (handsOut_persist manager true).trans (handsOut_clearTenant (wellFormed_persist wellFormed true))

/-- Every operation hands out the ids that follow the earlier ones. -/
theorem handsOut_perform (wellFormed : manager.roster.WellFormed) (goes : operation ≠ .restart)
    (room : manager.nextId.toNat + manager.idsTaken operation < UInt32.size) :
    manager.books.HandsOut (manager.idsTaken operation) (manager.perform operation).1.books := by
  cases ours : operation.isForeign with
  | true =>
      have none : manager.idsTaken operation = 0 := by
        cases operation with
        | change => rfl
        | _ => cases ours
      obtain ⟨store, written⟩ := perform_of_isForeign manager ours
      rw [written, none]
      exact (Books.HandsOut.refl manager.books).same rfl rfl
  | false =>
      cases operation with
      | restart => exact absurd rfl goes
      | load => exact handsOut_load room
      | addOrUpdate draft caller => exact handsOut_addOrUpdate wellFormed room
      | switchTenant tenant => exact handsOut_switchTenant wellFormed room
      | unlockTenant tenant => exact handsOut_unlockTenant wellFormed room
      | stopTenant tenant => exact handsOut_stopTenant wellFormed tenant
      | _ => exact .moves (frugal_of_permits fun _ _ same => by cases same) (moves_perform wellFormed room rfl ours) wellFormed

theorem outlines_followUp (manager : Manager) (result : EditResult) :
    (manager.followUp result).roster.through Profile.outline = manager.roster.through Profile.outline :=
  (moves_followUp Move.lenient_isQuiet manager result).invariant
    (fun _ before _ quiet taken (same : before.roster.through Profile.outline = manager.roster.through Profile.outline) =>
      (taken.outlines_of_isQuiet quiet).trans same) rfl

/-- An accepted edit returns the id under which its outcome is found, which is the next one if the profile is new. -/
theorem addOrUpdate_eq_ok (wellFormed : manager.roster.WellFormed) {result : EditResult}
    (accepted : (manager.addOrUpdate draft caller).2 = .ok result) :
    ∃ edit profile, manager.prepare draft caller (manager.replaced? draft) = .ok edit ∧
      (manager.addOrUpdate draft caller).1.roster.get? result.id = some profile ∧
      profile.outline = (edit.profile.withId result.id).outline ∧ (result.isNew = true → result.id = ⟨manager.nextId⟩) := by
  rcases addOrUpdate_cases manager draft caller with ⟨failure, refused⟩ | ⟨edit, owned, read, prepared, outcome⟩
  · rw [refused] at accepted
    cases accepted
  · rw [outcome] at accepted ⊢
    obtain ⟨tenant, _, _⟩ := giveWay_keeps wellFormed draft
    rcases carryOut_of_prepared wellFormed prepared with
      ⟨failure, after, refused, _⟩ | ⟨profile, roster, after, carried, stored, looks, how⟩
    · rw [refused] at accepted
      cases accepted
    · rw [carried] at accepted ⊢
      obtain rfl := Except.ok.inj accepted
      obtain ⟨visible, put, fresh⟩ : (manager.giveWay draft).roster.isVisible profile = true ∧ after.roster = roster ∧
          (edit.isNew = true → profile.id = ⟨manager.nextId⟩) := by
        rcases how with ⟨_, _, fresh, _, creator, _, books⟩ | ⟨_, current, _, old, _, found, shared, creator, _, books⟩
        · refine ⟨?_, congrArg Books.roster books, fun _ => fresh⟩
          rw [Roster.isVisible, Profile.visibleTo, creator, tenant, Bool.or_eq_true]
          exact .inr owned
        · refine ⟨?_, congrArg Books.roster books, fun new => Bool.noConfusion (old.symm.trans new)⟩
          rw [Roster.isVisible, Profile.visibleTo, shared, creator]
          exact (Roster.get?_eq_some.1 found).2
      have here : after.roster.get? profile.id = some profile := put ▸ (wellFormed_giveWay wellFormed draft).get?_put stored visible
      obtain ⟨final, there, same⟩ := Roster.get?_of_look Profile.visibleTo_outline (outlines_followUp after _) here
      exact ⟨edit, final, prepared, there, same.trans looks, fresh⟩

/-- The ids that an operation hands out. -/
def handedOut (manager : Manager) (operation : Operation) : List ProfileId :=
  ProfileId.block manager.nextId.toNat (manager.idsTaken operation)

/-- The states of all runs in which the ids last, whatever is stored and whoever writes to the store, with the ids that
were handed out since the last restart. -/
inductive ReachableWith : List ProfileId → Manager → Prop where
  | start (settings : Settings) (platform : Platform) (store : Store) (listeners : List Listener)
    (digest : String → Option (List UInt8)) (random : List UInt8) :
    ReachableWith [] (start settings platform store listeners digest random)
  | restart {given : List ProfileId} {manager : Manager} (reached : ReachableWith given manager) :
    ReachableWith [] manager.restart
  | perform {given : List ProfileId} {manager : Manager} {operation : Operation} (reached : ReachableWith given manager)
    (goes : operation ≠ .restart) (few : given.length + manager.idsTaken operation < UInt32.size) :
    ReachableWith (given ++ manager.handedOut operation) (manager.perform operation).1

namespace ReachableWith

theorem given_eq (reached : ReachableWith given manager) :
    manager.books.Sound ∧ given = ProfileId.block 0 manager.nextId.toNat := by
  -- The ids that were given are the block from zero to the next one; a restart forgets both.
  induction reached with
  | start settings platform store listeners digest random =>
      exact ⟨sound_start settings platform store listeners digest random, rfl⟩
  | restart => exact ⟨.of_empty rfl Roster.wellFormed_empty, rfl⟩
  | @perform _ manager operation _ goes few ih =>
      obtain ⟨sound, rfl⟩ := ih
      rw [ProfileId.length_block] at few
      refine ⟨sound_of_taken sound few, ?_⟩
      have counted : (manager.perform operation).1.nextId.toNat = manager.nextId.toNat + manager.idsTaken operation :=
        (handsOut_perform sound.wellFormed goes few).counted
      have next := ProfileId.block_append 0 manager.nextId.toNat (manager.idsTaken operation)
      rw [Nat.zero_add] at next
      rw [counted, ← next]
      rfl

theorem length_given (reached : ReachableWith given manager) : given.length = manager.nextId.toNat := by
  rw [reached.given_eq.2, ProfileId.length_block]

theorem room (reached : ReachableWith given manager) (few : given.length + manager.idsTaken operation < UInt32.size) :
    manager.nextId.toNat + manager.idsTaken operation < UInt32.size := by
  rw [← reached.length_given]
  exact few

/-- The ids that were handed out are those below the next one. -/
theorem mem_given (reached : ReachableWith given manager) {id : ProfileId} : id ∈ given ↔ id.value < manager.nextId := by
  have below : 0 + manager.nextId.toNat ≤ UInt32.size := by
    rw [Nat.zero_add]
    exact Nat.le_of_lt manager.nextId.toNat_lt_size
  rw [reached.given_eq.2, ProfileId.mem_block below, UInt32.lt_iff_toNat_lt, Nat.zero_add]
  exact and_iff_right (Nat.zero_le _)

theorem run {operations : List Operation} (reached : ReachableWith given manager)
    (few : manager.Along (fun manager operation => operation ≠ .restart ∧
      manager.nextId.toNat + manager.idsTaken operation < UInt32.size) operations) :
    ∃ given, ReachableWith given (manager.run operations) := by
  have keeps : ∀ manager operation, operation ≠ .restart ∧ manager.nextId.toNat + manager.idsTaken operation < UInt32.size →
      (∃ given, ReachableWith given manager) → ∃ given, ReachableWith given (manager.perform operation).1 := by
    rintro manager operation ⟨goes, few⟩ ⟨given, reached⟩
    exact ⟨_, reached.perform goes (reached.length_given ▸ few)⟩
  exact few.invariant keeps ⟨given, reached⟩

theorem idle (reached : ReachableWith given manager) : manager.books.Idle := by
  induction reached with
  | start | restart => exact fun _ => rfl
  | perform reached _ _ ih => exact idle_perform reached.given_eq.1.wellFormed ih _

theorem attached (reached : ReachableWith given manager) : manager.Attached := by
  induction reached with
  | start | restart => exact attached_of_cleared rfl
  | perform reached _ few ih => exact attached_perform reached.given_eq.1 reached.idle (reached.room few) ih

end ReachableWith

/-- In every state the index is the inverse of the keys, no id was handed out twice, nobody has one that was not handed
out or that somebody else had, observations and the last pick are of profiles that are seen, and an edit returns the
id under which its outcome is found, never seen before if it is new. -/
theorem identity_reached (reached : ReachableWith given manager) :
    manager.roster.WellFormed ∧ given.Nodup ∧
      (∀ profile ∈ manager.roster.all, profile.id.value < manager.nextId ∧ profile.id ∈ given) ∧
      (∀ operation, operation ≠ .restart → given.length + manager.idsTaken operation < UInt32.size →
        ∀ profile ∈ (manager.perform operation).1.roster.all, profile.id ∈ given →
          ∃ old ∈ manager.roster.all, old.id = profile.id) ∧
      (∀ id cache, manager.caches.get? id = some cache → ∃ profile, manager.roster.profiles.get? id = some profile) ∧
      (∀ id time, manager.lastSelected = some (id, time) → ∃ profile, manager.roster.get? id = some profile) ∧
      ∀ draft caller result, (manager.addOrUpdate draft caller).2 = .ok result →
        ∃ edit profile, manager.prepare draft caller (manager.replaced? draft) = .ok edit ∧
          profile.outline = (edit.profile.withId result.id).outline ∧
          (manager.addOrUpdate draft caller).1.roster.get? result.id = some profile ∧
          (manager.addOrUpdate draft caller).1.roster.getByKey? edit.profile.key = some profile ∧
          (result.isNew = true → result.id ∉ given) := by
  obtain ⟨sound, numbers⟩ := reached.given_eq
  have wellFormed : manager.roster.WellFormed := sound.wellFormed
  refine ⟨wellFormed, ?_, fun profile present => ?_, fun operation goes few profile present handed => ?_,
    fun id cache cached => ?_, fun id time picked => reached.attached id (.inr ⟨time, picked⟩),
    fun draft caller result accepted => ?_⟩
  · rw [numbers]
    refine ProfileId.nodup_block ?_
    rw [Nat.zero_add]
    exact Nat.le_of_lt manager.nextId.toNat_lt_size
  · have below := sound.numbered profile present
    exact ⟨below, reached.mem_given.2 below⟩
  · exact (handsOut_perform wellFormed goes (reached.room few)).earlier profile present (reached.mem_given.1 handed)
  · obtain ⟨profile, seen⟩ := reached.attached id (.inl ⟨cache, cached⟩)
    exact ⟨profile, (Roster.get?_eq_some.1 seen).1⟩
  · obtain ⟨edit, profile, prepared, found, looks, fresh⟩ := addOrUpdate_eq_ok wellFormed accepted
    obtain ⟨id, key⟩ := Roster.keepsName_outline.same looks
    have after : (manager.addOrUpdate draft caller).1.roster.WellFormed := wellFormed_perform wellFormed (.addOrUpdate draft caller)
    have named : profile.id = result.id := id
    refine ⟨edit, profile, prepared, looks, found, after.getByKey?_eq_some.2 ⟨named ▸ found, key⟩, fun new handed => ?_⟩
    rw [fresh new, reached.mem_given] at handed
    exact absurd handed (UInt32.lt_irrefl _)

/-- A network is added and picked. -/
def pickedHome : List Operation :=
  [.load, .addOrUpdate (.psk "Home" "password") ⟨Uid.system, "android"⟩, .enable ⟨0⟩ true ⟨Uid.system, "android"⟩]

theorem identity_pickedHome :
    (onEmptyStore.run pickedHome).lastSelected = some (⟨0⟩, 0) ∧
      ∃ profile, (onEmptyStore.run pickedHome).roster.get? ⟨0⟩ = some profile := by
  have picked : (onEmptyStore.run pickedHome).lastSelected = some (⟨0⟩, 0) := by decide
  have start : ReachableWith [] onEmptyStore := .start ..
  obtain ⟨given, reached⟩ := start.run (by decide : onEmptyStore.Along _ pickedHome)
  exact ⟨picked, (identity_reached reached).2.2.2.2.2.1 ⟨0⟩ 0 picked⟩

end Manager

end SavedNetworks
