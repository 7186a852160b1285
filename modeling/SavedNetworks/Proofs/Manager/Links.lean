import SavedNetworks.Proofs.Manager.Runs
import SavedNetworks.Proofs.Roster.Links

/-!
When links stay intact. No operation but four kinds can break them: an update that gives a linked profile
another key, and whatever drops the private profiles of a tenant or takes in stored ones. For each of them
there is a condition that tells whether it does.
-/

namespace SavedNetworks

namespace Step

variable {move : Move} {before after : Books}

theorem links_of_isQuiet (taken : Step move before after) (quiet : move.IsQuiet) :
    after.roster.links = before.roster.links :=
  Roster.links_of_through Roster.linked_outline (taken.outlines_of_isQuiet quiet)

theorem interlinked (taken : Step move before after) (sound : before.Sound) (placed : before.Placed)
    (kept : ∀ id, move ≠ .update id) (intact : Interlinked before.roster.links) : Interlinked after.roster.links := by
  have wellFormed := sound.wellFormed
  cases taken with
  | note outlines =>
      rw [Roster.links_of_through Roster.linked_outline outlines]
      exact intact
  | relink rule caches id => exact wellFormed.interlinked_reconsider rule caches id intact
  | dismiss | forgive | write | settle | skip => exact intact
  | @drop _ id profile found =>
      simp only [wellFormed.links_drop found placed.seen]
      exact intact.forget profile.key
  | @add _ profile _ read room fresh unlinked owned stored =>
      obtain ⟨free, links⟩ := wellFormed.links_put stored fun _ present => sound.ne_of_fresh fresh present
      simp only [links, unlinked]
      exact intact.hold free
  | update => exact absurd rfl (kept _)

end Step

namespace Manager

variable {manager : Manager} {operation : Operation} {operations : List Operation} {draft : Draft} {caller : Owner}

/-- The links in memory once records are taken in beside the profiles that hold their keys already. -/
def linksWith (holder? : ProfileKey → Option Profile) (records : List Profile) : Links := fun key =>
  ((holder? key).or (records.find? (·.key = key))).map Profile.linked

/-- What an operation has to meet for links to stay intact. -/
def KeepsLinks (manager : Manager) : Operation → Prop
  | .addOrUpdate draft caller => ∀ existing result,
      manager.edited? draft (manager.replaced? draft) = some existing →
      (manager.addOrUpdate draft caller).2 = .ok result → (existing.update draft).key ≠ existing.key →
      existing.linked = .empty
  | .stopTenant tenant => tenant = manager.tenant → manager.platform.isUnlocked tenant = true →
      ∀ profile ∈ manager.roster.all, manager.belongsToShared profile = true → ∀ key ∈ profile.linked,
        ∃ other ∈ manager.roster.all, other.key = key ∧ manager.belongsToShared other = true
  | .switchTenant tenant => tenant ≠ manager.tenant → manager.awaitsStore = false →
      Interlinked (linksWith manager.stays?
        (if manager.platform.isUnlocked tenant then manager.putAway.sectionOf tenant else []))
  | .unlockTenant tenant => tenant = manager.tenant → manager.awaitsStore = false → manager.awaitsUnlock = true →
      Interlinked (linksWith manager.roster.holder? (manager.sectionOf tenant))
  | .load => ∀ data, (manager.store.read manager.tenant).2 = .ok data →
      Interlinked (linksWith (fun _ => none)
        (data.loaded (manager.unlockDeferred || manager.platform.isUnlocked manager.tenant)))
  | _ => True

theorem interlinked_of_stays (sound : manager.books.Sound) (placed : manager.books.Placed)
    (ordinary : manager.Ordinary operation) (stays : operation.followsTenants = false)
    (kept : ∀ id, ¬ manager.updates operation id) (intact : Interlinked manager.roster.links) :
    Interlinked (manager.perform operation).1.roster.links := by
  have step : ∀ move before after, manager.permits operation move → Step move before after →
      (before.Sound ∧ before.Placed ∧ Interlinked before.roster.links) →
      after.Sound ∧ after.Placed ∧ Interlinked after.roster.links := by
    rintro move before after permitted taken ⟨sound, placed, intact⟩
    refine ⟨sound.step taken, placed.step taken sound.wellFormed, taken.interlinked sound placed ?_ intact⟩
    rintro id rfl
    exact kept id permitted
  have all := (moves_perform sound.wellFormed ordinary.room.taking stays ordinary.ours).invariant step ⟨sound, placed, intact⟩
  exact all.2.2

theorem links_followUp (manager : Manager) (result : EditResult) :
    (manager.followUp result).roster.links = manager.roster.links :=
  (moves_followUp Move.lenient_isQuiet manager result).invariant
    (fun _ before _ quiet taken (same : before.roster.links = manager.roster.links) =>
      (taken.links_of_isQuiet quiet).trans same) rfl

/-- What an edit starts from, once another profile gave way to the key that it is to have. -/
theorem giveWay_cases (wellFormed : manager.roster.WellFormed) {existing : Profile}
    (chosen : manager.edited? draft (manager.replaced? draft) = some existing) :
    manager.giveWay draft = manager ∨ ∃ key, draft.key? = some key ∧ existing.key ≠ key ∧
      (manager.giveWay draft).roster.links key = none ∧
      (manager.giveWay draft).roster.get? existing.id = some ((existing.forgetChoice key).unlink key) := by
  obtain ⟨found, apart⟩ := edited?_eq_some wellFormed chosen
  cases replaced : manager.replaced? draft with
  | none =>
      left
      rw [giveWay, replaced]
  | some id =>
      obtain ⟨profile, seen, _, named, books⟩ := giveWay_of_replaced wellFormed replaced
      have roster : (manager.giveWay draft).roster = manager.roster.drop id profile.key := congrArg Books.roster books
      rw [replaced, ne_eq, Option.some.injEq] at apart
      have present := Roster.mem_of_get? seen
      have same := wellFormed.id_of_get? seen
      have here := Roster.mem_of_get? found
      refine .inr ⟨profile.key, named, fun clash => ?_, ?_, ?_⟩
      · exact apart (by rw [wellFormed.eq_of_key here present clash, same])
      · rw [roster, (wellFormed.drop id profile.key).links_eq_none_iff]
        intro other among clash
        obtain ⟨old, earlier, elsewhere, rfl⟩ := wellFormed.mem_drop.1 among
        rw [(Roster.released_name manager.roster profile.key old).2] at clash
        exact elsewhere (by rw [wellFormed.eq_of_key earlier present clash, same])
      · rw [roster, Roster.get?_drop_of_ne found apart]

theorem interlinked_giveWay (sound : manager.books.Sound) (placed : manager.books.Placed)
    (intact : Interlinked manager.roster.links) (draft : Draft) :
    (manager.giveWay draft).books.Sound ∧ Interlinked (manager.giveWay draft).roster.links := by
  cases replaced : manager.replaced? draft with
  | none =>
      rw [giveWay, replaced]
      exact ⟨sound, intact⟩
  | some id =>
      obtain ⟨profile, seen, _, _, books⟩ := giveWay_of_replaced sound.wellFormed replaced
      have taken : Step (.drop id) manager.books (manager.giveWay draft).books := by
        rw [books]
        exact .drop seen
      exact ⟨sound.step taken, taken.interlinked sound placed (fun _ same => by cases same) intact⟩

/-- A revised profile takes its links along: they stay intact if its key stays, or if there are none. -/
theorem interlinked_revised_iff (sound : manager.books.Sound) (placed : manager.books.Placed)
    (intact : Interlinked manager.roster.links) {existing profile : Profile} {roster : Roster}
    (chosen : manager.edited? draft (manager.replaced? draft) = some existing)
    (stored : (manager.giveWay draft).roster.put profile = .ok roster) (same : existing.id = profile.id)
    (key : profile.key = (existing.update draft).key) (linked : profile.linked = existing.linked) :
    Interlinked roster.links ↔ ((existing.update draft).key ≠ existing.key → existing.linked = .empty) := by
  have wellFormed : manager.roster.WellFormed := sound.wellFormed
  obtain ⟨found, _⟩ := edited?_eq_some wellFormed chosen
  have present := Roster.mem_of_get? found
  rcases giveWay_cases wellFormed chosen with alone | ⟨other, named, apart, free, there⟩
  · rw [alone] at stored
    have here := wellFormed.links_key present
    obtain ⟨unheld, links⟩ := wellFormed.links_put_of_mem stored present same
    rw [key] at unheld
    rw [links, key, linked]
    by_cases renamed : (existing.update draft).key = existing.key
    · rw [renamed, Function.update_idem, ← here, Function.update_eq_self]
      exact ⟨fun _ changed => absurd rfl changed, fun _ => intact⟩
    · have free := unheld.resolve_left fun clash => renamed clash.symm
      rw [intact.rename_iff here free (fun _ member => member) fun _ member _ => member]
      exact ⟨fun none _ => none, fun none => none renamed⟩
  · obtain ⟨sound, still⟩ := interlinked_giveWay sound placed intact draft
    have drafted := key_update named existing
    have remains := Roster.mem_of_get? there
    have here : (manager.giveWay draft).roster.links existing.key = some (existing.linked.erase other) :=
      sound.wellFormed.links_key remains
    obtain ⟨_, links⟩ := sound.wellFormed.links_put_of_mem stored remains same
    have renamed : (existing.update draft).key ≠ existing.key := by
      rw [drafted]
      exact apart.symm
    have after : roster.links = Function.update (Function.update (manager.giveWay draft).roster.links existing.key none)
        other (some existing.linked) := by rw [links, key, linked, drafted]; rfl
    rw [after, still.rename_iff here free (fun _ member => (SortedSet.mem_erase.1 member).2)
      fun _ member different => SortedSet.mem_erase.2 ⟨different, member⟩]
    exact ⟨fun none _ => none, fun none => none renamed⟩

/-- An edit of a profile leaves links intact if it is refused, or if it keeps the key or there are none. -/
theorem interlinked_carryOut_iff (sound : manager.books.Sound) (placed : manager.books.Placed)
    (intact : Interlinked manager.roster.links) {existing : Profile} {edit : Edit}
    (chosen : manager.edited? draft (manager.replaced? draft) = some existing)
    (prepared : manager.prepare draft caller (manager.replaced? draft) = .ok edit) :
    Interlinked ((manager.giveWay draft).carryOut draft edit).1.roster.links ↔
      ∀ result, ((manager.giveWay draft).carryOut draft edit).2 = .ok result →
        (existing.update draft).key ≠ existing.key → existing.linked = .empty := by
  obtain ⟨_, still⟩ := interlinked_giveWay sound placed intact draft
  obtain rfl := revision_of_prepared chosen prepared
  rcases carryOut_cases (manager.giveWay draft) draft (manager.revision existing draft caller) with
    ⟨failure, after, carried, books⟩ | ⟨profile, roster, after, carried, stored, ⟨absent, _⟩ | ⟨_, rfl, books⟩⟩
  · have same : after.roster = (manager.giveWay draft).roster := by
      rcases books with books | books <;> exact congrArg Books.roster books
    rw [carried, same]
    refine ⟨fun _ result failed => ?_, fun _ => still⟩
    cases failed
  · cases absent
  · have outlines := (manager.revision existing draft caller).outline_outcome
    have named := Roster.keepsName_outline.same outlines
    have linked := Profile.same_of_look Profile.linked Roster.linked_outline outlines
    have same : after.roster = roster := congrArg Books.roster books
    rw [carried, same, interlinked_revised_iff sound placed intact chosen stored named.1.symm named.2 linked]
    exact ⟨fun kept _ _ => kept, fun kept => kept _ rfl⟩

theorem interlinked_addOrUpdate_iff (sound : manager.books.Sound) (placed : manager.books.Placed)
    (ordinary : manager.Ordinary (.addOrUpdate draft caller)) (intact : Interlinked manager.roster.links) :
    Interlinked (manager.addOrUpdate draft caller).1.roster.links ↔ manager.KeepsLinks (.addOrUpdate draft caller) := by
  unfold KeepsLinks
  dsimp only
  cases chosen : manager.edited? draft (manager.replaced? draft) with
  | none =>
      have unchanged : ∀ id, ¬ manager.updates (.addOrUpdate draft caller) id := by
        rintro id ⟨existing, found, _⟩
        rw [chosen] at found
        cases found
      have kept : Interlinked (manager.perform (.addOrUpdate draft caller)).1.roster.links :=
        interlinked_of_stays sound placed ordinary rfl unchanged intact
      refine ⟨fun _ existing result found => ?_, fun _ => kept⟩
      cases found
  | some existing =>
      rcases addOrUpdate_cases manager draft caller with ⟨failure, refused⟩ | ⟨edit, _, _, prepared, outcome⟩
      · rw [refused]
        refine ⟨fun _ other result _ failed => ?_, fun _ => intact⟩
        cases failed
      · have carried := interlinked_carryOut_iff sound placed intact chosen prepared
        rw [outcome]
        generalize (manager.giveWay draft).carryOut draft edit = done at carried
        obtain ⟨after, answer⟩ := done
        cases answer with
        | error failure =>
            simp only [carried]
            refine ⟨fun _ other result _ failed => ?_, fun _ result failed => ?_⟩ <;> cases failed
        | ok result =>
            simp only [links_followUp, carried]
            refine ⟨fun kept other _ found _ => ?_, fun kept _ _ => kept existing result rfl rfl⟩
            obtain rfl := Option.some.inj found
            exact kept result rfl

theorem linksWith_nil (holder? : ProfileKey → Option Profile) :
    linksWith holder? [] = fun key => (holder? key).map Profile.linked := by
  funext key
  rw [linksWith, List.find?_nil, Option.or_none]

theorem links_insertAll (sound : manager.books.Sound) {records : List Profile}
    (room : manager.nextId.toNat + records.length < UInt32.size) :
    (manager.insertAll records).roster.links = linksWith manager.roster.holder? records := by
  funext key
  have kept := congrArg (Option.map Profile.linked) (holder?_insertAll sound room key)
  rw [Option.map_map, Option.map_map] at kept
  exact kept

theorem links_loadSection (sound : manager.books.Sound)
    (room : manager.nextId.toNat + (manager.sectionOf manager.tenant).length < UInt32.size) :
    manager.loadSection.roster.links = linksWith manager.roster.holder? (manager.sectionOf manager.tenant) := by
  cases read : (manager.store.readTenant manager.tenant).2 with
  | error failure =>
      have none : manager.sectionOf manager.tenant = [] := by simp only [sectionOf, read]
      rw [loadSection_of_error read, none, linksWith_nil]
      rfl
  | ok tenantSection =>
      have taken : manager.sectionOf manager.tenant = tenantSection.profiles := by simp only [sectionOf, read]
      rw [taken] at room
      have loaded : manager.loadSection.roster = (manager.insertAll tenantSection.profiles).roster := by
        have persisted := congrArg Books.roster (books_loadSection read)
        rw [persist_eq] at persisted
        exact persisted.trans (congrArg Books.roster (books_opened manager tenantSection))
      rw [loaded, taken, links_insertAll sound room]

theorem linksIntact_clearTenant_iff (wellFormed : manager.roster.WellFormed) (intact : manager.roster.LinksIntact) :
    manager.clearTenant.roster.LinksIntact ↔
      ∀ profile ∈ manager.roster.all, manager.belongsToShared profile = true → ∀ key ∈ profile.linked,
        ∃ other ∈ manager.roster.all, other.key = key ∧ manager.belongsToShared other = true := by
  have stays : ∀ {profile}, profile ∈ manager.clearTenant.roster.all ↔
      profile ∈ manager.roster.all ∧ manager.belongsToShared profile = true := mem_clearTenant wellFormed
  constructor
  · intro still profile present belongs key member
    obtain ⟨other, among, _, same, _⟩ := still profile (stays.2 ⟨present, belongs⟩) key member
    obtain ⟨there, partner⟩ := stays.1 among
    exact ⟨other, there, same, partner⟩
  · intro kept profile present key member
    obtain ⟨here, belongs⟩ := stays.1 present
    obtain ⟨other, among, apart, rfl, returns⟩ := intact profile here key member
    obtain ⟨partner, there, same, remains⟩ := kept profile here belongs other.key member
    obtain rfl := wellFormed.eq_of_key there among same
    exact ⟨partner, stays.2 ⟨there, remains⟩, apart, rfl, returns⟩

theorem interlinked_switchTenant_iff (sound : manager.books.Sound) {tenant : Tenant}
    (room : manager.HasRoom (.switchTenant tenant)) (intact : Interlinked manager.roster.links) :
    Interlinked (manager.switchTenant tenant).1.roster.links ↔ manager.KeepsLinks (.switchTenant tenant) := by
  unfold KeepsLinks
  dsimp only
  obtain ⟨same, switched⟩ | ⟨_, unread, switched⟩ | ⟨different, read, unlocked, switched⟩ |
    ⟨different, read, locked, switched⟩ := manager.switchTenant_cases tenant
  · rw [switched]
    exact ⟨fun _ different => absurd same different, fun _ => intact⟩
  · rw [switched]
    exact ⟨fun _ _ read => absurd unread (ne_true_of_eq_false read), fun _ => intact⟩
  · rw [switched, if_pos unlocked, links_loadSection (sound_leave sound tenant) (room_leave room unlocked), tenant_leave,
      sectionOf_leave, holder?_leave sound tenant]
    exact ⟨fun kept _ _ => kept, fun kept => kept different read⟩
  · have links : ({ manager.leave tenant with awaitsUnlock := true } : Manager).roster.links = linksWith manager.stays? [] := by
      rw [linksWith_nil, ← holder?_leave sound tenant]
      rfl
    rw [switched, links, if_neg (ne_true_of_eq_false locked)]
    exact ⟨fun kept _ _ => kept, fun kept => kept different read⟩

theorem interlinked_unlockTenant_iff (sound : manager.books.Sound) {tenant : Tenant}
    (room : manager.HasRoom (.unlockTenant tenant)) (intact : Interlinked manager.roster.links) :
    Interlinked (manager.unlockTenant tenant).roster.links ↔ manager.KeepsLinks (.unlockTenant tenant) := by
  unfold KeepsLinks
  dsimp only
  obtain ⟨loaded, same⟩ | ⟨rfl, read, waits, loads⟩ := manager.unlockTenant_cases tenant
  · have roster : (manager.unlockTenant tenant).roster = manager.roster := congrArg Books.roster same
    rw [roster]
    exact ⟨fun _ current read waits => absurd waits (ne_true_of_eq_false (loaded current read)), fun _ => intact⟩
  · rw [loads, links_loadSection sound room]
    exact ⟨fun kept _ _ _ => kept, fun kept => kept rfl read waits⟩

theorem interlinked_load_iff (room : manager.HasRoom .load) (intact : Interlinked manager.roster.links) :
    Interlinked manager.load.1.roster.links ↔ manager.KeepsLinks .load := by
  unfold HasRoom idsFor at room
  unfold KeepsLinks
  dsimp only
  cases read : (manager.store.read manager.tenant).2 with
  | error failure =>
      rw [load_of_error read]
      exact ⟨fun _ _ => nofun, fun _ => intact⟩
  | ok data =>
      simp only [read] at room
      generalize opens : (manager.unlockDeferred || manager.platform.isUnlocked manager.tenant) = withSection
      have enough := room_loaded room withSection
      generalize starting : ({ manager with store := (manager.store.read manager.tenant).1, unlockDeferred := false } :
        Manager) = started
      have ids : started.clearMemory.nextId = manager.clearMemory.nextId := by rw [← starting]; rfl
      have links : manager.load.1.roster.links = linksWith (fun _ => none) (data.loaded withSection) := by
        obtain ⟨roster, books, outlines⟩ := books_replaceMemory started data withSection
        have replaced : (started.replaceMemory data withSection).roster = roster := congrArg Books.roster books
        rw [load_of_ok read, opens, starting, replaced, Roster.links_of_through Roster.linked_outline outlines,
          links_insertAll (sound_clearMemory started) (ids ▸ enough)]
        rfl
      rw [links]
      refine ⟨fun kept other found => ?_, fun kept => kept data rfl⟩
      obtain rfl := Except.ok.inj found
      exact kept

theorem linksIntact_of_all_eq_nil {roster : Roster} (none : roster.all = []) : roster.LinksIntact := by
  intro profile present
  rw [none] at present
  cases present

/-- Every operation meets its condition if and only if it keeps links intact. -/
theorem linksIntact_perform_iff (sound : manager.books.Sound) (placed : manager.books.Placed)
    (ordinary : manager.Ordinary operation) (intact : manager.roster.LinksIntact) :
    (manager.perform operation).1.roster.LinksIntact ↔ manager.KeepsLinks operation := by
  have wellFormed : manager.roster.WellFormed := sound.wellFormed
  have after : (manager.perform operation).1.roster.WellFormed := (sound_perform sound ordinary.room).wellFormed
  have linked := wellFormed.linksIntact_iff.1 intact
  cases operation with
  | addOrUpdate draft caller =>
      rw [after.linksIntact_iff]
      exact interlinked_addOrUpdate_iff sound placed ordinary linked
  | restart => exact ⟨fun _ => trivial, fun _ => linksIntact_of_all_eq_nil rfl⟩
  | stopTenant tenant =>
      unfold KeepsLinks
      dsimp only [perform]
      obtain ⟨locked, same⟩ | ⟨current, unlocked, stops⟩ := manager.stopTenant_cases tenant
      · rw [same]
        exact ⟨fun _ current unlocked => absurd unlocked (ne_true_of_eq_false (locked current)), fun _ => intact⟩
      · have written : (manager.persist true).roster = manager.roster := by rw [persist_eq]
        have belongs : (manager.persist true).belongsToShared = manager.belongsToShared := by rw [persist_eq]; rfl
        have still := linksIntact_clearTenant_iff (written ▸ wellFormed) (written ▸ intact)
        rw [written, belongs] at still
        rw [stops, still]
        exact ⟨fun kept _ _ => kept, fun kept => kept current unlocked⟩
  | switchTenant tenant =>
      rw [after.linksIntact_iff]
      exact interlinked_switchTenant_iff sound ordinary.room linked
  | unlockTenant tenant =>
      rw [after.linksIntact_iff]
      exact interlinked_unlockTenant_iff sound ordinary.room linked
  | load =>
      rw [after.linksIntact_iff]
      exact interlinked_load_iff ordinary.room linked
  | _ =>
      refine ⟨fun _ => trivial, fun _ => after.linksIntact_iff.2 ?_⟩
      exact interlinked_of_stays sound placed ordinary rfl (fun _ => id) linked

theorem linksIntact_start (settings : Settings) (platform : Platform) (store : Store) (listeners : List Listener)
    (digest : String → Option (List UInt8)) (random : List UInt8) :
    (start settings platform store listeners digest random).roster.LinksIntact :=
  linksIntact_of_all_eq_nil rfl

theorem linksIntact_take_iff (alone : manager.ReachableAlone) (ordinary : manager.Along Ordinary operations)
    (intact : manager.roster.LinksIntact) :
    (∀ count, (manager.run (operations.take count)).roster.LinksIntact) ↔ manager.Along KeepsLinks operations := by
  induction operations generalizing manager with
  | nil =>
      refine ⟨fun _ => trivial, fun _ count => ?_⟩
      rw [List.take_nil]
      exact intact
  | cons operation rest ih =>
      obtain ⟨now, later⟩ := ordinary
      have step := linksIntact_perform_iff alone.sound alone.placed now intact
      have onward := ih (alone.perform now) later
      constructor
      · intro throughout
        have kept : (manager.perform operation).1.roster.LinksIntact := throughout 1
        exact ⟨step.1 kept, (onward kept).1 fun count => throughout (count + 1)⟩
      · rintro ⟨keeps, along⟩ count
        cases count with
        | zero => exact intact
        | succ count => exact (onward (step.2 keeps)).2 along count

/-- Two networks behind the same gateway are added and linked. -/
def linking : List Operation :=
  let owner : Owner := ⟨Uid.system, "android"⟩
  let sighting : Sighting := ⟨"Upstairs", ⟨#v[0x00, 0x24, 0x01, 0x10, 0x20, 0x01]⟩, .psk, -50, 2412, 0, 0, false⟩
  [.load, .addOrUpdate (.psk "Upstairs" "password") owner, .addOrUpdate (.psk "Downstairs" "password") owner,
    .setGateway ⟨0⟩ "aa:bb:cc:dd:ee:ff", .setGateway ⟨1⟩ "aa:bb:cc:dd:ee:ff", .observe ⟨0⟩ sighting]

/-- The first of two linked networks gets another name. -/
def renameLinked : List Operation :=
  linking ++ [.addOrUpdate { Draft.psk "Attic" "password" with id := some ⟨0⟩ } ⟨Uid.system, "android"⟩]

theorem keepsLinks_linking : onEmptyStore.Along KeepsLinks linking := by
  refine ⟨fun data read => ?_, fun existing result found => ?_, fun existing result found => ?_, trivial, trivial, trivial, trivial⟩
  · obtain rfl := Except.ok.inj (show Except.ok StoreData.empty = Except.ok data from read)
    exact .none
  · exact absurd (Option.isSome_of_eq_some found) (by decide)
  · exact absurd (Option.isSome_of_eq_some found) (by decide)

/-- In a run from an empty store, the links are intact throughout if and only if every operation keeps them. -/
theorem linksIntact_throughout_iff {store : Store} (empty : store.IsEmpty) (settings : Settings) (platform : Platform)
    (listeners : List Listener) (digest : String → Option (List UInt8)) (random : List UInt8)
    (ordinary : (start settings platform store listeners digest random).Along Ordinary operations) :
    (∀ count, ((start settings platform store listeners digest random).run (operations.take count)).roster.LinksIntact) ↔
      (start settings platform store listeners digest random).Along KeepsLinks operations :=
  linksIntact_take_iff (.start empty settings platform listeners digest random) ordinary
    (linksIntact_start settings platform store listeners digest random)

theorem linksIntact_linking : (∀ count, (onEmptyStore.run (linking.take count)).roster.LinksIntact) ∧
    ∃ profile ∈ (onEmptyStore.run linking).roster.all, profile.linked ≠ .empty :=
  ⟨(linksIntact_throughout_iff isEmpty_immediate_empty .default (.start 0 1700000000000) [] (fun _ => none) []
    (by decide)).2 keepsLinks_linking, by decide⟩

theorem not_linksIntact_renameLinked : onEmptyStore.Along Ordinary renameLinked ∧
    ¬ (onEmptyStore.run renameLinked).roster.LinksIntact := by
  refine ⟨by decide, fun intact => ?_⟩
  have broken : ∃ profile ∈ (onEmptyStore.run renameLinked).roster.all, ∃ key ∈ profile.linked.toList,
      ∀ other ∈ (onEmptyStore.run renameLinked).roster.all, other.key ≠ key := by decide
  obtain ⟨profile, present, key, member, unheld⟩ := broken
  obtain ⟨other, among, _, held, _⟩ := intact profile present key (SortedSet.mem_toList.1 member)
  exact unheld other among held

end Manager

end SavedNetworks
