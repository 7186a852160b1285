import SavedNetworks.Proofs.Manager.Moves

/-!
Records that are read into memory. Each one costs an id; a record whose key is taken is left out, so that
the first one with a key, among the profiles in memory and then the records, is the one that is kept.
-/

namespace SavedNetworks

namespace Roster

/-- The roster with one more profile, unless its key is taken. -/
def takeIn (roster : Roster) (profile : Profile) : Roster :=
  match roster.put profile with
  | .ok after => after
  | .error _ => roster

end Roster

/-- The profiles in memory are well formed, and were given ids before the next one. -/
structure Books.Sound (books : Books) : Prop where
  wellFormed : books.roster.WellFormed
  numbered : ∀ profile ∈ books.roster.all, profile.id.value < books.nextId

/-- Nobody has the next id. -/
theorem Books.Sound.ne_of_fresh {books : Books} {profile other : Profile} (sound : books.Sound)
    (fresh : profile.id = ⟨books.nextId⟩) (present : other ∈ books.roster.all) : other.id ≠ profile.id := by
  intro same
  have below := sound.numbered other present
  rw [same, fresh] at below
  exact absurd below (UInt32.lt_irrefl _)

namespace Roster

variable {roster : Roster} {profile other : Profile} {key : ProfileKey} {nextId : UInt32}

theorem WellFormed.takeIn (wellFormed : roster.WellFormed) (profile : Profile) : (roster.takeIn profile).WellFormed := by
  unfold Roster.takeIn
  split
  · next stored => exact wellFormed.put stored
  · exact wellFormed

theorem tenant_takeIn (roster : Roster) (profile : Profile) : (roster.takeIn profile).tenant = roster.tenant := by
  unfold takeIn
  split
  · next stored => exact tenant_put stored
  · rfl

theorem WellFormed.of_mem_takeIn (wellFormed : roster.WellFormed) (present : other ∈ (roster.takeIn profile).all) :
    other ∈ roster.all ∨ other = profile := by
  unfold Roster.takeIn at present
  split at present
  · next stored => exact ((wellFormed.mem_put stored).1 present).symm.imp And.left id
  · exact .inl present

/-- A profile with a new id is taken in if and only if its key is free. -/
theorem WellFormed.mem_takeIn (wellFormed : roster.WellFormed) (fresh : ∀ other ∈ roster.all, other.id ≠ profile.id) :
    other ∈ (roster.takeIn profile).all ↔
      other ∈ roster.all ∨ roster.holder? profile.key = none ∧ other = profile := by
  rw [wellFormed.holder?_eq_none_iff]
  cases stored : roster.put profile with
  | ok after =>
      have free := wellFormed.put_ok_iff.1 ⟨after, stored⟩
      have unused : ∀ one ∈ roster.all, one.key ≠ profile.key := fun one present same =>
        fresh one present (free one present same)
      simp only [Roster.takeIn, stored, wellFormed.mem_put stored]
      constructor
      · rintro (rfl | ⟨present, _⟩)
        · exact .inr ⟨unused, rfl⟩
        · exact .inl present
      · rintro (present | ⟨_, rfl⟩)
        · exact .inr ⟨present, fresh other present⟩
        · exact .inl rfl
  | error conflict =>
      have taken : ¬ ∀ one ∈ roster.all, one.key ≠ profile.key := by
        intro unused
        obtain ⟨after, succeeds⟩ := wellFormed.put_ok_iff.2 fun one present same => absurd same (unused one present)
        rw [stored] at succeeds
        cases succeeds
      simp only [Roster.takeIn, stored]
      exact ⟨.inl, fun found => found.resolve_right fun added => taken added.1⟩

theorem WellFormed.holder?_takeIn (wellFormed : roster.WellFormed) (fresh : ∀ other ∈ roster.all, other.id ≠ profile.id)
    (key : ProfileKey) :
    (roster.takeIn profile).holder? key =
      (roster.holder? key).or (if profile.key = key then some profile else none) := by
  ext held
  rw [(wellFormed.takeIn profile).holder?_eq_some_iff, wellFormed.mem_takeIn fresh]
  cases earlier : roster.holder? key with
  | some holder =>
      obtain ⟨present, named⟩ := wellFormed.holder?_eq_some_iff.1 earlier
      simp only [Option.some_or, Option.some.injEq]
      constructor
      · rintro ⟨among | ⟨free, rfl⟩, same⟩
        · exact wellFormed.eq_of_key present among (named.trans same.symm)
        · rw [same, earlier] at free
          cases free
      · rintro rfl
        exact ⟨.inl present, named⟩
  | none =>
      have unused := wellFormed.holder?_eq_none_iff.1 earlier
      simp only [Option.none_or, Option.ite_none_right_eq_some, Option.some.injEq]
      constructor
      · rintro ⟨among | ⟨_, rfl⟩, same⟩
        · exact absurd same (unused held among)
        · exact ⟨same, rfl⟩
      · rintro ⟨same, rfl⟩
        exact ⟨.inr ⟨same ▸ earlier, rfl⟩, same⟩

end Roster

namespace Manager

variable {manager : Manager} {profiles : List Profile}

theorem books_insertLoaded (manager : Manager) (profile : Profile) :
    (manager.insertLoaded profile).books =
      { manager.books with
        roster := manager.roster.takeIn (profile.withId ⟨manager.nextId⟩)
        nextId := manager.nextId + 1 } := by
  have stored : (manager.insertLoaded profile) =
      match manager.roster.put (profile.withId ⟨manager.nextId⟩) with
      | .ok roster => { manager with roster, nextId := manager.nextId + 1 }
      | .error _ => { manager with nextId := manager.nextId + 1 } := rfl
  rw [stored]
  unfold Roster.takeIn
  split <;> rfl

theorem toNat_succ_of_room {next : UInt32} (room : next.toNat + 1 < UInt32.size) :
    (next + 1).toNat = next.toNat + 1 := by
  rw [UInt32.toNat_add]
  exact Nat.mod_eq_of_lt room

theorem lt_succ_of_room {next : UInt32} (room : next.toNat + 1 < UInt32.size) : next < next + 1 := by
  rw [UInt32.lt_iff_toNat_lt, toNat_succ_of_room room]
  exact Nat.lt_succ_self _

theorem fresh_of_sound (sound : manager.books.Sound) (profile : Profile) :
    ∀ other ∈ manager.roster.all, other.id ≠ (profile.withId ⟨manager.nextId⟩).id :=
  fun _ present => sound.ne_of_fresh rfl present

theorem sound_insertLoaded (sound : manager.books.Sound) (room : manager.nextId.toNat + 1 < UInt32.size)
    (profile : Profile) : (manager.insertLoaded profile).books.Sound := by
  rw [books_insertLoaded]
  refine ⟨sound.wellFormed.takeIn _, fun other among => ?_⟩
  have next : manager.nextId < manager.nextId + 1 := lt_succ_of_room room
  rcases (sound.wellFormed.mem_takeIn (fresh_of_sound sound profile)).1 among with present | ⟨_, rfl⟩
  · exact UInt32.lt_trans (sound.numbered other present) next
  · exact next

theorem holder?_insertLoaded (sound : manager.books.Sound) (profile : Profile) (key : ProfileKey) :
    ((manager.insertLoaded profile).roster.holder? key).map Profile.unnumbered =
      ((manager.roster.holder? key).or (if profile.key = key then some profile else none)).map Profile.unnumbered := by
  have roster : (manager.insertLoaded profile).roster = manager.roster.takeIn (profile.withId ⟨manager.nextId⟩) :=
    congrArg Books.roster (books_insertLoaded manager profile)
  have wellFormed : manager.roster.WellFormed := sound.wellFormed
  rw [roster, wellFormed.holder?_takeIn (fresh_of_sound sound profile), Option.map_or, Option.map_or]
  congr 1
  have same : (profile.withId ⟨manager.nextId⟩).key = profile.key := rfl
  rw [same]
  split <;> rfl

theorem nextId_insertLoaded (manager : Manager) (profile : Profile) :
    (manager.insertLoaded profile).nextId = manager.nextId + 1 :=
  congrArg Books.nextId (books_insertLoaded manager profile)

/-- The ids last for `count` more records. -/
theorem room_insertLoaded {count : Nat} (room : manager.nextId.toNat + (count + 1) < UInt32.size) (profile : Profile) :
    (manager.insertLoaded profile).nextId.toNat + count < UInt32.size := by
  rw [nextId_insertLoaded, toNat_succ_of_room (by omega)]
  omega

theorem sound_insertAll (sound : manager.books.Sound) (room : manager.nextId.toNat + profiles.length < UInt32.size) :
    (manager.insertAll profiles).books.Sound := by
  unfold insertAll
  induction profiles generalizing manager with
  | nil => exact sound
  | cons profile rest ih =>
      rw [List.length_cons] at room
      exact ih (sound_insertLoaded sound (by omega) profile) (room_insertLoaded room profile)

theorem toNat_nextId_insertAll (room : manager.nextId.toNat + profiles.length < UInt32.size) :
    (manager.insertAll profiles).nextId.toNat = manager.nextId.toNat + profiles.length := by
  unfold insertAll
  induction profiles generalizing manager with
  | nil => rfl
  | cons profile rest ih =>
      rw [List.length_cons] at room ⊢
      have later := ih (room_insertLoaded room profile)
      rw [nextId_insertLoaded, toNat_succ_of_room (by omega)] at later
      rw [List.foldl_cons, later]
      omega

/-- The first one with a key is kept. -/
theorem holder?_insertAll (sound : manager.books.Sound) (room : manager.nextId.toNat + profiles.length < UInt32.size)
    (key : ProfileKey) :
    ((manager.insertAll profiles).roster.holder? key).map Profile.unnumbered =
      ((manager.roster.holder? key).or (profiles.find? (·.key = key))).map Profile.unnumbered := by
  unfold insertAll
  induction profiles generalizing manager with
  | nil => simp
  | cons profile rest ih =>
      rw [List.length_cons] at room
      have later := ih (sound_insertLoaded sound (by omega) profile) (room_insertLoaded room profile)
      rw [List.foldl_cons, later, Option.map_or, holder?_insertLoaded sound, ← Option.map_or, Option.or_assoc]
      congr 2
      rw [List.find?_cons]
      by_cases same : profile.key = key <;> simp [same]

theorem mem_insertLoaded (sound : manager.books.Sound) (loaded : Profile) {profile : Profile} :
    profile ∈ (manager.insertLoaded loaded).roster.all ↔
      profile ∈ manager.roster.all ∨
        manager.roster.holder? loaded.key = none ∧ profile = loaded.withId ⟨manager.nextId⟩ := by
  have roster : (manager.insertLoaded loaded).roster = manager.roster.takeIn (loaded.withId ⟨manager.nextId⟩) :=
    congrArg Books.roster (books_insertLoaded manager loaded)
  have wellFormed : manager.roster.WellFormed := sound.wellFormed
  rw [roster]
  exact wellFormed.mem_takeIn (fresh_of_sound sound loaded)

theorem wellFormed_insertLoaded (wellFormed : manager.roster.WellFormed) (profile : Profile) :
    (manager.insertLoaded profile).roster.WellFormed := by
  have roster : (manager.insertLoaded profile).roster = manager.roster.takeIn (profile.withId ⟨manager.nextId⟩) :=
    congrArg Books.roster (books_insertLoaded manager profile)
  rw [roster]
  exact wellFormed.takeIn _

theorem wellFormed_insertAll (wellFormed : manager.roster.WellFormed) (profiles : List Profile) :
    (manager.insertAll profiles).roster.WellFormed := by
  unfold insertAll
  induction profiles generalizing manager with
  | nil => exact wellFormed
  | cons first rest ih => exact ih (wellFormed_insertLoaded wellFormed first)

/-- A profile in memory was there before, or is one of the records under a new id. -/
theorem mem_insertAll (wellFormed : manager.roster.WellFormed) {profile : Profile}
    (present : profile ∈ (manager.insertAll profiles).roster.all) :
    profile ∈ manager.roster.all ∨ ∃ loaded ∈ profiles, profile.unnumbered = loaded.unnumbered := by
  unfold insertAll at present
  induction profiles generalizing manager with
  | nil => exact .inl present
  | cons first rest ih =>
      rcases ih (wellFormed_insertLoaded wellFormed first) present with among | ⟨loaded, later, same⟩
      · have roster : (manager.insertLoaded first).roster = manager.roster.takeIn (first.withId ⟨manager.nextId⟩) :=
          congrArg Books.roster (books_insertLoaded manager first)
        rw [roster] at among
        rcases wellFormed.of_mem_takeIn among with earlier | rfl
        · exact .inl earlier
        · exact .inr ⟨first, List.mem_cons_self .., rfl⟩
      · exact .inr ⟨loaded, List.mem_cons_of_mem _ later, same⟩

theorem mem_insertAll_of_mem (sound : manager.books.Sound)
    (room : manager.nextId.toNat + profiles.length < UInt32.size) {profile : Profile}
    (present : profile ∈ manager.roster.all) : profile ∈ (manager.insertAll profiles).roster.all := by
  unfold insertAll
  induction profiles generalizing manager with
  | nil => exact present
  | cons first rest ih =>
      rw [List.length_cons] at room
      exact ih (sound_insertLoaded sound (by omega) first) (room_insertLoaded room first)
        ((mem_insertLoaded sound first).2 (.inl present))

theorem find?_key {profiles : List Profile} {loaded : Profile} (distinct : (profiles.map Profile.key).Nodup)
    (among : loaded ∈ profiles) : profiles.find? (·.key = loaded.key) = some loaded := by
  induction profiles with
  | nil => cases among
  | cons first rest ih =>
      rw [List.map_cons, List.nodup_cons] at distinct
      rcases List.mem_cons.1 among with rfl | later
      · simp
      · have other : first.key ≠ loaded.key := fun same => distinct.1 (same ▸ List.mem_map_of_mem later)
        rw [List.find?_cons_of_neg (by simpa using other), ih distinct.2 later]

/-- A record whose key is free is taken in. -/
theorem exists_insertAll (sound : manager.books.Sound) (room : manager.nextId.toNat + profiles.length < UInt32.size)
    (distinct : (profiles.map Profile.key).Nodup) {loaded : Profile} (among : loaded ∈ profiles)
    (free : manager.roster.holder? loaded.key = none) :
    ∃ new ∈ (manager.insertAll profiles).roster.all, new = loaded.withId new.id := by
  have held := holder?_insertAll sound room loaded.key
  rw [free, Option.none_or, find?_key distinct among, Option.map_some, Option.map_eq_some_iff] at held
  obtain ⟨new, holds, same⟩ := held
  exact ⟨new, ((sound_insertAll sound room).wellFormed.holder?_eq_some_iff.1 holds).1, Profile.eq_withId_of_unnumbered same⟩

theorem insertAll_eq (manager : Manager) (profiles : List Profile) :
    manager.insertAll profiles =
      { manager with
        roster := (manager.insertAll profiles).roster
        nextId := (manager.insertAll profiles).nextId } := by
  unfold insertAll
  induction profiles generalizing manager with
  | nil => rfl
  | cons first rest ih =>
      have one : manager.insertLoaded first =
          { manager with
            roster := (manager.insertLoaded first).roster
            nextId := (manager.insertLoaded first).nextId } := by
        unfold insertLoaded allocateId
        simp only
        split <;> rfl
      rw [List.foldl_cons, ih]
      generalize List.foldl insertLoaded (manager.insertLoaded first) rest = last
      rw [one]

theorem tenant_insertAll (manager : Manager) (profiles : List Profile) :
    (manager.insertAll profiles).roster.tenant = manager.roster.tenant := by
  unfold insertAll
  induction profiles generalizing manager with
  | nil => rfl
  | cons first rest ih =>
      have roster := congrArg Books.roster (books_insertLoaded manager first)
      rw [List.foldl_cons, ih]
      exact (congrArg Roster.tenant roster).trans (Roster.tenant_takeIn _ _)

end Manager

end SavedNetworks
