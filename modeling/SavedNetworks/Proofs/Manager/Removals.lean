import SavedNetworks.Proofs.Manager.Dismissing
import SavedNetworks.Proofs.Manager.Permission
import SavedNetworks.Proofs.Manager.Traces

/-!
Removals. Profiles are taken out one after the other, each with all that refers to it, and a later one is announced as the
earlier ones have left it. Nothing else changes (`Manager.discards_collect`), and nothing of them is left
(`Manager.Discards.leavesNoTrace`).
-/

namespace SavedNetworks

theorem filter_everything {α : Type} (found : Option α) : (found.filter fun _ => true) = found := by
  cases found <;> rfl

theorem not_contains_singleton {α : Type} [BEq α] (one other : α) : (!List.contains [one] other) = (other != one) := by
  rw [List.contains_cons, List.contains_nil, Bool.or_false, bne]

namespace Profile

variable {profile : Profile} {keys : List ProfileKey} {key : ProfileKey}

/-- A profile that has lost others: it is not linked to their keys, and none of them is preferred to it. -/
def losing (keys : List ProfileKey) (profile : Profile) : Profile :=
  { profile with
    linked := keys.foldl .erase profile.linked
    selection :=
      { profile.selection with
        connectChoice := profile.selection.connectChoice.filter fun choice => !keys.contains choice.key } }

theorem losing_nil (profile : Profile) : profile.losing [] = profile :=
  congrArg (fun connectChoice => { profile with selection := { profile.selection with connectChoice } })
    (filter_everything profile.selection.connectChoice)

theorem losing_append (profile : Profile) (first second : List ProfileKey) :
    profile.losing (first ++ second) = (profile.losing first).losing second := by
  unfold losing
  simp only [List.foldl_append, Option.filter_filter, List.contains_append, Bool.not_or]

theorem losing_singleton (profile : Profile) (key : ProfileKey) :
    profile.losing [key] = (profile.forgetChoice key).unlink key := by
  have forgets : profile.selection.forgetChoice key =
      { profile.selection with connectChoice := profile.selection.connectChoice.filter (·.key != key) } := by
    rw [← SelectionStatus.connectChoice_forgetChoice, SelectionStatus.forgetChoice]
    split <;> rfl
  rw [forgetChoice, forgets, losing]
  simp only [not_contains_singleton]
  rfl

theorem names_losing : (profile.losing keys).names key = (profile.names key && !keys.contains key) := by
  have linked : (profile.losing keys).linked.contains key = (profile.linked.contains key && !keys.contains key) := by
    have kept : key ∈ keys.foldl .erase profile.linked ↔ key ∈ profile.linked ∧ key ∉ keys := SortedSet.mem_foldl_erase
    rw [Bool.eq_iff_iff, Bool.and_eq_true, Bool.not_eq_true', ← Bool.not_eq_true, List.contains_iff_mem]
    exact kept
  have chosen : (profile.losing keys).selection.connectChoice.any (·.key == key) =
      (profile.selection.connectChoice.any (·.key == key) && !keys.contains key) := by
    change Option.any _ (profile.selection.connectChoice.filter _) = _
    cases profile.selection.connectChoice with
    | none => rfl
    | some choice =>
        by_cases same : choice.key = key
        · by_cases lost : key ∈ keys <;> simp [Option.filter, same, lost]
        · by_cases lost : choice.key ∈ keys <;> simp [Option.filter, same, lost]
  rw [names, names, linked, chosen, Bool.and_or_distrib_right]

end Profile

namespace Roster

theorem released_eq_losing {roster : Roster} {profile : Profile} (visible : roster.isVisible profile = true) (key : ProfileKey) :
    roster.released key profile = profile.losing [key] := by
  rw [released_of_isVisible visible, Profile.losing_singleton]

end Roster

namespace Manager

variable {manager before middle after : Manager} {record first : Profile} {records rest : List Profile} {id : ProfileId}

/-- The current tenant sees all that is in memory. -/
def SeesAll (manager : Manager) : Prop := ∀ profile ∈ manager.roster.all, manager.roster.isVisible profile = true

/-- Profiles are taken out one after the other, each with all that refers to it, and each is announced as the earlier ones
have left it. -/
structure Discards (before after : Manager) (records : List Profile) : Prop where
  distinct : (records.map Profile.id).Nodup
  recorded : ∀ earlier record later, records = earlier ++ record :: later →
    ∃ old, before.roster.profiles.get? record.id = some old ∧ old.losing (earlier.map Profile.key) = record
  profiles : ∀ id, after.roster.profiles.get? id = if id ∈ records.map Profile.id then none
    else (before.roster.profiles.get? id).map (Profile.losing (records.map Profile.key))
  caches : ∀ id, after.caches.get? id = if id ∈ records.map Profile.id then none else before.caches.get? id
  lastSelected : after.lastSelected = before.lastSelected.filter fun selected => !(records.map Profile.id).contains selected.1
  events : after.events = before.events ++ records.map .removed
  tenant : after.tenant = before.tenant
  elsewhere : ∃ roster caches lastSelected store journal,
    after = { before with
      roster, caches, lastSelected, store, journal
      platform := { before.platform with blocked := (records.map Profile.ssid).foldl .erase before.platform.blocked } }

/-- Nothing of a profile is found under its id, or under its key but for a successor, and nothing refers to it. -/
structure LeavesNoTrace (after : Manager) (record : Profile) (successor : Option Profile) : Prop where
  byId : after.roster.get? record.id = none
  byKey : after.roster.getByKey? record.key = successor
  unobserved : after.caches.get? record.id = none
  unnamed : ∀ profile ∈ after.roster.all, profile.names record.key = false
  unselected : ∀ selected, after.lastSelected = some selected → selected.1 ≠ record.id

namespace Discards

theorem refl (manager : Manager) : manager.Discards manager [] where
  distinct := .nil
  recorded earlier record later same := absurd same (by simp)
  profiles _ := ((Option.map_congr fun profile _ => profile.losing_nil).trans Option.map_id').symm
  caches id := by simp
  lastSelected := (filter_everything manager.lastSelected).symm
  events := (List.append_nil manager.events).symm
  tenant := rfl
  elsewhere := ⟨_, _, _, _, _, rfl⟩

/-- One more is taken out first. -/
theorem cons (one : before.Discards middle [first]) (others : middle.Discards after rest)
    (apart : first.id ∉ rest.map Profile.id) : before.Discards after (first :: rest) where
  distinct := List.nodup_cons.2 ⟨apart, others.distinct⟩
  -- A profile is recorded as it was when its turn came, so each key that went before is already lost to it.
  recorded earlier record later same := by
    cases earlier with
    | nil =>
        obtain ⟨rfl, _⟩ := List.cons.inj same
        exact one.recorded [] first [] rfl
    | cons head middles =>
        obtain ⟨rfl, behind⟩ := List.cons.inj same
        obtain ⟨left, found, becomes⟩ := others.recorded middles record later behind
        rw [one.profiles] at found
        split at found
        · cases found
        · obtain ⟨old, earlier, rfl⟩ := Option.map_eq_some_iff.1 found
          refine ⟨old, earlier, ?_⟩
          rw [← becomes, ← Profile.losing_append]
          rfl
  profiles id := by
    rw [others.profiles, one.profiles]
    simp only [List.map_cons, List.map_nil, List.mem_cons, List.not_mem_nil, or_false]
    by_cases own : id = first.id
    · simp [own]
    · by_cases among : id ∈ rest.map Profile.id
      · simp only [own, among, or_true, if_true]
      · simp only [own, among, or_self, if_false, Option.map_map]
        congr 1
        funext profile
        exact (profile.losing_append [first.key] (rest.map Profile.key)).symm
  caches id := by
    rw [others.caches, one.caches]
    by_cases own : id = first.id <;> by_cases among : id ∈ rest.map Profile.id <;> simp [own, among]
  lastSelected := by
    rw [others.lastSelected, one.lastSelected, Option.filter_filter]
    simp
  events := by
    rw [others.events, one.events, List.append_assoc]
    rfl
  tenant := others.tenant.trans one.tenant
  elsewhere := by
    obtain ⟨_, _, _, _, _, rfl⟩ := one.elsewhere
    obtain ⟨_, _, _, _, _, frame⟩ := others.elsewhere
    exact ⟨_, _, _, _, _, frame⟩

/-- What stands under an id afterwards stood there before. -/
theorem of_present (discards : before.Discards after records) {profile : Profile} (wellFormed : after.roster.WellFormed)
    (present : profile ∈ after.roster.all) : profile.id ∉ records.map Profile.id ∧
      ∃ old, before.roster.profiles.get? profile.id = some old ∧ old.losing (records.map Profile.key) = profile := by
  have found := wellFormed.mem_all_iff.1 present
  rw [discards.profiles] at found
  split at found
  · cases found
  · next apart => exact ⟨apart, Option.map_eq_some_iff.1 found⟩

theorem leavesNoTrace (discards : before.Discards after records) (wellFormed : before.roster.WellFormed)
    (still : after.roster.WellFormed) (among : record ∈ records) : after.LeavesNoTrace record none := by
  have id : record.id ∈ records.map Profile.id := List.mem_map_of_mem among
  have key : record.key ∈ records.map Profile.key := List.mem_map_of_mem among
  have absent : after.roster.profiles.get? record.id = none := by rw [discards.profiles, if_pos id]
  refine ⟨?_, Option.eq_none_iff_forall_ne_some.2 fun holder held => ?_, ?_, fun profile present => ?_, fun selected last => ?_⟩
  · rw [Roster.get?, absent, Option.filter_none]
  · obtain ⟨seen, named⟩ := still.getByKey?_eq_some.1 held
    obtain ⟨apart, old, earlier, rfl⟩ := discards.of_present still (Roster.mem_of_get? seen)
    obtain ⟨first, second, split⟩ := List.append_of_mem among
    obtain ⟨original, stood, rfl⟩ := discards.recorded first record second split
    have same := wellFormed.eq_of_key (wellFormed.get?_eq_some_iff.1 earlier).1 (wellFormed.get?_eq_some_iff.1 stood).1 named
    exact apart (same ▸ id)
  · rw [discards.caches, if_pos id]
  · obtain ⟨_, old, _, rfl⟩ := discards.of_present still present
    rw [Profile.names_losing, List.contains_iff_mem.2 key, Bool.not_true, Bool.and_false]
  · rw [discards.lastSelected] at last
    have kept := (Option.filter_eq_some_iff.1 last).2
    intro same
    rw [same, List.contains_iff_mem.2 id] at kept
    cases kept

end Discards

theorem seesAll_removeAnyway (wellFormed : manager.roster.WellFormed) (sees : manager.SeesAll) (id : ProfileId) :
    (manager.removeAnyway id).1.SeesAll := by
  cases found : manager.roster.get? id with
  | none =>
      rw [removeAnyway_of_not_found found]
      exact sees
  | some gone =>
      intro profile present
      rw [roster_removeAnyway found] at present ⊢
      obtain ⟨old, earlier, _, rfl⟩ := wellFormed.mem_drop.1 present
      rw [Roster.isVisible, Roster.tenant_drop, Roster.released_eq_losing (sees old earlier)]
      exact sees old earlier

theorem events_persist (manager : Manager) (force : Bool) : (manager.persist force).events = manager.events := by
  rw [persist_eq]
  rfl

theorem events_removeAnyway (found : manager.roster.get? id = some record) :
    (manager.removeAnyway id).1.events = manager.events ++ [.removed record] := by
  have told := (untouched_forgetKeys manager record).events
  rw [removeAnyway_of_found found, announce, events_notice]
  split
  · rw [events_persist]
    exact congrArg (· ++ _) told
  · exact congrArg (· ++ _) told

theorem removeAnyway_eq (found : manager.roster.get? id = some record) :
    ∃ store journal, manager.removeAnyway id = ({ manager.without id record with store, journal }, true) := by
  obtain ⟨journal, told⟩ := manager.exists_forgetKeys record
  rw [removeAnyway_of_found found, told]
  split
  · rw [persist_eq]
    exact ⟨_, _, rfl⟩
  · exact ⟨_, _, rfl⟩

/-- One profile is taken out. -/
theorem discards_removeAnyway (sees : manager.SeesAll) (found : manager.roster.get? record.id = some record) :
    manager.Discards (manager.removeAnyway record.id).1 [record] := by
  have told := events_removeAnyway found
  have stored : manager.roster.profiles.get? record.id = some record := (Roster.get?_eq_some.1 found).1
  obtain ⟨store, journal, after⟩ := removeAnyway_eq found
  rw [after] at told ⊢
  refine ⟨List.nodup_singleton _, fun earlier other later same => ?_, fun id => ?_, fun id => ?_, ?_, told,
    Roster.tenant_drop .., ⟨_, _, _, _, _, rfl⟩⟩
  · obtain ⟨rfl, rfl, rfl⟩ : earlier = [] ∧ record = other ∧ later = [] := by
      cases earlier with
      | nil => simpa [eq_comm] using same
      | cons => simp at same
    exact ⟨record, stored, record.losing_nil⟩
  · have loses : ∀ profile, manager.roster.profiles.get? id = some profile →
        manager.roster.released record.key profile = profile.losing [record.key] := fun profile there =>
      Roster.released_eq_losing (sees profile (SortedMap.mem_values_iff.2 ⟨id, there⟩)) record.key
    simp only [without, Roster.get?_drop, Option.map_congr loses, List.map_cons, List.map_nil, List.mem_singleton]
  · simp only [without, SortedMap.get?_erase, List.map_cons, List.map_nil, List.mem_singleton]
  · simp only [without, List.map_cons, List.map_nil, not_contains_singleton]

/-- So are several of them, whose ids are known beforehand. -/
theorem discards_collect {ids : List ProfileId} (wellFormed : manager.roster.WellFormed) (sees : manager.SeesAll)
    (distinct : ids.Nodup) (present : ∀ id ∈ ids, (manager.roster.get? id).isSome = true) :
    (collect removeAnyway manager ids).2 = ids ∧
      ∃ records, records.map Profile.id = ids ∧ manager.Discards (collect removeAnyway manager ids).1 records := by
  induction ids generalizing manager with
  | nil => exact ⟨rfl, [], rfl, .refl manager⟩
  | cons id rest ih =>
      obtain ⟨apart, others⟩ := List.nodup_cons.1 distinct
      obtain ⟨first, found⟩ := Option.isSome_iff_exists.1 (present id (List.mem_cons_self ..))
      obtain rfl := wellFormed.id_of_get? found
      have one := discards_removeAnyway sees found
      have still : (manager.removeAnyway first.id).1.roster.WellFormed := by
        rw [roster_removeAnyway found]
        exact wellFormed.drop first.id first.key
      have kept : ∀ id ∈ rest, ((manager.removeAnyway first.id).1.roster.get? id).isSome = true := by
        intro id among
        obtain ⟨profile, there⟩ := Option.isSome_iff_exists.1 (present id (List.mem_cons_of_mem _ among))
        rw [roster_removeAnyway found, Roster.get?_drop_of_ne there fun same : id = first.id => apart (same ▸ among)]
        rfl
      obtain ⟨returned, records, rfl, discards⟩ := ih still (seesAll_removeAnyway wellFormed sees first.id) others kept
      have done : (manager.removeAnyway first.id).2 = true := by rw [removeAnyway_of_found found]
      refine ⟨?_, first :: records, rfl, one.cons discards apart⟩
      simp only [collect, returned, done, if_true]

end Manager

end SavedNetworks
