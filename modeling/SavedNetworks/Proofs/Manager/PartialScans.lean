import SavedNetworks.Proofs.Manager.Observations
import SavedNetworks.Proofs.Sighting.Channels

/-!
The channels of a partial scan: the home channel, those of the profile's fresh sightings, those of the profiles that it is
linked with, each once, as far as the limit goes (`Manager.partialScan_reached`).
-/

namespace SavedNetworks

theorem Settings.positive_of_valid (settings : Settings) (valid : settings.invalid? = none) :
    0 < settings.partialScanMaxChannels := by
  unfold invalid? at valid
  grind

namespace Manager

open SightingCache (freshChannels)

variable {manager : Manager} {id : ProfileId} {profile : Profile} {maxAge : Millis} {limit : Nat} {home : UInt32}
  {channels : List UInt32}

/-- The home channel, unless it is not known. -/
def homeChannels (home : UInt32) : List UInt32 := if home = 0 then [] else [home]

/-- The channels of the fresh sightings of a profile, newest first. -/
def channelsOf (manager : Manager) (maxAge : Millis) (id : ProfileId) : List UInt32 :=
  (manager.caches.get? id).elim [] fun cache => freshChannels manager.platform.wall maxAge cache.byRecency

/-- The profiles that one is linked with and that are seen, in the order of their keys. -/
def linkedProfiles (manager : Manager) (profile : Profile) : List Profile :=
  profile.linked.toList.filterMap manager.roster.getByKey?

/-- The channels worth a partial scan, the best first, with repeats. -/
def scanHints (manager : Manager) (profile : Profile) (maxAge : Millis) (home : UInt32) : List UInt32 :=
  homeChannels home ++ manager.channelsOf maxAge profile.id ++
    (manager.linkedProfiles profile).flatMap fun other => manager.channelsOf maxAge other.id

/-- A fresh sighting of a profile was made on a channel. -/
def SeenOn (manager : Manager) (maxAge : Millis) (other : Profile) (channel : UInt32) : Prop :=
  ∃ cache, manager.caches.get? other.id = some cache ∧ ∃ sighting ∈ cache.sightings.values,
    SightingCache.isFresh manager.platform.wall maxAge sighting = true ∧ sighting.frequency = channel

/-- A list of channels for a partial scan that is complete, ordered and capped. -/
structure PartialScan (manager : Manager) (profile : Profile) (maxAge : Millis) (home : UInt32) (channels : List UInt32) :
    Prop where
  distinct : channels.Nodup
  capped : channels.length ≤ manager.settings.partialScanMaxChannels
  homeFirst : home ≠ 0 → channels.head? = some home
  ordered : channels = (manager.scanHints profile maxAge home).eraseDups.take manager.settings.partialScanMaxChannels
  /-- Newest first, and at one time by address. -/
  recent : ∀ other cache, manager.caches.get? other = some cache →
    cache.byRecency.Perm cache.sightings.values ∧ cache.byRecency.Pairwise Sighting.MoreRecent
  linkedInOrder : profile.linked.toList.Pairwise fun left right => compare left right = .lt
  /-- A list that is not full leaves no fresh sighting out, whether of the profile or of one that it is linked with. -/
  complete : channels.length < manager.settings.partialScanMaxChannels →
    ∀ other ∈ manager.roster.all, other = profile ∨ other.key ∈ profile.linked →
      ∀ channel, manager.SeenOn maxAge other channel → channel ∈ channels

theorem mem_channelsOf {other : Profile} {channel : UInt32} :
    channel ∈ manager.channelsOf maxAge other.id ↔ manager.SeenOn maxAge other channel := by
  unfold channelsOf SeenOn
  cases manager.caches.get? other.id with
  | none => simp
  | some cache => simp [SightingCache.mem_freshChannels, cache.byRecency_perm.mem_iff]

/-- Where there is room, the caches of the linked profiles add what is fresh, as far as the limit goes. -/
theorem gatherLinked_eq_take (distinct : channels.Nodup) (room : channels.length < limit) (keys : List ProfileKey) :
    manager.gatherLinked maxAge limit keys channels =
      (channels ++ (keys.filterMap manager.roster.getByKey?).flatMap fun other =>
        manager.channelsOf maxAge other.id).eraseDups.take limit := by
  induction keys generalizing channels with
  | nil =>
      rw [gatherLinked, List.filterMap_nil, List.flatMap_nil, List.append_nil, eraseDups_of_nodup distinct,
        List.take_of_length_le (Nat.le_of_lt room)]
  | cons key rest ih =>
      cases held : manager.roster.getByKey? key with
      | none => simp only [gatherLinked, held, Option.bind_none, List.filterMap_cons, ih distinct room]
      | some linked =>
          cases found : manager.caches.get? linked.id with
          | none =>
              simp only [gatherLinked, held, found, Option.bind_some, List.filterMap_cons, List.flatMap_cons, channelsOf,
                Option.elim_none, List.nil_append, ih distinct room]
          | some cache =>
              obtain ⟨all, gathered⟩ : ∃ all, all = (channels ++ freshChannels manager.platform.wall maxAge cache.byRecency).eraseDups :=
                ⟨_, rfl⟩
              have extended := SightingCache.extendChannels_eq distinct room gathered
              simp only [gatherLinked, held, found, Option.bind_some, List.filterMap_cons, List.flatMap_cons, extended]
              have more : (channels ++ (manager.channelsOf maxAge linked.id ++
                  (rest.filterMap manager.roster.getByKey?).flatMap fun other => manager.channelsOf maxAge other.id)).eraseDups =
                  (all ++ (rest.filterMap manager.roster.getByKey?).flatMap fun other =>
                    manager.channelsOf maxAge other.id).eraseDups := by
                rw [gathered, eraseDups_eraseDups_append, List.append_assoc, channelsOf, found, Option.elim_some]
              have distinct : all.Nodup := gathered ▸ nodup_eraseDups _
              rw [more]
              by_cases full : all.length < limit
              · rw [if_pos (by simpa using full), List.take_of_length_le (Nat.le_of_lt full)]
                exact ih distinct full
              · rw [if_neg (by simpa using full), List.eraseDups_append, eraseDups_of_nodup distinct,
                  List.take_append_of_le_length (Nat.le_of_not_lt full)]

theorem nodup_homeChannels (home : UInt32) : (homeChannels home).Nodup := by
  unfold homeChannels
  split <;> simp

theorem length_homeChannels_le (home : UInt32) : (homeChannels home).length ≤ 1 := by
  unfold homeChannels
  split <;> simp

/-- The own cache, and then those of the linked profiles. -/
theorem gathered_eq_take (distinct : channels.Nodup) (room : channels.length < limit) (keys : List ProfileKey) :
    (match manager.gatherOwn (manager.caches.get? id) maxAge limit channels with
      | (own, false) => some own
      | (own, true) => some ((manager.gatherLinked maxAge limit keys own).take limit)) =
      some ((channels ++ manager.channelsOf maxAge id ++ (keys.filterMap manager.roster.getByKey?).flatMap fun other =>
        manager.channelsOf maxAge other.id).eraseDups.take limit) := by
  cases found : manager.caches.get? id with
  | none =>
      have own : manager.channelsOf maxAge id = [] := by rw [channelsOf, found, Option.elim_none]
      simp only [gatherOwn, gatherLinked_eq_take distinct room, List.take_take, Nat.min_self, own, List.append_nil]
  | some cache =>
      have own : manager.channelsOf maxAge id = freshChannels manager.platform.wall maxAge cache.byRecency := by
        rw [channelsOf, found, Option.elim_some]
      obtain ⟨all, gathered⟩ : ∃ all, all = (channels ++ manager.channelsOf maxAge id).eraseDups := ⟨_, rfl⟩
      have once : all.Nodup := gathered ▸ nodup_eraseDups _
      rw [← eraseDups_eraseDups_append, ← gathered]
      rw [own] at gathered
      simp only [gatherOwn, SightingCache.extendChannels_eq distinct room gathered]
      by_cases more : all.length < limit
      · simp only [more, decide_true, List.take_of_length_le (Nat.le_of_lt more), gatherLinked_eq_take once more, List.take_take,
          Nat.min_self]
      · simp only [more, decide_false, List.eraseDups_append, eraseDups_of_nodup once,
          List.take_append_of_le_length (Nat.le_of_not_lt more)]

theorem partialScanChannels?_eq (keyed : profile.id = id) (found : manager.roster.get? id = some profile)
    (positive : 0 < manager.settings.partialScanMaxChannels) (maxAge : Millis) (home : UInt32) :
    manager.partialScanChannels? id maxAge home =
      if (manager.caches.get? id).isNone && profile.linked.isEmpty then none
      else some ((manager.scanHints profile maxAge home).eraseDups.take manager.settings.partialScanMaxChannels) := by
  have distinct := nodup_homeChannels home
  have short := length_homeChannels_le home
  unfold partialScanChannels? scanHints linkedProfiles
  rw [keyed]
  simp only [found]
  split
  · rfl
  · rw [show (if home = 0 then [] else [home]) = homeChannels home from rfl]
    split
    · next full =>
        have one : (homeChannels home).length = manager.settings.partialScanMaxChannels := by omega
        rw [List.append_assoc, List.eraseDups_append, eraseDups_of_nodup distinct,
          List.take_append_of_le_length (Nat.le_of_eq one.symm), List.take_of_length_le (Nat.le_of_eq one)]
    · next space =>
        have room : (homeChannels home).length < manager.settings.partialScanMaxChannels := by
          by_cases empty : homeChannels home = []
          · rw [empty]
            exact positive
          · exact Nat.lt_of_not_le fun full => space ⟨empty, full⟩
        exact gathered_eq_take distinct room profile.linked.toList

theorem isEmpty_linked_iff (profile : Profile) : profile.linked.isEmpty = true ↔ ∀ key, key ∉ profile.linked := by
  have listed : profile.linked.isEmpty = true ↔ profile.linked.toList = [] := by
    simp [SortedSet.isEmpty, SortedMap.isEmpty, SortedSet.toList, SortedMap.keys]
  rw [listed, List.eq_nil_iff_forall_not_mem]
  exact forall_congr' fun key => not_congr SortedSet.mem_toList

/-- A profile with sightings is seen, so that a partial scan finds it by its key. -/
theorem mem_scanHints (wellFormed : manager.roster.WellFormed) (attached : manager.Attached) {other : Profile}
    (present : other ∈ manager.roster.all) (near : other = profile ∨ other.key ∈ profile.linked) {channel : UInt32}
    (seen : manager.SeenOn maxAge other channel) : channel ∈ manager.scanHints profile maxAge home := by
  have hinted : channel ∈ manager.channelsOf maxAge other.id := mem_channelsOf.2 seen
  rw [scanHints, List.mem_append, List.mem_append]
  obtain rfl | linked := near
  · exact .inl (.inr hinted)
  · obtain ⟨cache, cached, _⟩ := seen
    obtain ⟨shown, found⟩ := attached other.id (.inl ⟨cache, cached⟩)
    obtain rfl : shown = other :=
      wellFormed.eq_of_id (Roster.mem_of_get? found) present (wellFormed.id_of_get? found)
    refine .inr (List.mem_flatMap.2 ⟨shown, List.mem_filterMap.2 ⟨shown.key, SortedSet.mem_toList.2 linked, ?_⟩, hinted⟩)
    exact wellFormed.getByKey?_eq_some.2 ⟨found, rfl⟩

/-- A network and its neighbour, linked by their gateway, and a transmitter of each. -/
def neighboursSeen : Manager :=
  onEmptyStore.run
    [.load, .addOrUpdate (.psk "Home" "password") ⟨Uid.system, "android"⟩,
      .addOrUpdate (.psk "Home-5G" "password") ⟨Uid.system, "android"⟩,
      .setGateway ⟨0⟩ "00:24:01:10:20:00", .setGateway ⟨1⟩ "00:24:01:10:20:00",
      .observe ⟨0⟩ (SightingCache.seen 1 1699999999000), .observe ⟨1⟩ { SightingCache.seen 2 1699999998000 with frequency := 5180 }]

end Manager

end SavedNetworks
