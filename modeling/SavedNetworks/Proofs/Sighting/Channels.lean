import SavedNetworks.Proofs.Millis
import SavedNetworks.Proofs.Sighting.Retention

/-!
The channels of a cache: those of its fresh sightings, newest first, each once, as far as the limit goes. A list that is
full already may still get one channel more (`SightingCache.keepsToLimit_iff`).
-/

namespace SavedNetworks

section EachOnce

universe u

variable {α : Type u} [BEq α] [LawfulBEq α]

theorem nodup_eraseDups (listed : List α) : listed.eraseDups.Nodup := by
  induction counted : listed.length using Nat.strongRecOn generalizing listed with
  | ind count ih =>
      cases listed with
      | nil => simp
      | cons first rest =>
          have shorter : (rest.filter fun other => !other == first).length < count := by
            rw [← counted, List.length_cons]
            exact Nat.lt_succ_of_le (List.length_filter_le _ rest)
          rw [List.eraseDups_cons, List.nodup_cons]
          exact ⟨by simp, ih _ shorter _ rfl⟩

theorem eraseDups_of_nodup {listed : List α} (distinct : listed.Nodup) : listed.eraseDups = listed := by
  induction listed with
  | nil => rfl
  | cons first rest ih =>
      obtain ⟨absent, distinct⟩ := List.nodup_cons.1 distinct
      have kept : rest.filter (fun other => !other == first) = rest := by
        refine List.filter_eq_self.2 fun other member => ?_
        have apart : other ≠ first := fun same => absent (same ▸ member)
        simpa using apart
      rw [List.eraseDups_cons, kept, ih distinct]

theorem eraseDups_eraseDups_append (listed more : List α) :
    (listed.eraseDups ++ more).eraseDups = (listed ++ more).eraseDups := by
  have same : more.removeAll listed.eraseDups = more.removeAll listed := by
    simp [List.removeAll]
  rw [List.eraseDups_append, List.eraseDups_append, eraseDups_of_nodup (nodup_eraseDups listed), same]

end EachOnce

namespace SightingCache

/-- The channels of the fresh ones among some sightings, in their order. -/
def freshChannels (now maxAge : Millis) (sightings : List Sighting) : List UInt32 :=
  (sightings.filter (isFresh now maxAge)).map Sighting.frequency

/-- The channels of the fresh ones among some sightings that are not listed yet, each once, in their order. -/
def newChannels (now maxAge : Millis) (channels : List UInt32) (sightings : List Sighting) : List UInt32 :=
  (((sightings.filter (isFresh now maxAge)).map Sighting.frequency).filter (!channels.contains ·)).eraseDups

/-- A list of channels is extended by new ones as far as the limit goes. -/
structure KeepsToLimit (cache : SightingCache) (channels : List UInt32) (now maxAge : Millis) (limit : Nat) : Prop where
  extended : (cache.extendChannels channels now maxAge limit).1 =
    channels ++ (newChannels now maxAge channels cache.byRecency).take (limit - channels.length)
  capped : (cache.extendChannels channels now maxAge limit).1.length ≤ max limit channels.length

/-- The list is full, and the newest sighting brings a channel all the same. -/
structure Overfills (cache : SightingCache) (channels : List UInt32) (now maxAge : Millis) (limit : Nat)
    (newest : Sighting) : Prop where
  full : limit ≤ channels.length
  first : cache.byRecency.head? = some newest
  fresh : isFresh now maxAge newest = true
  new : newest.frequency ∉ channels

variable {cache : SightingCache} {now maxAge : Millis} {limit : Nat} {channels : List UInt32} {sighting : Sighting}
  {sightings : List Sighting}

/-- As long as the difference is a time, a sighting is fresh if its age in integers is below the limit. -/
theorem isFresh_iff (above : Int64.minValue.toInt ≤ now.toInt - sighting.seenAt.toInt)
    (below : now.toInt - sighting.seenAt.toInt ≤ Int64.maxValue.toInt) :
    isFresh now maxAge sighting = true ↔ now.toInt - sighting.seenAt.toInt < maxAge.toInt := by
  have fits : Millis.Fits (now.toInt - sighting.seenAt.toInt) := ⟨above, below⟩
  rw [isFresh, isFresh?, Millis.sub?, if_pos fits, Option.map_some, Option.getD_some, decide_eq_true_eq,
    Int64.lt_iff_toInt_lt, Millis.toInt_sub_of_fits fits]

theorem newChannels_cons (now maxAge : Millis) (channels : List UInt32) (sighting : Sighting) (rest : List Sighting) :
    newChannels now maxAge channels (sighting :: rest) =
      if isFresh now maxAge sighting && !channels.contains sighting.frequency then
        sighting.frequency :: newChannels now maxAge (channels ++ [sighting.frequency]) rest
      else newChannels now maxAge channels rest := by
  unfold newChannels
  cases fresh : isFresh now maxAge sighting with
  | false => simp [fresh]
  | true =>
      cases listed : channels.contains sighting.frequency with
      | true => simp_all
      | false =>
          simp only [List.filter_cons, fresh, if_true, List.map_cons, listed, Bool.not_false, Bool.true_and,
            List.eraseDups_cons, List.filter_filter]
          congr 3
          funext frequency
          simp only [List.contains_eq_mem, List.mem_append, List.mem_singleton]
          grind

/-- Where there is room, the new channels come in until the limit is reached. -/
theorem gatherChannels_of_room (room : channels.length < limit) :
    (gatherChannels now maxAge limit sightings channels).1 =
      channels ++ (newChannels now maxAge channels sightings).take (limit - channels.length) := by
  induction sightings generalizing channels with
  | nil => simp [gatherChannels, newChannels]
  | cons sighting rest ih =>
      rw [newChannels_cons]
      simp only [gatherChannels]
      split
      · split
        · next full =>
            have one : limit - channels.length = 1 := by
              simp only [List.length_append, List.length_singleton] at full
              omega
            simp [one]
        · next still =>
            have next := ih (Nat.lt_of_not_le still)
            have more : limit - channels.length = limit - (channels ++ [sighting.frequency]).length + 1 := by
              simp only [List.length_append, List.length_singleton] at still ⊢
              omega
            rw [next, more, List.take_succ_cons, List.append_assoc, List.singleton_append]
      · rw [if_neg (Nat.not_le.2 room), ih room]

/-- A full list takes nothing but the channel of the first sighting. -/
theorem gatherChannels_of_full (full : limit ≤ channels.length) (sighting : Sighting) (rest : List Sighting) :
    (gatherChannels now maxAge limit (sighting :: rest) channels).1 =
      if isFresh now maxAge sighting && !channels.contains sighting.frequency then channels ++ [sighting.frequency]
      else channels := by
  have longer : limit ≤ (channels ++ [sighting.frequency]).length := by
    rw [List.length_append]
    omega
  rw [gatherChannels]
  by_cases brings : (isFresh now maxAge sighting && !channels.contains sighting.frequency) = true
  · simp only [brings, if_true, longer]
  · simp only [brings, Bool.false_eq_true, if_false, full, if_true]

theorem gatherChannels_stops_iff : (gatherChannels now maxAge limit sightings channels).2 = false ↔
    limit ≤ (gatherChannels now maxAge limit sightings channels).1.length ∧ sightings ≠ [] := by
  induction sightings generalizing channels with
  | nil => simp [gatherChannels]
  | cons sighting rest ih =>
      simp only [gatherChannels]
      generalize (if isFresh now maxAge sighting && !channels.contains sighting.frequency
        then channels ++ [sighting.frequency] else channels) = extended
      by_cases full : limit ≤ extended.length
      · simp [full]
      · rw [if_neg full, ih]
        cases rest with
        | nil => simp [gatherChannels, full]
        | cons next others => simp

theorem mem_freshChannels {frequency : UInt32} : frequency ∈ freshChannels now maxAge sightings ↔
    ∃ sighting ∈ sightings, isFresh now maxAge sighting = true ∧ sighting.frequency = frequency := by
  simp [freshChannels, and_assoc]

theorem append_newChannels (distinct : channels.Nodup) :
    channels ++ newChannels now maxAge channels sightings =
      (channels ++ freshChannels now maxAge sightings).eraseDups := by
  have removed : (freshChannels now maxAge sightings).filter (!channels.contains ·) =
      (freshChannels now maxAge sightings).removeAll channels := by
    simp [List.removeAll]
  rw [List.eraseDups_append, eraseDups_of_nodup distinct, ← removed]
  rfl

/-- Where there is room, the list becomes that of all its channels and the fresh ones, each once, cut at the limit. -/
theorem gatherChannels_eq_take (distinct : channels.Nodup) (room : channels.length < limit) :
    (gatherChannels now maxAge limit sightings channels).1 =
      (channels ++ freshChannels now maxAge sightings).eraseDups.take limit := by
  have whole : channels.take limit = channels := List.take_of_length_le (Nat.le_of_lt room)
  rw [gatherChannels_of_room room, ← append_newChannels distinct, List.take_append, whole]

/-- There are no more channels than values of 32 bits. -/
theorem length_le_of_nodup (distinct : channels.Nodup) : channels.length ≤ UInt32.size := by
  have numbers : (channels.map UInt32.toNat).Nodup :=
    List.pairwise_map.2 (distinct.imp fun apart same => apart (UInt32.toNat_inj.1 same))
  have small : channels.map UInt32.toNat ⊆ List.range UInt32.size := by
    intro number among
    obtain ⟨channel, _, rfl⟩ := List.mem_map.1 among
    exact List.mem_range.2 channel.toNat_lt_size
  have fewer := numbers.length_le_of_subset small
  rwa [List.length_map, List.length_range] at fewer

/-- A limit beyond the number of channels is none. -/
theorem channels_eq_of_large (large : UInt32.size ≤ limit) (cache : SightingCache) (now maxAge : Millis) :
    cache.channels now maxAge limit = (freshChannels now maxAge cache.byRecency).eraseDups := by
  have room : ([] : List UInt32).length < limit := Nat.lt_of_lt_of_le (by decide) large
  have all : (gatherChannels now maxAge limit cache.byRecency []).1 =
      ([] ++ freshChannels now maxAge cache.byRecency).eraseDups.take limit := gatherChannels_eq_take List.nodup_nil room
  rw [List.nil_append, List.take_of_length_le (Nat.le_trans (length_le_of_nodup (nodup_eraseDups _)) large)] at all
  exact all

theorem byRecency_ne_nil_iff (cache : SightingCache) : cache.byRecency ≠ [] ↔ cache.size ≠ 0 := by
  have length := cache.byRecency_perm.length_eq
  rw [SortedMap.values, List.length_map] at length
  rw [← List.length_pos_iff, length]
  exact Nat.pos_iff_ne_zero

/-- Where there is room, a cache adds what is fresh, as far as the limit goes, and says whether there is room for more. -/
theorem extendChannels_eq (distinct : channels.Nodup) (room : channels.length < limit) {all : List UInt32}
    (gathered : all = (channels ++ freshChannels now maxAge cache.byRecency).eraseDups) :
    cache.extendChannels channels now maxAge limit = (all.take limit, decide (all.length < limit)) := by
  have extended : (cache.extendChannels channels now maxAge limit).1 = all.take limit := by
    rw [gathered]
    exact gatherChannels_eq_take distinct room
  have stops : (cache.extendChannels channels now maxAge limit).2 = false ↔
      limit ≤ (cache.extendChannels channels now maxAge limit).1.length ∧ cache.byRecency ≠ [] :=
    gatherChannels_stops_iff
  have nobody : cache.byRecency = [] → all = channels := by
    intro empty
    rw [gathered, empty, freshChannels, List.filter_nil, List.map_nil, List.append_nil, eraseDups_of_nodup distinct]
  rw [extended, List.length_take] at stops
  refine Prod.ext extended ?_
  by_cases full : limit ≤ all.length
  · have some : cache.byRecency ≠ [] := fun empty => absurd (nobody empty ▸ full) (Nat.not_le.2 room)
    rw [stops.2 ⟨by omega, some⟩, decide_eq_false (by omega)]
  · have more : ¬ (cache.extendChannels channels now maxAge limit).2 = false := fun stopped => by
      have reached := (stops.1 stopped).1
      omega
    rw [Bool.not_eq_false] at more
    rw [more, decide_eq_true (by omega)]

theorem extendChannels_of_overfills (overfills : cache.Overfills channels now maxAge limit sighting) :
    (cache.extendChannels channels now maxAge limit).1 = channels ++ [sighting.frequency] := by
  obtain ⟨full, first, fresh, new⟩ := overfills
  obtain ⟨rest, listed⟩ := List.head?_eq_some_iff.1 first
  rw [extendChannels, listed, gatherChannels_of_full full, if_pos (by simp [fresh, new])]

theorem extendChannels_of_not_overfills (spared : ∀ newest, ¬ cache.Overfills channels now maxAge limit newest) :
    (cache.extendChannels channels now maxAge limit).1 =
      channels ++ (newChannels now maxAge channels cache.byRecency).take (limit - channels.length) := by
  by_cases room : channels.length < limit
  · exact gatherChannels_of_room room
  · have full : limit ≤ channels.length := Nat.le_of_not_lt room
    have none : limit - channels.length = 0 := by omega
    rw [none, List.take_zero, List.append_nil, extendChannels]
    cases listed : cache.byRecency with
    | nil => rfl
    | cons newest rest =>
        rw [gatherChannels_of_full full, if_neg]
        intro brings
        simp only [Bool.and_eq_true, Bool.not_eq_true', List.contains_eq_mem, decide_eq_false_iff_not] at brings
        exact spared newest ⟨full, by rw [listed, List.head?_cons], brings.1, brings.2⟩

theorem length_extendChannels_of_overfills (overfills : cache.Overfills channels now maxAge limit sighting) :
    max limit channels.length < (cache.extendChannels channels now maxAge limit).1.length := by
  have full := overfills.full
  rw [extendChannels_of_overfills overfills, List.length_append, List.length_singleton]
  omega

theorem keepsToLimit_iff_not_overfills :
    cache.KeepsToLimit channels now maxAge limit ↔ ∀ newest, ¬ cache.Overfills channels now maxAge limit newest := by
  constructor
  · intro keeps newest overfills
    have more := length_extendChannels_of_overfills overfills
    have capped := keeps.capped
    omega
  · intro spared
    have extended := extendChannels_of_not_overfills spared
    refine ⟨extended, ?_⟩
    rw [extended, List.length_append, List.length_take]
    omega

theorem length_channels_le_iff :
    (cache.channels now maxAge limit).length ≤ limit ↔ ∀ newest, ¬ cache.Overfills [] now maxAge limit newest := by
  constructor
  · intro capped newest overfills
    have more := length_extendChannels_of_overfills overfills
    have listed : (cache.channels now maxAge limit).length = (cache.extendChannels [] now maxAge limit).1.length := rfl
    omega
  · intro spared
    have capped := (keepsToLimit_iff_not_overfills.2 spared).capped
    rwa [List.length_nil, Nat.max_zero] at capped

/-- A cache that has seen one transmitter. -/
def lone : SightingCache := (ofLimits .default).run [.put (seen 1 1000) false]

end SightingCache

end SavedNetworks
