import SavedNetworks.Proofs.Collections
import SavedNetworks.Proofs.Sorting
import SavedNetworks.Sighting.Cache

/-!
The sightings of a cache in the order of their times. Where each stands under the address of its own transmitter, the
order leaves no ties: sightings of one time come in the order of their addresses.
-/

namespace SavedNetworks

namespace Sighting

/-- Made before another one, or at the same time by a transmitter with a smaller address. -/
def Older (left right : Sighting) : Prop :=
  left.seenAt < right.seenAt ∨ left.seenAt = right.seenAt ∧ compare left.bssid right.bssid = .lt

/-- Made after another one, or at the same time by a transmitter with a smaller address. -/
def MoreRecent (left right : Sighting) : Prop :=
  right.seenAt < left.seenAt ∨ left.seenAt = right.seenAt ∧ compare left.bssid right.bssid = .lt

end Sighting

namespace SightingCache

variable {cache : SightingCache} {sighting : Sighting} {bssid : Address}

/-- Every sighting stands under the address of its transmitter. -/
def Keyed (cache : SightingCache) : Prop :=
  ∀ bssid sighting, cache.get? bssid = some sighting → sighting.bssid = bssid

theorem keyed_ofLimits (limits : CacheLimits) : (ofLimits limits).Keyed := by
  intro bssid sighting found
  cases found

theorem mem_byAge : sighting ∈ cache.byAge ↔ sighting ∈ cache.sightings.values := List.mem_mergeSort

theorem length_byAge (cache : SightingCache) : cache.byAge.length = cache.size := by
  have perm : cache.byAge.Perm cache.sightings.values := List.mergeSort_perm ..
  rw [perm.length_eq, SortedMap.values, List.length_map]
  rfl

theorem byRecency_perm (cache : SightingCache) : cache.byRecency.Perm cache.sightings.values := List.mergeSort_perm ..

namespace Keyed

theorem mem_values (keyed : cache.Keyed) :
    sighting ∈ cache.sightings.values ↔ cache.get? sighting.bssid = some sighting := by
  rw [SortedMap.mem_values_iff]
  constructor
  · intro stored
    obtain ⟨bssid, found⟩ := stored
    rw [keyed bssid sighting found]
    exact found
  · exact fun found => ⟨sighting.bssid, found⟩

theorem get?_eq_some_iff (keyed : cache.Keyed) :
    cache.get? bssid = some sighting ↔ sighting ∈ cache.sightings.values ∧ sighting.bssid = bssid := by
  rw [keyed.mem_values]
  constructor
  · intro found
    have same := keyed bssid sighting found
    exact ⟨same ▸ found, same⟩
  · intro both
    exact both.2 ▸ both.1

/-- The sightings are listed in the order of their addresses. -/
theorem values_ordered (keyed : cache.Keyed) :
    cache.sightings.values.Pairwise fun left right => compare left.bssid right.bssid = .lt := by
  refine List.pairwise_map.2 (cache.sightings.increasing.imp_of_mem fun {left right} here there ordered => ?_)
  rw [keyed left.1 left.2 ((SortedMap.mem_entries_iff ..).1 here),
    keyed right.1 right.2 ((SortedMap.mem_entries_iff ..).1 there)]
  exact ordered

/-- No transmitter is listed twice. -/
theorem nodup_bssids (keyed : cache.Keyed) : (cache.sightings.values.map Sighting.bssid).Nodup := by
  refine List.pairwise_map.2 (keyed.values_ordered.imp fun ordered same => ?_)
  simp [same] at ordered

theorem byAge_ordered (keyed : cache.Keyed) : cache.byAge.Pairwise Sighting.Older := by
  have sorted := pairwise_mergeSort_of_ordered (fun left right : Sighting => decide (left.seenAt ≤ right.seenAt))
    (by simp) keyed.values_ordered (by grind) (by grind)
  refine sorted.imp fun {left right} both => ?_
  simp only [decide_eq_true_eq] at both
  unfold Sighting.Older
  grind

theorem byRecency_ordered (keyed : cache.Keyed) : cache.byRecency.Pairwise Sighting.MoreRecent := by
  have sorted := pairwise_mergeSort_of_ordered (fun left right : Sighting => decide (right.seenAt ≤ left.seenAt))
    (by simp) keyed.values_ordered (by grind) (by grind)
  refine sorted.imp fun {left right} both => ?_
  simp only [decide_eq_true_eq] at both
  unfold Sighting.MoreRecent
  grind

end Keyed

end SightingCache

end SavedNetworks
