import Mathlib.Data.List.Induction
import SavedNetworks.Proofs.Sighting.Recency

/-!
What a cache keeps of the sightings that it is given: at most its limit, the most recent ones, and of each transmitter
the first time that it was seen since it last came in (`SightingCache.retains_run`).
-/

namespace SavedNetworks

/-- What is done to a cache. -/
inductive CacheOperation where
  | put (sighting : Sighting) (ownerEphemeral : Bool)
  | refresh (bssid : Address) (level : Int32) (now maxAge : Millis)
deriving DecidableEq

namespace CacheOperation

/-- The first time that is put for a transmitter. -/
def firstTime? (bssid : Address) : CacheOperation → Option Millis
  | .put sighting _ => if sighting.bssid = bssid then some sighting.firstSeenAt else none
  | .refresh .. => none

end CacheOperation

namespace SightingCache

def perform (cache : SightingCache) : CacheOperation → SightingCache
  | .put sighting ownerEphemeral => cache.put sighting ownerEphemeral
  | .refresh bssid level now maxAge => (cache.refresh bssid level now maxAge).1

def run (cache : SightingCache) (operations : List CacheOperation) : SightingCache := operations.foldl perform cache

/-- The cache with one more sighting, and nothing dropped. -/
def grown (cache : SightingCache) (sighting : Sighting) (ownerEphemeral : Bool) : SightingCache :=
  { cache with sightings := cache.sightings.insert sighting.bssid (cache.admitted sighting ownerEphemeral) }

/-- A sighting of a new transmitter for which there is no room. -/
def Overflows (cache : SightingCache) (sighting : Sighting) : Prop :=
  cache.get? sighting.bssid = none ∧ cache.limits.maxSize ≤ cache.size

/-- A put keeps the most recent of what was there and came in. -/
structure KeepsRecent (cache : SightingCache) (sighting : Sighting) (ownerEphemeral : Bool) : Prop where
  /-- Where there is room, nothing is dropped, and no other transmitter's sighting changes. -/
  roomy : ¬ cache.Overflows sighting → ∀ bssid, (cache.put sighting ownerEphemeral).get? bssid =
    if bssid = sighting.bssid then some (cache.admitted sighting ownerEphemeral) else cache.get? bssid
  size : cache.Overflows sighting → (cache.put sighting ownerEphemeral).size = cache.limits.trimSize
  unchanged : ∀ bssid kept, (cache.put sighting ownerEphemeral).get? bssid = some kept →
    (cache.grown sighting ownerEphemeral).get? bssid = some kept
  older : ∀ bssid dropped, (cache.grown sighting ownerEphemeral).get? bssid = some dropped →
    (cache.put sighting ownerEphemeral).get? bssid = none →
      ∀ other kept, (cache.put sighting ownerEphemeral).get? other = some kept → dropped.Older kept

/-- The end of a run since a transmitter last came into the cache: a put brings it in where it was not, and it stays. -/
def CameInWith (cache : SightingCache) (operations recent : List CacheOperation) (bssid : Address) : Prop :=
  ∃ earlier sighting ownerEphemeral later, operations = earlier ++ recent ∧
    recent = .put sighting ownerEphemeral :: later ∧ sighting.bssid = bssid ∧ (cache.run earlier).get? bssid = none ∧
    ∀ start, start <+: later → ((cache.run (earlier ++ .put sighting ownerEphemeral :: start)).get? bssid).isSome

/-- What holds of a cache after any run. -/
structure Retains (cache : SightingCache) (operations : List CacheOperation) : Prop where
  limits : (cache.run operations).limits = cache.limits
  bounded : (cache.run operations).size ≤ cache.limits.maxSize
  keyed : (cache.run operations).Keyed
  distinct : ((cache.run operations).sightings.values.map Sighting.bssid).Nodup
  recent : ∀ sighting ownerEphemeral, (cache.run operations).KeepsRecent sighting ownerEphemeral
  first : ∀ bssid sighting, (cache.run operations).get? bssid = some sighting →
    ∃ recent, cache.CameInWith operations recent bssid ∧
      (recent.filterMap (CacheOperation.firstTime? bssid)).min? = some sighting.firstSeenAt

variable {cache : SightingCache} {sighting kept : Sighting} {bssid : Address} {ownerEphemeral : Bool}
  {operation : CacheOperation} {operations : List CacheOperation}

theorem get?_grown (cache : SightingCache) (sighting : Sighting) (ownerEphemeral : Bool) (bssid : Address) :
    (cache.grown sighting ownerEphemeral).get? bssid =
      if bssid = sighting.bssid then some (cache.admitted sighting ownerEphemeral) else cache.get? bssid :=
  SortedMap.get?_insert ..

theorem size_grown (cache : SightingCache) (sighting : Sighting) (ownerEphemeral : Bool) :
    (cache.grown sighting ownerEphemeral).size =
      if (cache.get? sighting.bssid).isSome then cache.size else cache.size + 1 :=
  SortedMap.size_insert ..

theorem put_eq (cache : SightingCache) (sighting : Sighting) (ownerEphemeral : Bool) :
    cache.put sighting ownerEphemeral =
      if cache.limits.maxSize < (cache.grown sighting ownerEphemeral).size then (cache.grown sighting ownerEphemeral).trim
      else cache.grown sighting ownerEphemeral := rfl

theorem put_of_overflows (full : cache.Overflows sighting) :
    cache.put sighting ownerEphemeral = (cache.grown sighting ownerEphemeral).trim := by
  obtain ⟨absent, above⟩ := full
  have size := cache.size_grown sighting ownerEphemeral
  rw [absent] at size
  rw [put_eq, if_pos (by simp at size; omega)]

/-- A cache within its limit outgrows it only when a new transmitter comes in. -/
theorem size_grown_le (bounded : cache.size ≤ cache.limits.maxSize) (room : ¬ cache.Overflows sighting) :
    (cache.grown sighting ownerEphemeral).size ≤ cache.limits.maxSize := by
  rw [size_grown]
  cases found : cache.get? sighting.bssid with
  | some previous => exact bounded
  | none =>
      have below : ¬ cache.limits.maxSize ≤ cache.size := fun above => room ⟨found, above⟩
      simp only [Option.isSome_none, Bool.false_eq_true, if_false]
      omega

theorem put_of_not_overflows (bounded : cache.size ≤ cache.limits.maxSize) (room : ¬ cache.Overflows sighting) :
    cache.put sighting ownerEphemeral = cache.grown sighting ownerEphemeral := by
  rw [put_eq, if_neg (Nat.not_lt.2 (size_grown_le bounded room))]

/-- What is left of a list of different names without those at its front. -/
theorem filter_not_named {α β : Type} [DecidableEq β] (front back : List α) (name : α → β)
    (distinct : ((front ++ back).map name).Nodup) :
    (front ++ back).filter (fun one => !(front.map name).contains (name one)) = back := by
  rw [List.map_append, List.nodup_append] at distinct
  have none : front.filter (fun one => !(front.map name).contains (name one)) = [] := by
    refine List.filter_eq_nil_iff.2 fun one among => ?_
    simpa using ⟨one, among, rfl⟩
  have all : back.filter (fun one => !(front.map name).contains (name one)) = back := by
    refine List.filter_eq_self.2 fun one among => ?_
    simp only [Bool.not_eq_true', List.contains_eq_mem, decide_eq_false_iff_not]
    exact fun named => distinct.2.2 _ named _ (List.mem_map_of_mem among) rfl
  rw [List.filter_append, none, all, List.nil_append]

namespace Keyed

theorem grown (keyed : cache.Keyed) (sighting : Sighting) (ownerEphemeral : Bool) :
    (cache.grown sighting ownerEphemeral).Keyed := by
  intro bssid stored found
  rw [get?_grown] at found
  split at found
  · next same =>
      cases found
      exact same.symm
  · exact keyed bssid stored found

theorem values_trim (keyed : cache.Keyed) :
    cache.trim.sightings.values.Perm (cache.byAge.drop (cache.size - cache.limits.trimSize)) := by
  generalize count : cache.size - cache.limits.trimSize = excess
  have kept : cache.trim.sightings.values = cache.sightings.values.filter fun sighting =>
      !((cache.byAge.take excess).map Sighting.bssid).contains sighting.bssid := by
    simp only [trim, SortedMap.values, SortedMap.filter, count, List.filter_map]
    refine congrArg (List.map Prod.snd) (List.filter_congr fun entry present => ?_)
    rw [Function.comp_apply, keyed entry.1 entry.2 ((SortedMap.mem_entries_iff ..).1 present)]
  have listed : cache.byAge.Perm cache.sightings.values := List.mergeSort_perm ..
  have distinct : (cache.byAge.map Sighting.bssid).Nodup := (listed.map _).nodup_iff.2 keyed.nodup_bssids
  have newest := filter_not_named (cache.byAge.take excess) (cache.byAge.drop excess)
    Sighting.bssid (by rwa [List.take_append_drop])
  rw [List.take_append_drop] at newest
  rw [kept, ← newest]
  exact listed.symm.filter _

theorem trim (keyed : cache.Keyed) : cache.trim.Keyed := by
  intro bssid stored found
  have kept : cache.trim.get? bssid = (cache.get? bssid).filter _ := SortedMap.get?_filter ..
  rw [kept, Option.filter_eq_some_iff] at found
  exact keyed bssid stored found.1

theorem get?_trim_eq_some_iff (keyed : cache.Keyed) :
    cache.trim.get? bssid = some sighting ↔
      sighting ∈ cache.byAge.drop (cache.size - cache.limits.trimSize) ∧ sighting.bssid = bssid := by
  rw [keyed.trim.get?_eq_some_iff, keyed.values_trim.mem_iff]

theorem size_trim (keyed : cache.Keyed) (enough : cache.limits.trimSize ≤ cache.size) :
    cache.trim.size = cache.limits.trimSize := by
  have length := keyed.values_trim.length_eq
  rw [List.length_drop, length_byAge, SortedMap.values, List.length_map] at length
  have size : cache.trim.size = cache.trim.sightings.entries.length := rfl
  omega

theorem unchanged_trim (keyed : cache.Keyed) (found : cache.trim.get? bssid = some sighting) :
    cache.get? bssid = some sighting := by
  obtain ⟨newest, named⟩ := keyed.get?_trim_eq_some_iff.1 found
  exact keyed.get?_eq_some_iff.2 ⟨mem_byAge.1 (List.mem_of_mem_drop newest), named⟩

theorem older_of_dropped (keyed : cache.Keyed) {dropped kept : Sighting} {other : Address}
    (held : cache.get? bssid = some dropped) (gone : cache.trim.get? bssid = none)
    (stays : cache.trim.get? other = some kept) : dropped.Older kept := by
  obtain ⟨present, named⟩ := keyed.get?_eq_some_iff.1 held
  obtain ⟨newest, _⟩ := keyed.get?_trim_eq_some_iff.1 stays
  have listed := mem_byAge.2 present
  have ordered := keyed.byAge_ordered
  rw [← List.take_append_drop (cache.size - cache.limits.trimSize) cache.byAge] at listed ordered
  cases List.mem_append.1 listed with
  | inl oldest => exact (List.pairwise_append.1 ordered).2.2 dropped oldest kept newest
  | inr later =>
      rw [keyed.get?_trim_eq_some_iff.2 ⟨later, named⟩] at gone
      cases gone

theorem put (keyed : cache.Keyed) (sighting : Sighting) (ownerEphemeral : Bool) :
    (cache.put sighting ownerEphemeral).Keyed := by
  rw [put_eq]
  split
  · exact (keyed.grown sighting ownerEphemeral).trim
  · exact keyed.grown sighting ownerEphemeral

theorem get?_grown_of_put (keyed : cache.Keyed) (found : (cache.put sighting ownerEphemeral).get? bssid = some kept) :
    (cache.grown sighting ownerEphemeral).get? bssid = some kept := by
  rw [put_eq] at found
  split at found
  · exact (keyed.grown sighting ownerEphemeral).unchanged_trim found
  · exact found

theorem keepsRecent (keyed : cache.Keyed) (bounded : cache.size ≤ cache.limits.maxSize)
    (smaller : cache.limits.trimSize < cache.limits.maxSize) (sighting : Sighting) (ownerEphemeral : Bool) :
    cache.KeepsRecent sighting ownerEphemeral := by
  have grows := keyed.grown sighting ownerEphemeral
  refine ⟨fun room => ?_, fun full => ?_, fun bssid kept => keyed.get?_grown_of_put, ?_⟩
  · exact cache.get?_put_of_room sighting ownerEphemeral (size_grown_le bounded room)
  · have size : (cache.grown sighting ownerEphemeral).size = cache.size + 1 := by
      rw [size_grown, full.1]
      rfl
    have above : cache.limits.maxSize ≤ cache.size := full.2
    rw [put_of_overflows full]
    exact grows.size_trim (show cache.limits.trimSize ≤ _ by omega)
  · intro bssid dropped held gone other kept stays
    by_cases full : cache.Overflows sighting
    · rw [put_of_overflows full] at gone stays
      exact grows.older_of_dropped held gone stays
    · rw [put_of_not_overflows bounded full, held] at gone
      cases gone

end Keyed

/-- A live reading changes no more than the level and the time of the sighting of its transmitter. -/
theorem refresh_cases (cache : SightingCache) (bssid : Address) (level : Int32) (now maxAge : Millis) :
    (cache.refresh bssid level now maxAge).1 = cache ∨
      ∃ previous stored, cache.get? bssid = some previous ∧ (cache.refresh bssid level now maxAge).1 =
        { cache with sightings := cache.sightings.insert bssid { previous with seenAt := now, level := stored } } := by
  unfold refresh refresh?
  cases found : cache.get? bssid with
  | none => exact .inl rfl
  | some previous =>
      simp only
      cases Millis.sub? now previous.seenAt with
      | none => exact .inl rfl
      | some age => exact .inr ⟨previous, _, rfl, rfl⟩

theorem firstSeenAt_refresh (cache : SightingCache) (bssid : Address) (level : Int32) (now maxAge : Millis)
    (other : Address) :
    ((cache.refresh bssid level now maxAge).1.get? other).map Sighting.firstSeenAt =
      (cache.get? other).map Sighting.firstSeenAt := by
  rcases cache.refresh_cases bssid level now maxAge with same | ⟨previous, stored, found, same⟩
  · rw [same]
  · rw [same]
    refine (congrArg _ (SortedMap.get?_insert ..)).trans ?_
    split
    · next here =>
        rw [here, found]
        rfl
    · rfl

theorem Keyed.refresh (keyed : cache.Keyed) (bssid : Address) (level : Int32) (now maxAge : Millis) :
    (cache.refresh bssid level now maxAge).1.Keyed := by
  rcases cache.refresh_cases bssid level now maxAge with same | ⟨previous, stored, found, same⟩
  · rw [same]
    exact keyed
  · intro other sighting held
    rw [same] at held
    replace held := (SortedMap.get?_insert ..).symm.trans held
    split at held
    · next here =>
        cases held
        rw [here]
        exact keyed bssid previous found
    · exact keyed other sighting held

theorem size_refresh (cache : SightingCache) (bssid : Address) (level : Int32) (now maxAge : Millis) :
    (cache.refresh bssid level now maxAge).1.size = cache.size := by
  rcases cache.refresh_cases bssid level now maxAge with same | ⟨previous, stored, found, same⟩
  · rw [same]
  · have present : cache.sightings.contains bssid = true := Option.isSome_of_eq_some found
    have grown := cache.sightings.size_insert bssid { previous with seenAt := now, level := stored }
    rw [present, if_pos rfl] at grown
    rw [same]
    exact grown

theorem limits_perform (cache : SightingCache) (operation : CacheOperation) :
    (cache.perform operation).limits = cache.limits := by
  cases operation with
  | put sighting ownerEphemeral =>
      simp only [perform, put_eq]
      split <;> rfl
  | refresh bssid level now maxAge =>
      rcases cache.refresh_cases bssid level now maxAge with same | ⟨_, _, _, same⟩ <;> simp only [perform, same]

theorem Keyed.perform (keyed : cache.Keyed) (operation : CacheOperation) : (cache.perform operation).Keyed := by
  cases operation with
  | put sighting ownerEphemeral => exact keyed.put sighting ownerEphemeral
  | refresh bssid level now maxAge => exact keyed.refresh bssid level now maxAge

theorem Keyed.size_perform_le (keyed : cache.Keyed) (bounded : cache.size ≤ cache.limits.maxSize)
    (smaller : cache.limits.trimSize < cache.limits.maxSize) (operation : CacheOperation) :
    (cache.perform operation).size ≤ cache.limits.maxSize := by
  cases operation with
  | refresh bssid level now maxAge =>
      simp only [SightingCache.perform, size_refresh]
      exact bounded
  | put sighting ownerEphemeral =>
      by_cases full : cache.Overflows sighting
      · have trimmed := (keyed.keepsRecent bounded smaller sighting ownerEphemeral).size full
        simp only [SightingCache.perform]
        omega
      · simp only [SightingCache.perform, put_of_not_overflows bounded full]
        exact size_grown_le bounded full

theorem limits_run (cache : SightingCache) (operations : List CacheOperation) :
    (cache.run operations).limits = cache.limits := by
  induction operations generalizing cache with
  | nil => rfl
  | cons operation rest ih => exact (ih _).trans (cache.limits_perform operation)

theorem Keyed.run (keyed : cache.Keyed) (operations : List CacheOperation) : (cache.run operations).Keyed := by
  induction operations generalizing cache with
  | nil => exact keyed
  | cons operation rest ih => exact ih (keyed.perform operation)

theorem Keyed.size_run_le (keyed : cache.Keyed) (bounded : cache.size ≤ cache.limits.maxSize)
    (smaller : cache.limits.trimSize < cache.limits.maxSize) (operations : List CacheOperation) :
    (cache.run operations).size ≤ cache.limits.maxSize := by
  induction operations generalizing cache with
  | nil => exact bounded
  | cons operation rest ih =>
      have limits := cache.limits_perform operation
      have next := ih (keyed.perform operation) (limits ▸ keyed.size_perform_le bounded smaller operation)
        (limits ▸ smaller)
      rw [limits] at next
      exact next

theorem run_append_singleton (cache : SightingCache) (operations : List CacheOperation) (operation : CacheOperation) :
    cache.run (operations ++ [operation]) = (cache.run operations).perform operation := by
  rw [run, List.foldl_append]
  rfl

/-- A sighting that is there after an operation came in with it, or was there and now has the earlier first time. -/
theorem Keyed.firstSeenAt_perform (keyed : cache.Keyed) (found : (cache.perform operation).get? bssid = some sighting) :
    (cache.get? bssid = none ∧ ∃ came ownerEphemeral, operation = .put came ownerEphemeral ∧ came.bssid = bssid ∧
        sighting.firstSeenAt = came.firstSeenAt) ∨
      ∃ previous, cache.get? bssid = some previous ∧
        sighting.firstSeenAt = (operation.firstTime? bssid).elim previous.firstSeenAt (min previous.firstSeenAt) := by
  cases operation with
  | refresh other level now maxAge =>
      have same := cache.firstSeenAt_refresh other level now maxAge bssid
      simp only [SightingCache.perform] at found
      rw [found, Option.map_some, eq_comm, Option.map_eq_some_iff] at same
      obtain ⟨previous, held, first⟩ := same
      exact .inr ⟨previous, held, first.symm⟩
  | put came ownerEphemeral =>
      have grown := keyed.get?_grown_of_put (show (cache.put came ownerEphemeral).get? bssid = some sighting from found)
      rw [get?_grown] at grown
      by_cases same : bssid = came.bssid
      · subst same
        rw [if_pos rfl, Option.some.injEq] at grown
        subst grown
        cases held : cache.get? came.bssid with
        | none => exact .inl ⟨rfl, came, ownerEphemeral, rfl, rfl, by simp [admitted, held]⟩
        | some previous => exact .inr ⟨previous, rfl, by simp [admitted, held, CacheOperation.firstTime?]⟩
      · rw [if_neg same] at grown
        have apart : came.bssid ≠ bssid := fun equal => same equal.symm
        exact .inr ⟨sighting, grown, by simp [CacheOperation.firstTime?, apart]⟩

theorem min?_append_toList {times : List Millis} {least : Millis} (found : times.min? = some least)
    (more : Option Millis) : (times ++ more.toList).min? = some (more.elim least (min least)) := by
  cases times with
  | nil => cases found
  | cons first rest =>
      rw [List.min?_cons', Option.some.injEq] at found
      cases more with
      | none => rw [Option.toList_none, List.append_nil, List.min?_cons', found, Option.elim_none]
      | some time =>
          rw [Option.toList_some, List.cons_append, List.min?_cons', List.foldl_append, found]
          rfl

theorem CameInWith.append_singleton {recent : List CacheOperation} (came : cache.CameInWith operations recent bssid)
    (operation : CacheOperation) (stays : ((cache.run (operations ++ [operation])).get? bssid).isSome) :
    cache.CameInWith (operations ++ [operation]) (recent ++ [operation]) bssid := by
  obtain ⟨earlier, sighting, ownerEphemeral, later, rfl, rfl, named, absent, held⟩ := came
  refine ⟨earlier, sighting, ownerEphemeral, later ++ [operation], by simp, rfl, named, absent, fun start among => ?_⟩
  cases List.prefix_concat_iff.1 among with
  | inl whole =>
      subst whole
      simpa using stays
  | inr before => exact held start before

theorem Keyed.first_run (keyed : cache.Keyed) (absent : cache.get? bssid = none) (operations : List CacheOperation)
    (found : (cache.run operations).get? bssid = some sighting) :
    ∃ recent, cache.CameInWith operations recent bssid ∧
      (recent.filterMap (CacheOperation.firstTime? bssid)).min? = some sighting.firstSeenAt := by
  -- On the length of the run: the last operation brings the transmitter in or adds to what is known of it.
  induction operations using List.reverseRecOn generalizing sighting with
  | nil =>
      rw [show cache.run [] = cache from rfl, absent] at found
      cases found
  | append_singleton operations operation ih =>
      have stays : ((cache.run (operations ++ [operation])).get? bssid).isSome := Option.isSome_of_eq_some found
      rw [run_append_singleton] at found
      cases (keyed.run operations).firstSeenAt_perform found with
      | inl came =>
          obtain ⟨before, arrived, ownerEphemeral, rfl, named, first⟩ := came
          refine ⟨[.put arrived ownerEphemeral],
            ⟨operations, arrived, ownerEphemeral, [], rfl, rfl, named, before, ?_⟩, ?_⟩
          · intro start among
            rw [List.prefix_nil.1 among]
            exact stays
          · simp [CacheOperation.firstTime?, named, first]
      | inr stayed =>
          obtain ⟨previous, held, first⟩ := stayed
          obtain ⟨recent, came, least⟩ := ih held
          refine ⟨recent ++ [operation], came.append_singleton operation stays, ?_⟩
          have last : [operation].filterMap (CacheOperation.firstTime? bssid) = (operation.firstTime? bssid).toList := by
            cases time : operation.firstTime? bssid <;> simp [time]
          rw [List.filterMap_append, last, first]
          exact min?_append_toList least _

/-- A cache that starts empty, after any run. -/
theorem retains_run (limits : CacheLimits) (smaller : limits.trimSize < limits.maxSize) (operations : List CacheOperation) :
    (ofLimits limits).Retains operations := by
  have keyed := (keyed_ofLimits limits).run operations
  have same := (ofLimits limits).limits_run operations
  have bounded := (keyed_ofLimits limits).size_run_le (Nat.zero_le _) smaller operations
  exact {
    limits := same
    bounded
    keyed
    distinct := keyed.nodup_bssids
    recent := keyed.keepsRecent (same ▸ bounded) (same ▸ smaller)
    first := fun bssid sighting => (keyed_ofLimits limits).first_run rfl operations }

/-- A sighting of one of a few transmitters. -/
def seen (transmitter : UInt8) (moment : Millis) : Sighting :=
  ⟨"Home", ⟨#v[0x00, 0x24, 0x01, 0x10, 0x20, transmitter]⟩, .psk, -50, 2412, moment, moment, false⟩

/-- Two transmitters take all the room there is, and the first one is seen again, also before it was. -/
def filling : List CacheOperation :=
  [.put (seen 1 0) false, .put (seen 2 5) true, .refresh (seen 1 0).bssid (-40) 10 40000, .put (seen 1 (-3)) false]

theorem retains_filling : (⟨2, 1⟩ : CacheLimits).trimSize < (⟨2, 1⟩ : CacheLimits).maxSize ∧
    (ofLimits ⟨2, 1⟩).Retains filling ∧ ((ofLimits ⟨2, 1⟩).run filling).Overflows (seen 3 7) ∧
    ((ofLimits ⟨2, 1⟩).run filling).get? (seen 1 0).bssid = some (seen 1 (-3)) :=
  ⟨by decide, retains_run ⟨2, 1⟩ (by decide) filling, ⟨by decide, by decide⟩, by decide⟩

end SightingCache

end SavedNetworks
