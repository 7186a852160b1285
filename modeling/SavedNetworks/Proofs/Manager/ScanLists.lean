import SavedNetworks.Proofs.Manager.PartialScans
import SavedNetworks.Proofs.Manager.Polling
import SavedNetworks.Proofs.Sorting

/-!
The lists for scans in the background: whom they hold, in which order, and on which channels (`Manager.scanLists_run`).
-/

namespace SavedNetworks

namespace Profile

variable {profiles : List Profile} {profile one two three : Profile}

/-- Goes first in a scan list: more associations, then seen in the last round, then the smaller id. -/
def ScannedSooner (one two : Profile) : Prop :=
  two.stats.associations < one.stats.associations ∨
    one.stats.associations = two.stats.associations ∧
      (one.selection.seenInLastRound = true ∧ two.selection.seenInLastRound = false ∨
        one.selection.seenInLastRound = two.selection.seenInLastRound ∧ one.id.value < two.id.value)

/-- Of those that were connected last, if any was ever connected, the first one is moved to the front. -/
inductive HoistsLatest : List Profile → List Profile → Prop where
  | never {profiles : List Profile} (disconnected : ∀ profile ∈ profiles, profile.stats.lastConnectedAt ≤ 0) :
      HoistsLatest profiles profiles
  | latest {before after : List Profile} {profile : Profile} (connected : 0 < profile.stats.lastConnectedAt)
      (earlier : ∀ other ∈ before, other.stats.lastConnectedAt < profile.stats.lastConnectedAt)
      (noLater : ∀ other ∈ after, other.stats.lastConnectedAt ≤ profile.stats.lastConnectedAt) :
      HoistsLatest (before ++ profile :: after) (profile :: (before ++ after))

theorem scansBefore_eq_true : scansBefore one two = true ↔
    two.stats.associations < one.stats.associations ∨ one.stats.associations = two.stats.associations ∧
      (one.selection.seenInLastRound = true ∨ two.selection.seenInLastRound = false) := by
  simp [scansBefore]

theorem scansBefore_trans (former : scansBefore one two = true) (latter : scansBefore two three = true) :
    scansBefore one three = true := by
  rw [scansBefore_eq_true] at former latter ⊢
  rcases former with more | ⟨equal, seen⟩
  · rcases latter with fewer | ⟨same, _⟩
    · exact .inl (UInt64.lt_trans fewer more)
    · exact .inl (same ▸ more)
  · rcases latter with fewer | ⟨same, last⟩
    · exact .inl (equal ▸ fewer)
    · refine .inr ⟨equal.trans same, ?_⟩
      grind

theorem scansBefore_total (one two : Profile) : (scansBefore one two || scansBefore two one) = true := by
  rw [Bool.or_eq_true, scansBefore_eq_true, scansBefore_eq_true]
  have compared := UInt64.lt_or_lt_of_ne (a := one.stats.associations) (b := two.stats.associations)
  grind

theorem scanOrder_ordered (increasing : (profiles.map Profile.id).Pairwise fun one two => one.value < two.value) :
    (scanOrder profiles).Pairwise ScannedSooner := by
  have sorted := pairwise_mergeSort_of_ordered scansBefore (fun one => UInt32.lt_irrefl one.id.value)
    (List.pairwise_map.1 increasing) (fun _ _ _ => scansBefore_trans) scansBefore_total
  refine sorted.imp fun {one two} => ?_
  simp only [scansBefore_eq_true, ScannedSooner]
  grind

theorem isLatest_iff : isLatest profiles profile = true ↔
    0 < profile.stats.lastConnectedAt ∧
      ∀ other ∈ profiles, other.stats.lastConnectedAt ≤ profile.stats.lastConnectedAt := by
  simp [isLatest]

theorem exists_lastConnected (some : profiles ≠ []) : ∃ last ∈ profiles,
    ∀ other ∈ profiles, other.stats.lastConnectedAt ≤ last.stats.lastConnectedAt := by
  induction profiles with
  | nil => exact absurd rfl some
  | cons first rest ih =>
      by_cases lone : rest = []
      · subst lone
        exact ⟨first, by simp, by simp⟩
      · obtain ⟨last, among, noLater⟩ := ih lone
        cases Int64.le_total first.stats.lastConnectedAt last.stats.lastConnectedAt with
        | inl earlier => exact ⟨last, List.mem_cons_of_mem first among, List.forall_mem_cons.2 ⟨earlier, noLater⟩⟩
        | inr later =>
            refine ⟨first, List.mem_cons_self, List.forall_mem_cons.2 ⟨Int64.le_refl _, fun other behind => ?_⟩⟩
            exact Int64.le_trans (noLater other behind) later

theorem isLatest_of_eq {other : Profile} (latest : isLatest profiles profile = true)
    (same : other.stats.lastConnectedAt = profile.stats.lastConnectedAt) : isLatest profiles other = true := by
  rw [isLatest_iff, same]
  exact isLatest_iff.1 latest

theorem hoistLatest_of_none (nobody : profiles.findIdx? (isLatest profiles) = none) :
    ∀ profile ∈ profiles, profile.stats.lastConnectedAt ≤ 0 := by
  intro profile present
  refine Int64.not_lt.1 fun connected => ?_
  obtain ⟨last, among, noLater⟩ := exists_lastConnected (List.ne_nil_of_mem present)
  have latest := isLatest_iff.2 ⟨Int64.lt_of_lt_of_le connected (noLater profile present), noLater⟩
  simp [List.findIdx?_eq_none_iff.1 nobody last among] at latest

theorem hoistLatest_hoists (profiles : List Profile) : HoistsLatest profiles (hoistLatest profiles) := by
  unfold hoistLatest
  cases found : profiles.findIdx? (isLatest profiles) with
  | none => exact .never (hoistLatest_of_none found)
  | some index =>
      obtain ⟨bound, latest, first⟩ := List.findIdx?_eq_some_iff_getElem.1 found
      obtain ⟨connected, noLater⟩ := isLatest_iff.1 latest
      have parts : profiles = profiles.take index ++ profiles[index] :: profiles.drop (index + 1) := by
        rw [← List.drop_eq_getElem_cons bound, List.take_append_drop]
      have earlier : ∀ other ∈ profiles.take index,
          other.stats.lastConnectedAt < profiles[index].stats.lastConnectedAt := by
        intro other before
        obtain ⟨place, sooner, rfl⟩ := List.mem_take_iff_getElem.1 before
        refine Int64.lt_of_le_of_ne (noLater _ (List.getElem_mem _)) fun same => ?_
        exact first place (by omega) (isLatest_of_eq latest same)
      have later : ∀ other ∈ profiles.drop (index + 1),
          other.stats.lastConnectedAt ≤ profiles[index].stats.lastConnectedAt :=
        fun other behind => noLater other (List.mem_of_mem_drop behind)
      have hoisted := HoistsLatest.latest connected earlier later
      rw [← parts, ← List.eraseIdx_eq_take_drop_succ] at hoisted
      simpa only [List.getElem?_eq_getElem bound] using hoisted

end Profile

namespace Manager

open Profile (HoistsLatest ScannedSooner)

variable {manager : Manager}

/-- Some of the profiles that are seen, in the order of scan lists. -/
structure IsScanList (manager : Manager) (chosen : Profile → Bool) (listed : List Profile) : Prop where
  members : ∀ profile, profile ∈ listed ↔ manager.roster.get? profile.id = some profile ∧ chosen profile = true
  ordered : listed.Pairwise ScannedSooner

/-- What is handed out for scans in the background. -/
structure ScanLists (manager : Manager) : Prop where
  /-- The saved profiles that are enabled; where recency counts, the one that was connected last goes to the front. -/
  preferred : ∃ ordered, manager.IsScanList (fun profile => profile.isSaved && profile.selection.state == .enabled) ordered ∧
    (manager.settings.preferredRecency = false → manager.preferredProfiles = ordered) ∧
    (manager.settings.preferredRecency = true → HoistsLatest ordered manager.preferredProfiles)
  entries : manager.preferredNetworks = manager.preferredProfiles.map fun profile =>
    { ssid := profile.ssid
      security := profile.security
      hidden := profile.hidden
      frequencies := manager.preferredFrequencies profile }
  unculled : manager.settings.preferredCulling = false → ∀ profile, manager.preferredFrequencies profile = []
  culled : manager.settings.preferredCulling = true → ∀ profile, (manager.preferredFrequencies profile).Nodup ∧
    ∀ channel, channel ∈ manager.preferredFrequencies profile ↔
      manager.SeenOn manager.settings.preferredMaxAge profile channel
  hidden : ∃ ordered, manager.IsScanList Profile.hidden ordered ∧
    manager.hiddenNetworks = ordered.map Profile.ssid

theorem isScanList_scanOrder (wellFormed : manager.roster.WellFormed) (chosen : Profile → Bool) :
    manager.IsScanList chosen (Profile.scanOrder (manager.roster.visible.filter chosen)) where
  members profile := by
    rw [Profile.scanOrder, List.mem_mergeSort, List.mem_filter, wellFormed.mem_visible]
  ordered := Profile.scanOrder_ordered (wellFormed.increasing_ids.sublist (manager.roster.sublist_ids chosen))

/-- With culling, the channels of a profile are those of its fresh sightings. -/
theorem preferredFrequencies_of_culling (culling : manager.settings.preferredCulling = true) (profile : Profile) :
    manager.preferredFrequencies profile = (manager.channelsOf manager.settings.preferredMaxAge profile.id).eraseDups := by
  unfold preferredFrequencies channelsOf
  rw [if_pos culling]
  cases manager.caches.get? profile.id with
  | none => rfl
  | some cache => exact SightingCache.channels_eq_of_large (by decide) cache _ _

theorem scanLists (wellFormed : manager.roster.WellFormed) : manager.ScanLists where
  preferred := by
    refine ⟨_, isScanList_scanOrder wellFormed _, fun recency => ?_, fun recency => ?_⟩
    · exact if_neg (by simp [recency])
    · have hoisted : manager.preferredProfiles = Profile.hoistLatest _ := if_pos recency
      rw [hoisted]
      exact Profile.hoistLatest_hoists _
  entries := rfl
  unculled culling profile := if_neg (by simp [culling])
  culled culling profile := by
    rw [preferredFrequencies_of_culling culling]
    exact ⟨nodup_eraseDups _, fun channel => List.mem_eraseDups.trans mem_channelsOf⟩
  hidden := ⟨_, isScanList_scanOrder wellFormed Profile.hidden, rfl⟩

theorem wellFormed_run (wellFormed : manager.roster.WellFormed) (operations : List Operation) :
    (manager.run operations).roster.WellFormed := by
  induction operations generalizing manager with
  | nil => exact wellFormed
  | cons operation rest ih => exact ih (wellFormed_perform wellFormed operation)

end Manager

end SavedNetworks
