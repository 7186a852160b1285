import SavedNetworks.Manager.Halting
import SavedNetworks.Proofs.Manager.Runs
import SavedNetworks.Proofs.Millis

/-!
A step that does not stop the program is that of `Manager.perform` (`Manager.perform_of_perform?`), so that whatever holds of
runs holds of those that get to their end; and the answers about channels are those of the total functions.
-/

namespace SavedNetworks

namespace SightingCache

variable {cache : SightingCache} {now maxAge : Millis} {limit : Nat} {channels : List UInt32} {sightings : List Sighting}

theorem gatherChannels_of_gatherChannels? {gathered : List UInt32 × Bool}
    (answered : gatherChannels? now maxAge limit sightings channels = some gathered) :
    gatherChannels now maxAge limit sightings channels = gathered := by
  induction sightings generalizing channels with
  | nil => exact Option.some.inj answered
  | cons sighting rest ih =>
      rw [gatherChannels?] at answered
      obtain ⟨fresh, aged, answered⟩ := Option.bind_eq_some_iff.1 answered
      have same : isFresh now maxAge sighting = fresh := by rw [isFresh, aged, Option.getD_some]
      rw [gatherChannels, same]
      simp only at answered ⊢
      generalize (if fresh && !channels.contains sighting.frequency then channels ++ [sighting.frequency] else channels) =
        extended at answered ⊢
      split at answered
      · next full => rw [if_pos full, Option.some.inj answered]
      · next room => rw [if_neg room, ih answered]

theorem channels_of_channels? (answered : cache.channels? now maxAge limit = some channels) :
    cache.channels now maxAge limit = channels := by
  obtain ⟨gathered, extended, rfl⟩ := Option.map_eq_some_iff.1 answered
  rw [SightingCache.channels, extendChannels, gatherChannels_of_gatherChannels? extended]

end SightingCache

namespace Manager

variable {manager after : Manager} {operation : Operation} {operations : List Operation} {id : ProfileId}

theorem tryEnable_of_tryEnable? {polled : Manager × Bool} (goes : manager.tryEnable? id = some polled) :
    manager.tryEnable id = polled := by
  unfold tryEnable? at goes
  unfold tryEnable
  cases found : manager.roster.get? id with
  | none =>
      rw [found] at goes
      exact Option.some.inj goes
  | some profile =>
      rw [found] at goes
      obtain ⟨outcome, polls, rfl⟩ := Option.map_eq_some_iff.1 goes
      simp only [Rules.tryEnable, polls, Option.getD_some]

theorem collect_of_collect? {work : Manager → ProfileId → Manager × Bool} {work? : Manager → ProfileId → Option (Manager × Bool)}
    (agrees : ∀ manager id outcome, work? manager id = some outcome → work manager id = outcome) {ids : List ProfileId}
    {collected : Manager × List ProfileId} (goes : collect? work? manager ids = some collected) :
    collect work manager ids = collected := by
  induction ids generalizing manager collected with
  | nil => exact Option.some.inj goes
  | cons id rest ih =>
      obtain ⟨⟨middle, done⟩, worked, goes⟩ := Option.bind_eq_some_iff.1 goes
      obtain ⟨later, collects, rfl⟩ := Option.map_eq_some_iff.1 goes
      rw [collect, agrees manager id (middle, done) worked]
      simp only [ih collects]

theorem recordConnected_of_recordConnected? {noted : Manager × Bool} (goes : manager.recordConnected? id = some noted) :
    manager.recordConnected id = noted := by
  unfold recordConnected? at goes
  split at goes
  · cases goes
  · exact Option.some.inj goes

theorem recordDisconnected_of_recordDisconnected? {noted : Manager × Bool}
    (goes : manager.recordDisconnected? id = some noted) : manager.recordDisconnected id = noted := by
  unfold recordDisconnected? at goes
  cases found : manager.roster.get? id with
  | none =>
      rw [found] at goes
      rw [recordDisconnected, noteStored, found]
      exact Option.some.inj goes
  | some profile =>
      rw [found] at goes
      obtain ⟨_, _, same⟩ := Option.map_eq_some_iff.1 goes
      exact same

theorem observeLive_of_observeLive? {bssid : Address} {level : Int32} {read : Manager × Option Int32}
    (goes : manager.observeLive? id bssid level = some read) : manager.observeLive id bssid level = read := by
  unfold observeLive? at goes
  unfold observeLive
  cases found : manager.roster.get? id with
  | none =>
      rw [found] at goes
      exact Option.some.inj goes
  | some profile =>
      rw [found] at goes
      cases cached : manager.caches.get? id with
      | none =>
          rw [cached] at goes
          exact Option.some.inj goes
      | some cache =>
          rw [cached] at goes
          obtain ⟨refreshed, refreshes, rfl⟩ := Option.map_eq_some_iff.1 goes
          simp only [SightingCache.refresh, refreshes, Option.getD_some]

theorem renewLease_of_renewLease? {seconds : UInt32} {renewed : Manager × Bool}
    (goes : manager.renewLease? id seconds = some renewed) : manager.renewLease id seconds = renewed := by
  unfold renewLease? at goes
  cases eager : (manager.roster.get? id).filter manager.randomizer.policy.isAggressive with
  | none =>
      have mild : manager.isAggressive id = false := by
        cases found : manager.roster.get? id with
        | none => rw [isAggressive, found, Option.any_none]
        | some profile => simpa [isAggressive, found] using eager
      rw [eager] at goes
      rw [renewLease, mild]
      exact Option.some.inj goes
  | some profile =>
      rw [eager] at goes
      obtain ⟨_, _, same⟩ := Option.map_eq_some_iff.1 goes
      exact same

theorem checkDismissal_of_checkDismissal? {ssid : String} {checked : Manager × Bool}
    (goes : manager.checkDismissal? ssid = some checked) : manager.checkDismissal ssid = checked := by
  rw [checkDismissal, goes, Option.getD_some]

/-- A step that does not stop the program is that of `perform`. -/
theorem perform_of_perform? {outcome : Manager × Answer} (goes : manager.perform? operation = some outcome) :
    manager.perform operation = outcome := by
  have mapped {α : Type} {answer : α → Answer} {asked : Option (Manager × α)} {total : Manager × α}
      (agrees : ∀ result, asked = some result → total = result)
      (goes : asked.map (Prod.map (fun manager => manager) answer) = some outcome) :
      total.map (fun manager => manager) answer = outcome := by
    obtain ⟨result, came, rfl⟩ := Option.map_eq_some_iff.1 goes
    rw [agrees result came]
  cases operation with
  | checkDismissal ssid => exact mapped (fun _ => checkDismissal_of_checkDismissal?) goes
  | tryEnable id => exact mapped (fun _ => tryEnable_of_tryEnable?) goes
  | tryEnableAll =>
      exact mapped (fun _ => collect_of_collect? fun _ _ _ => tryEnable_of_tryEnable?) goes
  | recordConnected id => exact mapped (fun _ => recordConnected_of_recordConnected?) goes
  | recordDisconnected id => exact mapped (fun _ => recordDisconnected_of_recordDisconnected?) goes
  | observeLive id bssid level => exact mapped (fun _ => observeLive_of_observeLive?) goes
  | renewLease id seconds => exact mapped (fun _ => renewLease_of_renewLease?) goes
  | _ =>
      unfold perform? at goes
      simp only at goes
      split at goes
      · exact Option.some.inj goes
      · cases goes

/-- The ids last as long as no step stops the program. -/
theorem room_of_perform? {outcome : Manager × Answer} (goes : manager.perform? operation = some outcome) :
    manager.nextId.toNat + manager.idsTaken operation < UInt32.size := by
  have small := manager.nextId.toNat_lt
  cases operation with
  | checkDismissal | tryEnable | tryEnableAll | recordConnected | recordDisconnected | observeLive | renewLease =>
      simpa [idsTaken] using small
  | _ =>
      unfold perform? at goes
      simp only at goes
      split at goes
      · assumption
      · cases goes

/-- A run that gets to its end is that of `run`, and the ids last along it. -/
theorem run_of_run? (goes : manager.run? operations = some after) : manager.run operations = after ∧
    manager.Along (fun manager operation => manager.nextId.toNat + manager.idsTaken operation < UInt32.size) operations := by
  induction operations generalizing manager with
  | nil => exact ⟨Option.some.inj goes, trivial⟩
  | cons operation rest ih =>
      obtain ⟨outcome, stepped, goes⟩ := Option.bind_eq_some_iff.1 goes
      obtain ⟨ends, lasts⟩ := ih goes
      rw [← perform_of_perform? stepped] at ends lasts
      exact ⟨ends, room_of_perform? stepped, lasts⟩

theorem gatherLinked_of_gatherLinked? {maxAge : Millis} {limit : Nat} {keys : List ProfileKey} {channels gathered : List UInt32}
    (answered : manager.gatherLinked? maxAge limit keys channels = some gathered) :
    manager.gatherLinked maxAge limit keys channels = gathered := by
  induction keys generalizing channels with
  | nil => exact Option.some.inj answered
  | cons key rest ih =>
      rw [gatherLinked?] at answered
      rw [gatherLinked]
      cases known : (manager.roster.getByKey? key).bind fun linked => manager.caches.get? linked.id with
      | none =>
          rw [known] at answered
          exact ih answered
      | some cache =>
          rw [known] at answered
          obtain ⟨⟨extended, room⟩, gathers, answered⟩ := Option.bind_eq_some_iff.1 answered
          simp only [SightingCache.extendChannels, SightingCache.gatherChannels_of_gatherChannels? gathers]
          simp only at answered
          split at answered
          · next more => rw [if_pos more, ih answered]
          · next full => rw [if_neg full, Option.some.inj answered]

theorem gatherOwn_of_gatherOwn? {cache : Option SightingCache} {maxAge : Millis} {limit : Nat} {channels : List UInt32}
    {gathered : List UInt32 × Bool} (answered : manager.gatherOwn? cache maxAge limit channels = some gathered) :
    manager.gatherOwn cache maxAge limit channels = gathered := by
  cases cache with
  | none => exact Option.some.inj answered
  | some cache => exact SightingCache.gatherChannels_of_gatherChannels? answered

theorem partialScanChannels_of_partialScan? {maxAge : Millis} {home : UInt32} {answer : Option (List UInt32)}
    (answered : manager.partialScan? id maxAge home = some answer) : manager.partialScanChannels? id maxAge home = answer := by
  unfold partialScan? at answered
  unfold partialScanChannels?
  cases found : manager.roster.get? id with
  | none =>
      rw [found] at answered
      exact Option.some.inj answered
  | some profile =>
      rw [found] at answered
      simp only at answered ⊢
      split at answered
      · next unknown => exact (if_pos unknown).trans (Option.some.inj answered)
      · next seen =>
          rw [if_neg seen]
          generalize (if home = 0 then [] else [home]) = start at answered ⊢
          split at answered
          · next full => exact (if_pos full).trans (Option.some.inj answered)
          · next room =>
              obtain ⟨⟨channels, more⟩, own, answered⟩ := Option.bind_eq_some_iff.1 answered
              rw [if_neg room, gatherOwn_of_gatherOwn? own]
              cases more with
              | false => exact Option.some.inj answered
              | true =>
                  obtain ⟨all, linked, rfl⟩ := Option.map_eq_some_iff.1 answered
                  simp only [gatherLinked_of_gatherLinked? linked]

theorem preferredFrequencies_of_preferredFrequencies? {profile : Profile} {frequencies : List UInt32}
    (answered : manager.preferredFrequencies? profile = some frequencies) :
    manager.preferredFrequencies profile = frequencies := by
  unfold preferredFrequencies? at answered
  unfold preferredFrequencies
  by_cases culled : manager.settings.preferredCulling = true
  · rw [if_pos culled] at answered ⊢
    cases known : manager.caches.get? profile.id with
    | none =>
        rw [known] at answered
        exact Option.some.inj answered
    | some cache =>
        rw [known] at answered
        exact SightingCache.channels_of_channels? answered
  · rw [if_neg culled] at answered ⊢
    exact Option.some.inj answered

theorem preferredNetworks_of_preferredNetworks? {networks : List PreferredNetwork}
    (answered : manager.preferredNetworks? = some networks) : manager.preferredNetworks = networks := by
  unfold preferredNetworks? at answered
  unfold preferredNetworks
  generalize manager.preferredProfiles = profiles at answered ⊢
  induction profiles generalizing networks with
  | nil => exact Option.some.inj answered
  | cons profile rest ih =>
      rw [List.mapM_cons] at answered
      obtain ⟨network, first, answered⟩ := Option.bind_eq_some_iff.1 answered
      obtain ⟨others, later, answered⟩ := Option.bind_eq_some_iff.1 answered
      obtain ⟨frequencies, visited, rfl⟩ := Option.map_eq_some_iff.1 first
      rw [← Option.some.inj answered, List.map_cons, ih later, preferredFrequencies_of_preferredFrequencies? visited]

end Manager

end SavedNetworks
