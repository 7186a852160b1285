import SavedNetworks.Proofs.Manager.References
import SavedNetworks.Proofs.Manager.Runs
import SavedNetworks.Proofs.Sighting.Retention

/-!
The caches of observations: only an observation puts anything into one (`Manager.cachesFrom_perform`), so that in every
reachable state each sighting stands under the address of its transmitter, and only profiles that are seen have caches.
-/

namespace SavedNetworks

/-- Puts a sighting into a cache, or changes one that is there. -/
def Operation.observes : Operation → Bool
  | observe _ _ | observeLive _ _ _ => true
  | _ => false

namespace Manager

variable {manager after : Manager} {operation : Operation} {id : ProfileId} {cache : SightingCache}

/-- Every cache is one from before. -/
def CachesFrom (manager after : Manager) : Prop :=
  ∀ id cache, after.caches.get? id = some cache → manager.caches.get? id = some cache

theorem CachesFrom.of_references (same : after.references = manager.references) : manager.CachesFrom after := by
  have caches : after.caches = manager.caches := (Prod.mk.inj same).1
  intro id cache found
  rwa [caches] at found

theorem CachesFrom.of_cleared (cleared : after.references = (.empty, none)) : manager.CachesFrom after := by
  have caches : after.caches = .empty := (Prod.mk.inj cleared).1
  intro id cache found
  rw [caches] at found
  cases found

theorem CachesFrom.refl (manager : Manager) : manager.CachesFrom manager := fun _ _ => id

theorem CachesFrom.trans {last : Manager} (former : manager.CachesFrom after) (latter : after.CachesFrom last) :
    manager.CachesFrom last :=
  fun id cache found => former id cache (latter id cache found)

theorem cachesFrom_removeAnyway (manager : Manager) (id : ProfileId) : manager.CachesFrom (manager.removeAnyway id).1 := by
  cases found : manager.roster.get? id with
  | none =>
      rw [removeAnyway_of_not_found found]
      exact .refl manager
  | some profile =>
      have caches : (manager.removeAnyway id).1.caches = manager.caches.erase id :=
        (Prod.mk.inj (removeAnyway_spec found).2).1
      intro other cache cached
      rw [caches, SortedMap.get?_erase] at cached
      split at cached
      · cases cached
      · exact cached

theorem cachesFrom_collect (manager : Manager) (ids : List ProfileId) :
    manager.CachesFrom (collect removeAnyway manager ids).1 := by
  induction ids generalizing manager with
  | nil => exact .refl manager
  | cons id rest ih => exact (cachesFrom_removeAnyway manager id).trans (ih _)

theorem cachesFrom_removeByKey (manager : Manager) (key : ProfileKey) (doomed : Profile → Bool) :
    manager.CachesFrom (manager.removeByKey key doomed).1 := by
  unfold removeByKey
  split
  · exact cachesFrom_removeAnyway manager _
  · exact .refl manager

theorem cachesFrom_addOrUpdate (manager : Manager) (draft : Draft) (caller : Owner) :
    manager.CachesFrom (manager.addOrUpdate draft caller).1 := by
  have way : manager.CachesFrom (manager.giveWay draft) := by
    unfold giveWay
    split
    · exact cachesFrom_removeAnyway manager _
    · exact .refl manager
  obtain ⟨failure, refused⟩ | ⟨edit, _, _, _, outcome⟩ := addOrUpdate_cases manager draft caller
  · rw [refused]
    exact .refl manager
  · have carried := way.trans (.of_references (references_carryOut (manager.giveWay draft) draft edit))
    rw [outcome]
    generalize (manager.giveWay draft).carryOut draft edit = done at carried
    obtain ⟨done, failure | result⟩ := done
    · exact carried
    · exact carried.trans (.of_references (references_followUp done result))

theorem cachesFrom_enable (manager : Manager) (id : ProfileId) (exclusive : Bool) (caller : Owner) :
    manager.CachesFrom (manager.enable id exclusive caller).1 := by
  unfold enable
  split
  · exact .refl manager
  · split
    · have picked : manager.CachesFrom { manager with lastSelected := some (id, manager.platform.elapsed) } := .refl manager
      exact picked.trans (.of_references (references_decide _ id .enable caller))
    · exact .of_references (references_decide manager id .enable caller)

theorem cachesFrom_disable (manager : Manager) (id : ProfileId) (caller : Owner) :
    manager.CachesFrom (manager.disable id caller).1 := by
  unfold disable
  split
  · exact .refl manager
  · have dropped : manager.CachesFrom (manager.deselect id) := by
      rw [deselect_eq]
      exact .refl manager
    exact dropped.trans (.of_references (references_decide _ id .byManager caller))

theorem cachesFrom_load (manager : Manager) : manager.CachesFrom manager.load.1 := by
  cases read : (manager.store.read manager.tenant).2 with
  | error failure =>
      rw [load_of_error read]
      exact .refl manager
  | ok data => exact .of_cleared (references_load_of_ok read)

theorem cachesFrom_switchTenant (manager : Manager) (tenant : Tenant) :
    manager.CachesFrom (manager.switchTenant tenant).1 := by
  have left : manager.CachesFrom (manager.leave tenant) := .of_cleared (references_leave manager tenant)
  obtain ⟨_, switched⟩ | ⟨_, _, switched⟩ | ⟨_, _, _, switched⟩ | ⟨_, _, _, switched⟩ := manager.switchTenant_cases tenant
  all_goals rw [switched]
  · exact .refl manager
  · exact .refl manager
  · exact left.trans (.of_references (references_loadSection _))
  · exact left

theorem cachesFrom_stopTenant (manager : Manager) (tenant : Tenant) : manager.CachesFrom (manager.stopTenant tenant) := by
  obtain ⟨_, same⟩ | ⟨_, _, stops⟩ := manager.stopTenant_cases tenant
  · rw [same]
    exact .refl manager
  · rw [stops]
    exact .of_cleared (references_clearTenant _)

/-- Only observations put anything into a cache. -/
theorem cachesFrom_perform (quiet : operation.observes = false) : manager.CachesFrom (manager.perform operation).1 := by
  cases keeps : operation.keepsReferences with
  | true => exact .of_references (references_perform keeps)
  | false =>
      cases operation with
      | restart => exact .of_cleared rfl
      | load => exact cachesFrom_load manager
      | addOrUpdate draft caller => exact cachesFrom_addOrUpdate manager draft caller
      | remove id caller =>
          simp only [perform, Prod.map_fst, id_eq]
          rcases manager.remove_cases id caller with refused | ⟨granted, _⟩
          · rw [refused]
            exact .refl manager
          · rw [granted]
            exact cachesFrom_removeAnyway manager id
      | removeForApp | removeForTenant | removeUnsaved => exact cachesFrom_collect manager _
      | removeSuggestion key | removePasspoint key => exact cachesFrom_removeByKey manager key _
      | enable id exclusive caller => exact cachesFrom_enable manager id exclusive caller
      | disable id caller => exact cachesFrom_disable manager id caller
      | switchTenant tenant => exact cachesFrom_switchTenant manager tenant
      | stopTenant tenant => exact cachesFrom_stopTenant manager tenant
      | observe | observeLive => cases quiet
      | _ => cases keeps

/-- In every cache each sighting stands under the address of its transmitter. -/
def CachesKeyed (manager : Manager) : Prop := ∀ id cache, manager.caches.get? id = some cache → cache.Keyed

theorem CachesKeyed.insert {caches : Caches} (keyed : manager.CachesKeyed) (new : cache.Keyed)
    (inserted : caches = manager.caches.insert id cache) : ({ manager with caches } : Manager).CachesKeyed := by
  intro other kept found
  have there : caches.get? other = some kept := found
  rw [inserted, SortedMap.get?_insert] at there
  split at there
  · cases there
    exact new
  · exact keyed other kept there

theorem cachesKeyed_observe (keyed : manager.CachesKeyed) (id : ProfileId) (sighting : Sighting) :
    (manager.observe id sighting).1.CachesKeyed := by
  unfold observe
  split
  · exact keyed
  · next profile _ =>
      have before : ((manager.caches.get? id).getD (.ofLimits manager.settings.cacheLimits)).Keyed := by
        cases found : manager.caches.get? id with
        | none => exact SightingCache.keyed_ofLimits _
        | some cache => exact keyed id cache found
      exact keyed.insert (before.put sighting profile.ephemeral) rfl

theorem cachesKeyed_observeLive (keyed : manager.CachesKeyed) (id : ProfileId) (bssid : Address) (level : Int32) :
    (manager.observeLive id bssid level).1.CachesKeyed := by
  unfold observeLive
  split
  · next cache _ found =>
      exact keyed.insert ((keyed id cache found).refresh bssid level manager.platform.wall manager.settings.liveSignalMaxAge) rfl
  · exact keyed

theorem cachesKeyed_perform (keyed : manager.CachesKeyed) (operation : Operation) :
    (manager.perform operation).1.CachesKeyed := by
  cases observes : operation.observes with
  | false => exact fun id cache found => keyed id cache (cachesFrom_perform observes id cache found)
  | true =>
      cases operation with
      | observe id sighting => exact cachesKeyed_observe keyed id sighting
      | observeLive id bssid level => exact cachesKeyed_observeLive keyed id bssid level
      | _ => cases observes

theorem Reachable.cachesKeyed (reached : manager.Reachable) : manager.CachesKeyed := by
  induction reached with
  | start => exact fun _ _ found => nomatch found
  | perform _ _ ih => exact cachesKeyed_perform ih _

theorem Reachable.attached (reached : manager.Reachable) : manager.Attached := by
  induction reached with
  | start => exact attached_of_cleared rfl
  | perform reached room ih => exact attached_perform reached.sound reached.idle room.taking ih

end Manager

end SavedNetworks
