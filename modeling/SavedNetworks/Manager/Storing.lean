import SavedNetworks.Manager.State

/-!
Writing the profiles to the store. Saved profiles of the current tenant go to its private section unless
they are shared; all other saved profiles go to the shared section.
-/

namespace SavedNetworks.Manager

def belongsToShared (manager : Manager) (profile : Profile) : Bool :=
  profile.shared || !manager.hasUid profile.creator.uid

def sections (manager : Manager) : StoreData :=
  let saved := manager.roster.all.filter Profile.isSaved
  { shared := saved.filter manager.belongsToShared
    tenant :=
      { profiles := saved.filter fun profile => !manager.belongsToShared profile
        dismissed := manager.dismissed }
    addresses := manager.randomizer.legacy }

/-- The tenant whose section may be replaced: none while that section is not in memory. -/
def writtenTenant (manager : Manager) : Option Tenant :=
  if manager.awaitsUnlock then none else some manager.tenant

def save (manager : Manager) (force : Bool) : Manager × Except ManagerError Unit :=
  if manager.awaitsStore then (manager, .error .storeNotRead)
  else
    let (store, answer) := manager.store.write manager.writtenTenant manager.sections force
    ({ manager with store }, answer.mapError .store)

def persist (manager : Manager) (force : Bool) : Manager := (manager.save force).1

def flush (manager : Manager) : Manager × Except ManagerError Unit :=
  let (store, answer) := manager.store.flush
  ({ manager with store }, answer.mapError .store)

end SavedNetworks.Manager
