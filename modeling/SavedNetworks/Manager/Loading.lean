import SavedNetworks.Manager.Selecting

/-!
Reading the store, and following the tenants: which of them is in the foreground, and whether its private
section is in memory.
-/

namespace SavedNetworks

namespace Enterprise

/-- What an anonymous identity starts with that may stay when the SIM card is changed. -/
def anonymousAtRealm : List Char := ['a', 'n', 'o', 'n', 'y', 'm', 'o', 'u', 's', '@']

/-- Forgets the identities that came from a SIM card. -/
def resetSim (enterprise : Enterprise) : Enterprise :=
  if enterprise.usesSim then
    { enterprise with
      identity := ""
      anonymousIdentity :=
        if anonymousAtRealm.isPrefixOf enterprise.anonymousIdentity.toList then enterprise.anonymousIdentity
        else "" }
  else enterprise

end Enterprise

namespace Manager

/-- Gives a stored profile an id. One whose key is taken is left out. -/
def insertLoaded (manager : Manager) (profile : Profile) : Manager :=
  let (manager, id) := manager.allocateId
  match manager.roster.put { profile with id } with
  | .ok roster => { manager with roster }
  | .error _ => manager

def insertAll (manager : Manager) (profiles : List Profile) : Manager := profiles.foldl insertLoaded manager

def takeSection (manager : Manager) (tenantSection : TenantSection) : Manager :=
  let manager := manager.insertAll tenantSection.profiles
  { manager with dismissed := manager.dismissed.union tenantSection.dismissed }

def supplyAddress (manager : Manager) (id : ProfileId) : Manager :=
  match manager.roster.get? id with
  | none => manager
  | some profile =>
    if profile.station.address = .sentinel then
      let (randomizer, address) := manager.randomizer.initial profile
      let manager := { manager with randomizer }
      match address with
      | some address => manager.modify id fun profile =>
          { profile with station := { profile.station with address } }
      | none => manager
    else manager

def supplyAddresses (manager : Manager) : Manager := manager.roster.ids.foldl supplyAddress manager

/-- Forgets the identities that came from a SIM card which may have been changed. -/
def resetSim (manager : Manager) : Manager :=
  { manager with
    roster := manager.roster.modifyVisible fun profile =>
      { profile with enterprise := profile.enterprise.map Enterprise.resetSim } }

def clearMemory (manager : Manager) : Manager :=
  { manager with
    roster := manager.roster.clear
    dismissed := .empty
    randomizer := manager.randomizer.clearLegacy
    caches := .empty
    lastSelected := none }

def announceReload (manager : Manager) : Manager :=
  manager.announce (.reloaded manager.roster.size manager.platform.wall)

/-- Fills the memory with what was read. The section of a locked tenant is left for later. -/
def replaceMemory (manager : Manager) (data : StoreData) (withSection : Bool) : Manager :=
  let manager := manager.clearMemory.insertAll data.shared
  let manager := { manager with randomizer := manager.randomizer.loadLegacy data.addresses }
  let manager := if withSection then manager.takeSection data.tenant else manager
  let manager := { manager with awaitsUnlock := !withSection }
  { manager.supplyAddresses.resetSim.announceReload with awaitsStore := false }

def load (manager : Manager) : Manager × Except ManagerError Nat :=
  let withSection := manager.unlockDeferred || manager.platform.isUnlocked manager.tenant
  let manager := { manager with unlockDeferred := false }
  match manager.store.read manager.tenant with
  | (store, .error failure) => ({ manager with store }, .error (.store failure))
  | (store, .ok data) =>
    let manager := { manager with store }.replaceMemory data withSection
    (manager, .ok manager.roster.size)

/-- Reads the section of the current tenant; if that fails, nothing but the store has changed. -/
def loadSection (manager : Manager) : Manager :=
  match manager.store.readTenant manager.tenant with
  | (store, .error _) => { manager with store }
  | (store, .ok tenantSection) =>
    let manager := { manager with store }.takeSection tenantSection
    ({ manager with awaitsUnlock := false }.persist true).announceReload

def privateIds (manager : Manager) : List ProfileId :=
  (manager.roster.visible.filter fun profile => !profile.shared && manager.hasUid profile.creator.uid).map
    Profile.id

/-- Drops the private profiles of the current tenant, and all that is not kept across tenants. -/
def clearTenant (manager : Manager) : Manager :=
  { manager with
    roster := manager.privateIds.foldl Roster.remove manager.roster
    dismissed := .empty
    caches := .empty
    lastSelected := none }

/-- Brings a tenant to the foreground and returns the ids of the profiles that were dropped. -/
def switchTenant (manager : Manager) (tenant : Tenant) : Manager × List ProfileId :=
  if tenant = manager.tenant then (manager, [])
  else if manager.awaitsStore then
    ({ manager with
      roster := manager.roster.switchTo tenant
      unlockDeferred := false
      awaitsUnlock := true }, [])
  else
    let manager := if manager.platform.isUnlocked manager.tenant then manager.persist true else manager
    let dropped := manager.privateIds
    let manager := manager.clearTenant
    let manager := { manager with roster := manager.roster.switchTo tenant }
    if manager.platform.isUnlocked tenant then (manager.loadSection, dropped)
    else ({ manager with awaitsUnlock := true }, dropped)

/-- Notes that a tenant was unlocked; if it is the current one, its section is read. -/
def unlockTenant (manager : Manager) (tenant : Tenant) : Manager :=
  if tenant ≠ manager.tenant then manager
  else if manager.awaitsStore then { manager with unlockDeferred := true }
  else if manager.awaitsUnlock then manager.loadSection
  else manager

/-- Writes and drops the private profiles of the current tenant when it stops. -/
def stopTenant (manager : Manager) (tenant : Tenant) : Manager :=
  if tenant = manager.tenant ∧ manager.platform.isUnlocked tenant then (manager.persist true).clearTenant
  else manager

end Manager

end SavedNetworks
