import SavedNetworks.Event.Basic
import SavedNetworks.Platform.Basic
import SavedNetworks.Profile.Validation
import SavedNetworks.Settings.Basic
import SavedNetworks.Store.Basic

/-!
The state of a manager, the errors of its operations, and the journal of what it announced and asked of
the key store.
-/

namespace SavedNetworks

inductive ManagerError where
  | validation (failure : ValidationError)
  | permissionDenied (uid : Uid) (id : ProfileId)
  | proxyPermissionDenied (uid : Uid)
  | randomizationPermissionDenied (uid : Uid)
  | foreignTenant (uid : Uid)
  | storeNotRead
  | keyStoreRejected (key : ProfileKey)
  | duplicateKey (conflict : KeyHeld)
  | store (failure : StoreError)
deriving DecidableEq

namespace ManagerError

private def word (value : UInt32) : String := String.ofList (Text.decimal value.toNat)

/-- The text of an error; failures of the store are told by their cause alone. -/
def message : ManagerError → String
  | validation failure => "invalid profile: " ++ failure.message
  | permissionDenied uid id => "uid " ++ word uid ++ " may not modify profile " ++ word id.value
  | proxyPermissionDenied uid => "uid " ++ word uid ++ " may not change proxy settings"
  | randomizationPermissionDenied uid => "uid " ++ word uid ++ " may not change address randomization settings"
  | foreignTenant uid => "uid " ++ word uid ++ " does not belong to the current tenant"
  | storeNotRead => "profiles have not been read from the store yet"
  | keyStoreRejected key => "key store rejected the credentials of " ++ key.text
  | duplicateKey conflict => conflict.message
  | store _ => "store error"

end ManagerError

inductive Notice where
  | event (event : Event)
  /-- The key store was shown the credentials of `updated`, in place of those of `existing`. -/
  | keysShown (updated : Profile) (existing : Option Profile) (accepted : Bool)
  /-- The key store was told to forget credentials. -/
  | keysForgotten (enterprise : Enterprise)
deriving DecidableEq

structure Manager where
  settings : Settings
  platform : Platform
  store : Store
  listeners : List Listener
  roster : Roster
  caches : Caches
  randomizer : Randomizer
  nextId : UInt32
  /-- The profile that the user picked last, with the monotonic time of the pick. -/
  lastSelected : Option (ProfileId × Millis)
  /-- The SSIDs of dismissed ephemeral networks, with the wall-clock time of the dismissal. -/
  dismissed : SortedMap String Millis
  /-- Nothing was read from the store yet. -/
  awaitsStore : Bool
  /-- The section of the current tenant is not in memory, and is not to be overwritten. -/
  awaitsUnlock : Bool
  /-- The current tenant was unlocked before the store was read. -/
  unlockDeferred : Bool
  verbose : Bool
  journal : List Notice

namespace Manager

/-- A manager that has not read its store. -/
def start (settings : Settings) (platform : Platform) (store : Store) (listeners : List Listener)
    (digest : String → Option (List UInt8)) (random : List UInt8) : Manager :=
  { settings
    platform
    store
    listeners
    roster := .empty
    caches := .empty
    randomizer := .ofPolicy settings.randomizationPolicy digest random
    nextId := 0
    lastSelected := none
    dismissed := .empty
    awaitsStore := true
    awaitsUnlock := false
    unlockDeferred := false
    verbose := settings.verbose
    journal := [] }

/-- The manager that follows this one: the same device, settings and store, and nothing in memory. -/
def restart (manager : Manager) : Manager :=
  { start manager.settings manager.platform manager.store.reopen manager.listeners
      manager.randomizer.digest manager.randomizer.random with
    journal := manager.journal }

def tenant (manager : Manager) : Tenant := manager.roster.tenant

def hasUid (manager : Manager) (uid : Uid) : Bool := uid.inTenant manager.tenant

/-- The wall-clock time as records show it; empty beyond the calendar. -/
def stamp (manager : Manager) : String := (Moment.text? manager.platform.wall.toInt).getD ""

def notice (manager : Manager) (notice : Notice) : Manager :=
  { manager with journal := manager.journal ++ [notice] }

def announce (manager : Manager) (event : Event) : Manager := manager.notice (.event event)

def allocateId (manager : Manager) : Manager × ProfileId :=
  ({ manager with nextId := manager.nextId + 1 }, ⟨manager.nextId⟩)

def modify (manager : Manager) (id : ProfileId) (change : Profile → Profile) : Manager :=
  { manager with roster := manager.roster.modify id change }

def addListener (manager : Manager) (listener : Listener) : Manager :=
  { manager with listeners := manager.listeners ++ [listener] }

def setVerbose (manager : Manager) (verbose : Bool) : Manager := { manager with verbose }

def onPlatform (manager : Manager) (change : Platform → Platform) : Manager :=
  { manager with platform := change manager.platform }

end Manager

end SavedNetworks
