import SavedNetworks.Manager.Editing
import SavedNetworks.Manager.Loading
import SavedNetworks.Manager.Scanning
import SavedNetworks.Manager.Viewing

/-!
Everything that can happen to a manager, as values: what its callers ask of it, and what changes around
it. A run is a list of operations.
-/

namespace SavedNetworks

inductive Change where
  | advance (duration : Millis)
  | setWall (wall : Millis)
  | block (ssid : String) (count : UInt32)
  | setWatchdog (raised : Bool)
  | unlock (tenant : Tenant)
  | lock (tenant : Tenant)
  | failNextRead
  | failWrites (fail : Bool)
  /-- Somebody else writes to the store. -/
  | write (tenant : Option Tenant) (data : StoreData)
deriving DecidableEq

inductive Operation where
  | change (change : Change)
  | restart
  | addListener (listener : Listener)
  | setVerbose (verbose : Bool)
  | load
  | save (force : Bool)
  | flush
  | addOrUpdate (draft : Draft) (caller : Owner)
  | remove (id : ProfileId) (caller : Owner)
  | enable (id : ProfileId) (exclusive : Bool) (caller : Owner)
  | disable (id : ProfileId) (caller : Owner)
  | dismiss (ssid : String)
  | checkDismissal (ssid : String)
  | clearDismissals
  | removeForApp (app : Owner)
  | removeForTenant (tenant : Tenant)
  | removeUnsaved
  | removeSuggestion (key : ProfileKey)
  | removePasspoint (key : ProfileKey)
  | updateSelection (id : ProfileId) (reason : Reason)
  | updateSelectionCode (id : ProfileId) (code : Int32)
  | tryEnable (id : ProfileId)
  | tryEnableAll
  | recordConnected (id : ProfileId)
  | recordDisconnected (id : ProfileId)
  | setConnectChoice (id : ProfileId) (choice : ConnectChoice)
  | clearConnectChoice (id : ProfileId)
  | setCandidate (id : ProfileId) (candidate : Candidate)
  | clearCandidate (id : ProfileId)
  | reportNoInternet (id : ProfileId)
  | setValidated (id : ProfileId) (validated : Bool)
  | setNoInternetExpected (id : ProfileId) (expected : Bool)
  | setAutojoin (id : ProfileId) (allowed : Bool)
  | setLastConnectUid (id : ProfileId) (uid : Uid)
  | setRecentFailure (id : ProfileId) (code : UInt16)
  | clearRecentFailure (id : ProfileId)
  | setGateway (id : ProfileId) (gateway : String)
  | observe (id : ProfileId) (sighting : Sighting)
  | observeLive (id : ProfileId) (bssid : Address) (level : Int32)
  | connectionAddress (id : ProfileId)
  | renewLease (id : ProfileId) (seconds : UInt32)
  | switchTenant (tenant : Tenant)
  | unlockTenant (tenant : Tenant)
  | stopTenant (tenant : Tenant)
  | resetSim
deriving DecidableEq

inductive Answer where
  | done
  | flag (value : Bool)
  | count (value : Nat)
  | edited (result : EditResult)
  | ids (ids : List ProfileId)
  | profile (profile : Option Profile)
  | level (level : Option Int32)
  | address (address : Option Address)
  | failed (failure : ManagerError)
deriving DecidableEq

namespace Answer

def ofExcept {α : Type} (answer : α → Answer) : Except ManagerError α → Answer
  | .ok value => answer value
  | .error failure => failed failure

end Answer

namespace Manager

def undergo (manager : Manager) : Change → Manager
  | .advance duration => manager.onPlatform (·.advance duration)
  | .setWall wall => manager.onPlatform ({ · with wall })
  | .block ssid count => manager.onPlatform fun platform =>
      { platform with blocked := platform.blocked.insert ssid count }
  | .setWatchdog raised => manager.onPlatform ({ · with watchdog := raised })
  | .unlock tenant => manager.onPlatform fun platform =>
      { platform with unlocked := platform.unlocked.insert tenant }
  | .lock tenant => manager.onPlatform fun platform =>
      { platform with unlocked := platform.unlocked.erase tenant }
  | .failNextRead => { manager with store := manager.store.failNextRead }
  | .failWrites fail => { manager with store := manager.store.failWrites fail }
  | .write tenant data => { manager with store := manager.store.writeOutside tenant data }

def perform (manager : Manager) : Operation → Manager × Answer
  | .change change => (manager.undergo change, .done)
  | .restart => (manager.restart, .done)
  | .addListener listener => (manager.addListener listener, .done)
  | .setVerbose verbose => (manager.setVerbose verbose, .done)
  | .load => manager.load.map id (.ofExcept .count)
  | .save force => (manager.save force).map id (.ofExcept fun _ => .done)
  | .flush => manager.flush.map id (.ofExcept fun _ => .done)
  | .addOrUpdate draft caller => (manager.addOrUpdate draft caller).map id (.ofExcept .edited)
  | .remove profile caller => (manager.remove profile caller).map id .flag
  | .enable profile exclusive caller => (manager.enable profile exclusive caller).map id .flag
  | .disable profile caller => (manager.disable profile caller).map id .flag
  | .dismiss ssid => (manager.dismiss ssid).map id .profile
  | .checkDismissal ssid => (manager.checkDismissal ssid).map id .flag
  | .clearDismissals => (manager.clearDismissals, .done)
  | .removeForApp app => (manager.removeForApp app).map id .ids
  | .removeForTenant tenant => (manager.removeForTenant tenant).map id .ids
  | .removeUnsaved => manager.removeUnsaved.map id .flag
  | .removeSuggestion key => (manager.removeSuggestion key).map id .flag
  | .removePasspoint key => (manager.removePasspoint key).map id .flag
  | .updateSelection profile reason => (manager.updateSelection profile reason).map id .flag
  | .updateSelectionCode profile code => (manager.updateSelectionCode profile code).map id .flag
  | .tryEnable profile => (manager.tryEnable profile).map id .flag
  | .tryEnableAll => manager.tryEnableAll.map id .ids
  | .recordConnected profile => (manager.recordConnected profile).map id .flag
  | .recordDisconnected profile => (manager.recordDisconnected profile).map id .flag
  | .setConnectChoice profile choice => (manager.setConnectChoice profile choice).map id .flag
  | .clearConnectChoice profile => (manager.clearConnectChoice profile).map id .flag
  | .setCandidate profile candidate => (manager.setCandidate profile candidate).map id .flag
  | .clearCandidate profile => (manager.clearCandidate profile).map id .flag
  | .reportNoInternet profile => (manager.reportNoInternet profile).map id .flag
  | .setValidated profile validated => (manager.setValidated profile validated).map id .flag
  | .setNoInternetExpected profile expected => (manager.setNoInternetExpected profile expected).map id .flag
  | .setAutojoin profile allowed => (manager.setAutojoin profile allowed).map id .flag
  | .setLastConnectUid profile uid => (manager.setLastConnectUid profile uid).map id .flag
  | .setRecentFailure profile code => (manager.setRecentFailure profile code).map id .flag
  | .clearRecentFailure profile => (manager.clearRecentFailure profile).map id .flag
  | .setGateway profile gateway => (manager.setGateway profile gateway).map id .flag
  | .observe profile sighting => (manager.observe profile sighting).map id .flag
  | .observeLive profile bssid level => (manager.observeLive profile bssid level).map id .level
  | .connectionAddress profile => (manager.connectionAddress profile).map id .address
  | .renewLease profile seconds => (manager.renewLease profile seconds).map id .flag
  | .switchTenant tenant => (manager.switchTenant tenant).map id .ids
  | .unlockTenant tenant => (manager.unlockTenant tenant, .done)
  | .stopTenant tenant => (manager.stopTenant tenant, .done)
  | .resetSim => (manager.resetSim, .done)

def run (manager : Manager) (operations : List Operation) : Manager :=
  operations.foldl (fun manager operation => (manager.perform operation).1) manager

end Manager

end SavedNetworks
