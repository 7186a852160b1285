import SavedNetworks.Manager.Operation

/-!
What stops the program: an age or an expiry that is no time, and a count of connections or an id beyond its word. A step
that does not stop is that of `Manager.perform`.
-/

namespace SavedNetworks

namespace StoreData

/-- The records that a load takes in. -/
def loaded (data : StoreData) (withSection : Bool) : List Profile :=
  data.shared ++ if withSection then data.tenant.profiles else []

end StoreData

namespace Manager

/-- The manager after the section of the outgoing tenant was written, if it is unlocked. -/
def putAway (manager : Manager) : Manager :=
  if manager.platform.isUnlocked manager.tenant then manager.persist true else manager

/-- The stored private profiles of a tenant, as far as they can be read now. -/
def sectionOf (manager : Manager) (tenant : Tenant) : List Profile :=
  match (manager.store.readTenant tenant).2 with
  | .ok tenantSection => tenantSection.profiles
  | .error _ => []

/-- How many ids an operation hands out. -/
def idsTaken (manager : Manager) : Operation → Nat
  | .addOrUpdate draft caller => if (manager.addOrUpdate draft caller).1.nextId = manager.nextId then 0 else 1
  | .load => match (manager.store.read manager.tenant).2 with
    | .ok data => (data.loaded (manager.unlockDeferred || manager.platform.isUnlocked manager.tenant)).length
    | .error _ => 0
  | .switchTenant tenant =>
      if tenant ≠ manager.tenant ∧ manager.awaitsStore = false ∧ manager.platform.isUnlocked tenant = true then
        (manager.putAway.sectionOf tenant).length
      else 0
  | .unlockTenant tenant =>
      if tenant = manager.tenant ∧ manager.awaitsStore = false ∧ manager.awaitsUnlock = true then
        (manager.sectionOf tenant).length
      else 0
  | _ => 0

def tryEnable? (manager : Manager) (id : ProfileId) : Option (Manager × Bool) :=
  match manager.roster.get? id with
  | none => some (manager, false)
  | some profile =>
    let blocked := min (manager.platform.blockedCount profile.ssid) manager.settings.maxBlocked
    (manager.settings.rules.tryEnable? profile.selection manager.platform.elapsed blocked).map
      fun (selection, transition) => (manager.setSelection id profile selection transition, transition == .enabled)

def collect? (operation : Manager → ProfileId → Option (Manager × Bool)) :
    Manager → List ProfileId → Option (Manager × List ProfileId)
  | manager, [] => some (manager, [])
  | manager, id :: rest =>
    (operation manager id).bind fun (manager, done) =>
      (collect? operation manager rest).map fun (manager, ids) => (manager, if done then id :: ids else ids)

def tryEnableAll? (manager : Manager) : Option (Manager × List ProfileId) :=
  collect? tryEnable? manager
    ((manager.roster.visible.filter (·.selection.isTemporarilyDisabled)).map Profile.id)

/-- Stops if the profile was connected to as often as can be counted. -/
def recordConnected? (manager : Manager) (id : ProfileId) : Option (Manager × Bool) :=
  if (manager.roster.get? id).any fun profile => UInt64.size ≤ profile.stats.associations.toNat + 1 then none
  else some (manager.recordConnected id)

def recordDisconnected? (manager : Manager) (id : ProfileId) : Option (Manager × Bool) :=
  match manager.roster.get? id with
  | none => some (manager, false)
  | some profile =>
    (profile.station.extendAfterDisconnect? manager.platform.wall).map fun _ => manager.recordDisconnected id

def observeLive? (manager : Manager) (id : ProfileId) (bssid : Address) (level : Int32) :
    Option (Manager × Option Int32) :=
  match manager.roster.get? id, manager.caches.get? id with
  | some _, some cache =>
    (cache.refresh? bssid level manager.platform.wall manager.settings.liveSignalMaxAge).map
      fun (cache, stored) => ({ manager with caches := manager.caches.insert id cache }, stored)
  | _, _ => some (manager, none)

def renewLease? (manager : Manager) (id : ProfileId) (seconds : UInt32) : Option (Manager × Bool) :=
  match (manager.roster.get? id).filter manager.randomizer.policy.isAggressive with
  | none => some (manager, false)
  | some profile => (profile.station.renew? seconds manager.platform.wall).map fun _ => manager.renewLease id seconds

/-- One step; none if it stops the program. -/
def perform? (manager : Manager) : Operation → Option (Manager × Answer)
  | .checkDismissal ssid => (manager.checkDismissal? ssid).map (Prod.map id .flag)
  | .tryEnable profile => (manager.tryEnable? profile).map (Prod.map id .flag)
  | .tryEnableAll => manager.tryEnableAll?.map (Prod.map id .ids)
  | .recordConnected profile => (manager.recordConnected? profile).map (Prod.map id .flag)
  | .recordDisconnected profile => (manager.recordDisconnected? profile).map (Prod.map id .flag)
  | .observeLive profile bssid level => (manager.observeLive? profile bssid level).map (Prod.map id .level)
  | .renewLease profile seconds => (manager.renewLease? profile seconds).map (Prod.map id .flag)
  | operation =>
    if manager.nextId.toNat + manager.idsTaken operation < UInt32.size then some (manager.perform operation) else none

def run? (manager : Manager) : List Operation → Option Manager
  | [] => some manager
  | operation :: rest => (manager.perform? operation).bind fun (manager, _) => manager.run? rest

def gatherLinked? (manager : Manager) (maxAge : Millis) (limit : Nat) :
    List ProfileKey → List UInt32 → Option (List UInt32)
  | [], channels => some channels
  | key :: rest, channels =>
    match (manager.roster.getByKey? key).bind fun linked => manager.caches.get? linked.id with
    | none => manager.gatherLinked? maxAge limit rest channels
    | some cache =>
      (cache.extendChannels? channels manager.platform.wall maxAge limit).bind fun (channels, room) =>
        if room then manager.gatherLinked? maxAge limit rest channels else some channels

def gatherOwn? (manager : Manager) (cache : Option SightingCache) (maxAge : Millis) (limit : Nat)
    (channels : List UInt32) : Option (List UInt32 × Bool) :=
  match cache with
  | some cache => cache.extendChannels? channels manager.platform.wall maxAge limit
  | none => some (channels, true)

/-- The answer of `partialScanChannels?`; none if the question stops the program. -/
def partialScan? (manager : Manager) (id : ProfileId) (maxAge : Millis) (home : UInt32) :
    Option (Option (List UInt32)) :=
  match manager.roster.get? id with
  | none => some none
  | some profile =>
    let cache := manager.caches.get? id
    let limit := manager.settings.partialScanMaxChannels
    if cache.isNone && profile.linked.isEmpty then some none
    else
      let start := if home = 0 then [] else [home]
      if start ≠ [] ∧ limit ≤ start.length then some (some start)
      else
        (manager.gatherOwn? cache maxAge limit start).bind fun
          | (channels, false) => some (some channels)
          | (channels, true) =>
            (manager.gatherLinked? maxAge limit profile.linked.toList channels).map fun channels =>
              some (channels.take limit)

def preferredFrequencies? (manager : Manager) (profile : Profile) : Option (List UInt32) :=
  if manager.settings.preferredCulling then
    match manager.caches.get? profile.id with
    | some cache => cache.channels? manager.platform.wall manager.settings.preferredMaxAge (UInt64.size - 1)
    | none => some []
  else some []

def preferredNetworks? (manager : Manager) : Option (List PreferredNetwork) :=
  manager.preferredProfiles.mapM fun profile =>
    (manager.preferredFrequencies? profile).map fun frequencies =>
      { ssid := profile.ssid
        security := profile.security
        hidden := profile.hidden
        frequencies }

end Manager

end SavedNetworks
