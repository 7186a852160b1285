import SavedNetworks.Manager.Selecting

/-!
Scans: sightings of the profiles, channels worth a visit, the list for scans in the background, and the
station addresses for connections.
-/

namespace SavedNetworks

/-- An entry of the list for scans in the background. -/
structure PreferredNetwork where
  ssid : String
  security : Security
  hidden : Bool
  frequencies : List UInt32
deriving DecidableEq

namespace Profile

/-- Comes no later in a scan list: more associations first, then those seen in the last round. -/
def scansBefore (left right : Profile) : Bool :=
  right.stats.associations < left.stats.associations ||
    (left.stats.associations == right.stats.associations &&
      (left.selection.seenInLastRound || !right.selection.seenInLastRound))

def scanOrder (profiles : List Profile) : List Profile := profiles.mergeSort scansBefore

def isLatest (profiles : List Profile) (profile : Profile) : Bool :=
  0 < profile.stats.lastConnectedAt &&
    profiles.all fun other => other.stats.lastConnectedAt ≤ profile.stats.lastConnectedAt

def hoistLatest (profiles : List Profile) : List Profile :=
  match profiles.findIdx? (isLatest profiles) with
  | some index =>
    match profiles[index]? with
    | some profile => profile :: profiles.eraseIdx index
    | none => profiles
  | none => profiles

end Profile

namespace Manager

def matching? (manager : Manager) (sighting : Sighting) : Option Profile :=
  manager.roster.getByKey? (.ofNetwork sighting.ssid sighting.security)

def observe (manager : Manager) (id : ProfileId) (sighting : Sighting) : Manager × Bool :=
  match manager.roster.get? id with
  | none => (manager, false)
  | some profile =>
    let cache := (manager.caches.get? id).getD (.ofLimits manager.settings.cacheLimits)
    let caches := manager.caches.insert id (cache.put sighting profile.ephemeral)
    let (roster, _) := manager.settings.linkRule.reconsider manager.roster caches id
    ({ manager with caches, roster }, true)

/-- Takes in a reading of the transmitter that the station is connected to. Returns the level stored. -/
def observeLive (manager : Manager) (id : ProfileId) (bssid : Address) (level : Int32) :
    Manager × Option Int32 :=
  match manager.roster.get? id, manager.caches.get? id with
  | some _, some cache =>
    let (cache, stored) := cache.refresh bssid level manager.platform.wall manager.settings.liveSignalMaxAge
    ({ manager with caches := manager.caches.insert id cache }, stored)
  | _, _ => (manager, none)

/-- The channels of the linked profiles' caches, in the order of keys, after those that are there. -/
def gatherLinked (manager : Manager) (maxAge : Millis) (limit : Nat) :
    List ProfileKey → List UInt32 → List UInt32
  | [], channels => channels
  | key :: rest, channels =>
    match (manager.roster.getByKey? key).bind fun linked => manager.caches.get? linked.id with
    | none => manager.gatherLinked maxAge limit rest channels
    | some cache =>
      let (channels, room) := cache.extendChannels channels manager.platform.wall maxAge limit
      if room then manager.gatherLinked maxAge limit rest channels else channels

/-- The channels after those of the profile's own cache, and whether there is room for more. -/
def gatherOwn (manager : Manager) (cache : Option SightingCache) (maxAge : Millis) (limit : Nat)
    (channels : List UInt32) : List UInt32 × Bool :=
  match cache with
  | some cache => cache.extendChannels channels manager.platform.wall maxAge limit
  | none => (channels, true)

/-- The channels for a quick scan while connected to a profile: the home channel, those of the profile,
those of its linked profiles. None if the profile is not seen or nothing is known about it. -/
def partialScanChannels? (manager : Manager) (id : ProfileId) (maxAge : Millis) (home : UInt32) :
    Option (List UInt32) :=
  match manager.roster.get? id with
  | none => none
  | some profile =>
    let cache := manager.caches.get? id
    let limit := manager.settings.partialScanMaxChannels
    if cache.isNone && profile.linked.isEmpty then none
    else
      let start := if home = 0 then [] else [home]
      if start ≠ [] ∧ limit ≤ start.length then some start
      else
        match manager.gatherOwn cache maxAge limit start with
        | (channels, false) => some channels
        | (channels, true) =>
          some ((manager.gatherLinked maxAge limit profile.linked.toList channels).take limit)

def preferredFrequencies (manager : Manager) (profile : Profile) : List UInt32 :=
  if manager.settings.preferredCulling then
    match manager.caches.get? profile.id with
    | some cache => cache.channels manager.platform.wall manager.settings.preferredMaxAge (UInt64.size - 1)
    | none => []
  else []

/-- The profiles for scans in the background, the most promising first. -/
def preferredProfiles (manager : Manager) : List Profile :=
  let ordered := Profile.scanOrder
    (manager.roster.visible.filter fun profile => profile.isSaved && profile.selection.isEnabled)
  if manager.settings.preferredRecency then Profile.hoistLatest ordered else ordered

def preferredNetworks (manager : Manager) : List PreferredNetwork :=
  manager.preferredProfiles.map fun profile =>
    { ssid := profile.ssid
      security := profile.security
      hidden := profile.hidden
      frequencies := manager.preferredFrequencies profile }

/-- The SSIDs of hidden profiles in the order of scan lists. -/
def hiddenNetworks (manager : Manager) : List String :=
  (Profile.scanOrder (manager.roster.visible.filter Profile.hidden)).map Profile.ssid

/-- The station address for the next connection; none if the profile shows the station's own. -/
def connectionAddress (manager : Manager) (id : ProfileId) : Manager × Option Address :=
  match manager.roster.get? id with
  | none => (manager, none)
  | some profile =>
    if !manager.randomizer.policy.supported || profile.addressChoice == .own then (manager, none)
    else
      let (randomizer, profile, address) := manager.randomizer.forConnection profile manager.platform.wall
      ({ manager with randomizer }.modify id fun _ => profile, address)

def isAggressive (manager : Manager) (id : ProfileId) : Bool :=
  (manager.roster.get? id).any manager.randomizer.policy.isAggressive

/-- Keeps a fresh address for as long as the lease that was obtained with it. -/
def renewLease (manager : Manager) (id : ProfileId) (seconds : UInt32) : Manager × Bool :=
  if manager.isAggressive id then
    (manager.modify id fun profile =>
      { profile with station := profile.station.renew seconds manager.platform.wall }, true)
  else (manager, false)

/-- A profile with a randomized address on a network that is known to dislike them. -/
def isFlaky (manager : Manager) (id : ProfileId) : Bool :=
  (manager.roster.get? id).any fun profile =>
    profile.addressChoice == .persistent && manager.settings.flakyNetworks.contains profile.ssid

end Manager

end SavedNetworks
