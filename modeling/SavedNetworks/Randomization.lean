import SavedNetworks.Profile.Basic

/-!
Which address a station shows to a network. Most profiles have a persistent address, which a device
secret and the profile's key determine; networks that opted in get a fresh random address once the
previous one has expired.
-/

namespace SavedNetworks

/-- Which networks opted into fresh addresses. A name on either block list did not. -/
structure RandomizationPolicy where
  supported : Bool
  deviceAllowed : SortedSet String
  deviceBlocked : SortedSet String
  resourceAllowed : SortedSet String
  resourceBlocked : SortedSet String
deriving DecidableEq

namespace RandomizationPolicy

def optedIn (policy : RandomizationPolicy) (ssid : String) : Bool :=
  !(policy.deviceBlocked.contains ssid || policy.resourceBlocked.contains ssid) &&
    (policy.deviceAllowed.contains ssid || policy.resourceAllowed.contains ssid)

/-- A fresh address for every expiry, rather than one that persists. -/
def isAggressive (policy : RandomizationPolicy) (profile : Profile) : Bool :=
  policy.supported && profile.addressChoice == .persistent && profile.ip.assignment != .fixed &&
    policy.optedIn profile.ssid

end RandomizationPolicy

namespace StationAddress

def minLease : Millis := 30 * Millis.minute

def maxLease : Millis := Millis.day

/-- An address is kept at least so long after a disconnection. -/
def keptAfterDisconnect : Millis := 4 * Millis.hour

/-- The duration of a lease within the bounds for keeping an address. -/
def leaseDuration (seconds : UInt32) : Millis :=
  min (max (Int64.ofNat seconds.toNat * 1000) minLease) maxLease

/-- The address is kept for the duration of a lease. None if it halts on the sum. -/
def renew? (station : StationAddress) (seconds : UInt32) (now : Millis) : Option StationAddress :=
  (Millis.add? now (leaseDuration seconds)).map fun expiresAt => { station with expiresAt }

def renew (station : StationAddress) (seconds : UInt32) (now : Millis) : StationAddress :=
  (station.renew? seconds now).getD station

def extendAfterDisconnect? (station : StationAddress) (now : Millis) : Option StationAddress :=
  (Millis.add? now keptAfterDisconnect).map fun kept => { station with expiresAt := max station.expiresAt kept }

def extendAfterDisconnect (station : StationAddress) (now : Millis) : StationAddress :=
  (station.extendAfterDisconnect? now).getD station

end StationAddress

/-- The source of station addresses: the policy, the keyed digest of the device secret (none while there
is no key), addresses that earlier releases stored, and the random bytes not used yet. -/
structure Randomizer where
  policy : RandomizationPolicy
  digest : String → Option (List UInt8)
  legacy : SortedMap String String
  random : List UInt8

namespace Randomizer

def ofPolicy (policy : RandomizationPolicy) (digest : String → Option (List UInt8)) (random : List UInt8) :
    Randomizer :=
  { policy, digest, legacy := .empty, random }

def loadLegacy (randomizer : Randomizer) (addresses : SortedMap String String) : Randomizer :=
  { randomizer with legacy := randomizer.legacy.union addresses }

def clearLegacy (randomizer : Randomizer) : Randomizer := { randomizer with legacy := .empty }

/-- The address that a legacy entry stands for, if it is fit for use. -/
def usable? (stored : String) : Option Address := (Address.ofText? stored).filter Address.isUsable

/-- The address that the device secret gives to a key. -/
def derived? (randomizer : Randomizer) (key : String) : Option Address :=
  (randomizer.digest key).bind Address.ofBytes?

/-- The persistent address of a key. A usable legacy entry wins; an unusable one is dropped. -/
def persistent (randomizer : Randomizer) (key : String) : Randomizer × Option Address :=
  match randomizer.legacy.get? key with
  | none => (randomizer, randomizer.derived? key)
  | some stored =>
    match usable? stored with
    | some address => (randomizer, some address)
    | none => ({ randomizer with legacy := randomizer.legacy.erase key }, randomizer.derived? key)

def drawFresh (randomizer : Randomizer) : Randomizer × Address :=
  let (address, random) := Address.draw randomizer.random
  ({ randomizer with random }, address)

/-- The address of a profile that is new or was stored without one. -/
def initial (randomizer : Randomizer) (profile : Profile) : Randomizer × Option Address :=
  if randomizer.policy.isAggressive profile then
    let (randomizer, address) := randomizer.drawFresh
    (randomizer, some address)
  else randomizer.persistent profile.key.text

/-- The address for the next connection, with the profile that remembers it. -/
def forConnection (randomizer : Randomizer) (profile : Profile) (now : Millis) :
    Randomizer × Profile × Option Address :=
  let shown (address : Address) : Profile := { profile with station := { profile.station with address } }
  if randomizer.policy.isAggressive profile then
    if profile.station.expiresAt < now then
      let (randomizer, address) := randomizer.drawFresh
      (randomizer, shown address, some address)
    else (randomizer, profile, some profile.station.address)
  else
    match randomizer.persistent profile.key.text with
    | (randomizer, some address) => (randomizer, shown address, some address)
    | (randomizer, none) => (randomizer, profile, none)

theorem isUsable_usable? {stored : String} {address : Address} (read : usable? stored = some address) :
    address.isUsable = true := by
  simp only [usable?, Option.filter_eq_some_iff] at read
  exact read.2

theorem isUsable_drawFresh (randomizer : Randomizer) : randomizer.drawFresh.2.isUsable = true :=
  Address.isUsable_draw randomizer.random

end Randomizer

end SavedNetworks
