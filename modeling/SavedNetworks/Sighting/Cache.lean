import SavedNetworks.Collection.SortedMap
import SavedNetworks.Millis
import SavedNetworks.Sighting.Basic

/-!
The recent sightings of one profile, by transmitter. A cache that outgrows its limit is cut back to the
sightings that were made last.
-/

namespace SavedNetworks

structure CacheLimits where
  maxSize : Nat
  trimSize : Nat
deriving DecidableEq

namespace CacheLimits

def default : CacheLimits := ⟨192, 128⟩

end CacheLimits

structure SightingCache where
  limits : CacheLimits
  sightings : SortedMap Address Sighting
deriving DecidableEq

namespace SightingCache

def ofLimits (limits : CacheLimits) : SightingCache := ⟨limits, .empty⟩

def size (cache : SightingCache) : Nat := cache.sightings.size

def get? (cache : SightingCache) (bssid : Address) : Option Sighting := cache.sightings.get? bssid

def bssids (cache : SightingCache) : List Address := cache.sightings.keys

/-- Oldest first; sightings of one time in the order of their addresses. -/
def byAge (cache : SightingCache) : List Sighting :=
  cache.sightings.values.mergeSort fun left right => left.seenAt ≤ right.seenAt

/-- Newest first; sightings of one time in the order of their addresses. -/
def byRecency (cache : SightingCache) : List Sighting :=
  cache.sightings.values.mergeSort fun left right => right.seenAt ≤ left.seenAt

/-- Drops the oldest sightings beyond `limits.trimSize`. -/
def trim (cache : SightingCache) : SightingCache :=
  let dropped := (cache.byAge.take (cache.size - cache.limits.trimSize)).map Sighting.bssid
  { cache with sightings := cache.sightings.filter fun bssid _ => !dropped.contains bssid }

/-- What is stored for a new sighting: it remembers the earliest first time of its transmitter, and is
not trusted if its owner is ephemeral. -/
def admitted (cache : SightingCache) (sighting : Sighting) (ownerEphemeral : Bool) : Sighting :=
  { sighting with
    untrusted := sighting.untrusted || ownerEphemeral
    firstSeenAt := match cache.get? sighting.bssid with
      | some previous => min previous.firstSeenAt sighting.firstSeenAt
      | none => sighting.firstSeenAt }

/-- Stores a sighting in place of the previous one of its transmitter. -/
def put (cache : SightingCache) (sighting : Sighting) (ownerEphemeral : Bool) : SightingCache :=
  let grown :=
    { cache with sightings := cache.sightings.insert sighting.bssid (cache.admitted sighting ownerEphemeral) }
  if grown.limits.maxSize < grown.size then grown.trim else grown

/-- The level to store for a live reading. A previous reading younger than half of `maxAge` still counts
with a weight that falls from one half to nothing. -/
def blend (previous : Sighting) (level : Int32) (age maxAge : Millis) : Int32 :=
  if 0 < previous.seenAt ∧ 0 < age ∧ age < maxAge / 2 then
    let weight := 0.5 - age.toFloat / maxAge.toFloat
    (level.toFloat * (1.0 - weight) + previous.level.toFloat * weight).toInt32
  else level

/-- Refreshes the sighting of the transmitter that the station is connected to. None if it halts on the age
of the previous one. -/
def refresh? (cache : SightingCache) (bssid : Address) (level : Int32) (now maxAge : Millis) :
    Option (SightingCache × Option Int32) :=
  match cache.get? bssid with
  | none => some (cache, none)
  | some previous =>
    (Millis.sub? now previous.seenAt).map fun age =>
      let level := blend previous level age maxAge
      ({ cache with sightings := cache.sightings.insert bssid { previous with seenAt := now, level } }, some level)

def refresh (cache : SightingCache) (bssid : Address) (level : Int32) (now maxAge : Millis) :
    SightingCache × Option Int32 :=
  (cache.refresh? bssid level now maxAge).getD (cache, none)

/-- Young enough for its channel to be worth a scan. None if it halts on the age. -/
def isFresh? (now maxAge : Millis) (sighting : Sighting) : Option Bool :=
  (Millis.sub? now sighting.seenAt).map (· < maxAge)

def isFresh (now maxAge : Millis) (sighting : Sighting) : Bool := (isFresh? now maxAge sighting).getD false

/-- Appends the new channels of the fresh sightings in order until `limit` channels are there. Says
whether there is room for more. -/
def gatherChannels (now maxAge : Millis) (limit : Nat) :
    List Sighting → List UInt32 → List UInt32 × Bool
  | [], channels => (channels, true)
  | sighting :: rest, channels =>
    let channels :=
      if isFresh now maxAge sighting && !channels.contains sighting.frequency then
        channels ++ [sighting.frequency]
      else channels
    if limit ≤ channels.length then (channels, false) else gatherChannels now maxAge limit rest channels

/-- The same, halting on the first age that is no time. Sightings beyond the limit are not looked at. -/
def gatherChannels? (now maxAge : Millis) (limit : Nat) :
    List Sighting → List UInt32 → Option (List UInt32 × Bool)
  | [], channels => some (channels, true)
  | sighting :: rest, channels =>
    (isFresh? now maxAge sighting).bind fun fresh =>
      let channels :=
        if fresh && !channels.contains sighting.frequency then channels ++ [sighting.frequency] else channels
      if limit ≤ channels.length then some (channels, false) else gatherChannels? now maxAge limit rest channels

def extendChannels (cache : SightingCache) (channels : List UInt32) (now maxAge : Millis) (limit : Nat) :
    List UInt32 × Bool :=
  gatherChannels now maxAge limit cache.byRecency channels

def extendChannels? (cache : SightingCache) (channels : List UInt32) (now maxAge : Millis) (limit : Nat) :
    Option (List UInt32 × Bool) :=
  gatherChannels? now maxAge limit cache.byRecency channels

def channels (cache : SightingCache) (now maxAge : Millis) (limit : Nat) : List UInt32 :=
  (cache.extendChannels [] now maxAge limit).1

def channels? (cache : SightingCache) (now maxAge : Millis) (limit : Nat) : Option (List UInt32) :=
  (cache.extendChannels? [] now maxAge limit).map Prod.fst

theorem get?_put_of_room (cache : SightingCache) (sighting : Sighting) (ownerEphemeral : Bool)
    (room : (cache.sightings.insert sighting.bssid (cache.admitted sighting ownerEphemeral)).size ≤
      cache.limits.maxSize) (bssid : Address) :
    (cache.put sighting ownerEphemeral).get? bssid =
      if bssid = sighting.bssid then some (cache.admitted sighting ownerEphemeral) else cache.get? bssid := by
  have fits : ¬ cache.limits.maxSize <
      (cache.sightings.insert sighting.bssid (cache.admitted sighting ownerEphemeral)).size := by omega
  simp only [put, size, fits, if_false]
  exact SortedMap.get?_insert ..

end SightingCache

end SavedNetworks
