import SavedNetworks.Request.Basic
import SavedNetworks.Sighting.Basic

/-!
The written form of sightings, and sightings as arguments.
-/

namespace SavedNetworks

namespace Sighting

def toJson (sighting : Sighting) : Json :=
  .object
    [("ssid", .text sighting.ssid),
      ("bssid", sighting.bssid.toJson),
      ("security", sighting.security.toJson),
      ("level", .ofInt32 sighting.level),
      ("frequency", .ofUInt32 sighting.frequency),
      ("first_seen_ms", .ofInt64 sighting.firstSeenAt),
      ("seen_ms", .ofInt64 sighting.seenAt),
      ("untrusted", .bool sighting.untrusted)]

end Sighting

namespace Json

/-- A sighting of which the transmitter and the time are given at least. -/
def needSighting (request : Json) (name : String) : Reading Sighting := do
  let document ← request.need name record?
  let bssid ← document.needAddress "bssid"
  let seenAt ← document.need "seen_ms" int64?
  return {
    ssid := ← document.want "ssid" text? "x"
    bssid
    security := ← document.want "security" Security.ofJson? .psk
    level := ← document.want "level" int32? (-50)
    frequency := ← document.want "frequency" uint32? 2412
    firstSeenAt := ← document.want "first_seen_ms" int64? seenAt
    seenAt
    untrusted := ← document.want "untrusted" bool? false }

end Json

end SavedNetworks
