import SavedNetworks.Address
import SavedNetworks.Network.Security

/-!
One sighting of a transmitter.
-/

namespace SavedNetworks

structure Sighting where
  ssid : String
  bssid : Address
  security : Security
  /-- Signal level in dBm. -/
  level : Int32
  /-- Centre frequency in MHz. -/
  frequency : UInt32
  firstSeenAt : Int64
  seenAt : Int64
  untrusted : Bool
deriving DecidableEq

end SavedNetworks
