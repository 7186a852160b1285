import SavedNetworks.Collection.SortedMap
import SavedNetworks.Profile.Basic

/-!
What the manager asks the device that it runs on.
-/

namespace SavedNetworks

structure Privileges where
  changesNetworks : Uid → Bool
  runsSetup : Uid → Bool
  ownsDevice : Uid → String → Bool
  ownsProfile : Uid → String → Bool

namespace Privileges

def none : Privileges :=
  { changesNetworks := fun _ => false
    runsSetup := fun _ => false
    ownsDevice := fun _ _ => false
    ownsProfile := fun _ _ => false }

end Privileges

structure Platform where
  /-- Monotonic time: disablings and backoffs. -/
  elapsed : Millis
  /-- Wall-clock time: connections, dismissals and expiries. -/
  wall : Millis
  privileges : Privileges
  /-- How many transmitters of a network are blocked. -/
  blocked : SortedMap String UInt32
  /-- Raised while the last network worth trying must not be disabled. -/
  watchdog : Bool
  unlocked : SortedSet Tenant
  /-- The verdict of the key store on the credentials of a profile that is added or replaces another. -/
  acceptsKeys : Profile → Option Profile → Bool

namespace Platform

def start (elapsed wall : Millis) : Platform :=
  { elapsed
    wall
    privileges := .none
    blocked := .empty
    watchdog := false
    unlocked := .ofList [0]
    acceptsKeys := fun _ _ => true }

def advance (platform : Platform) (duration : Millis) : Platform :=
  { platform with elapsed := platform.elapsed + duration, wall := platform.wall + duration }

def blockedCount (platform : Platform) (ssid : String) : UInt32 := (platform.blocked.get? ssid).getD 0

def isUnlocked (platform : Platform) (tenant : Tenant) : Bool := platform.unlocked.contains tenant

end Platform

end SavedNetworks
