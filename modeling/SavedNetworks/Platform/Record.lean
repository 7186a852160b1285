import SavedNetworks.Platform.Basic
import SavedNetworks.Request.Basic

/-!
A device as it is described in a request.
-/

namespace SavedNetworks

namespace Privileges

def read (document : Json) : Reading Privileges := do
  let uids (name : String) : Reading (List Uid) := document.want name (Json.listOf? Json.uint32?) []
  let owners (name : String) : Reading (List (Uid × String)) :=
    document.want name (Json.listOf? (Json.pairOf? Json.uint32? Json.text?)) []
  let networkSettings ← uids "network_settings"
  let setupWizard ← uids "setup_wizard"
  let deviceOwners ← owners "device_owners"
  let profileOwners ← owners "profile_owners"
  return {
    changesNetworks := networkSettings.contains
    runsSetup := setupWizard.contains
    ownsDevice := fun uid package => deviceOwners.contains (uid, package)
    ownsProfile := fun uid package => profileOwners.contains (uid, package) }

end Privileges

namespace Platform

def read (request : Json) : Reading Platform := do
  let permissions ← request.want "permissions" Json.record? (.record [])
  let rejected ← request.want "keystore_rejects" (Json.listOf? Json.text?) []
  return {
    elapsed := ← request.want "elapsed_ms" Json.int64? 0
    wall := ← request.want "wall_ms" Json.int64? 1700000000000
    privileges := ← Privileges.read permissions
    blocked := .empty
    watchdog := ← request.want "watchdog" Json.bool? false
    unlocked := ← request.want "unlocked" (Json.setOf? Json.uint32?) (.ofList [0])
    acceptsKeys := fun profile _ => !rejected.contains profile.ssid }

end Platform

end SavedNetworks
