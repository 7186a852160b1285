import SavedNetworks.Manager.Operation
import SavedNetworks.Sighting.Record
import SavedNetworks.Store.Record

/-!
Operations of a manager as requests, and what they answer as documents.
-/

namespace SavedNetworks

namespace ManagerError

def kind : ManagerError → String
  | validation failure => "Validation:" ++ failure.kind
  | permissionDenied .. => "PermissionDenied"
  | proxyPermissionDenied _ => "ProxyPermissionDenied"
  | randomizationPermissionDenied _ => "RandomizationPermissionDenied"
  | foreignTenant _ => "ForeignTenant"
  | storeNotRead => "StoreNotRead"
  | keyStoreRejected _ => "KeyStoreRejected"
  | duplicateKey _ => "DuplicateKey"
  | store _ => "Store"

def toJson : ManagerError → Json
  | store cause => .object [("error", .text "Store"), ("cause", cause.toJson)]
  | error => .failureWith error.kind error.message

end ManagerError

namespace EditResult

def toJson (result : EditResult) : Json :=
  .object
    [("id", result.id.toJson),
      ("is_new", .bool result.isNew),
      ("ip_changed", .bool result.ipChanged),
      ("proxy_changed", .bool result.proxyChanged),
      ("credential_changed", .bool result.credentialsChanged)]

end EditResult

namespace PreferredNetwork

def toJson (network : PreferredNetwork) : Json :=
  .object
    [("ssid", .text network.ssid),
      ("security", network.security.toJson),
      ("hidden", .bool network.hidden),
      ("frequencies", .list (network.frequencies.map .ofUInt32))]

end PreferredNetwork

namespace Masking

def ofJson? (document : Json) : Option Masking :=
  if document.text? = some "full" then some full else document.uint32?.map unlessOwner

end Masking

namespace Json

def wantId (request : Json) : Reading ProfileId := request.want "id" ProfileId.ofJson? .unset

def wantKey (request : Json) : Reading ProfileKey := request.want "key" ProfileKey.ofJson? ⟨""⟩

def wantSsid (request : Json) : Reading String := request.want "ssid" text? ""

def needTenant (request : Json) : Reading Tenant := request.need "tenant" uint32?

def wantCaller (request : Json) : Reading Owner := do
  return ⟨← request.want "uid" uint32? Uid.system, ← request.want "package" text? "android"⟩

end Json

namespace Change

def read? (request : Json) : String → Option (Reading Change)
  | "advance" => some do return advance (← request.need "ms" Json.int64?)
  | "set_wall" => some do return setWall (← request.need "ms" Json.int64?)
  | "block" => some do return block (← request.wantSsid) (← request.need "count" Json.uint32?)
  | "watchdog" => some do return setWatchdog (← request.need "raised" Json.bool?)
  | "unlock" => some do return unlock (← request.needTenant)
  | "lock" => some do return lock (← request.needTenant)
  | "fail_next_read" => some (return failNextRead)
  | "fail_writes" => some do return failWrites (← request.need "on" Json.bool?)
  | "store_write" => some do
    return write (← request.maybe "tenant" Json.uint32?) (← StoreData.read request)
  | _ => none

/-- Reaches into the store, which has to be in memory for that. -/
def isOnStore : Change → Bool
  | failNextRead | failWrites _ | write .. => true
  | _ => false

end Change

namespace Operation

def readConnecting? (request : Json) : String → Option (Reading Operation)
  | "connected" => some do return recordConnected (← request.wantId)
  | "disconnected" => some do return recordDisconnected (← request.wantId)
  | "no_internet_report" => some do return reportNoInternet (← request.wantId)
  | "validated" => some do return setValidated (← request.wantId) (← request.need "value" Json.bool?)
  | "no_internet_expected" => some do
    return setNoInternetExpected (← request.wantId) (← request.need "value" Json.bool?)
  | "autojoin" => some do return setAutojoin (← request.wantId) (← request.need "value" Json.bool?)
  | "last_connect_uid" => some do
    return setLastConnectUid (← request.wantId) (← request.want "uid" Json.uint32? Uid.system)
  | "recent_failure" => some do return setRecentFailure (← request.wantId) (← request.need "code" Json.uint16?)
  | "clear_recent_failure" => some do return clearRecentFailure (← request.wantId)
  | "gateway" => some do return setGateway (← request.wantId) (← request.need "gateway" Json.text?)
  | "observe" => some do return observe (← request.wantId) (← request.needSighting "observation")
  | "live" => some do
    let id ← request.wantId
    return observeLive id (← request.needAddress "bssid") (← request.need "level" Json.int32?)
  | "address" => some do return connectionAddress (← request.wantId)
  | "lease" => some do return renewLease (← request.wantId) (← request.need "secs" Json.uint32?)
  | _ => none

def readSelecting? (request : Json) : String → Option (Reading Operation)
  | "enable" => some do
    return enable (← request.wantId) (← request.want "exclusive" Json.bool? false) (← request.wantCaller)
  | "disable" => some do return disable (← request.wantId) (← request.wantCaller)
  | "status" => some do return updateSelection (← request.wantId) (← request.need "reason" Reason.ofJson?)
  | "status_code" => some do return updateSelectionCode (← request.wantId) (← request.need "code" Json.int32?)
  | "try_enable" => some do return tryEnable (← request.wantId)
  | "try_enable_all" => some (return tryEnableAll)
  | "set_connect_choice" => some do
    return setConnectChoice (← request.wantId) ⟨← request.wantKey, ← request.need "timestamp_ms" Json.int64?⟩
  | "clear_connect_choice" => some do return clearConnectChoice (← request.wantId)
  | "set_candidate" => some do
    let id ← request.wantId
    return setCandidate id ⟨← request.needSighting "observation", ← request.need "score" Json.int32?⟩
  | "clear_candidate" => some do return clearCandidate (← request.wantId)
  | _ => none

def readKeeping? (request : Json) : String → Option (Reading Operation)
  | "load" => some (return load)
  | "save" => some do return save (← request.need "force" Json.bool?)
  | "flush" => some (return flush)
  | "add" => some do return addOrUpdate (← request.need "input" Draft.ofArgument?) (← request.wantCaller)
  | "remove" => some do return remove (← request.wantId) (← request.wantCaller)
  | "disable_ephemeral" => some do return dismiss (← request.wantSsid)
  | "was_ephemeral_deleted" => some do return checkDismissal (← request.wantSsid)
  | "clear_deleted_ephemeral" => some (return clearDismissals)
  | "remove_for_app" => some do return removeForApp (← request.wantCaller)
  | "remove_for_tenant" => some do return removeForTenant (← request.needTenant)
  | "remove_all_ephemeral_or_passpoint" => some (return removeUnsaved)
  | "remove_suggestion" => some do return removeSuggestion (← request.wantKey)
  | "remove_passpoint" => some do return removePasspoint (← request.wantKey)
  | "tenant_switch" => some do return switchTenant (← request.needTenant)
  | "tenant_unlock" => some do return unlockTenant (← request.needTenant)
  | "tenant_stop" => some do return stopTenant (← request.needTenant)
  | "reset_sim" => some (return resetSim)
  | "verbose" => some do return setVerbose (← request.need "on" Json.bool?)
  | _ => none

def read? (request : Json) (name : String) : Option (Reading Operation) :=
  readKeeping? request name <|> readSelecting? request name <|> readConnecting? request name

end Operation

end SavedNetworks
