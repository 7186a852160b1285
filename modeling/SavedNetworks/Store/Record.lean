import SavedNetworks.Request.Basic
import SavedNetworks.Store.Basic

/-!
Stored data as arguments and in answers, and files given record by record.
-/

namespace SavedNetworks

namespace StoreError

def toJson : StoreError → Json
  | corrupt key => .object [("error", .text "Corrupt"), ("key", .text key)]
  | readRefused =>
    .object [("error", .text "Corrupt"), ("key", .text "<store>"), ("message", .text "injected read failure")]
  | unavailable reason => .failureWith "Unavailable" ("store unavailable: " ++ reason)
  | database => .failure "Database"

end StoreError

namespace StoreData

def dismissedJson (dismissed : SortedMap String Millis) : Json :=
  .object (dismissed.entries.map fun (ssid, dismissedAt) => (ssid, .ofInt64 dismissedAt))

def addressesJson (addresses : SortedMap String String) : Json :=
  .object (addresses.entries.map fun (key, address) => (key, .text address))

/-- Data as a document, with profiles as `write` shows them. -/
def toJson (write : Profile → Json) (data : StoreData) : Json :=
  .object
    [("shared", .list (data.shared.map write)),
      ("private", .list (data.tenant.profiles.map write)),
      ("deleted", dismissedJson data.tenant.dismissed),
      ("address_map", addressesJson data.addresses)]

def read (document : Json) : Reading StoreData := do
  let profiles (name : String) : Reading (List Profile) :=
    document.want name (Json.listOf? Profile.ofArgument?) []
  return {
    shared := ← profiles "shared"
    tenant :=
      { profiles := ← profiles "private"
        dismissed := ← document.want "deleted" (Json.mapOf? some Json.int64?) .empty }
    addresses := ← document.want "address_map" (Json.mapOf? some Json.text?) .empty }

end StoreData

namespace TenantSection

def toJson (write : Profile → Json) (tenantSection : TenantSection) : Json :=
  .object
    [("private", .list (tenantSection.profiles.map write)),
      ("deleted", StoreData.dismissedJson tenantSection.dismissed)]

end TenantSection

namespace StoreFile

/-- Puts one record into a table, whatever its text is. Tables that are not the store's own may stand in
the file, but nothing reads them. -/
def put (file : StoreFile) (entry : Json) : Reading StoreFile := do
  let key ← entry.need "key" Json.text?
  let table ← entry.need "table" Json.text?
  if table = "deleted_ephemeral" then
    return { file with dismissed := file.dismissed.insert key (← entry.need "value" Json.int64?) }
  let text ← entry.need "value" Json.text?
  match table with
  | "shared_profiles" => return { file with shared := file.shared.insert key text }
  | "tenant_profiles" => return { file with tenantProfiles := file.tenantProfiles.insert key text }
  | "randomized_addresses" => return { file with addresses := file.addresses.insert key text }
  | _ => return file

def ofEntries (entries : List Json) : Reading StoreFile := entries.foldlM put empty

end StoreFile

end SavedNetworks
