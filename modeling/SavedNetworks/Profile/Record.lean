import SavedNetworks.Json.Parser
import SavedNetworks.Json.Printer
import SavedNetworks.Network.Record
import SavedNetworks.Profile.Draft
import SavedNetworks.Selection.Record

/-!
The record of a profile, as the store keeps it, and the written form of a draft. The id of a profile, its
recent failure and the candidate of a round are not written.
-/

namespace SavedNetworks

namespace ProfileId

def toJson (id : ProfileId) : Json := .ofUInt32 id.value

def ofJson? (document : Json) : Option ProfileId := document.uint32?.map mk

end ProfileId

namespace ProfileStatus

def toJson (status : ProfileStatus) : Json := .text status.name

def ofJson? : Json → Option ProfileStatus := Json.variant? ofName?

end ProfileStatus

namespace Owner

def toJson (owner : Owner) : Json := .object [("uid", .ofUInt32 owner.uid), ("package", .text owner.package)]

def ofJson? (document : Json) : Option Owner := do
  let fields ← document.fields? ["uid", "package"]
  some { uid := ← fields.required "uid" Json.uint32?, package := ← fields.required "package" Json.text? }

end Owner

namespace ConnectionStats

def toJson (stats : ConnectionStats) : Json :=
  .object
    [("num_association", .ofUInt64 stats.associations),
      ("last_connected_ms", .ofInt64 stats.lastConnectedAt),
      ("last_disconnected_ms", .ofInt64 stats.lastDisconnectedAt),
      ("last_connect_uid", .ofOption .ofUInt32 stats.lastConnectUid),
      ("num_no_internet_access_reports", .ofUInt32 stats.noInternetReports),
      ("validated_internet_access", .bool stats.validatedInternet)]

def ofJson? (document : Json) : Option ConnectionStats := do
  let fields ← document.fields?
    ["num_association", "last_connected_ms", "last_disconnected_ms", "last_connect_uid",
      "num_no_internet_access_reports", "validated_internet_access"]
  some
    { associations := ← fields.required "num_association" Json.uint64?
      lastConnectedAt := ← fields.required "last_connected_ms" Json.int64?
      lastDisconnectedAt := ← fields.required "last_disconnected_ms" Json.int64?
      lastConnectUid := ← fields.optional "last_connect_uid" Json.uint32?
      noInternetReports := ← fields.required "num_no_internet_access_reports" Json.uint32?
      validatedInternet := ← fields.required "validated_internet_access" Json.bool? }

end ConnectionStats

namespace WepKeys

def toJson (keys : WepKeys) : Json := .list (keys.toList.map (.ofOption .text))

def ofJson? : Json → Option WepKeys := Json.vectorOf? 4 (Json.nullable? Json.text?)

end WepKeys

namespace Profile

def fieldNames : List String :=
  ["ssid", "bssid", "security", "pre_shared_key", "wep_keys", "wep_tx_key_index", "enterprise", "hidden",
    "require_pmf", "fqdn", "provider_friendly_name", "ip", "metered_hint", "metered_override",
    "randomization", "creator", "last_updater", "creation_time", "update_time", "ephemeral", "shared",
    "trusted", "from_suggestion", "from_specifier", "passpoint", "allow_autojoin",
    "no_internet_access_expected", "default_gateway", "status", "stats", "selection", "randomized", "linked"]

def toMembers (profile : Profile) : List (String × Json) :=
  [("ssid", .text profile.ssid),
    ("bssid", .ofOption .text profile.bssid),
    ("security", profile.security.toJson),
    ("pre_shared_key", .ofOption .text profile.preSharedKey),
    ("wep_keys", profile.wepKeys.toJson),
    ("wep_tx_key_index", .ofUInt8 profile.wepTransmitIndex),
    ("enterprise", .ofOption Enterprise.toJson profile.enterprise),
    ("hidden", .bool profile.hidden),
    ("require_pmf", .bool profile.requirePmf),
    ("fqdn", .ofOption .text profile.fqdn),
    ("provider_friendly_name", .ofOption .text profile.providerName),
    ("ip", profile.ip.toJson),
    ("metered_hint", .bool profile.meteredHint),
    ("metered_override", profile.meteredOverride.toJson),
    ("randomization", profile.addressChoice.toJson),
    ("creator", profile.creator.toJson),
    ("last_updater", profile.lastUpdater.toJson),
    ("creation_time", .text profile.createdAt),
    ("update_time", .text profile.updatedAt),
    ("ephemeral", .bool profile.ephemeral),
    ("shared", .bool profile.shared),
    ("trusted", .bool profile.trusted),
    ("from_suggestion", .bool profile.fromSuggestion),
    ("from_specifier", .bool profile.fromSpecifier),
    ("passpoint", .bool profile.passpoint),
    ("allow_autojoin", .bool profile.autojoin),
    ("no_internet_access_expected", .bool profile.noInternetExpected),
    ("default_gateway", .ofOption .text profile.defaultGateway),
    ("status", profile.status.toJson),
    ("stats", profile.stats.toJson),
    ("selection", profile.selection.toJson),
    ("randomized", profile.station.toJson),
    ("linked", .list (profile.linked.toList.map ProfileKey.toJson))]

def toJson (profile : Profile) : Json := .object profile.toMembers

def ofFields? (origin : Json.Origin) (fields : Json.Fields) : Option Profile := do
  some
    { id := .unset
      ssid := ← fields.required "ssid" Json.text?
      bssid := ← fields.optional "bssid" Json.text?
      security := ← fields.required "security" Security.ofJson?
      preSharedKey := ← fields.optional "pre_shared_key" Json.text?
      wepKeys := ← fields.required "wep_keys" WepKeys.ofJson?
      wepTransmitIndex := ← fields.required "wep_tx_key_index" Json.uint8?
      enterprise := ← fields.optional "enterprise" Enterprise.ofJson?
      hidden := ← fields.required "hidden" Json.bool?
      requirePmf := ← fields.required "require_pmf" Json.bool?
      fqdn := ← fields.optional "fqdn" Json.text?
      providerName := ← fields.optional "provider_friendly_name" Json.text?
      ip := ← fields.required "ip" (IpSettings.ofJson? origin)
      meteredHint := ← fields.required "metered_hint" Json.bool?
      meteredOverride := ← fields.required "metered_override" MeteredOverride.ofJson?
      addressChoice := ← fields.required "randomization" AddressChoice.ofJson?
      creator := ← fields.required "creator" Owner.ofJson?
      lastUpdater := ← fields.required "last_updater" Owner.ofJson?
      createdAt := ← fields.required "creation_time" Json.text?
      updatedAt := ← fields.required "update_time" Json.text?
      ephemeral := ← fields.required "ephemeral" Json.bool?
      shared := ← fields.required "shared" Json.bool?
      trusted := ← fields.required "trusted" Json.bool?
      fromSuggestion := ← fields.required "from_suggestion" Json.bool?
      fromSpecifier := ← fields.required "from_specifier" Json.bool?
      passpoint := ← fields.required "passpoint" Json.bool?
      autojoin := ← fields.required "allow_autojoin" Json.bool?
      noInternetExpected := ← fields.required "no_internet_access_expected" Json.bool?
      defaultGateway := ← fields.optional "default_gateway" Json.text?
      recentFailure := none
      status := ← fields.required "status" ProfileStatus.ofJson?
      stats := ← fields.required "stats" ConnectionStats.ofJson?
      selection := ← fields.required "selection" SelectionStatus.ofJson?
      station := ← fields.required "randomized" StationAddress.ofJson?
      linked := ← fields.required "linked" (Json.setOf? ProfileKey.ofJson?) }

def ofJson? (origin : Json.Origin) (document : Json) : Option Profile :=
  (document.fields? fieldNames).bind (ofFields? origin)

/-- A profile as an argument: what its document leaves out is as in a blank profile, and what records do
not keep may be given beside the rest. -/
def ofArgument? (document : Json) : Option Profile := do
  let document ← document.record?
  let ssid ← (← document.member? "ssid").text?
  let security ← match document.member? "security" with
    | some written => Security.ofJson? written
    | none => some .psk
  let profile ← ofJson? .argument ((blank ssid security).toJson.overlay document)
  let id ← match document.member? "id" with
    | some written => ProfileId.ofJson? written
    | none => some .unset
  let recentFailure ← match document.member? "recent_failure" with
    | some written => Json.nullable? Json.uint16? written
    | none => some none
  some { profile with id, recentFailure }

def toRecord (profile : Profile) : String := profile.toJson.render

def ofRecord? (record : String) : Option Profile := (Json.parse? record).bind (ofJson? .text)

end Profile

namespace Draft

def fieldNames : List String :=
  ["id", "ssid", "bssid", "security", "pre_shared_key", "wep_keys", "wep_tx_key_index", "enterprise",
    "hidden", "require_pmf", "fqdn", "provider_friendly_name", "ip", "metered_hint", "metered_override",
    "randomization", "ephemeral", "shared", "trusted", "from_suggestion", "from_specifier", "passpoint",
    "no_internet_access_expected"]

def toJson (draft : Draft) : Json :=
  .object
    [("id", .ofOption ProfileId.toJson draft.id),
      ("ssid", .ofOption .text draft.ssid),
      ("bssid", .ofOption .text draft.bssid),
      ("security", .ofOption Security.toJson draft.security),
      ("pre_shared_key", .ofOption .text draft.preSharedKey),
      ("wep_keys", .ofOption WepKeys.toJson draft.wepKeys),
      ("wep_tx_key_index", .ofUInt8 draft.wepTransmitIndex),
      ("enterprise", .ofOption Enterprise.toJson draft.enterprise),
      ("hidden", .bool draft.hidden),
      ("require_pmf", .bool draft.requirePmf),
      ("fqdn", .ofOption .text draft.fqdn),
      ("provider_friendly_name", .ofOption .text draft.providerName),
      ("ip", draft.ip.toJson),
      ("metered_hint", .bool draft.meteredHint),
      ("metered_override", draft.meteredOverride.toJson),
      ("randomization", draft.addressChoice.toJson),
      ("ephemeral", .bool draft.ephemeral),
      ("shared", .bool draft.shared),
      ("trusted", .bool draft.trusted),
      ("from_suggestion", .bool draft.fromSuggestion),
      ("from_specifier", .bool draft.fromSpecifier),
      ("passpoint", .bool draft.passpoint),
      ("no_internet_access_expected", .bool draft.noInternetExpected)]

/-- Every field may be left out. -/
def ofJson? (origin : Json.Origin) (document : Json) : Option Draft := do
  let fields ← document.someFields? fieldNames
  let flag (name : String) (default : Bool) : Option Bool := fields.orDefault name Json.bool? default
  some
    { id := ← fields.optional "id" ProfileId.ofJson?
      ssid := ← fields.optional "ssid" Json.text?
      bssid := ← fields.optional "bssid" Json.text?
      security := ← fields.optional "security" Security.ofJson?
      preSharedKey := ← fields.optional "pre_shared_key" Json.text?
      wepKeys := ← fields.optional "wep_keys" WepKeys.ofJson?
      wepTransmitIndex := ← fields.orDefault "wep_tx_key_index" Json.uint8? empty.wepTransmitIndex
      enterprise := ← fields.optional "enterprise" Enterprise.ofJson?
      hidden := ← flag "hidden" empty.hidden
      requirePmf := ← flag "require_pmf" empty.requirePmf
      fqdn := ← fields.optional "fqdn" Json.text?
      providerName := ← fields.optional "provider_friendly_name" Json.text?
      ip := ← fields.orDefault "ip" (IpSettings.ofJson? origin) empty.ip
      meteredHint := ← flag "metered_hint" empty.meteredHint
      meteredOverride := ← fields.orDefault "metered_override" MeteredOverride.ofJson? empty.meteredOverride
      addressChoice := ← fields.orDefault "randomization" AddressChoice.ofJson? empty.addressChoice
      ephemeral := ← flag "ephemeral" empty.ephemeral
      shared := ← flag "shared" empty.shared
      trusted := ← flag "trusted" empty.trusted
      fromSuggestion := ← flag "from_suggestion" empty.fromSuggestion
      fromSpecifier := ← flag "from_specifier" empty.fromSpecifier
      passpoint := ← flag "passpoint" empty.passpoint
      noInternetExpected := ← flag "no_internet_access_expected" empty.noInternetExpected }

def ofArgument? : Json → Option Draft := ofJson? .argument

def ofText? (document : String) : Option Draft := (Json.parse? document).bind (ofJson? .text)

end Draft

end SavedNetworks
