import SavedNetworks.Json.Parser
import SavedNetworks.Selection.Record
import SavedNetworks.Settings.Basic

/-!
Settings documents. Every field may be left out; what is there has to be well typed and within bounds.
-/

namespace SavedNetworks

/-- Why a settings document cannot be used. -/
inductive SettingsError where
  /-- The file is not there or is not text. -/
  | unreadable
  /-- The text is no settings document. -/
  | malformed
  | invalid (failure : InvalidSetting)
deriving DecidableEq

namespace SettingsError

def toJson : SettingsError → Json
  | unreadable => .failure "Io"
  | malformed => .failure "Parse"
  | invalid failure => .failureWith "Invalid" failure.message

end SettingsError

namespace Settings

def fieldNames : List String :=
  ["cache_max_size", "cache_trim_size", "link_max_cache_entries", "link_bssid_match_length",
    "link_only_same_credential", "live_signal_max_age_ms", "max_blocked_per_network",
    "pno_frequency_culling", "pno_recency_sorting", "pno_frequency_max_age_ms", "partial_scan_max_channels",
    "randomization_supported", "aggressive_allowlist", "aggressive_blocklist",
    "resource_aggressive_allowlist", "resource_aggressive_blocklist", "flaky_randomization_hotlist",
    "device_owner_lockdown", "deleted_ephemeral_expiry_ms", "reason_overrides", "verbose_logging"]

def toJson (settings : Settings) : Json :=
  .object
    [("cache_max_size", .nat settings.cacheMaxSize),
      ("cache_trim_size", .nat settings.cacheTrimSize),
      ("link_max_cache_entries", .nat settings.linkMaxCacheSize),
      ("link_bssid_match_length", .nat settings.linkMatchLength),
      ("link_only_same_credential", .bool settings.linkOnlySameCredential),
      ("live_signal_max_age_ms", .ofInt64 settings.liveSignalMaxAge),
      ("max_blocked_per_network", .ofUInt32 settings.maxBlocked),
      ("pno_frequency_culling", .bool settings.preferredCulling),
      ("pno_recency_sorting", .bool settings.preferredRecency),
      ("pno_frequency_max_age_ms", .ofInt64 settings.preferredMaxAge),
      ("partial_scan_max_channels", .nat settings.partialScanMaxChannels),
      ("randomization_supported", .bool settings.randomizationSupported),
      ("aggressive_allowlist", .ofTexts settings.deviceAllowed.toList),
      ("aggressive_blocklist", .ofTexts settings.deviceBlocked.toList),
      ("resource_aggressive_allowlist", .ofTexts settings.resourceAllowed.toList),
      ("resource_aggressive_blocklist", .ofTexts settings.resourceBlocked.toList),
      ("flaky_randomization_hotlist", .ofTexts settings.flakyNetworks.toList),
      ("device_owner_lockdown", .bool settings.deviceOwnerLockdown),
      ("deleted_ephemeral_expiry_ms", .ofInt64 settings.dismissalExpiry),
      ("reason_overrides", settings.ruleOverrides.toJson),
      ("verbose_logging", .bool settings.verbose)]

def ofJson? (document : Json) : Option Settings := do
  let fields ← document.someFields? fieldNames
  let flag (name : String) (value : Bool) : Option Bool := fields.orDefault name Json.bool? value
  let count (name : String) (value : Nat) : Option Nat := fields.orDefault name Json.count? value
  let millis (name : String) (value : Millis) : Option Millis := fields.orDefault name Json.int64? value
  let names (name : String) (value : SortedSet String) : Option (SortedSet String) :=
    fields.orDefault name (Json.setOf? Json.text?) value
  some
    { cacheMaxSize := ← count "cache_max_size" default.cacheMaxSize
      cacheTrimSize := ← count "cache_trim_size" default.cacheTrimSize
      linkMaxCacheSize := ← count "link_max_cache_entries" default.linkMaxCacheSize
      linkMatchLength := ← count "link_bssid_match_length" default.linkMatchLength
      linkOnlySameCredential := ← flag "link_only_same_credential" default.linkOnlySameCredential
      liveSignalMaxAge := ← millis "live_signal_max_age_ms" default.liveSignalMaxAge
      maxBlocked := ← fields.orDefault "max_blocked_per_network" Json.uint32? default.maxBlocked
      preferredCulling := ← flag "pno_frequency_culling" default.preferredCulling
      preferredRecency := ← flag "pno_recency_sorting" default.preferredRecency
      preferredMaxAge := ← millis "pno_frequency_max_age_ms" default.preferredMaxAge
      partialScanMaxChannels := ← count "partial_scan_max_channels" default.partialScanMaxChannels
      randomizationSupported := ← flag "randomization_supported" default.randomizationSupported
      deviceAllowed := ← names "aggressive_allowlist" default.deviceAllowed
      deviceBlocked := ← names "aggressive_blocklist" default.deviceBlocked
      resourceAllowed := ← names "resource_aggressive_allowlist" default.resourceAllowed
      resourceBlocked := ← names "resource_aggressive_blocklist" default.resourceBlocked
      flakyNetworks := ← names "flaky_randomization_hotlist" default.flakyNetworks
      deviceOwnerLockdown := ← flag "device_owner_lockdown" default.deviceOwnerLockdown
      dismissalExpiry := ← millis "deleted_ephemeral_expiry_ms" default.dismissalExpiry
      ruleOverrides := ← fields.orDefault "reason_overrides" RuleOverrides.ofJson? default.ruleOverrides
      verbose := ← flag "verbose_logging" default.verbose }

/-- The settings of a document that is well typed, if they are within bounds. -/
def ofDocument (document : Option Json) : Except SettingsError Settings :=
  match document.bind ofJson? with
  | none => .error .malformed
  | some settings =>
    match settings.invalid? with
    | some failure => .error (.invalid failure)
    | none => .ok settings

def ofText (text : String) : Except SettingsError Settings := ofDocument (Json.parse? text)

/-- The settings in a file, given by its bytes if it is there. -/
def ofFile (bytes : Option ByteArray) : Except SettingsError Settings :=
  match bytes.bind String.fromUTF8? with
  | none => .error .unreadable
  | some text => ofText text

end Settings

end SavedNetworks
