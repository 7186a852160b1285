import SavedNetworks.Linking
import SavedNetworks.Randomization
import SavedNetworks.Selection.Transition

/-!
The settings of a manager and the values that they may take.
-/

namespace SavedNetworks

structure Settings where
  cacheMaxSize : Nat
  cacheTrimSize : Nat
  linkMaxCacheSize : Nat
  linkMatchLength : Nat
  linkOnlySameCredential : Bool
  liveSignalMaxAge : Millis
  maxBlocked : UInt32
  preferredCulling : Bool
  preferredRecency : Bool
  preferredMaxAge : Millis
  partialScanMaxChannels : Nat
  randomizationSupported : Bool
  deviceAllowed : SortedSet String
  deviceBlocked : SortedSet String
  resourceAllowed : SortedSet String
  resourceBlocked : SortedSet String
  flakyNetworks : SortedSet String
  deviceOwnerLockdown : Bool
  dismissalExpiry : Millis
  ruleOverrides : RuleOverrides
  verbose : Bool
deriving DecidableEq

/-- A value outside its bounds, by the name that the field has in a settings document. -/
structure InvalidSetting where
  field : String
  reason : String
deriving DecidableEq

def InvalidSetting.message (failure : InvalidSetting) : String :=
  "invalid config value for " ++ failure.field ++ ": " ++ failure.reason

namespace Settings

def default : Settings :=
  { cacheMaxSize := CacheLimits.default.maxSize
    cacheTrimSize := CacheLimits.default.trimSize
    linkMaxCacheSize := LinkRule.default.maxCacheSize
    linkMatchLength := LinkRule.default.matchLength
    linkOnlySameCredential := LinkRule.default.onlySameCredential
    liveSignalMaxAge := 40000
    maxBlocked := SavedNetworks.maxBlocked
    preferredCulling := true
    preferredRecency := true
    preferredMaxAge := 30 * Millis.day
    partialScanMaxChannels := 6
    randomizationSupported := true
    deviceAllowed := .empty
    deviceBlocked := .empty
    resourceAllowed := .empty
    resourceBlocked := .empty
    flakyNetworks := .empty
    deviceOwnerLockdown := false
    dismissalExpiry := Millis.day
    ruleOverrides := .empty
    verbose := false }

/-- The first bound that a value breaks, if any. -/
def invalid? (settings : Settings) : Option InvalidSetting :=
  if settings.cacheTrimSize = 0 then some ⟨"cache_trim_size", "must be positive"⟩
  else if settings.cacheMaxSize ≤ settings.cacheTrimSize then
    some ⟨"cache_trim_size", "must be below cache_max_size"⟩
  else if settings.linkMatchLength = 0 ∨ 17 < settings.linkMatchLength then
    some ⟨"link_bssid_match_length", "must be within 1..=17"⟩
  else if settings.liveSignalMaxAge ≤ 0 then some ⟨"live_signal_max_age_ms", "must be positive"⟩
  else if settings.partialScanMaxChannels = 0 then some ⟨"partial_scan_max_channels", "must be positive"⟩
  else if settings.dismissalExpiry < 0 then some ⟨"deleted_ephemeral_expiry_ms", "must not be negative"⟩
  else if settings.ruleOverrides.contains .enable then
    some ⟨"reason_overrides", "the enable reason cannot be overridden"⟩
  else none

def cacheLimits (settings : Settings) : CacheLimits := ⟨settings.cacheMaxSize, settings.cacheTrimSize⟩

def linkRule (settings : Settings) : LinkRule :=
  ⟨settings.linkMaxCacheSize, settings.linkMatchLength, settings.linkOnlySameCredential⟩

def rules (settings : Settings) : Rules := .ofOverrides settings.ruleOverrides

def randomizationPolicy (settings : Settings) : RandomizationPolicy :=
  { supported := settings.randomizationSupported
    deviceAllowed := settings.deviceAllowed
    deviceBlocked := settings.deviceBlocked
    resourceAllowed := settings.resourceAllowed
    resourceBlocked := settings.resourceBlocked }

end Settings

end SavedNetworks
