import SavedNetworks.Profile.Basic
import SavedNetworks.Text.Ascii

/-!
A caller's description of a profile to add or to change. What a draft leaves out keeps its stored value;
some fields always have a value and are always taken over.
-/

namespace SavedNetworks

structure Draft where
  id : Option ProfileId
  ssid : Option String
  bssid : Option String
  security : Option Security
  preSharedKey : Option String
  wepKeys : Option WepKeys
  wepTransmitIndex : UInt8
  enterprise : Option Enterprise
  hidden : Bool
  requirePmf : Bool
  fqdn : Option String
  providerName : Option String
  ip : IpSettings
  meteredHint : Bool
  meteredOverride : MeteredOverride
  addressChoice : AddressChoice
  ephemeral : Bool
  shared : Bool
  trusted : Bool
  fromSuggestion : Bool
  fromSpecifier : Bool
  passpoint : Bool
  noInternetExpected : Bool
deriving DecidableEq

namespace Draft

def empty : Draft :=
  { id := none
    ssid := none
    bssid := none
    security := none
    preSharedKey := none
    wepKeys := none
    wepTransmitIndex := 0
    enterprise := none
    hidden := false
    requirePmf := false
    fqdn := none
    providerName := none
    ip := .unassigned
    meteredHint := false
    meteredOverride := .automatic
    addressChoice := .persistent
    ephemeral := false
    shared := true
    trusted := true
    fromSuggestion := false
    fromSpecifier := false
    passpoint := false
    noInternetExpected := false }

def ofNetwork (ssid : String) (security : Security) : Draft :=
  { empty with ssid := some ssid, security := some security }

def unsecured (ssid : String) : Draft := ofNetwork ssid .unsecured

def psk (ssid passphrase : String) : Draft :=
  { ofNetwork ssid .psk with preSharedKey := some passphrase }

def key? (draft : Draft) : Option ProfileKey := do
  some (.ofNetwork (← draft.ssid) (← draft.security))

end Draft

namespace IpSettings

/-- The settings after a caller supplied `given`; what it leaves unassigned stays. -/
def update (stored given : IpSettings) : IpSettings :=
  { assignment := if given.assignment = .unassigned then stored.assignment else given.assignment
    fixed := if given.assignment = .fixed then given.fixed else stored.fixed
    proxy := if given.proxy = .unassigned then stored.proxy else given.proxy }

end IpSettings

namespace WepKeys

def update (stored given : WepKeys) : WepKeys := stored.zipWith Secret.update given

/-- Holds a key that is not the mask. -/
def anyPlain (given : WepKeys) : Bool := given.toList.any fun key => key.any (· != Secret.mask)

end WepKeys

namespace Profile

def update (profile : Profile) (draft : Draft) : Profile :=
  { profile with
    ssid := draft.ssid.getD profile.ssid
    bssid := draft.bssid.map Text.lower <|> profile.bssid
    security := draft.security.getD profile.security
    hidden := draft.hidden
    requirePmf := draft.requirePmf
    preSharedKey := Secret.update profile.preSharedKey draft.preSharedKey
    wepKeys := match draft.wepKeys with
      | some given => profile.wepKeys.update given
      | none => profile.wepKeys
    wepTransmitIndex :=
      if draft.wepKeys.any WepKeys.anyPlain then draft.wepTransmitIndex else profile.wepTransmitIndex
    fqdn := draft.fqdn <|> profile.fqdn
    providerName := draft.providerName <|> profile.providerName
    ip := profile.ip.update draft.ip
    enterprise := match draft.enterprise with
      | some given => some ((profile.enterprise.getD (.ofMethod given.method)).update given)
      | none => profile.enterprise
    meteredHint := draft.meteredHint
    meteredOverride := draft.meteredOverride
    addressChoice := draft.addressChoice }

def ofDraft (draft : Draft) (ssid : String) (security : Security) (caller : Owner) (stamp : String) :
    Profile :=
  { (blank ssid security).update draft with
    ephemeral := draft.ephemeral
    shared := draft.shared
    trusted := draft.trusted
    fromSuggestion := draft.fromSuggestion
    fromSpecifier := draft.fromSpecifier
    passpoint := draft.passpoint
    noInternetExpected := draft.noInternetExpected
    creator := caller
    lastUpdater := caller
    createdAt := stamp
    updatedAt := stamp }

def ipDiffers (left right : Profile) : Bool :=
  left.ip.assignment != right.ip.assignment || left.ip.fixed != right.ip.fixed

def proxyDiffers (left right : Profile) : Bool := left.ip.proxy != right.ip.proxy

def credentialsDiffer (left right : Profile) : Bool :=
  left.security != right.security || left.preSharedKey != right.preSharedKey ||
    left.wepKeys != right.wepKeys || left.wepTransmitIndex != right.wepTransmitIndex ||
    left.enterprise != right.enterprise

end Profile

end SavedNetworks
