import SavedNetworks.Collection.SortedSet
import SavedNetworks.Identity
import SavedNetworks.Network.Ip
import SavedNetworks.Network.Privacy
import SavedNetworks.Network.Secret
import SavedNetworks.Selection.Status

/-!
A profile: the record of one known network.
-/

namespace SavedNetworks

/-- The coarse connection status, apart from what selection knows. -/
inductive ProfileStatus where
  | current
  | enabled
  | disabled
deriving DecidableEq

namespace ProfileStatus

def all : List ProfileStatus := [current, enabled, disabled]

def name : ProfileStatus → String
  | current => "Current"
  | enabled => "Enabled"
  | disabled => "Disabled"

def ofName? (name : String) : Option ProfileStatus := all.find? fun status => status.name == name

theorem ofName?_name (status : ProfileStatus) : ofName? status.name = some status := by
  cases status <;> decide

end ProfileStatus

structure ConnectionStats where
  associations : UInt64
  lastConnectedAt : Millis
  lastDisconnectedAt : Millis
  lastConnectUid : Option Uid
  noInternetReports : UInt32
  validatedInternet : Bool
deriving DecidableEq

namespace ConnectionStats

def none : ConnectionStats := ⟨0, 0, 0, .none, 0, false⟩

end ConnectionStats

abbrev WepKeys := Vector (Option String) 4

namespace WepKeys

def none : WepKeys := Vector.replicate 4 .none

end WepKeys

structure Profile where
  id : ProfileId
  ssid : String
  bssid : Option String
  security : Security
  preSharedKey : Option String
  wepKeys : WepKeys
  wepTransmitIndex : UInt8
  enterprise : Option Enterprise
  hidden : Bool
  requirePmf : Bool
  fqdn : Option String
  providerName : Option String
  ip : IpSettings
  meteredHint : Bool
  meteredOverride : MeteredOverride
  addressChoice : AddressChoice
  creator : Owner
  lastUpdater : Owner
  createdAt : String
  updatedAt : String
  ephemeral : Bool
  shared : Bool
  trusted : Bool
  fromSuggestion : Bool
  fromSpecifier : Bool
  passpoint : Bool
  autojoin : Bool
  noInternetExpected : Bool
  defaultGateway : Option String
  recentFailure : Option UInt16
  status : ProfileStatus
  stats : ConnectionStats
  selection : SelectionStatus
  station : StationAddress
  linked : SortedSet ProfileKey
deriving DecidableEq

namespace Profile

def blank (ssid : String) (security : Security) : Profile :=
  { id := .unset
    ssid
    bssid := none
    security
    preSharedKey := none
    wepKeys := .none
    wepTransmitIndex := 0
    enterprise := none
    hidden := false
    requirePmf := false
    fqdn := none
    providerName := none
    ip := .automatic
    meteredHint := false
    meteredOverride := .automatic
    addressChoice := .persistent
    creator := .unknown
    lastUpdater := .unknown
    createdAt := ""
    updatedAt := ""
    ephemeral := false
    shared := true
    trusted := true
    fromSuggestion := false
    fromSpecifier := false
    passpoint := false
    autojoin := true
    noInternetExpected := false
    defaultGateway := none
    recentFailure := none
    status := .disabled
    stats := .none
    selection := .initial
    station := .unset
    linked := .empty }

def key (profile : Profile) : ProfileKey := .ofNetwork profile.ssid profile.security

/-- Neither ephemeral nor managed by a provider; only such profiles are stored. -/
def isSaved (profile : Profile) : Bool := !profile.ephemeral && !profile.passpoint

def usesSim (profile : Profile) : Bool := profile.enterprise.any Enterprise.usesSim

/-- Shared by all, or made by an identity that acts within `tenant`. -/
def visibleTo (profile : Profile) (tenant : Tenant) : Bool :=
  profile.shared || profile.creator.uid.inTenant tenant

def persisted (profile : Profile) : Profile :=
  { profile with id := .unset, recentFailure := none, selection := profile.selection.persisted }

def hideSecrets (profile : Profile) : Profile :=
  { profile with
    preSharedKey := Secret.hide profile.preSharedKey
    wepKeys := profile.wepKeys.map Secret.hide
    enterprise := profile.enterprise.map Enterprise.hideSecrets }

def hideAddress (profile : Profile) : Profile :=
  { profile with station := { profile.station with address := .sentinel } }

def withSelection (profile : Profile) (selection : SelectionStatus) : Profile := { profile with selection }

def link (profile : Profile) (key : ProfileKey) : Profile :=
  { profile with linked := profile.linked.insert key }

def unlink (profile : Profile) (key : ProfileKey) : Profile :=
  { profile with linked := profile.linked.erase key }

def forgetChoice (profile : Profile) (key : ProfileKey) : Profile :=
  profile.withSelection (profile.selection.forgetChoice key)

@[simp] theorem key_persisted (profile : Profile) : profile.persisted.key = profile.key := rfl

end Profile

end SavedNetworks
