import SavedNetworks.Collection.SortedMap
import SavedNetworks.Millis

/-!
Why a profile is not selected automatically. Failures are counted by reason; a rule says how many of
them disable the profile and how long a temporary disabling lasts.
-/

namespace SavedNetworks

inductive Reason where
  | enable
  | associationRejection
  | authenticationFailure
  | dhcpFailure
  | noInternetTemporary
  | authenticationNoCredentials
  | noInternetPermanent
  | byManager
  | wrongPassword
  | noSubscription
deriving DecidableEq

namespace Reason

abbrev count : Nat := 10

def all : List Reason :=
  [enable, associationRejection, authenticationFailure, dhcpFailure, noInternetTemporary,
    authenticationNoCredentials, noInternetPermanent, byManager, wrongPassword, noSubscription]

def code : Reason → Fin count
  | enable => 0
  | associationRejection => 1
  | authenticationFailure => 2
  | dhcpFailure => 3
  | noInternetTemporary => 4
  | authenticationNoCredentials => 5
  | noInternetPermanent => 6
  | byManager => 7
  | wrongPassword => 8
  | noSubscription => 9

/-- The reason of a raw code, if there is one. -/
def ofCode? (code : Int32) : Option Reason := if code < 0 then none else all[code.toInt.toNat]?

def name : Reason → String
  | enable => "Enable"
  | associationRejection => "AssociationRejection"
  | authenticationFailure => "AuthenticationFailure"
  | dhcpFailure => "DhcpFailure"
  | noInternetTemporary => "NoInternetTemporary"
  | authenticationNoCredentials => "AuthenticationNoCredentials"
  | noInternetPermanent => "NoInternetPermanent"
  | byManager => "ByManager"
  | wrongPassword => "WrongPassword"
  | noSubscription => "NoSubscription"

def ofName? (name : String) : Option Reason := all.find? fun reason => reason.name == name

/-- The name in messages and reports. -/
def longName : Reason → String
  | enable => "NETWORK_SELECTION_ENABLE"
  | associationRejection => "NETWORK_SELECTION_DISABLED_ASSOCIATION_REJECTION"
  | authenticationFailure => "NETWORK_SELECTION_DISABLED_AUTHENTICATION_FAILURE"
  | dhcpFailure => "NETWORK_SELECTION_DISABLED_DHCP_FAILURE"
  | noInternetTemporary => "NETWORK_SELECTION_DISABLED_NO_INTERNET_TEMPORARY"
  | authenticationNoCredentials => "NETWORK_SELECTION_DISABLED_AUTHENTICATION_NO_CREDENTIALS"
  | noInternetPermanent => "NETWORK_SELECTION_DISABLED_NO_INTERNET_PERMANENT"
  | byManager => "NETWORK_SELECTION_DISABLED_BY_WIFI_MANAGER"
  | wrongPassword => "NETWORK_SELECTION_DISABLED_BY_WRONG_PASSWORD"
  | noSubscription => "NETWORK_SELECTION_DISABLED_AUTHENTICATION_NO_SUBSCRIPTION"

/-- Disables until an explicit enabling. -/
def isPermanent (reason : Reason) : Bool := 5 ≤ reason.code.val

/-- Not counted while the last-resort watchdog asks for updates to be ignored. -/
def isGated : Reason → Bool
  | associationRejection | authenticationFailure | dhcpFailure => true
  | _ => false

theorem ofName?_name (reason : Reason) : ofName? reason.name = some reason := by
  cases reason <;> decide

theorem code_injective {left right : Reason} (same : left.code = right.code) : left = right := by
  cases left <;> cases right <;> first | rfl | cases same

instance : Ord Reason := ⟨fun left right => compare left.code right.code⟩

instance : Std.TransOrd Reason where
  eq_swap {_ _} := @Std.OrientedCmp.eq_swap _ (compare (α := Fin count)) _ _ _
  isLE_trans {_ _ _} := @Std.TransCmp.isLE_trans _ (compare (α := Fin count)) _ _ _ _

instance : Std.LawfulEqOrd Reason where
  compare_self {_} := @Std.ReflCmp.compare_self _ (compare (α := Fin count)) _ _
  eq_of_compare same := code_injective (@Std.LawfulEqCmp.eq_of_compare _ (compare (α := Fin count)) _ _ _ same)

end Reason

/-- How many failures disable a profile, and for how long; without a timeout, until enabled. -/
structure Rule where
  threshold : UInt32
  timeout : Option Millis
deriving DecidableEq

/-- A configured change to the rule of one reason. -/
structure RuleOverride where
  threshold : Option UInt32
  timeout : Option Millis
deriving DecidableEq

namespace Rule

def default : Reason → Rule
  | .enable => ⟨UInt32.ofNat (UInt32.size - 1), none⟩
  | .associationRejection | .authenticationFailure | .dhcpFailure => ⟨5, some (5 * Millis.minute)⟩
  | .noInternetTemporary => ⟨1, some (10 * Millis.minute)⟩
  | _ => ⟨1, none⟩

/-- A threshold is at least one; a negative timeout means none. -/
def override (rule : Rule) (change : RuleOverride) : Rule :=
  { threshold := match change.threshold with
      | some threshold => max threshold 1
      | none => rule.threshold
    timeout := match change.timeout with
      | some timeout => if 0 ≤ timeout then some timeout else none
      | none => rule.timeout }

end Rule

abbrev RuleOverrides := SortedMap Reason RuleOverride

/-- The rule of every reason. -/
structure Rules where
  rule : Reason → Rule

namespace Rules

def default : Rules := ⟨Rule.default⟩

def ofOverrides (overrides : RuleOverrides) : Rules :=
  ⟨fun reason => match overrides.get? reason with
    | some change => (Rule.default reason).override change
    | none => Rule.default reason⟩

end Rules

end SavedNetworks
