import SavedNetworks.Manager.State

/-!
Copies of profiles for callers, with secrets hidden from those who do not own them, and the report on the
state of a manager.
-/

namespace SavedNetworks

inductive Masking where
  /-- Secrets and the station address are hidden. -/
  | full
  /-- They are hidden from everybody but the creator and the privileged identities. -/
  | unlessOwner (uid : Uid)
  | none
deriving DecidableEq

namespace Masking

def hidesFrom (masking : Masking) (profile : Profile) : Bool :=
  match masking with
  | full => true
  | none => false
  | unlessOwner uid => uid != profile.creator.uid && uid != Uid.system && uid != Uid.wifi

end Masking

namespace Manager

/-- A copy of a profile. Where randomization is not supported, none is shown. -/
def view (manager : Manager) (masking : Masking) (profile : Profile) : Profile :=
  let copy := if masking.hidesFrom profile then profile.hideSecrets.hideAddress else profile
  if manager.randomizer.policy.supported then copy else { copy with addressChoice := .own }

def get? (manager : Manager) (id : ProfileId) (masking : Masking) : Option Profile :=
  (manager.roster.get? id).map (manager.view masking)

def getByKey? (manager : Manager) (key : ProfileKey) (masking : Masking) : Option Profile :=
  (manager.roster.getByKey? key).map (manager.view masking)

def list (manager : Manager) (savedOnly : Bool) (masking : Masking) : List Profile :=
  (manager.roster.visible.filter fun profile => !savedOnly || profile.isSaved).map (manager.view masking)

def size (manager : Manager) : Nat := manager.roster.visible.length

def lastSelectedKey? (manager : Manager) : Option ProfileKey :=
  (manager.lastSelected.bind fun (id, _) => manager.roster.get? id).map Profile.key

/-! The report: a line for the manager, one for each visible profile, one for each dismissal. -/

private def count (value : Nat) : String := String.ofList (Text.decimal value)

private def flag (value : Bool) : String := if value then "true" else "false"

def headLine (manager : Manager) : String :=
  let selected := match manager.lastSelected with
    | some (id, _) => "Some(ProfileId(" ++ count id.value.toNat ++ "))"
    | none => "None"
  "tenant " ++ count manager.tenant.toNat ++ " | " ++ count manager.size ++
    " visible profiles | pending read: " ++ flag manager.awaitsStore ++ " | last selected: " ++ selected ++ "\n"

def profileLine (manager : Manager) (profile : Profile) : String :=
  let cached := (manager.caches.get? profile.id).elim 0 SightingCache.size
  "  [" ++ count profile.id.value.toNat ++ "] " ++ profile.key.text ++ " status=" ++ profile.status.name ++
    " selection=" ++ profile.selection.state.name ++ "/" ++ profile.selection.reason.longName ++
    " assoc=" ++ count profile.stats.associations.toNat ++ " linked=" ++ count profile.linked.size ++
    " cached=" ++ count cached ++ "\n"

def dismissalLine (ssid : String) (dismissedAt : Millis) : String :=
  "  deleted ephemeral " ++ Text.quoted ssid ++ " at " ++
    String.ofList (Text.decimalInt dismissedAt.toInt) ++ "\n"

def report (manager : Manager) : String :=
  manager.headLine ++ String.join (manager.roster.visible.map manager.profileLine) ++
    String.join (manager.dismissed.entries.map fun (ssid, dismissedAt) => dismissalLine ssid dismissedAt)

end Manager

end SavedNetworks
