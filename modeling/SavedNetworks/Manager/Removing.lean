import SavedNetworks.Manager.Authority
import SavedNetworks.Manager.Selecting

/-!
Removing profiles, with everything that refers to them.
-/

namespace SavedNetworks.Manager

/-- Makes every visible profile forget that `key` was preferred to it. -/
def forgetChoices (manager : Manager) (key : ProfileKey) : Manager :=
  { manager with roster := manager.roster.modifyVisible (·.forgetChoice key) }

def forgetLinks (manager : Manager) (key : ProfileKey) : Manager :=
  { manager with roster := manager.roster.modifyVisible (·.unlink key) }

/-- Tells the key store to forget the credentials of a profile; a provider's are not kept there. -/
def forgetKeys (manager : Manager) (profile : Profile) : Manager :=
  match profile.enterprise with
  | some enterprise => if profile.passpoint then manager else manager.notice (.keysForgotten enterprise)
  | none => manager

/-- Takes the profile out of memory, with its cache and the count of its blocked transmitters. -/
def dropProfile (manager : Manager) (profile : Profile) (id : ProfileId) : Manager :=
  { manager with
    roster := manager.roster.remove id
    caches := manager.caches.erase id
    platform := { manager.platform with blocked := manager.platform.blocked.erase profile.ssid } }

def deselect (manager : Manager) (id : ProfileId) : Manager :=
  if manager.lastSelected.any (·.1 == id) then { manager with lastSelected := none } else manager

/-- Removes a visible profile, whoever asks. -/
def removeAnyway (manager : Manager) (id : ProfileId) : Manager × Bool :=
  match manager.roster.get? id with
  | none => (manager, false)
  | some profile =>
    let manager := (manager.forgetKeys profile).forgetChoices profile.key
    let manager := ((manager.dropProfile profile id).forgetLinks profile.key).deselect id
    let manager := if profile.isSaved then manager.persist true else manager
    (manager.announce (.removed profile), true)

/-- Removes a profile for a caller. False if the profile is not seen or the caller may not remove it. -/
def remove (manager : Manager) (id : ProfileId) (caller : Owner) : Manager × Bool :=
  if !manager.hasUid caller.uid then (manager, false)
  else
    match manager.roster.get? id with
    | none => (manager, false)
    | some profile =>
      if manager.canModify profile caller then manager.removeAnyway id else (manager, false)

def removeMatching (manager : Manager) (doomed : Profile → Bool) : Manager × List ProfileId :=
  collect removeAnyway manager ((manager.roster.visible.filter doomed).map Profile.id)

def removeForApp (manager : Manager) (app : Owner) : Manager × List ProfileId :=
  manager.removeMatching fun profile =>
    profile.creator.uid == app.uid && profile.creator.packageName == app.package

def removeForTenant (manager : Manager) (tenant : Tenant) : Manager × List ProfileId :=
  manager.removeMatching fun profile => profile.creator.uid.tenant == tenant

def removeUnsaved (manager : Manager) : Manager × Bool :=
  let (manager, removed) := manager.removeMatching fun profile => !profile.isSaved
  (manager, !removed.isEmpty)

def removeByKey (manager : Manager) (key : ProfileKey) (doomed : Profile → Bool) : Manager × Bool :=
  match (manager.roster.getByKey? key).filter doomed with
  | some profile => manager.removeAnyway profile.id
  | none => (manager, false)

def removeSuggestion (manager : Manager) (key : ProfileKey) : Manager × Bool :=
  manager.removeByKey key fun profile => profile.ephemeral && profile.fromSuggestion

def removePasspoint (manager : Manager) (key : ProfileKey) : Manager × Bool :=
  manager.removeByKey key Profile.passpoint

end SavedNetworks.Manager
