import SavedNetworks.Manager.Removing

/-!
Adding and changing profiles, enabling and disabling them, and dismissing ephemeral ones.
-/

namespace SavedNetworks

structure EditResult where
  id : ProfileId
  isNew : Bool
  ipChanged : Bool
  proxyChanged : Bool
  credentialsChanged : Bool
deriving DecidableEq

/-- An accepted draft, worked into the profile that it describes. -/
structure Edit where
  /-- The profile that is changed; none if one is added. -/
  existing : Option Profile
  profile : Profile
deriving DecidableEq

namespace Edit

/-- What the changes are measured against: for a new profile, the defaults that it started from. -/
def baseline (edit : Edit) : Profile :=
  edit.existing.getD (.blank edit.profile.ssid edit.profile.security)

def isNew (edit : Edit) : Bool := edit.existing.isNone

def ipChanged (edit : Edit) : Bool := edit.isNew || edit.baseline.ipDiffers edit.profile

def proxyChanged (edit : Edit) : Bool := edit.isNew || edit.baseline.proxyDiffers edit.profile

def credentialsChanged (edit : Edit) : Bool := edit.isNew || edit.baseline.credentialsDiffer edit.profile

/-- The profile to store: with new credentials it has never been connected. -/
def outcome (edit : Edit) : Profile :=
  if edit.credentialsChanged then
    edit.profile.withSelection { edit.profile.selection with hasEverConnected := false }
  else edit.profile

def result (edit : Edit) (id : ProfileId) : EditResult :=
  { id
    isNew := edit.isNew
    ipChanged := edit.ipChanged
    proxyChanged := edit.proxyChanged
    credentialsChanged := edit.credentialsChanged }

end Edit

namespace Manager

/-- The ephemeral profile that a saved draft with its key replaces. -/
def replaced? (manager : Manager) (draft : Draft) : Option ProfileId :=
  if draft.ephemeral then none
  else ((draft.key?.bind manager.roster.getByKey?).filter Profile.ephemeral).map Profile.id

/-- The profile that a draft changes: the one of its id, or else of its key, unless it is replaced. -/
def edited? (manager : Manager) (draft : Draft) (replaced : Option ProfileId) : Option Profile :=
  (draft.id.bind manager.roster.get? <|> draft.key?.bind manager.roster.getByKey?).filter fun profile =>
    some profile.id != replaced

def create (manager : Manager) (draft : Draft) (caller : Owner) : Except ManagerError Edit := do
  (draft.validate .add).mapError .validation
  match draft.ssid, draft.security with
  | some ssid, some security => .ok ⟨none, .ofDraft draft ssid security caller manager.stamp⟩
  | _, _ => .error (.validation .missingSsid)

def revise (manager : Manager) (existing : Profile) (draft : Draft) (caller : Owner) :
    Except ManagerError Edit := do
  (draft.validate .update).mapError .validation
  if manager.canModify existing caller then
    .ok ⟨some existing, { existing.update draft with lastUpdater := caller, updatedAt := manager.stamp }⟩
  else .error (.permissionDenied caller.uid existing.id)

/-- Checks a draft and works it in; nothing is stored yet. -/
def prepare (manager : Manager) (draft : Draft) (caller : Owner) (replaced : Option ProfileId) :
    Except ManagerError Edit := do
  let edit ← match manager.edited? draft replaced with
    | some existing => manager.revise existing draft caller
    | none => manager.create draft caller
  if edit.baseline.proxyDiffers edit.profile && !manager.canChangeProxy caller then
    .error (.proxyPermissionDenied caller.uid)
  else if edit.baseline.addressChoice != edit.profile.addressChoice &&
      !manager.canChangeRandomization caller.uid then
    .error (.randomizationPermissionDenied caller.uid)
  else .ok edit

/-- Shows supplied enterprise credentials to the key store and returns its verdict. -/
def showKeys (manager : Manager) (draft : Draft) (edit : Edit) : Manager × Bool :=
  if draft.enterprise.isSome && !edit.profile.passpoint then
    let accepted := manager.platform.acceptsKeys edit.profile edit.existing
    (manager.notice (.keysShown edit.profile edit.existing accepted), accepted)
  else (manager, true)

/-- Gives a new profile its id and its first station address. -/
def register (manager : Manager) (profile : Profile) : Manager × Profile :=
  let (manager, id) := manager.allocateId
  let profile := { profile with id }
  let (randomizer, address) := manager.randomizer.initial profile
  let station := { profile.station with address := address.getD profile.station.address }
  ({ manager with randomizer }, { profile with station })

def carryOut (manager : Manager) (draft : Draft) (edit : Edit) : Manager × Except ManagerError EditResult :=
  let (manager, accepted) := manager.showKeys draft edit
  if !accepted then (manager, .error (.keyStoreRejected edit.profile.key))
  else
    let (manager, profile) :=
      if edit.isNew then manager.register edit.outcome else (manager, edit.outcome)
    match manager.roster.put profile with
    | .error conflict => (manager, .error (.duplicateKey conflict))
    | .ok roster => ({ manager with roster }, .ok (edit.result profile.id))

/-- A profile that is added or changed is no longer dismissed; one that was, is enabled. -/
def undismiss (manager : Manager) (id : ProfileId) : Manager :=
  let ssid := ((manager.roster.get? id).map Profile.ssid).getD ""
  if manager.dismissed.contains ssid then
    ({ manager with dismissed := manager.dismissed.erase ssid }.updateSelection id .enable).1
  else manager

/-- Announces an edit that was stored, and writes it if the profile is saved. -/
def followUp (manager : Manager) (result : EditResult) : Manager :=
  let manager := manager.undismiss result.id
  match manager.roster.get? result.id with
  | none => manager
  | some profile =>
    let manager := manager.announce (if result.isNew then .added profile else .updated profile)
    if profile.isSaved then manager.persist true else manager

def addOrUpdate (manager : Manager) (draft : Draft) (caller : Owner) :
    Manager × Except ManagerError EditResult :=
  if !manager.hasUid caller.uid then (manager, .error (.foreignTenant caller.uid))
  else if manager.awaitsStore then (manager, .error .storeNotRead)
  else
    let replaced := manager.replaced? draft
    match manager.prepare draft caller replaced with
    | .error failure => (manager, .error failure)
    | .ok edit =>
      let manager := match replaced with
        | some id => (manager.removeAnyway id).1
        | none => manager
      match manager.carryOut draft edit with
      | (manager, .error failure) => (manager, .error failure)
      | (manager, .ok result) => (manager.followUp result, .ok result)

/-- Moves a profile on a caller's behalf and writes it at once. -/
def decide (manager : Manager) (id : ProfileId) (reason : Reason) (caller : Owner) : Manager × Bool :=
  if (manager.roster.get? id).any (manager.canModify · caller) then
    match manager.updateSelection id reason with
    | (manager, true) => (manager.persist true, true)
    | (manager, false) => (manager, false)
  else (manager, false)

/-- Enables a profile. With `exclusive` it is the last selected one from then on, even if the caller may
not enable it. -/
def enable (manager : Manager) (id : ProfileId) (exclusive : Bool) (caller : Owner) : Manager × Bool :=
  if !manager.hasUid caller.uid || (manager.roster.get? id).isNone then (manager, false)
  else
    let manager :=
      if exclusive then { manager with lastSelected := some (id, manager.platform.elapsed) } else manager
    manager.decide id .enable caller

/-- Disables a profile, which is not the last selected one from then on, even if the caller may not
disable it. -/
def disable (manager : Manager) (id : ProfileId) (caller : Owner) : Manager × Bool :=
  if !manager.hasUid caller.uid || (manager.roster.get? id).isNone then (manager, false)
  else (manager.deselect id).decide id .byManager caller

/-- The first visible profile of an SSID that is not saved. -/
def unsaved? (manager : Manager) (ssid : String) : Option Profile :=
  manager.roster.visible.find? fun profile => !profile.isSaved && profile.ssid == ssid

/-- Dismisses an ephemeral or provider's profile: its SSID is remembered, and the profile is disabled and
nobody's choice. Returns the profile as it then is. -/
def dismiss (manager : Manager) (ssid : String) : Manager × Option Profile :=
  match manager.unsaved? ssid with
  | none => (manager, none)
  | some profile =>
    let manager := { manager with dismissed := manager.dismissed.insert ssid manager.platform.wall }
    let (manager, _) := (manager.forgetChoices profile.key).updateSelection profile.id .byManager
    (manager, manager.roster.get? profile.id)

/-- Whether an SSID was dismissed lately. An expired dismissal is forgotten, and its profile enabled. None if
it halts on the age of the dismissal. -/
def checkDismissal? (manager : Manager) (ssid : String) : Option (Manager × Bool) :=
  match manager.dismissed.get? ssid with
  | none => some (manager, false)
  | some dismissedAt =>
    (Millis.sub? manager.platform.wall dismissedAt).map fun age =>
      if age ≤ manager.settings.dismissalExpiry then (manager, true)
      else
        let manager := { manager with dismissed := manager.dismissed.erase ssid }
        match manager.unsaved? ssid with
        | some profile => ((manager.updateSelection profile.id .enable).1, false)
        | none => (manager, false)

/-- What the question comes to; nothing is forgotten where it halts. -/
def checkDismissal (manager : Manager) (ssid : String) : Manager × Bool :=
  (manager.checkDismissal? ssid).getD (manager, true)

theorem checkDismissal_eq (manager : Manager) (ssid : String) :
    manager.checkDismissal ssid =
      match manager.dismissed.get? ssid with
      | none => (manager, false)
      | some dismissedAt =>
        if (Millis.sub? manager.platform.wall dismissedAt).all (· ≤ manager.settings.dismissalExpiry) then (manager, true)
        else
          let manager := { manager with dismissed := manager.dismissed.erase ssid }
          match manager.unsaved? ssid with
          | some profile => ((manager.updateSelection profile.id .enable).1, false)
          | none => (manager, false) := by
  unfold checkDismissal checkDismissal?
  cases manager.dismissed.get? ssid with
  | none => rfl
  | some dismissedAt =>
      simp only
      cases Millis.sub? manager.platform.wall dismissedAt with
      | none => rfl
      | some age => simp

def clearDismissals (manager : Manager) : Manager := { manager with dismissed := .empty }

end Manager

end SavedNetworks
