import SavedNetworks.Manager.Storing

/-!
Selection, connection and the small facts that are noted on one profile. A change of selection state is
announced with the profile as it then is, and written when the store sees fit.
-/

namespace SavedNetworks.Manager

def statusAfter : Transition → Option ProfileStatus
  | .enabled => some .enabled
  | .permanentlyDisabled _ => some .disabled
  | _ => none

def eventOf? (profile : Profile) : Transition → Option Event
  | .enabled => some (.enabled profile)
  | .temporarilyDisabled reason => some (.temporarilyDisabled profile reason)
  | .permanentlyDisabled reason => some (.permanentlyDisabled profile reason)
  | _ => none

def setSelection (manager : Manager) (id : ProfileId) (profile : Profile) (selection : SelectionStatus)
    (transition : Transition) : Manager :=
  let changed : Profile :=
    { profile with selection, status := (statusAfter transition).getD profile.status }
  let manager := manager.modify id fun _ => changed
  match eventOf? changed transition with
  | some event => (manager.announce event).persist false
  | none => manager

/-- Takes in one reason for a profile. False if the profile is not seen, or the watchdog drops it. -/
def updateSelection (manager : Manager) (id : ProfileId) (reason : Reason) : Manager × Bool :=
  match manager.roster.get? id with
  | none => (manager, false)
  | some profile =>
    let (selection, transition) := manager.settings.rules.apply profile.selection reason
      manager.platform.elapsed manager.platform.watchdog
    if transition.isAccepted then (manager.setSelection id profile selection transition, true)
    else (manager, false)

def updateSelectionCode (manager : Manager) (id : ProfileId) (code : Int32) : Manager × Bool :=
  match Reason.ofCode? code with
  | some reason => manager.updateSelection id reason
  | none => (manager, false)

/-- Enables a temporarily disabled profile whose backoff is over. -/
def tryEnable (manager : Manager) (id : ProfileId) : Manager × Bool :=
  match manager.roster.get? id with
  | none => (manager, false)
  | some profile =>
    let blocked := min (manager.platform.blockedCount profile.ssid) manager.settings.maxBlocked
    let (selection, transition) :=
      manager.settings.rules.tryEnable profile.selection manager.platform.elapsed blocked
    (manager.setSelection id profile selection transition, transition == .enabled)

def collect (operation : Manager → ProfileId → Manager × Bool) :
    Manager → List ProfileId → Manager × List ProfileId
  | manager, [] => (manager, [])
  | manager, id :: rest =>
    let (manager, done) := operation manager id
    let (manager, ids) := collect operation manager rest
    (manager, if done then id :: ids else ids)

def tryEnableAll (manager : Manager) : Manager × List ProfileId :=
  collect tryEnable manager
    ((manager.roster.visible.filter (·.selection.isTemporarilyDisabled)).map Profile.id)

/-- Notes something on a visible profile that is not written. False if the profile is not seen. -/
def note (manager : Manager) (id : ProfileId) (change : Profile → Profile) : Manager × Bool :=
  match manager.roster.get? id with
  | some _ => (manager.modify id change, true)
  | none => (manager, false)

def noteStored (manager : Manager) (id : ProfileId) (change : Profile → Profile) : Manager × Bool :=
  match manager.roster.get? id with
  | some _ => ((manager.modify id change).persist false, true)
  | none => (manager, false)

def recordConnected (manager : Manager) (id : ProfileId) : Manager × Bool :=
  manager.noteStored id fun profile =>
    { profile with
      stats :=
        { profile.stats with
          lastConnectedAt := manager.platform.wall
          associations := profile.stats.associations + 1 }
      selection := { profile.selection.clearCounters with hasEverConnected := true }
      status := .current }

def recordDisconnected (manager : Manager) (id : ProfileId) : Manager × Bool :=
  manager.noteStored id fun profile =>
    { profile with
      stats := { profile.stats with lastDisconnectedAt := manager.platform.wall }
      station := profile.station.extendAfterDisconnect manager.platform.wall
      status := if profile.status = .current then .enabled else profile.status }

def setConnectChoice (manager : Manager) (id : ProfileId) (choice : ConnectChoice) : Manager × Bool :=
  manager.noteStored id fun profile =>
    profile.withSelection { profile.selection with connectChoice := some choice }

def clearConnectChoice (manager : Manager) (id : ProfileId) : Manager × Bool :=
  manager.noteStored id fun profile =>
    profile.withSelection { profile.selection with connectChoice := none }

def setCandidate (manager : Manager) (id : ProfileId) (candidate : Candidate) : Manager × Bool :=
  manager.note id fun profile =>
    profile.withSelection (profile.selection.setCandidate candidate.sighting candidate.score)

def clearCandidate (manager : Manager) (id : ProfileId) : Manager × Bool :=
  manager.note id fun profile => profile.withSelection profile.selection.clearCandidate

/-- One more report of a connection without internet; the greatest count stays. -/
def reportNoInternet (manager : Manager) (id : ProfileId) : Manager × Bool :=
  manager.noteStored id fun profile =>
    let reports := profile.stats.noInternetReports
    let more := if reports = UInt32.ofNat (UInt32.size - 1) then reports else reports + 1
    { profile with stats := { profile.stats with noInternetReports := more } }

/-- Notes whether a connection has internet access; one that has clears the reports. -/
def setValidated (manager : Manager) (id : ProfileId) (validated : Bool) : Manager × Bool :=
  manager.noteStored id fun profile =>
    { profile with
      stats :=
        { profile.stats with
          validatedInternet := validated
          noInternetReports := if validated then 0 else profile.stats.noInternetReports } }

def setNoInternetExpected (manager : Manager) (id : ProfileId) (expected : Bool) : Manager × Bool :=
  manager.noteStored id fun profile => { profile with noInternetExpected := expected }

def setAutojoin (manager : Manager) (id : ProfileId) (allowed : Bool) : Manager × Bool :=
  manager.noteStored id fun profile => { profile with autojoin := allowed }

def setLastConnectUid (manager : Manager) (id : ProfileId) (uid : Uid) : Manager × Bool :=
  if manager.hasUid uid then
    manager.noteStored id fun profile =>
      { profile with stats := { profile.stats with lastConnectUid := some uid } }
  else (manager, false)

def setRecentFailure (manager : Manager) (id : ProfileId) (code : UInt16) : Manager × Bool :=
  manager.note id fun profile => { profile with recentFailure := some code }

def clearRecentFailure (manager : Manager) (id : ProfileId) : Manager × Bool :=
  manager.note id fun profile => { profile with recentFailure := none }

/-- Notes the gateway's hardware address, in lower case. -/
def setGateway (manager : Manager) (id : ProfileId) (gateway : String) : Manager × Bool :=
  manager.noteStored id fun profile => { profile with defaultGateway := some (Text.lower gateway) }

end SavedNetworks.Manager
