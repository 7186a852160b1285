import SavedNetworks.Manager.State

/-!
Who may do what to a profile.
-/

namespace SavedNetworks.Manager

/-- May change or remove the profile. A profile made by the owner of the device is closed to its creator,
and under lockdown to everybody but the system and the owner. -/
def canModify (manager : Manager) (profile : Profile) (caller : Owner) : Bool :=
  let privileges := manager.platform.privileges
  if caller.uid = Uid.system then true
  else if (profile.passpoint || profile.usesSim) && caller.uid == Uid.wifi then true
  else if privileges.ownsDevice caller.uid caller.package then true
  else if privileges.ownsDevice profile.creator.uid profile.creator.packageName then
    !manager.settings.deviceOwnerLockdown && privileges.changesNetworks caller.uid
  else profile.creator.uid == caller.uid || privileges.changesNetworks caller.uid

def canChangeProxy (manager : Manager) (caller : Owner) : Bool :=
  let privileges := manager.platform.privileges
  privileges.ownsDevice caller.uid caller.package || privileges.ownsProfile caller.uid caller.package ||
    privileges.changesNetworks caller.uid || privileges.runsSetup caller.uid

def canChangeRandomization (manager : Manager) (uid : Uid) : Bool :=
  manager.platform.privileges.changesNetworks uid || manager.platform.privileges.runsSetup uid

end SavedNetworks.Manager
