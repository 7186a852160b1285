import SavedNetworks.Proofs.Manager.Outcomes
import SavedNetworks.Proofs.Manager.ScanLists
import SavedNetworks.Proofs.Profile.Merging

/-!
What an accepted update changes in a profile. The secrets that it leaves out or gives as the mask stay, so does all that
callers have no say in, and the answer tells whether a credential is another one (`Manager.updates_run`).
-/

namespace SavedNetworks

namespace Profile

/-- The coarse status is the same, and so is the selection but for the note whether it was ever connected. -/
structure KeepsStanding (before after : Profile) : Prop where
  status : after.status = before.status
  selection : { after.selection with hasEverConnected := before.selection.hasEverConnected } = before.selection

end Profile

/-- An update of a profile, with the answer whether its credentials changed. -/
structure Draft.Updates (draft : Draft) (before after : Profile) (credentialsChanged : Bool) : Prop where
  secrets : before.MergesSecrets draft after
  records : before.KeepsRecords after
  told : credentialsChanged = true ↔ ¬ before.SameCredentials after
  /-- With other credentials it has never been connected. -/
  connected : after.selection.hasEverConnected = (!credentialsChanged && before.selection.hasEverConnected)

namespace Edit

theorem outcome_eq (edit : Edit) :
    edit.outcome = edit.profile.withSelection { edit.profile.selection with
      hasEverConnected := !edit.credentialsChanged && edit.profile.selection.hasEverConnected } := by
  unfold outcome
  cases edit.credentialsChanged <;> rfl

end Edit

namespace Manager

variable {manager : Manager} {draft : Draft} {caller : Owner} {existing before : Profile} {id : ProfileId}
  {result : EditResult}

/-- An update is stored as the profile that the draft was worked into, whose standing follows from what it changed. -/
theorem settled_revision (manager : Manager) (existing : Profile) (draft : Draft) (caller : Owner) (dismissed : Bool) :
    ∃ status selection, (manager.revision existing draft caller).outcome.settled dismissed =
      { existing.update draft with lastUpdater := caller, updatedAt := manager.stamp, status, selection } := by
  rw [Edit.outcome_eq]
  cases dismissed <;> exact ⟨_, _, rfl⟩

theorem updates_revision (manager : Manager) (existing : Profile) (draft : Draft) (caller : Owner) (dismissed : Bool) :
    draft.Updates existing ((manager.revision existing draft caller).outcome.settled dismissed)
      (manager.revision existing draft caller).credentialsChanged := by
  obtain ⟨preSharedKey, wepKeys, password⟩ := existing.mergesSecrets_update draft
  have told {after : Profile}
      (same : existing.credentialsDiffer after = (manager.revision existing draft caller).credentialsChanged) :
      (manager.revision existing draft caller).credentialsChanged = true ↔ ¬ existing.SameCredentials after :=
    same ▸ Profile.credentialsDiffer_eq_true_iff
  rw [Edit.outcome_eq]
  cases dismissed <;>
    exact ⟨⟨preSharedKey, wepKeys, password⟩, by constructor <;> rfl, told rfl, rfl⟩

theorem keepsStanding_revision (manager : Manager) (existing : Profile) (draft : Draft) (caller : Owner) :
    existing.KeepsStanding (manager.revision existing draft caller).outcome := by
  rw [Edit.outcome_eq]
  exact ⟨rfl, rfl⟩

/-- A fully masked copy shows the credentials with their secrets hidden. -/
theorem echoes_view (echoes : draft.Echoes (manager.view .full before)) : draft.Echoes before.hideSecrets := by
  simp only [view, Masking.hidesFrom, if_true] at echoes
  split at echoes <;> exact ⟨echoes.security, echoes.preSharedKey, echoes.wepKeys, echoes.enterprise⟩

/-- An accepted edit that adds nobody updates the profile of the id that it returns. -/
theorem revised_addOrUpdate (wellFormed : manager.roster.WellFormed)
    (accepted : (manager.addOrUpdate draft caller).2 = .ok result) (old : result.isNew = false) :
    ∃ existing, manager.roster.get? result.id = some existing ∧
      result = (manager.revision existing draft caller).result result.id ∧
      (manager.addOrUpdate draft caller).1.roster.get? result.id =
        some ((manager.revision existing draft caller).outcome.settled
          (manager.dismissed.contains (manager.revision existing draft caller).outcome.ssid)) := by
  obtain ⟨edit, stored, prepared, rfl, shape, _, there⟩ := settled_addOrUpdate wellFormed accepted
  rcases prepare_eq_ok prepared with ⟨existing, chosen, rfl⟩ | ⟨_, ssid, security, _, _, rfl⟩
  · obtain rfl := shape.changed existing rfl
    have named : (manager.revision existing draft caller).outcome.id = existing.id :=
      (Roster.keepsName_outline.same (Edit.outline_outcome _)).1
    refine ⟨existing, ?_, rfl, there⟩
    rw [Edit.result, named]
    exact (edited?_eq_some wellFormed chosen).1
  · cases old

/-- After any run, whatever was stored and whoever wrote to the store, an accepted update keeps every secret that it leaves
out or gives as the mask, and all that it has no say in. Unless the network was dismissed, it keeps the standing of the
profile too. Whoever sends back the credentials of a masked copy changes none. -/
theorem updates_run (settings : Settings) (platform : Platform) (store : Store) (listeners : List Listener)
    (digest : String → Option (List UInt8)) (random : List UInt8) (operations : List Operation)
    (reached : manager = (start settings platform store listeners digest random).run operations)
    (found : manager.roster.get? id = some before) (accepted : (manager.addOrUpdate draft caller).2 = .ok result)
    (old : result.isNew = false) (same : result.id = id) :
    ∃ after, (manager.addOrUpdate draft caller).1.roster.get? id = some after ∧
      draft.Updates before after result.credentialsChanged ∧
      (manager.dismissed.contains after.ssid = false → before.KeepsStanding after) ∧
      ∀ copy, manager.get? id .full = some copy → draft.Echoes copy →
        before.SameCredentials after ∧ result.credentialsChanged = false := by
  have wellFormed : manager.roster.WellFormed := reached ▸ wellFormed_run Roster.wellFormed_empty operations
  obtain ⟨existing, here, returned, there⟩ := revised_addOrUpdate wellFormed accepted old
  rw [same] at here there
  obtain rfl := Option.some.inj (here.symm.trans found)
  have changed : result.credentialsChanged = (manager.revision existing draft caller).credentialsChanged := by
    rw [returned]
    rfl
  rw [changed]
  refine ⟨_, there, updates_revision .., fun lasting => ?_, fun copy shown echoes => ?_⟩
  · rw [Profile.ssid_settled] at lasting
    rw [lasting]
    exact keepsStanding_revision ..
  · obtain rfl : manager.view .full existing = copy := by simpa [get?, found] using shown
    have echoed := Profile.sameCredentials_of_echoes (echoes_view echoes)
    have unchanged : (manager.revision existing draft caller).credentialsChanged ≠ true := by
      intro changes
      have differ : existing.credentialsDiffer (existing.update draft) = true := changes
      exact Profile.credentialsDiffer_eq_true_iff.1 differ echoed
    refine ⟨Classical.byContradiction fun differ => ?_, Bool.eq_false_iff.2 unchanged⟩
    exact unchanged ((updates_revision ..).told.2 differ)

/-- A network that was connected once. -/
def connectedHome : List Operation :=
  [.load, .addOrUpdate (.psk "Home" "password") ⟨Uid.system, "android"⟩, .recordConnected ⟨0⟩]

/-- A change that comes with the mask of the passphrase. -/
def maskedHome : Draft := { Draft.psk "Home" Secret.mask with hidden := true }

theorem updates_connectedHome :
    ∃ after, ((onEmptyStore.run connectedHome).addOrUpdate maskedHome ⟨Uid.system, "android"⟩).1.roster.get? ⟨0⟩ =
        some after ∧
      after.preSharedKey = some "password" ∧ after.selection.hasEverConnected = true := by
  have home : ∃ before, (onEmptyStore.run connectedHome).roster.get? ⟨0⟩ = some before ∧
      before.preSharedKey = some "password" ∧ before.selection.hasEverConnected = true := by
    refine ⟨((onEmptyStore.run connectedHome).roster.get? ⟨0⟩).getD (.blank "" .unsecured), ?_, ?_, ?_⟩ <;> decide
  have accepted : ((onEmptyStore.run connectedHome).addOrUpdate maskedHome ⟨Uid.system, "android"⟩).2 =
      .ok ⟨⟨0⟩, false, false, false, false⟩ := by decide
  obtain ⟨before, found, stored, connected⟩ := home
  obtain ⟨after, there, updates, _⟩ := updates_run .default (.start 0 1700000000000) (.immediate .empty) []
    (fun _ => none) [] connectedHome rfl found accepted rfl rfl
  exact ⟨after, there, (updates.secrets.preSharedKey.kept (.inr rfl)).trans stored, updates.connected.trans connected⟩

end Manager

end SavedNetworks
