import SavedNetworks.Proofs.Manager.Updates
import SavedNetworks.Proofs.Profile.Omissions

/-!
Updates by documents. What the document omits stays, but for a few fields that have no written form for "as it was": these
are filled in with their defaults (`Manager.keepsOmitted_run_iff`).
-/

namespace SavedNetworks

namespace Manager

variable {manager : Manager} {draft : Draft} {caller : Owner} {before : Profile} {id : ProfileId} {result : EditResult}

/-- After any run, an accepted update by a record keeps every field that the record omits just if those that have no
written form for "as it was" are at their defaults already. The other fields are kept in any case. -/
theorem keepsOmitted_run_iff (settings : Settings) (platform : Platform) (store : Store) (listeners : List Listener)
    (digest : String → Option (List UInt8)) (random : List UInt8) (operations : List Operation)
    (reached : manager = (start settings platform store listeners digest random).run operations)
    {origin : Json.Origin} {members : List (Option String × Json)} (read : Draft.ofJson? origin (.record members) = some draft)
    (found : manager.roster.get? id = some before) (accepted : (manager.addOrUpdate draft caller).2 = .ok result)
    (old : result.isNew = false) (same : result.id = id) :
    ∃ after, (manager.addOrUpdate draft caller).1.roster.get? id = some after ∧
      before.KeepsOpen (.record members) after ∧
      (before.KeepsOmitted (.record members) after ↔ before.HasDefaults (.record members) draft) := by
  have wellFormed : manager.roster.WellFormed := reached ▸ wellFormed_run Roster.wellFormed_empty operations
  have empty := Draft.emptyWhereOmitted read
  obtain ⟨existing, here, _, there⟩ := revised_addOrUpdate wellFormed accepted old
  rw [same] at here there
  obtain rfl := Option.some.inj (here.symm.trans found)
  obtain ⟨status, selection, shape⟩ := manager.settled_revision existing draft caller
    (manager.dismissed.contains (manager.revision existing draft caller).outcome.ssid)
  refine ⟨_, there, ?_, ?_⟩
  · rw [shape]
    exact Profile.keepsOpen_update caller manager.stamp status selection empty existing
  · rw [shape]
    exact Profile.keepsOmitted_update_iff caller manager.stamp status selection empty

/-- A new passphrase for the first profile. -/
def newPassphrase : List (Option String × Json) := [(some "id", .nat 0), (some "pre_shared_key", .text "overnight2")]

/-- The draft that is read from it. -/
def rekeying : Draft := { Draft.empty with id := some ⟨0⟩, preSharedKey := some "overnight2" }

/-- A manager with one network, which may hide itself. -/
def keyedHome (hidden : Bool) : Manager :=
  onEmptyStore.run [.load, .addOrUpdate { Draft.psk "Home" "password" with hidden } ⟨Uid.system, "android"⟩]

theorem keepsOmitted_keyedHome :
    ∃ before after : Profile, before.preSharedKey = some "password" ∧ after.preSharedKey = some "overnight2" ∧
      before.KeepsOmitted (.record newPassphrase) after := by
  have read : Draft.ofJson? .argument (.record newPassphrase) = some rekeying := by decide
  have accepted : ((keyedHome false).addOrUpdate rekeying ⟨Uid.system, "android"⟩).2 =
      .ok ⟨⟨0⟩, false, false, false, true⟩ := by decide
  have home : ∃ before, (keyedHome false).roster.get? ⟨0⟩ = some before ∧ before.preSharedKey = some "password" ∧
      before.HasDefaults (.record newPassphrase) rekeying := by
    refine ⟨((keyedHome false).roster.get? ⟨0⟩).getD (.blank "" .unsecured), by decide, by decide, ?_⟩
    constructor <;> exact fun _ => by decide
  have rekeyed : ∀ after ∈ ((keyedHome false).addOrUpdate rekeying ⟨Uid.system, "android"⟩).1.roster.get? ⟨0⟩,
      after.preSharedKey = some "overnight2" := by decide
  obtain ⟨before, found, stored, defaults⟩ := home
  obtain ⟨after, there, _, keeps⟩ := keepsOmitted_run_iff .default (.start 0 1700000000000) (.immediate .empty) []
    (fun _ => none) [] _ rfl read found accepted rfl rfl
  exact ⟨before, after, stored, rekeyed after there, keeps.2 defaults⟩

/-- A network that hides itself is not looked for any more once its passphrase changes. -/
theorem not_keepsOmitted_hiddenHome :
    ∃ before after, Draft.ofJson? .argument (.record newPassphrase) = some rekeying ∧
      (keyedHome true).roster.get? ⟨0⟩ = some before ∧
      ((keyedHome true).addOrUpdate rekeying ⟨Uid.system, "android"⟩).2 = .ok ⟨⟨0⟩, false, false, false, true⟩ ∧
      ((keyedHome true).addOrUpdate rekeying ⟨Uid.system, "android"⟩).1.roster.get? ⟨0⟩ = some after ∧
      ¬ before.KeepsOmitted (.record newPassphrase) after := by
  refine ⟨((keyedHome true).roster.get? ⟨0⟩).getD (.blank "" .unsecured),
    (((keyedHome true).addOrUpdate rekeying ⟨Uid.system, "android"⟩).1.roster.get? ⟨0⟩).getD (.blank "" .unsecured),
    by decide, by decide, by decide, by decide, fun keeps => ?_⟩
  exact absurd (keeps.hidden rfl) (by decide)

end Manager

end SavedNetworks
