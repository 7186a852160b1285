import SavedNetworks.Proofs.Manager.Additions
import SavedNetworks.Proofs.Manager.Polling
import SavedNetworks.Proofs.Selection.Permanence

/-!
Explicit decisions about a profile. An enabling takes effect at once, but a disabling is counted like a failure: it is
accepted even where it leaves the profile enabled (`Manager.takesEffect_iff`).
-/

namespace SavedNetworks

namespace SelectionStatus

/-- Disabled for good, by an explicit decision. -/
def IsTurnedOff (status : SelectionStatus) : Prop := status.state = .permanentlyDisabled ∧ status.reason = .byManager

instance (status : SelectionStatus) : Decidable status.IsTurnedOff := inferInstanceAs (Decidable (_ ∧ _))

theorem isTurnedOff_force (status : SelectionStatus) (now : Millis) : (status.force .byManager now).1.IsTurnedOff := by
  rw [force, if_neg (by decide), if_pos (by decide)]
  split
  · next already => exact ⟨isPermanentlyDisabled_iff.1 already.1, already.2⟩
  · exact ⟨rfl, rfl⟩

end SelectionStatus

namespace Rules

/-- One more failure of the kind reaches its threshold. -/
def ReachesNext (rules : Rules) (status : SelectionStatus) (reason : Reason) : Prop :=
  (rules.rule reason).threshold.toNat ≤ (status.counter reason).toNat + 1

theorem isTurnedOff_apply_iff (rules : Rules) (status : SelectionStatus) (now : Millis) (ignoring : Bool) :
    (rules.apply status .byManager now ignoring).1.IsTurnedOff ↔
      status.IsTurnedOff ∨ rules.ReachesNext status .byManager := by
  have stands : (status.countFailure .byManager).counter .byManager < (rules.rule .byManager).threshold ↔
      (status.counter .byManager).toNat + 1 < (rules.rule .byManager).threshold.toNat :=
    SelectionStatus.countFailure_lt_iff _
  rw [apply, if_neg (by decide), if_neg (by simp [Reason.isGated])]
  simp only
  by_cases below : (status.countFailure .byManager).counter .byManager < (rules.rule .byManager).threshold
  · have far : ¬ rules.ReachesNext status .byManager := Nat.not_le.2 (stands.1 below)
    rw [if_pos below, or_iff_left far]
    rfl
  · have reached : rules.ReachesNext status .byManager := Nat.not_lt.1 (mt stands.2 below)
    rw [if_neg below]
    exact iff_of_true (SelectionStatus.isTurnedOff_force _ now) (.inr reached)

end Rules

namespace Manager

variable {manager : Manager} {id : ProfileId} {reason : Reason} {caller : Owner}

/-- The profile of an id takes in a reason. -/
structure Takes (id : ProfileId) (reason : Reason) (before after : Manager) : Prop where
  lastSelected : after.lastSelected = before.lastSelected
  selection : ∃ old new, before.roster.get? id = some old ∧ after.roster.get? id = some new ∧
    new.selection =
      (before.settings.rules.apply old.selection reason before.platform.elapsed before.platform.watchdog).1

theorem updateSelection_cases (manager : Manager) (id : ProfileId) (reason : Reason) :
    manager.updateSelection id reason = (manager, false) ∨
      (manager.updateSelection id reason).2 = true ∧ Takes id reason manager (manager.updateSelection id reason).1 := by
  unfold updateSelection
  split
  · exact .inl rfl
  · next profile found =>
      simp only
      split
      · obtain ⟨store, journal, moved⟩ := manager.setSelection_eq id profile
          (manager.settings.rules.apply profile.selection reason manager.platform.elapsed manager.platform.watchdog).1
          (manager.settings.rules.apply profile.selection reason manager.platform.elapsed manager.platform.watchdog).2
        rw [moved]
        have visible := (Roster.get?_eq_some.1 found).2
        exact .inr ⟨rfl, rfl, profile, _, found, Roster.get?_modify_self found visible, rfl⟩
      · exact .inl rfl

/-- A decision that is refused changes nothing. -/
theorem decide_cases (manager : Manager) (id : ProfileId) (reason : Reason) (caller : Owner) :
    manager.decide id reason caller = (manager, false) ∨
      (manager.decide id reason caller).2 = true ∧ Takes id reason manager (manager.decide id reason caller).1 := by
  have cases := manager.updateSelection_cases id reason
  unfold Manager.decide
  split
  · rcases cases with refused | ⟨accepted, takes⟩
    · rw [refused]
      exact .inl rfl
    · generalize manager.updateSelection id reason = moved at accepted takes
      obtain ⟨after, answer⟩ := moved
      cases accepted
      refine .inr ⟨rfl, ?_⟩
      change Takes id reason manager (after.persist true)
      rw [persist_eq]
      exact ⟨takes.lastSelected, takes.selection⟩
  · exact .inl rfl

theorem enable_cases (manager : Manager) (id : ProfileId) (exclusive : Bool) (caller : Owner) :
    (manager.enable id exclusive caller).2 = false ∧ (manager.enable id exclusive caller).1.books = manager.books ∨
      (manager.enable id exclusive caller).2 = true ∧ ∃ old new, manager.roster.get? id = some old ∧
        (manager.enable id exclusive caller).1.roster.get? id = some new ∧ new.selection = old.selection.readied := by
  unfold enable
  split
  · exact .inl ⟨rfl, rfl⟩
  · generalize chosen : (if exclusive then { manager with lastSelected := some (id, manager.platform.elapsed) }
      else manager) = picked
    have same : picked.books = manager.books := by
      rw [← chosen]
      split <;> rfl
    have roster : picked.roster = manager.roster := congrArg Books.roster same
    simp only
    rcases picked.decide_cases id .enable caller with refused | ⟨accepted, _, old, new, found, there, selection⟩
    · rw [refused]
      exact .inl ⟨rfl, same⟩
    · refine .inr ⟨accepted, old, new, roster ▸ found, there, ?_⟩
      rw [selection, Rules.apply, if_pos rfl, SelectionStatus.force_enable]

theorem disable_cases (manager : Manager) (id : ProfileId) (caller : Owner) :
    (manager.disable id caller).2 = false ∧ (manager.disable id caller).1.books = manager.books ∨
      (manager.disable id caller).2 = true ∧
        (manager.disable id caller).1.lastSelected = manager.lastSelected.filter (·.1 != id) ∧
        ∃ old new, manager.roster.get? id = some old ∧ (manager.disable id caller).1.roster.get? id = some new ∧
          (new.selection.IsTurnedOff ↔
            old.selection.IsTurnedOff ∨ manager.settings.rules.ReachesNext old.selection .byManager) := by
  unfold disable
  split
  · exact .inl ⟨rfl, rfl⟩
  · rw [deselect_eq]
    rcases decide_cases { manager with lastSelected := manager.lastSelected.filter (·.1 != id) } id .byManager caller with
      refused | ⟨accepted, last, old, new, found, there, selection⟩
    · rw [refused]
      exact .inl ⟨rfl, rfl⟩
    · refine .inr ⟨accepted, last, old, new, found, there, ?_⟩
      rw [selection]
      exact manager.settings.rules.isTurnedOff_apply_iff old.selection _ _

/-- An accepted decision is in effect, and a refused one leaves memory and store as they are. -/
structure TakesEffect (manager : Manager) (id : ProfileId) (exclusive : Bool) (caller : Owner) : Prop where
  enabled : (manager.enable id exclusive caller).2 = true →
    ∃ profile, (manager.enable id exclusive caller).1.roster.get? id = some profile ∧ profile.selection.state = .enabled ∧
      profile.selection.counters = SelectionStatus.noFailures ∧ profile.selection.disabledAt = none
  notEnabled : (manager.enable id exclusive caller).2 = false →
    (manager.enable id exclusive caller).1.books = manager.books
  disabled : (manager.disable id caller).2 = true →
    (∃ profile, (manager.disable id caller).1.roster.get? id = some profile ∧ profile.selection.IsTurnedOff) ∧
      ∀ last ∈ (manager.disable id caller).1.lastSelected, last.1 ≠ id
  notDisabled : (manager.disable id caller).2 = false → (manager.disable id caller).1.books = manager.books

theorem takesEffect_of_reaches (reaches : (manager.disable id caller).2 = true → ∀ profile ∈ manager.roster.get? id,
    profile.selection.IsTurnedOff ∨ manager.settings.rules.ReachesNext profile.selection .byManager) (exclusive : Bool) :
    manager.TakesEffect id exclusive caller := by
  have enables := manager.enable_cases id exclusive caller
  have disables := manager.disable_cases id caller
  refine ⟨fun accepted => ?_, fun refused => ?_, fun accepted => ?_, fun refused => ?_⟩
  · rcases enables with ⟨refused, _⟩ | ⟨_, old, new, _, there, selection⟩
    · cases accepted.symm.trans refused
    · exact ⟨new, there, by rw [selection]; exact ⟨rfl, rfl, rfl⟩⟩
  · rcases enables with ⟨_, same⟩ | ⟨accepted, _⟩
    · exact same
    · cases accepted.symm.trans refused
  · rcases disables with ⟨refused, _⟩ | ⟨_, last, old, new, earlier, there, off⟩
    · cases accepted.symm.trans refused
    · refine ⟨⟨new, there, off.2 (reaches accepted old earlier)⟩, fun one selected => ?_⟩
      rw [last, Option.mem_def, Option.filter_eq_some_iff] at selected
      simpa using selected.2
  · rcases disables with ⟨_, same⟩ | ⟨accepted, _⟩
    · exact same
    · cases accepted.symm.trans refused

/-- The one decision that may be accepted in vain is a disabling whose threshold is not reached yet. -/
theorem takesEffect_iff (manager : Manager) (id : ProfileId) (exclusive : Bool) (caller : Owner) :
    manager.TakesEffect id exclusive caller ↔
      ((manager.disable id caller).2 = true → ∀ profile ∈ manager.roster.get? id,
        profile.selection.IsTurnedOff ∨ manager.settings.rules.ReachesNext profile.selection .byManager) := by
  refine ⟨fun effect accepted profile found => ?_, fun reaches => takesEffect_of_reaches reaches exclusive⟩
  rcases manager.disable_cases id caller with ⟨refused, _⟩ | ⟨_, _, old, new, earlier, there, off⟩
  · cases accepted.symm.trans refused
  · obtain ⟨⟨after, now, turnedOff⟩, _⟩ := effect.disabled accepted
    obtain rfl := Option.some.inj (there.symm.trans now)
    obtain rfl := Option.some.inj (earlier.symm.trans found)
    exact off.1 turnedOff

/-- Settings that ask for two disablings. -/
def hesitant : Settings := { Settings.default with ruleOverrides := .ofList [(.byManager, ⟨some 2, none⟩)] }

/-- A manager with these settings, and an enabled network. -/
def hesitantAtHome : Manager :=
  (start hesitant (.start 0 1700000000000) (.immediate .empty) [] (fun _ => none) []).run
    [.load, .addOrUpdate (.psk "Home" "password") ⟨Uid.system, "android"⟩, .enable ⟨0⟩ false ⟨Uid.system, "android"⟩]

theorem not_takesEffect_hesitantAtHome :
    hesitantAtHome.settings.invalid? = none ∧ hesitantAtHome.Reachable ∧
      ¬ hesitantAtHome.TakesEffect ⟨0⟩ false ⟨Uid.system, "android"⟩ := by
  have reached : hesitantAtHome.Reachable :=
    (ReachableAlone.start isEmpty_immediate_empty hesitant ..).run (by decide) |>.reachable
  refine ⟨by decide, reached, fun effect => ?_⟩
  obtain ⟨⟨profile, there, turnedOff⟩, _⟩ := effect.disabled (by decide)
  have still : ∀ profile ∈ (hesitantAtHome.disable ⟨0⟩ ⟨Uid.system, "android"⟩).1.roster.get? ⟨0⟩,
      ¬ profile.selection.IsTurnedOff := by decide
  exact still profile there turnedOff

end Manager

end SavedNetworks
