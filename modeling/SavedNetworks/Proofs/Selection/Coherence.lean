import SavedNetworks.Manager.Selecting

/-!
What a transition says about the status that it leads to. The state always is the one that the reason asks for, and then
a transition names the new state and reason if and only if they are not those from before (`Moved.reports`).
-/

namespace SavedNetworks

/-- The state that a reason asks for. -/
def Reason.eligibility (reason : Reason) : Eligibility :=
  if reason = .enable then .enabled else if reason.isPermanent then .permanentlyDisabled else .temporarilyDisabled

namespace SelectionStatus

/-- The state with its reason. -/
def mood (status : SelectionStatus) : Eligibility × Reason := (status.state, status.reason)

/-- The state is the one that the reason asks for. -/
def Coherent (status : SelectionStatus) : Prop := status.state = status.reason.eligibility

theorem coherent_congr {left right : SelectionStatus} (same : left.mood = right.mood) : left.Coherent ↔ right.Coherent := by
  obtain ⟨state, reason⟩ := Prod.mk.inj same
  rw [Coherent, Coherent, state, reason]

theorem mood_countFailure (status : SelectionStatus) (reason : Reason) : (status.countFailure reason).mood = status.mood := rfl

end SelectionStatus

/-- What one reason or one poll makes of a status, and what it says that it did. -/
inductive Moved (old : SelectionStatus) : SelectionStatus → Transition → Prop where
  | applied (rules : Rules) (reason : Reason) (now : Millis) (ignoring : Bool) :
    Moved old (rules.apply old reason now ignoring).1 (rules.apply old reason now ignoring).2
  | polled (rules : Rules) (now : Millis) (blocked : UInt32) :
    Moved old (rules.tryEnable old now blocked).1 (rules.tryEnable old now blocked).2

/-- Whoever knows the transition knows whether the state and reason were changed, and to what. -/
inductive Transition.Reports (old new : SelectionStatus) : Transition → Prop where
  | enabled (now : new.mood = (.enabled, .enable)) (other : new.mood ≠ old.mood) : Reports old new .enabled
  | temporarilyDisabled {reason : Reason} (now : new.mood = (.temporarilyDisabled, reason)) (other : new.mood ≠ old.mood) :
    Reports old new (.temporarilyDisabled reason)
  | permanentlyDisabled {reason : Reason} (now : new.mood = (.permanentlyDisabled, reason)) (other : new.mood ≠ old.mood) :
    Reports old new (.permanentlyDisabled reason)
  | nothing {transition : Transition} (still : transition.isStateChange = false) (same : new.mood = old.mood) :
    Reports old new transition

namespace SelectionStatus

variable {status : SelectionStatus}

theorem coherent_force (coherent : status.Coherent) (reason : Reason) (now : Millis) : (status.force reason now).1.Coherent := by
  unfold force
  by_cases enabling : reason = .enable
  · rw [if_pos enabling]
    rfl
  · rw [if_neg enabling]
    cases permanent : reason.isPermanent with
    | true =>
        rw [if_pos rfl]
        split
        · exact coherent
        · simp [Coherent, Reason.eligibility, enabling, permanent]
    | false =>
        rw [if_neg Bool.false_ne_true]
        split
        · exact coherent
        · simp [Coherent, Reason.eligibility, enabling, permanent]

/-- A coherent status is enabled for no reason but the enabling one. -/
theorem reason_of_enabled (coherent : status.Coherent) (enabled : status.state = .enabled) : status.reason = .enable := by
  rw [Coherent, enabled, Reason.eligibility] at coherent
  by_cases enabling : status.reason = .enable
  · exact enabling
  · rw [if_neg enabling] at coherent
    split at coherent <;> cases coherent

theorem reports_force (coherent : status.Coherent) (reason : Reason) (now : Millis) :
    (status.force reason now).2.Reports status (status.force reason now).1 := by
  unfold force
  by_cases enabling : reason = .enable
  · rw [if_pos enabling]
    by_cases enabled : status.state = .enabled
    · rw [if_pos (by simpa [isEnabled] using enabled)]
      exact .nothing rfl (by rw [mood, mood, enabled, reason_of_enabled coherent enabled])
    · rw [if_neg (by simpa [isEnabled] using enabled)]
      exact .enabled rfl fun same => enabled (congrArg Prod.fst same).symm
  · rw [if_neg enabling]
    split
    · split
      · exact .nothing rfl rfl
      · next another =>
          refine .permanentlyDisabled rfl fun same => another ?_
          obtain ⟨state, again⟩ := Prod.mk.inj same
          exact ⟨by simp [isPermanentlyDisabled, ← state], again.symm⟩
    · split
      · exact .nothing rfl rfl
      · next another =>
          refine .temporarilyDisabled rfl fun same => another ?_
          obtain ⟨state, again⟩ := Prod.mk.inj same
          exact ⟨by simp [isTemporarilyDisabled, ← state], again.symm⟩

end SelectionStatus

/-- Failures that are only counted do not matter. -/
theorem Transition.Reports.of_mood {old counted new : SelectionStatus} {transition : Transition}
    (reports : transition.Reports counted new) (same : counted.mood = old.mood) : transition.Reports old new := by
  cases reports with
  | enabled now other => exact .enabled now (same ▸ other)
  | temporarilyDisabled now other => exact .temporarilyDisabled now (same ▸ other)
  | permanentlyDisabled now other => exact .permanentlyDisabled now (same ▸ other)
  | nothing still latter => exact .nothing still (latter.trans same)

namespace Rules

variable {rules : Rules} {status : SelectionStatus}

theorem apply_spec (coherent : status.Coherent) (reason : Reason) (now : Millis) (ignoring : Bool) :
    (rules.apply status reason now ignoring).1.Coherent ∧
      (rules.apply status reason now ignoring).2.Reports status (rules.apply status reason now ignoring).1 := by
  have counted := status.mood_countFailure reason
  have still : (status.countFailure reason).Coherent := (SelectionStatus.coherent_congr counted).2 coherent
  unfold apply
  split
  · exact ⟨SelectionStatus.coherent_force coherent reason now, SelectionStatus.reports_force coherent reason now⟩
  · split
    · exact ⟨coherent, .nothing rfl rfl⟩
    · simp only
      split
      · exact ⟨still, .nothing rfl counted⟩
      · exact ⟨SelectionStatus.coherent_force still reason now, (SelectionStatus.reports_force still reason now).of_mood counted⟩

theorem tryEnable_spec (coherent : status.Coherent) (now : Millis) (blocked : UInt32) :
    (rules.tryEnable status now blocked).1.Coherent ∧
      (rules.tryEnable status now blocked).2.Reports status (rules.tryEnable status now blocked).1 := by
  have same : status.Coherent ∧ Transition.unchanged.Reports status status := ⟨coherent, .nothing rfl rfl⟩
  rw [tryEnable_eq_ite]
  split
  · split
    · exact same
    · split
      · exact ⟨SelectionStatus.coherent_force coherent .enable now, SelectionStatus.reports_force coherent .enable now⟩
      · exact same
  · exact same

end Rules

namespace Moved

variable {old new : SelectionStatus} {transition : Transition}

theorem coherent (moved : Moved old new transition) (before : old.Coherent) : new.Coherent := by
  cases moved with
  | applied rules reason now ignoring => exact (Rules.apply_spec before reason now ignoring).1
  | polled rules now blocked => exact (Rules.tryEnable_spec before now blocked).1

/-- A transition names the new state and reason if and only if they are not those from before. -/
theorem reports (moved : Moved old new transition) (before : old.Coherent) : transition.Reports old new := by
  cases moved with
  | applied rules reason now ignoring => exact (Rules.apply_spec before reason now ignoring).2
  | polled rules now blocked => exact (Rules.tryEnable_spec before now blocked).2

end Moved

end SavedNetworks
