import SavedNetworks.Proofs.Selection.Coherence
import SavedNetworks.Proofs.Selection.Permanence

/-!
The standing of a profile: its coarse status and the state of its selection. A transition tells where the standing leads,
whether the status before was coherent or not (`Moved.standing_eq`), and no transition but a temporary disabling leaves
the two apart. That comes of a temporary reason that takes hold, and of nothing else (`Rules.standing_of_takesHold`,
`Rules.takesHold_of_suspends`).
-/

namespace SavedNetworks

/-- The coarse status and the state of the selection. -/
def Profile.standing (profile : Profile) : ProfileStatus × Eligibility := (profile.status, profile.selection.state)

namespace Transition

/-- The state that is entered, if one is. -/
def state? : Transition → Option Eligibility
  | enabled => some .enabled
  | temporarilyDisabled _ => some .temporarilyDisabled
  | permanentlyDisabled _ => some .permanentlyDisabled
  | _ => none

/-- Disables for a time. -/
def suspends : Transition → Bool
  | temporarilyDisabled _ => true
  | _ => false

def leads (transition : Transition) (standing : ProfileStatus × Eligibility) : ProfileStatus × Eligibility :=
  ((Manager.statusAfter transition).getD standing.1, transition.state?.getD standing.2)

theorem leads_cases {transition : Transition} (lasting : transition.suspends = false) (standing : ProfileStatus × Eligibility) :
    transition.leads standing = standing ∨ transition.leads standing = (.enabled, .enabled) ∨
      transition.leads standing = (.disabled, .permanentlyDisabled) := by
  cases transition with
  | unchanged | debounced | ignored => exact .inl rfl
  | enabled => exact .inr (.inl rfl)
  | permanentlyDisabled => exact .inr (.inr rfl)
  | temporarilyDisabled => cases lasting

end Transition

namespace SelectionStatus

variable {status : SelectionStatus} {reason : Reason}

theorem state_force (status : SelectionStatus) (reason : Reason) (now : Millis) :
    (status.force reason now).1.state = (status.force reason now).2.state?.getD status.state := by
  unfold force
  split
  · by_cases already : status.isEnabled = true
    · have enabled : status.state = .enabled := by simpa [isEnabled] using already
      rw [if_pos already]
      exact enabled.symm
    · rw [if_neg already]
      rfl
  · split
    · split <;> rfl
    · split <;> rfl

theorem isTemporary_of_suspends_force {now : Millis} (suspends : (status.force reason now).2.suspends = true) :
    reason.isTemporary = true := by
  by_cases enabling : reason = .enable
  · rw [force, if_pos enabling] at suspends
    split at suspends <;> cases suspends
  · cases permanent : reason.isPermanent with
    | true =>
        simp only [force, if_neg enabling, permanent, if_true] at suspends
        split at suspends <;> cases suspends
    | false => simp [Reason.isTemporary, enabling, permanent]

/-- A temporary reason leaves the coarse status alone, whether it was in effect before or not. -/
theorem force_of_isTemporary (status : SelectionStatus) (temporary : reason.isTemporary = true) (now : Millis) :
    (status.force reason now).1.state = .temporarilyDisabled ∧
      Manager.statusAfter (status.force reason now).2 = none ∧ (status.force reason now).2.isAccepted = true := by
  obtain ⟨another, passing⟩ : reason ≠ .enable ∧ reason.isPermanent = false := by
    simpa [Reason.isTemporary] using temporary
  simp only [force, if_neg another, passing, Bool.false_eq_true, if_false]
  split
  · next already =>
      have state : status.state = .temporarilyDisabled := by simpa [isTemporarilyDisabled] using already.1
      exact ⟨state, rfl, rfl⟩
  · exact ⟨rfl, rfl, rfl⟩

end SelectionStatus

namespace Rules

variable {rules : Rules} {status : SelectionStatus} {reason : Reason} {now : Millis} {ignoring : Bool}

theorem state_apply (rules : Rules) (status : SelectionStatus) (reason : Reason) (now : Millis) (ignoring : Bool) :
    (rules.apply status reason now ignoring).1.state =
      (rules.apply status reason now ignoring).2.state?.getD status.state := by
  unfold apply
  split
  · exact status.state_force reason now
  · split
    · rfl
    · simp only
      split
      · rfl
      · exact (status.countFailure reason).state_force reason now

theorem state_tryEnable (rules : Rules) (status : SelectionStatus) (now : Millis) (blocked : UInt32) :
    (rules.tryEnable status now blocked).1.state = (rules.tryEnable status now blocked).2.state?.getD status.state := by
  rw [tryEnable_eq_ite]
  split
  · split
    · rfl
    · split
      · exact status.state_force .enable now
      · rfl
  · rfl

theorem suspends_tryEnable (rules : Rules) (status : SelectionStatus) (now : Millis) (blocked : UInt32) :
    (rules.tryEnable status now blocked).2.suspends = false := by
  refine Bool.eq_false_iff.2 fun suspends => ?_
  rw [tryEnable_eq_ite] at suspends
  split at suspends
  · split at suspends
    · cases suspends
    · split at suspends
      · cases SelectionStatus.isTemporary_of_suspends_force suspends
      · cases suspends
  · cases suspends

/-- A reason that is reported takes hold if it is not dropped and its count reaches the threshold. -/
theorem takesHold_apply_iff : rules.TakesHold status (.apply reason now ignoring) reason ↔
    (reason.isGated && ignoring) = false ∧
      ¬ (status.countFailure reason).counter reason < (rules.rule reason).threshold := by
  have counted : (SelectionCall.apply reason now ignoring).counts reason = !(reason.isGated && ignoring) := by
    simp [SelectionCall.counts]
  have unforced : (SelectionCall.apply reason now ignoring).forces reason = false := rfl
  rw [TakesHold, unforced, counted, SelectionStatus.countFailure_lt_iff, Nat.not_lt, Bool.not_eq_true']
  exact ⟨fun holds => holds.resolve_left Bool.false_ne_true, .inr⟩

theorem apply_of_takesHold (another : reason ≠ .enable)
    (takesHold : rules.TakesHold status (.apply reason now ignoring) reason) :
    rules.apply status reason now ignoring = (status.countFailure reason).force reason now := by
  obtain ⟨heeded, reached⟩ := takesHold_apply_iff.1 takesHold
  rw [apply, if_neg another, if_neg (ne_true_of_eq_false heeded)]
  exact if_neg reached

theorem standing_of_takesHold (temporary : reason.isTemporary = true)
    (takesHold : rules.TakesHold status (.apply reason now ignoring) reason) :
    (rules.apply status reason now ignoring).1.state = .temporarilyDisabled ∧
      Manager.statusAfter (rules.apply status reason now ignoring).2 = none ∧
      (rules.apply status reason now ignoring).2.isAccepted = true := by
  have another : reason ≠ .enable := by
    rintro rfl
    cases temporary
  rw [apply_of_takesHold another takesHold]
  exact SelectionStatus.force_of_isTemporary _ temporary now

theorem takesHold_of_suspends (suspends : (rules.apply status reason now ignoring).2.suspends = true) :
    reason.isTemporary = true ∧ rules.TakesHold status (.apply reason now ignoring) reason := by
  by_cases enabling : reason = .enable
  · rw [apply, if_pos enabling] at suspends
    subst enabling
    cases SelectionStatus.isTemporary_of_suspends_force suspends
  · by_cases dropped : (reason.isGated && ignoring) = true
    · rw [apply, if_neg enabling, if_pos dropped] at suspends
      cases suspends
    · by_cases below : (status.countFailure reason).counter reason < (rules.rule reason).threshold
      · simp only [apply, if_neg enabling, if_neg dropped, if_pos below] at suspends
        cases suspends
      · have takesHold : rules.TakesHold status (.apply reason now ignoring) reason :=
          takesHold_apply_iff.2 ⟨Bool.eq_false_iff.2 dropped, below⟩
        rw [apply_of_takesHold enabling takesHold] at suspends
        exact ⟨SelectionStatus.isTemporary_of_suspends_force suspends, takesHold⟩

end Rules

/-- The standing goes where the transition leads. -/
theorem Moved.standing_eq {profile : Profile} {selection : SelectionStatus} {transition : Transition}
    (moved : Moved profile.selection selection transition) :
    Profile.standing { profile with selection, status := (Manager.statusAfter transition).getD profile.status } =
      transition.leads profile.standing := by
  refine Prod.ext rfl ?_
  cases moved with
  | applied rules reason now ignoring => exact rules.state_apply profile.selection reason now ignoring
  | polled rules now blocked => exact rules.state_tryEnable profile.selection now blocked

end SavedNetworks
