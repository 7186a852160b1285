import Mathlib.Data.List.Induction
import SavedNetworks.Proofs.Selection.Debouncing

/-!
Since when a profile is disabled. Whatever happens to a new status, its state, reason and disable time fit together: only a
temporary disabling has a time, that of the call that brought it about, and a call says truly whether it changed the state
or the reason (`Rules.fits_after_acts`).
-/

namespace SavedNetworks

/-- When the call is made. -/
def SelectionCall.time : SelectionCall → Millis
  | apply _ now _ | force _ now | poll now _ => now

namespace Rules

/-- What a call says that it did. -/
def answer (rules : Rules) (status : SelectionStatus) : SelectionCall → Transition
  | .apply reason now ignoring => (rules.apply status reason now ignoring).2
  | .force reason now => (status.force reason now).2
  | .poll now blocked => (rules.tryEnable status now blocked).2

/-- The last act that changed the state or the reason of a new status was a call made at `since`. -/
def EnteredAt (rules : Rules) (acts : List SelectionAct) (since : Millis) : Prop :=
  ∃ earlier call later, acts = earlier ++ .call call :: later ∧ call.time = since ∧
    (rules.take (rules.actAll .initial earlier) call).mood ≠ (rules.actAll .initial earlier).mood ∧
    ∀ kept, kept <+: later →
      (rules.actAll .initial (earlier ++ .call call :: kept)).mood = (rules.actAll .initial acts).mood

end Rules

/-- State, reason and disable time belong together, where the state and reason were entered at a time told by `Entered`. -/
structure SelectionStatus.Fits (status : SelectionStatus) (Entered : Millis → Prop) : Prop where
  enabled : status.state = .enabled ↔ status.reason = .enable ∧ status.disabledAt = none
  temporarily : status.state = .temporarilyDisabled ↔
    status.reason.isTemporary = true ∧ ∃ since, status.disabledAt = some since ∧ Entered since
  permanently : status.state = .permanentlyDisabled ↔ status.reason.isPermanent = true ∧ status.disabledAt = none

namespace Reason

variable {reason : Reason}

theorem eligibility_eq_enabled_iff : reason.eligibility = .enabled ↔ reason = .enable := by
  cases reason <;> decide

theorem eligibility_eq_temporarilyDisabled_iff : reason.eligibility = .temporarilyDisabled ↔ reason.isTemporary = true := by
  cases reason <;> decide

theorem eligibility_eq_permanentlyDisabled_iff : reason.eligibility = .permanentlyDisabled ↔ reason.isPermanent = true := by
  cases reason <;> decide

theorem isTemporary_of_isPermanent (permanent : reason.isPermanent = true) : reason.isTemporary = false := by
  rw [isTemporary, permanent]
  exact Bool.and_false _

end Reason

namespace SelectionStatus

variable {status old counted new : SelectionStatus} {Entered Later : Millis → Prop} {now : Millis}

/-- The state is the one that the reason asks for, and the time is there for a temporary one. -/
structure Timed (status : SelectionStatus) (Entered : Millis → Prop) : Prop where
  coherent : status.Coherent
  untimed : status.reason.isTemporary = false → status.disabledAt = none
  timed : status.reason.isTemporary = true → ∃ since, status.disabledAt = some since ∧ Entered since

theorem Timed.fits (timed : status.Timed Entered) : status.Fits Entered := by
  obtain ⟨coherent, untimed, since⟩ := timed
  rw [Coherent] at coherent
  constructor
  · rw [coherent, Reason.eligibility_eq_enabled_iff]
    refine ⟨fun enabling => ⟨enabling, untimed ?_⟩, And.left⟩
    rw [enabling]
    rfl
  · rw [coherent, Reason.eligibility_eq_temporarilyDisabled_iff]
    exact ⟨fun temporary => ⟨temporary, since temporary⟩, And.left⟩
  · rw [coherent, Reason.eligibility_eq_permanentlyDisabled_iff]
    exact ⟨fun permanent => ⟨permanent, untimed (Reason.isTemporary_of_isPermanent permanent)⟩, And.left⟩

/-- What happens to state, reason and disable time at `now`: nothing, or another pair of state and reason is entered. -/
inductive Shift (old : SelectionStatus) (now : Millis) (new : SelectionStatus) : Prop where
  | stays (mood : new.mood = old.mood) (time : new.disabledAt = old.disabledAt)
  | enters (reason : Reason) (mood : new.mood = (reason.eligibility, reason)) (other : new.mood ≠ old.mood)
    (time : new.disabledAt = if reason.isTemporary then some now else none)

/-- Failures that are only counted do not matter. -/
theorem Shift.of_same (shift : counted.Shift now new) (mood : counted.mood = old.mood)
    (time : counted.disabledAt = old.disabledAt) : old.Shift now new := by
  cases shift with
  | stays same still => exact .stays (same.trans mood) (still.trans time)
  | enters reason entered other since => exact .enters reason entered (mood ▸ other) since

theorem shift_force (timed : old.Timed Entered) (reason : Reason) (now : Millis) :
    old.Shift now (old.force reason now).1 := by
  obtain ⟨coherent, untimed, _⟩ := timed
  by_cases enabling : reason = .enable
  · subst enabling
    by_cases enabled : old.state = .enabled
    · have already : old.reason = .enable := reason_of_enabled coherent enabled
      have none : old.disabledAt = none := untimed (by rw [already]; rfl)
      exact .stays (by rw [mood, mood, enabled, already]; rfl) none.symm
    · exact .enters .enable rfl (fun same => enabled (congrArg Prod.fst same).symm) rfl
  · by_cases same : old.mood = (reason.eligibility, reason)
    · have unchanged := @Failure.force_of_same ⟨reason, now, false, enabling⟩ old same
      rw [unchanged]
      exact .stays rfl rfl
    · have disabled := @Failure.force_of_other ⟨reason, now, false, enabling⟩ old same
      rw [disabled]
      refine .enters reason rfl (Ne.symm same) ?_
      cases permanent : reason.isPermanent with
      | true => simp [Failure.disable, permanent, Reason.isTemporary_of_isPermanent permanent]
      | false => simp [Failure.disable, permanent, Reason.isTemporary, enabling]

theorem Timed.of_stays (timed : old.Timed Entered) (mood : new.mood = old.mood) (time : new.disabledAt = old.disabledAt)
    (later : ∀ since, Entered since → Later since) : new.Timed Later := by
  have reason : new.reason = old.reason := congrArg Prod.snd mood
  refine ⟨(coherent_congr mood).2 timed.coherent, ?_, ?_⟩
  · rw [reason, time]
    exact timed.untimed
  · rw [reason, time]
    intro temporary
    obtain ⟨since, given, entered⟩ := timed.timed temporary
    exact ⟨since, given, later since entered⟩

theorem timed_of_enters {reason : Reason} (mood : new.mood = (reason.eligibility, reason))
    (time : new.disabledAt = if reason.isTemporary then some now else none) (entered : Later now) : new.Timed Later := by
  obtain ⟨state, rfl⟩ := Prod.mk.inj mood
  refine ⟨state, fun lasting => ?_, fun temporary => ⟨now, ?_, entered⟩⟩
  · rw [time, lasting]
    rfl
  · rw [time, temporary]
    rfl

end SelectionStatus

/-- A transition that tells of a change tells of another state or reason, and no other one does. -/
theorem Transition.Reports.isStateChange_iff {old new : SelectionStatus} {transition : Transition}
    (reports : transition.Reports old new) : transition.isStateChange = true ↔ new.mood ≠ old.mood := by
  cases reports with
  | enabled now other | temporarilyDisabled now other | permanentlyDisabled now other => exact iff_of_true rfl other
  | nothing still same => exact iff_of_false (ne_true_of_eq_false still) (not_not_intro same)

namespace Rules

variable {rules : Rules} {status : SelectionStatus} {Entered : Millis → Prop} {acts : List SelectionAct} {since : Millis}

theorem shift_apply (timed : status.Timed Entered) (reason : Reason) (now : Millis) (ignoring : Bool) :
    status.Shift now (rules.apply status reason now ignoring).1 := by
  have counted : (status.countFailure reason).Timed Entered := timed.of_stays rfl rfl fun _ entered => entered
  unfold apply
  split
  · exact SelectionStatus.shift_force timed reason now
  · split
    · exact .stays rfl rfl
    · simp only
      split
      · exact .stays rfl rfl
      · exact (SelectionStatus.shift_force counted reason now).of_same rfl rfl

theorem shift_tryEnable (timed : status.Timed Entered) (now : Millis) (blocked : UInt32) :
    status.Shift now (rules.tryEnable status now blocked).1 := by
  rw [tryEnable_eq_ite]
  split
  · split
    · exact .stays rfl rfl
    · split
      · exact SelectionStatus.shift_force timed .enable now
      · exact .stays rfl rfl
  · exact .stays rfl rfl

theorem shift_take (timed : status.Timed Entered) (call : SelectionCall) :
    status.Shift call.time (rules.take status call) := by
  cases call with
  | apply reason now ignoring => exact shift_apply timed reason now ignoring
  | force reason now => exact SelectionStatus.shift_force timed reason now
  | poll now blocked => exact shift_tryEnable timed now blocked

theorem reports_answer (coherent : status.Coherent) (call : SelectionCall) :
    (rules.answer status call).Reports status (rules.take status call) := by
  cases call with
  | apply reason now ignoring => exact (apply_spec coherent reason now ignoring).2
  | force reason now => exact SelectionStatus.reports_force coherent reason now
  | poll now blocked => exact (tryEnable_spec coherent now blocked).2

theorem actAll_append_singleton (rules : Rules) (status : SelectionStatus) (acts : List SelectionAct) (act : SelectionAct) :
    rules.actAll status (acts ++ [act]) = rules.act (rules.actAll status acts) act := by
  simp [actAll, List.foldl_append]

/-- An act that changes neither state nor reason does not enter them anew. -/
theorem EnteredAt.concat (entered : rules.EnteredAt acts since) {act : SelectionAct}
    (same : (rules.actAll .initial (acts ++ [act])).mood = (rules.actAll .initial acts).mood) :
    rules.EnteredAt (acts ++ [act]) since := by
  obtain ⟨earlier, call, later, rfl, time, other, unchanged⟩ := entered
  refine ⟨earlier, call, later ++ [act], by simp, time, other, fun kept begins => ?_⟩
  obtain rfl | begins := List.prefix_concat_iff.1 begins
  · simp
  · exact (unchanged kept begins).trans same.symm

theorem enteredAt_concat {call : SelectionCall}
    (other : (rules.take (rules.actAll .initial acts) call).mood ≠ (rules.actAll .initial acts).mood) :
    rules.EnteredAt (acts ++ [.call call]) call.time := by
  refine ⟨acts, call, [], rfl, rfl, other, fun kept begins => ?_⟩
  obtain rfl := List.prefix_nil.1 begins
  rfl

/-- The clearings, the candidate and the notes leave state, reason and disable time alone; a call enters a state at its
own time, or leaves them alone too. -/
theorem timed_actAll (rules : Rules) (acts : List SelectionAct) :
    (rules.actAll .initial acts).Timed (rules.EnteredAt acts) := by
  induction acts using List.reverseRecOn with
  | nil => exact ⟨rfl, fun _ => rfl, fun temporary => Bool.noConfusion temporary⟩
  | append_singleton acts act ih =>
      have last := rules.actAll_append_singleton .initial acts act
      rw [last]
      cases act with
      | call call =>
          cases rules.shift_take ih call with
          | stays mood time =>
              exact ih.of_stays mood time fun since entered => entered.concat ((congrArg SelectionStatus.mood last).trans mood)
          | enters reason mood other time => exact SelectionStatus.timed_of_enters mood time (enteredAt_concat other)
      | clearCounters | clearCounter | setCandidate | clearCandidate | choose | noteConnected =>
          exact ih.of_stays rfl rfl fun since entered => entered.concat (by rw [last]; rfl)

/-- However a new status is used, its state, reason and disable time fit together, and a call tells of a change of state if
and only if it changed the state or the reason. -/
theorem fits_after_acts (rules : Rules) (acts : List SelectionAct) :
    (rules.actAll .initial acts).Fits (rules.EnteredAt acts) ∧
      ∀ call, (rules.answer (rules.actAll .initial acts) call).isStateChange = true ↔
        (rules.take (rules.actAll .initial acts) call).mood ≠ (rules.actAll .initial acts).mood := by
  have timed := rules.timed_actAll acts
  exact ⟨timed.fits, fun call => (reports_answer timed.coherent call).isStateChange_iff⟩

/-- A repeat keeps the time, another reason renews it. -/
example :
    (default.actAll .initial [.call (.force .dhcpFailure 100), .call (.force .dhcpFailure 200)]).disabledAt = some 100 ∧
      (default.actAll .initial
        [.call (.force .dhcpFailure 100), .clearCounters, .call (.force .noInternetTemporary 200)]).disabledAt = some 200 := by
  decide

end Rules

end SavedNetworks
