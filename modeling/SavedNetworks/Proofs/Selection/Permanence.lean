import SavedNetworks.Proofs.Millis
import SavedNetworks.Selection.Transition

/-!
How long a permanent disabling lasts. A temporary reason that takes effect replaces it, and its backoff ends
by itself; as long as none does, only an explicit enabling ends it (`Rules.staysDisabled_iff_withstands`).
-/

namespace SavedNetworks

/-- What may happen to a selection status. -/
inductive SelectionCall where
  | apply (reason : Reason) (now : Millis) (ignoring : Bool)
  | force (reason : Reason) (now : Millis)
  | poll (now : Millis) (blocked : UInt32)
deriving DecidableEq

/-- Disables until a backoff is over. -/
def Reason.isTemporary (reason : Reason) : Bool := reason != .enable && !reason.isPermanent

namespace SelectionCall

def asksToEnable : SelectionCall → Bool
  | apply reason _ _ | force reason _ => reason == .enable
  | poll _ _ => false

/-- Counts as one more failure of the reason. -/
def counts (reason : Reason) : SelectionCall → Bool
  | apply given _ ignoring => given == reason && !(given.isGated && ignoring)
  | _ => false

def forces (reason : Reason) : SelectionCall → Bool
  | force given _ => given == reason
  | _ => false

end SelectionCall

namespace Rules

def take (rules : Rules) (status : SelectionStatus) : SelectionCall → SelectionStatus
  | .apply reason now ignoring => (rules.apply status reason now ignoring).1
  | .force reason now => (status.force reason now).1
  | .poll now blocked => (rules.tryEnable status now blocked).1

def takeAll (rules : Rules) (status : SelectionStatus) (calls : List SelectionCall) : SelectionStatus :=
  calls.foldl rules.take status

/-- Not enabled, and a poll does not enable it, at whatever time and with whatever transmitters blocked. -/
def RefusesPolls (rules : Rules) (status : SelectionStatus) : Prop :=
  status.isEnabled = false ∧ ∀ now blocked, (rules.tryEnable status now blocked).1.isEnabled = false

def StaysDisabled (rules : Rules) (status : SelectionStatus) (calls : List SelectionCall) : Prop :=
  ∀ moment, rules.RefusesPolls (rules.takeAll status (calls.take moment))

/-- No temporary reason is forced, and the failures of each one stay below its threshold. -/
def Withstands (rules : Rules) (status : SelectionStatus) (calls : List SelectionCall) : Prop :=
  ∀ reason : Reason, reason.isTemporary = true → (∀ call ∈ calls, call.forces reason = false) ∧
    (calls.countP (·.counts reason) = 0 ∨
      (status.counter reason).toNat + calls.countP (·.counts reason) < (rules.rule reason).threshold.toNat)

/-- The call brings a temporary reason into effect. -/
def TakesHold (rules : Rules) (status : SelectionStatus) (call : SelectionCall) (reason : Reason) : Prop :=
  call.forces reason = true ∨
    call.counts reason = true ∧ (rules.rule reason).threshold.toNat ≤ (status.counter reason).toNat + 1

end Rules

namespace SelectionStatus

variable {status : SelectionStatus} {reason other : Reason}

theorem isPermanentlyDisabled_iff : status.isPermanentlyDisabled = true ↔ status.state = .permanentlyDisabled := by
  simp [isPermanentlyDisabled]

theorem counter_countFailure_of_ne (status : SelectionStatus) (different : other ≠ reason) :
    (status.countFailure reason).counter other = status.counter other := by
  rw [countFailure, counter_setCounter, if_neg different]

theorem toNat_counter_succ (less : status.counter reason ≠ UInt32.ofNat (UInt32.size - 1)) :
    (status.counter reason + 1).toNat = (status.counter reason).toNat + 1 := by
  have apart : (status.counter reason).toNat ≠ UInt32.size - 1 := fun same => less (UInt32.toNat_inj.mp same)
  have bound := (status.counter reason).toNat_lt_size
  rw [UInt32.toNat_add]
  exact Nat.mod_eq_of_lt (by simp [UInt32.size] at *; omega)

/-- The greatest count is no lower than any threshold, so that staying there makes no difference. -/
theorem countFailure_lt_iff (threshold : UInt32) :
    (status.countFailure reason).counter reason < threshold ↔
      (status.counter reason).toNat + 1 < threshold.toNat := by
  have bound := threshold.toNat_lt_size
  rw [countFailure, counter_setCounter, if_pos rfl]
  split
  · next greatest =>
      rw [greatest, UInt32.lt_iff_toNat_lt]
      have size : (UInt32.ofNat (UInt32.size - 1)).toNat = UInt32.size - 1 := rfl
      omega
  · next less =>
      rw [UInt32.lt_iff_toNat_lt, toNat_counter_succ less]

theorem toNat_counter_countFailure {threshold : UInt32}
    (below : (status.countFailure reason).counter reason < threshold) :
    ((status.countFailure reason).counter reason).toNat = (status.counter reason).toNat + 1 := by
  have less : status.counter reason ≠ UInt32.ofNat (UInt32.size - 1) := by
    intro greatest
    have room := (countFailure_lt_iff threshold).mp below
    have bound := threshold.toNat_lt_size
    have size : (status.counter reason).toNat = UInt32.size - 1 := by rw [greatest]; rfl
    omega
  rw [countFailure, counter_setCounter, if_pos rfl, if_neg less, toNat_counter_succ less]

theorem force_temporary (status : SelectionStatus) (now : Millis) (disabled : status.isPermanentlyDisabled = true)
    (temporary : reason.isTemporary = true) :
    (status.force reason now).1 =
      { status with state := .temporarilyDisabled, reason, disabledAt := some now } := by
  obtain ⟨another, passing⟩ : reason ≠ .enable ∧ reason.isPermanent = false := by
    simpa [Reason.isTemporary] using temporary
  have apart : ¬ (status.isTemporarilyDisabled = true ∧ status.reason = reason) := by
    simp [isTemporarilyDisabled, isPermanentlyDisabled_iff.mp disabled]
  simp only [force, if_neg another, passing, if_neg apart, Bool.false_eq_true, if_false]

theorem force_permanent (status : SelectionStatus) (now : Millis) (permanent : reason.isPermanent = true) :
    (status.force reason now).1.isPermanentlyDisabled = true ∧
      (status.force reason now).1.counters = status.counters := by
  have another : reason ≠ .enable := by rintro rfl; exact absurd permanent (by decide)
  simp only [force, if_neg another, permanent, if_true]
  split
  · next already => exact ⟨already.1, rfl⟩
  · exact ⟨rfl, rfl⟩

end SelectionStatus

namespace Rules

variable {rules : Rules} {status : SelectionStatus} {reason : Reason} {call : SelectionCall} {calls : List SelectionCall}

theorem tryEnable_of_permanentlyDisabled (now : Millis) (blocked : UInt32)
    (disabled : status.isPermanentlyDisabled = true) : rules.tryEnable status now blocked = (status, .unchanged) := by
  simp [tryEnable_eq_ite, SelectionStatus.isTemporarilyDisabled, SelectionStatus.isPermanentlyDisabled_iff.mp disabled]

/-- Without blocked transmitters there is no wait. -/
theorem isEnabled_tryEnable_of_temporarilyDisabled (rules : Rules) {now : Millis} (disabled : status.isTemporarilyDisabled = true)
    (since : status.disabledAt = some now) : (rules.tryEnable status now 0).1.isEnabled = true := by
  have instant : rules.backoff? status.reason 0 = some 0 := rfl
  have passed : Millis.sub? now now = some 0 := Millis.sub?_eq_some_iff.2 (by simp)
  simp only [tryEnable_eq_ite, disabled, instant, since, passed, Option.getD_some, Option.any_some, Int64.le_refl, decide_true,
    if_true, SelectionStatus.force, SelectionStatus.isEnabled, beq_self_eq_true]

/-- A temporary reason takes over, or the status stays as it is up to the failures counted. -/
def Outcome (rules : Rules) (status : SelectionStatus) (call : SelectionCall) : Prop :=
  ((∃ reason, reason.isTemporary = true ∧ rules.TakesHold status call reason) ∧
      ∃ now, (rules.take status call).isTemporarilyDisabled = true ∧
        (rules.take status call).disabledAt = some now) ∨
    (∀ reason, reason.isTemporary = true → ¬ rules.TakesHold status call reason ∧
      ((rules.take status call).counter reason).toNat =
        (status.counter reason).toNat + if call.counts reason then 1 else 0) ∧
      (rules.take status call).isPermanentlyDisabled = true

theorem outcome_of_unchanged (disabled : status.isPermanentlyDisabled = true) (same : rules.take status call = status)
    (unforced : ∀ reason, call.forces reason = false) (uncounted : ∀ reason, call.counts reason = false) :
    rules.Outcome status call := by
  refine .inr ⟨fun reason _ => ?_, by rw [same]; exact disabled⟩
  rw [same]
  simp [TakesHold, unforced, uncounted]

theorem ne_of_isPermanent {given : Reason} (permanent : given.isPermanent = true) (temporary : reason.isTemporary = true) :
    given ≠ reason := by
  rintro rfl
  simp [Reason.isTemporary, permanent] at temporary

theorem outcome_force (rules : Rules) {given : Reason} (now : Millis) (disabled : status.isPermanentlyDisabled = true)
    (another : given ≠ .enable) : rules.Outcome status (.force given now) := by
  cases permanent : given.isPermanent with
  | true =>
      have kept := status.force_permanent now permanent
      refine .inr ⟨fun reason temporary => ⟨?_, ?_⟩, kept.1⟩
      · simp [TakesHold, SelectionCall.forces, SelectionCall.counts, ne_of_isPermanent permanent temporary]
      · simp [take, SelectionCall.counts, SelectionStatus.counter, kept.2]
  | false =>
      have temporary : given.isTemporary = true := by simp [Reason.isTemporary, another, permanent]
      refine .inl ⟨⟨given, temporary, .inl (by simp [SelectionCall.forces])⟩, now, ?_⟩
      simp [take, status.force_temporary now disabled temporary, SelectionStatus.isTemporarilyDisabled]

/-- A failure that is counted, and stays below its threshold. -/
theorem outcome_countFailure {given : Reason} (disabled : status.isPermanentlyDisabled = true)
    (result : rules.take status call = status.countFailure given)
    (unforced : ∀ reason, call.forces reason = false) (counted : ∀ reason, call.counts reason = (given == reason))
    (below : (status.countFailure given).counter given < (rules.rule given).threshold) : rules.Outcome status call := by
  refine .inr ⟨fun reason temporary => ?_, by rw [result]; exact disabled⟩
  rw [result]
  by_cases same : given = reason
  · subst same
    have room := (SelectionStatus.countFailure_lt_iff _).mp below
    refine ⟨?_, by simp [counted, SelectionStatus.toNat_counter_countFailure below]⟩
    simp only [TakesHold, unforced, counted]
    simp
    omega
  · simp [TakesHold, unforced, counted, same, status.counter_countFailure_of_ne (Ne.symm same)]

/-- A failure that is counted, and reaches its threshold. -/
theorem outcome_reached {given : Reason} {now : Millis} (disabled : status.isPermanentlyDisabled = true)
    (another : given ≠ .enable) (result : rules.take status call = ((status.countFailure given).force given now).1)
    (unforced : ∀ reason, call.forces reason = false) (counted : ∀ reason, call.counts reason = (given == reason))
    (reached : (rules.rule given).threshold.toNat ≤ (status.counter given).toNat + 1) : rules.Outcome status call := by
  unfold Outcome
  rw [result]
  cases permanent : given.isPermanent with
  | true =>
      have kept := (status.countFailure given).force_permanent now permanent
      refine .inr ⟨fun reason temporary => ?_, kept.1⟩
      have apart := ne_of_isPermanent permanent temporary
      have untouched := status.counter_countFailure_of_ne (Ne.symm apart)
      rw [SelectionStatus.counter] at untouched
      simp [TakesHold, unforced, counted, apart, SelectionStatus.counter, kept.2, untouched]
  | false =>
      have temporary : given.isTemporary = true := by simp [Reason.isTemporary, another, permanent]
      refine .inl ⟨⟨given, temporary, .inr ⟨by simp [counted], reached⟩⟩, now, ?_⟩
      simp [(status.countFailure given).force_temporary now disabled temporary, SelectionStatus.isTemporarilyDisabled]

theorem take_cases (rules : Rules) (disabled : status.isPermanentlyDisabled = true)
    (unasked : call.asksToEnable = false) : rules.Outcome status call := by
  cases call with
  | poll now blocked =>
      have same : rules.take status (.poll now blocked) = status := by
        rw [take, tryEnable_of_permanentlyDisabled now blocked disabled]
      exact outcome_of_unchanged disabled same (fun _ => rfl) fun _ => rfl
  | force given now => exact rules.outcome_force now disabled (by simpa [SelectionCall.asksToEnable] using unasked)
  | apply given now ignoring =>
      have another : given ≠ .enable := by simpa [SelectionCall.asksToEnable] using unasked
      by_cases ignored : (given.isGated && ignoring) = true
      · have same : rules.take status (.apply given now ignoring) = status := by
          simp only [take, apply, if_neg another, ignored, if_true]
        exact outcome_of_unchanged disabled same (fun _ => rfl) fun reason => by simp [SelectionCall.counts, ignored]
      · have counted reason : (SelectionCall.apply given now ignoring).counts reason = (given == reason) := by
          simp [SelectionCall.counts, ignored]
        by_cases below : (status.countFailure given).counter given < (rules.rule given).threshold
        · have result : rules.take status (.apply given now ignoring) = status.countFailure given := by
            simp only [take, apply, if_neg another, if_neg ignored, if_pos below]
          exact outcome_countFailure disabled result (fun _ => rfl) counted below
        · have result : rules.take status (.apply given now ignoring) = ((status.countFailure given).force given now).1 := by
            simp only [take, apply, if_neg another, if_neg ignored, if_neg below]
          have reached : (rules.rule given).threshold.toNat ≤ (status.counter given).toNat + 1 := by
            have := mt (SelectionStatus.countFailure_lt_iff (rules.rule given).threshold).mpr below
            omega
          exact outcome_reached disabled another result (fun _ => rfl) counted reached

theorem refusesPolls_of_permanentlyDisabled (rules : Rules) (disabled : status.isPermanentlyDisabled = true) :
    rules.RefusesPolls status := by
  have notEnabled : status.isEnabled = false := by
    simp [SelectionStatus.isEnabled, SelectionStatus.isPermanentlyDisabled_iff.mp disabled]
  exact ⟨notEnabled, fun now blocked => by rw [tryEnable_of_permanentlyDisabled now blocked disabled]; exact notEnabled⟩

@[simp] theorem staysDisabled_nil : rules.StaysDisabled status [] ↔ rules.RefusesPolls status := by
  simp [StaysDisabled, takeAll]

theorem staysDisabled_cons : rules.StaysDisabled status (call :: calls) ↔
    rules.RefusesPolls status ∧ rules.StaysDisabled (rules.take status call) calls := by
  constructor
  · intro disabled
    exact ⟨disabled 0, fun moment => disabled (moment + 1)⟩
  · rintro ⟨first, later⟩ moment
    cases moment with
    | zero => exact first
    | succ moment => exact later moment

@[simp] theorem withstands_nil : rules.Withstands status [] := by simp [Withstands]

theorem not_withstands_cons (temporary : reason.isTemporary = true) (takesHold : rules.TakesHold status call reason) :
    ¬ rules.Withstands status (call :: calls) := by
  intro withstands
  obtain ⟨unforced, few⟩ := withstands reason temporary
  obtain forced | ⟨counted, reached⟩ := takesHold
  · rw [unforced call (by simp)] at forced
    exact Bool.false_ne_true forced
  · rw [List.countP_cons, if_pos counted] at few
    omega

theorem withstands_cons (passes : ∀ reason, reason.isTemporary = true → ¬ rules.TakesHold status call reason ∧
      ((rules.take status call).counter reason).toNat =
        (status.counter reason).toNat + if call.counts reason then 1 else 0) :
    rules.Withstands status (call :: calls) ↔ rules.Withstands (rules.take status call) calls := by
  refine forall_congr' fun reason => forall_congr' fun temporary => ?_
  obtain ⟨passed, counter⟩ := passes reason temporary
  have unforced : call.forces reason = false := by
    cases forced : call.forces reason with
    | true => exact absurd (.inl forced) passed
    | false => rfl
  refine and_congr (by simp [unforced]) ?_
  rw [counter, List.countP_cons]
  cases counted : call.counts reason with
  | true =>
      have below : (status.counter reason).toNat + 1 < (rules.rule reason).threshold.toNat :=
        Nat.lt_of_not_le fun reached => passed (.inr ⟨counted, reached⟩)
      simp only [if_true]
      omega
  | false => simp

/-- A permanent disabling outlasts all calls but an enabling for just as long as no temporary reason is forced
or fails as often as its threshold says. -/
theorem staysDisabled_iff_withstands (rules : Rules) (disabled : status.isPermanentlyDisabled = true)
    (unasked : ∀ call ∈ calls, call.asksToEnable = false) :
    (rules.StaysDisabled status calls ↔ rules.Withstands status calls) ∧
      ∀ now ignoring, (rules.take (rules.takeAll status calls) (.apply .enable now ignoring)).isEnabled = true ∧
        (rules.take (rules.takeAll status calls) (.force .enable now)).isEnabled = true := by
  refine ⟨?_, fun now ignoring => ⟨rfl, rfl⟩⟩
  induction calls generalizing status with
  | nil => simp [refusesPolls_of_permanentlyDisabled rules disabled]
  | cons call calls ih =>
      obtain ⟨⟨reason, temporary, takesHold⟩, now, temporarily, since⟩ | ⟨passes, still⟩ :=
        rules.take_cases disabled (unasked call (by simp))
      · refine iff_of_false (fun stays => ?_) (not_withstands_cons temporary takesHold)
        have refused := ((staysDisabled_cons.mp stays).2 0).2 now 0
        have enabled := rules.isEnabled_tryEnable_of_temporarilyDisabled temporarily since
        exact Bool.false_ne_true (refused.symm.trans enabled)
      · rw [staysDisabled_cons, withstands_cons passes, ih still fun later among => unasked later (by simp [among]),
          and_iff_right (refusesPolls_of_permanentlyDisabled rules disabled)]

theorem staysDisabled_wrongPassword :
    Rules.default.StaysDisabled .initial
      [.apply .authenticationFailure 100 false, .force .wrongPassword 200, .poll 100000 0,
        .apply .authenticationFailure 100100 false] := by
  refine (staysDisabled_iff_withstands Rules.default rfl (by decide)).1.mpr fun reason temporary => ?_
  cases reason <;> first | exact absurd temporary (by decide) | decide

/-- A forced temporary reason and a poll enable a new profile. -/
theorem not_permanent_forced :
    ¬ ∀ (rules : Rules) (status : SelectionStatus) (calls : List SelectionCall),
      status.isPermanentlyDisabled = true → (∀ call ∈ calls, call.asksToEnable = false) →
        (rules.takeAll status calls).isEnabled = false := by
  intro permanent
  have disabled := permanent .default .initial [.force .noInternetTemporary 500, .poll 500 0] rfl (by decide)
  exact absurd disabled (by decide)

end Rules

end SavedNetworks
