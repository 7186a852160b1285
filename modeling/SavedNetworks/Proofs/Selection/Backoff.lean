import Mathlib.Data.UInt
import SavedNetworks.Proofs.Millis
import SavedNetworks.Selection.Transition

/-!
How long a temporary disabling lasts. Configured rules have positive thresholds and timeouts that are not negative; a
poll enables exactly the temporarily disabled status whose wait is over (`Rules.tryEnable_eq`).
-/

namespace SavedNetworks

namespace Rule

/-- With so many transmitters blocked, a wait of `waited` milliseconds is long enough: without any there is no wait, with
one it lasts for the timeout, and every further one doubles it. -/
def IsOver (rule : Rule) (blocked : Nat) (waited : Int) : Prop :=
  blocked = 0 ∨ ∃ base ∈ rule.timeout, min (base.toInt * 2 ^ (blocked - 1)) Int64.maxValue.toInt ≤ waited

instance (rule : Rule) (blocked : Nat) (waited : Int) : Decidable (rule.IsOver blocked waited) :=
  inferInstanceAs (Decidable (_ ∨ _))

variable {rule : Rule} {change : RuleOverride}

theorem threshold_pos_override (usual : 0 < rule.threshold) : 0 < (rule.override change).threshold := by
  unfold override
  cases change.threshold with
  | none => exact usual
  | some threshold =>
      change 0 < if threshold ≤ 1 then 1 else threshold
      split
      · decide
      · next more =>
          rw [UInt32.le_iff_toNat_le] at more
          rw [UInt32.lt_iff_toNat_lt]
          exact Nat.lt_trans Nat.zero_lt_one (Nat.lt_of_not_le more)

theorem timeout_nonneg_override (usual : ∀ base ∈ rule.timeout, 0 ≤ base) :
    ∀ base ∈ (rule.override change).timeout, 0 ≤ base := by
  unfold override
  cases change.timeout with
  | none => exact usual
  | some timeout =>
      intro base given
      simp only at given
      split at given
      · next positive =>
          obtain rfl := Option.some.inj given
          exact positive
      · cases given

theorem threshold_pos_default (reason : Reason) : 0 < (default reason).threshold := by
  cases reason <;> decide

theorem timeout_nonneg_default (reason : Reason) : ∀ base ∈ (default reason).timeout, 0 ≤ base := by
  intro base given
  cases reason with
  | associationRejection | authenticationFailure | dhcpFailure | noInternetTemporary =>
      cases given
      decide
  | _ => cases given

/-- How long a wait by this rule lasts, in the integers; none if it does not end. -/
def wait? (rule : Rule) (blocked : Nat) : Option Int :=
  if blocked = 0 then some 0 else rule.timeout.map fun base => base.toInt * 2 ^ (blocked - 1)

theorem wait?_nonneg (nonneg : ∀ base ∈ rule.timeout, 0 ≤ base) (blocked : Nat) :
    ∀ wait ∈ rule.wait? blocked, 0 ≤ wait := by
  intro wait given
  unfold wait? at given
  split at given
  · cases given
    decide
  · obtain ⟨base, timeout, rfl⟩ := Option.map_eq_some_iff.1 given
    exact Int.mul_nonneg (Int64.le_iff_toInt_le.1 (nonneg base timeout)) (Int.pow_nonneg (by decide))

theorem exists_wait?_iff (nonneg : ∀ base ∈ rule.timeout, 0 ≤ base) {blocked : Nat} {waited : Int} :
    (∃ wait ∈ rule.wait? blocked, min wait Int64.maxValue.toInt ≤ waited) ↔ 0 ≤ waited ∧ rule.IsOver blocked waited := by
  have least : 0 ≤ Int64.maxValue.toInt := by decide
  have waits := wait?_nonneg nonneg blocked
  unfold wait? at waits ⊢
  unfold IsOver
  by_cases unblocked : blocked = 0
  · rw [if_pos unblocked]
    simp only [Option.mem_def, Option.some.injEq, exists_eq_left', Int.min_eq_left least, unblocked, true_or, and_true]
  · rw [if_neg unblocked] at waits ⊢
    simp only [unblocked, false_or, Option.mem_def, Option.map_eq_some_iff] at waits ⊢
    constructor
    · rintro ⟨_, ⟨base, given, rfl⟩, ended⟩
      exact ⟨Int.le_trans (Int.le_min.2 ⟨waits _ ⟨base, given, rfl⟩, least⟩) ended, base, given, ended⟩
    · rintro ⟨_, base, given, ended⟩
      exact ⟨_, ⟨base, given, rfl⟩, ended⟩

end Rule

namespace Rules

theorem threshold_pos (overrides : RuleOverrides) (reason : Reason) : 0 < ((ofOverrides overrides).rule reason).threshold := by
  have usual := Rule.threshold_pos_default reason
  simp only [ofOverrides]
  split
  · exact Rule.threshold_pos_override usual
  · exact usual

theorem timeout_nonneg (overrides : RuleOverrides) (reason : Reason) :
    ∀ base ∈ ((ofOverrides overrides).rule reason).timeout, 0 ≤ base := by
  have usual := Rule.timeout_nonneg_default reason
  simp only [ofOverrides]
  split
  · exact Rule.timeout_nonneg_override usual
  · exact usual

end Rules

namespace SelectionStatus

/-- Enabled, with everything about earlier failures forgotten. -/
def readied (status : SelectionStatus) : SelectionStatus :=
  { status with state := .enabled, reason := .enable, disabledAt := none, counters := noFailures }

theorem force_enable (status : SelectionStatus) (now : Millis) :
    status.force .enable now = (status.readied, if status.isEnabled then .unchanged else .enabled) := rfl

theorem force_enable_of_disabled {status : SelectionStatus} {now : Millis} (disabled : status.isTemporarilyDisabled = true) :
    status.force .enable now = (status.readied, .enabled) := by
  have state : status.state = .temporarilyDisabled := by simpa [isTemporarilyDisabled] using disabled
  rw [force_enable, isEnabled, state]
  rfl

/-- How long a disabling has lasted, in the integers; one without a time has just begun. -/
def lasted (status : SelectionStatus) (now : Millis) : Int := now.toInt - (status.disabledAt.getD now).toInt

/-- The clock has not been turned back since the disabling, and both readings are less than a word apart. -/
structure Precedes (status : SelectionStatus) (now : Millis) : Prop where
  later : 0 ≤ status.lasted now
  fits : status.lasted now ≤ Int64.maxValue.toInt

instance (status : SelectionStatus) (now : Millis) : Decidable (status.Precedes now) :=
  decidable_of_iff (0 ≤ status.lasted now ∧ status.lasted now ≤ Int64.maxValue.toInt)
    ⟨fun both => ⟨both.1, both.2⟩, fun precedes => ⟨precedes.later, precedes.fits⟩⟩

end SelectionStatus

namespace Rules

variable {rules : Rules} {reason : Reason} {status : SelectionStatus}

theorem backoff?_eq (rules : Rules) (reason : Reason) (blocked : UInt32) :
    rules.backoff? reason blocked = ((rules.rule reason).wait? (min blocked.toNat 10)).map Millis.saturate := by
  have count : (min blocked maxBlocked).toNat = min blocked.toNat 10 := UInt32.toNat_min ..
  have none : min blocked maxBlocked = 0 ↔ min blocked.toNat 10 = 0 := by
    rw [← count]
    exact UInt32.toNat_inj.symm
  simp only [backoff?, Rule.wait?, none, count]
  split
  · rfl
  · rw [Option.map_map]
    rfl

theorem exists_backoff?_iff (nonneg : ∀ base ∈ (rules.rule reason).timeout, 0 ≤ base) (blocked : UInt32) (passed : Millis) :
    (∃ timeout ∈ rules.backoff? reason blocked, timeout ≤ passed) ↔
      0 ≤ passed.toInt ∧ (rules.rule reason).IsOver (min blocked.toNat 10) passed.toInt := by
  rw [← Rule.exists_wait?_iff nonneg, backoff?_eq]
  cases lasts : (rules.rule reason).wait? (min blocked.toNat 10) with
  | none => simp
  | some wait =>
      have value := Millis.toInt_saturate_of_nonneg (Rule.wait?_nonneg nonneg _ wait lasts)
      simp [Int64.le_iff_toInt_le, value]

/-- The status is temporarily disabled, and its wait is over. -/
def Releases (rules : Rules) (status : SelectionStatus) (now : Millis) (blocked : Nat) : Prop :=
  status.isTemporarilyDisabled = true ∧ status.Precedes now ∧
    (rules.rule status.reason).IsOver (min blocked 10) (status.lasted now)

instance (rules : Rules) (status : SelectionStatus) (now : Millis) (blocked : Nat) :
    Decidable (rules.Releases status now blocked) := inferInstanceAs (Decidable (_ ∧ _))

theorem exists_backoff?_sub?_iff (nonneg : ∀ base ∈ (rules.rule status.reason).timeout, 0 ≤ base) (now : Millis) (blocked : UInt32) :
    (∃ timeout ∈ rules.backoff? status.reason blocked, (Millis.sub? now (status.disabledAt.getD now)).any (timeout ≤ ·) = true) ↔
      status.Precedes now ∧ (rules.rule status.reason).IsOver (min blocked.toNat 10) (status.lasted now) := by
  cases passes : Millis.sub? now (status.disabledAt.getD now) with
  | none =>
      have apart : ¬ Millis.Fits (status.lasted now) := Millis.sub?_eq_none_iff.1 passes
      simp only [Option.any_none, Bool.false_eq_true, and_false, exists_false, false_iff]
      exact fun released => apart ⟨Int.le_trans (by decide) released.1.later, released.1.fits⟩
  | some passed =>
      have lasted : passed.toInt = status.lasted now := Millis.sub?_eq_some_iff.1 passes
      have fits : status.lasted now ≤ Int64.maxValue.toInt := lasted ▸ (Millis.fits_toInt passed).2
      simp only [Option.any_some, decide_eq_true_eq]
      rw [exists_backoff?_iff nonneg, lasted]
      exact and_congr_left fun _ => ⟨fun later => ⟨later, fits⟩, SelectionStatus.Precedes.later⟩

/-- A poll enables the status whose wait is over, and leaves every other one alone. -/
theorem tryEnable_eq (nonneg : ∀ base ∈ (rules.rule status.reason).timeout, 0 ≤ base) (now : Millis) (blocked : UInt32) :
    rules.tryEnable status now blocked =
      if rules.Releases status now blocked.toNat then (status.readied, .enabled) else (status, .unchanged) := by
  have ends := exists_backoff?_sub?_iff nonneg now blocked
  by_cases disabled : status.isTemporarilyDisabled = true
  · have releases : rules.Releases status now blocked.toNat ↔
        ∃ timeout ∈ rules.backoff? status.reason blocked,
          (Millis.sub? now (status.disabledAt.getD now)).any (timeout ≤ ·) = true :=
      (and_iff_right disabled).trans ends.symm
    rw [tryEnable_eq_ite, if_pos disabled, SelectionStatus.force_enable_of_disabled disabled]
    simp only [releases]
    cases rules.backoff? status.reason blocked with
    | none => simp
    | some timeout => simp
  · rw [tryEnable_eq_ite, if_neg disabled, if_neg fun releases => disabled releases.1]

end Rules

end SavedNetworks
