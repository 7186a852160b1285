import Mathlib.Data.List.Induction
import SavedNetworks.Proofs.Selection.Backoff
import SavedNetworks.Proofs.Selection.Coherence
import SavedNetworks.Proofs.Selection.Permanence

/-!
How failures add up. An enabled status stays as it is until one kind of failure has been accepted as often as its
threshold says, whatever the others do in between (`Rules.debounces_until_threshold`).
-/

namespace SavedNetworks

/-- A failure as it is reported; with `ignoring`, the watchdog asks for gated failures to be dropped. -/
structure Failure where
  reason : Reason
  now : Millis
  ignoring : Bool
  isFailure : reason ≠ .enable
deriving DecidableEq

namespace Failure

def isAccepted (failure : Failure) : Bool := !(failure.reason.isGated && failure.ignoring)

/-- What is said of a failure that disables. -/
def verdict (failure : Failure) : Transition :=
  if failure.reason.isPermanent then .permanentlyDisabled failure.reason else .temporarilyDisabled failure.reason

/-- What a failure makes of a status that it disables. -/
def disable (failure : Failure) (status : SelectionStatus) : SelectionStatus :=
  { status with
    state := failure.reason.eligibility
    reason := failure.reason
    disabledAt := if failure.reason.isPermanent then none else some failure.now }

end Failure

/-- How many failures of a kind were accepted. -/
def accepted (failures : List Failure) (reason : Reason) : Nat :=
  failures.countP fun failure => failure.reason == reason && failure.isAccepted

/-- The accepted failures of every kind, as far as a counter can tell. -/
def tally (failures : List Failure) : Vector UInt32 Reason.count :=
  Vector.ofFn fun code => UInt32.ofNat (min
    (failures.countP fun failure => failure.reason.code == code && failure.isAccepted) (UInt32.size - 1))

/-- Whatever else may happen to a status. -/
inductive SelectionAct where
  | call (call : SelectionCall)
  | clearCounters
  | clearCounter (reason : Reason)
  | setCandidate (candidate : Candidate)
  | clearCandidate
  | choose (choice : Option ConnectChoice)
  | noteConnected (ever : Bool)
deriving DecidableEq

namespace Rules

def report (rules : Rules) (status : SelectionStatus) (failure : Failure) : SelectionStatus × Transition :=
  rules.apply status failure.reason failure.now failure.ignoring

def reportAll (rules : Rules) (status : SelectionStatus) (failures : List Failure) : SelectionStatus :=
  failures.foldl (fun status failure => (rules.report status failure).1) status

/-- The accepted failures of every kind are fewer than its threshold says. -/
def Tolerates (rules : Rules) (failures : List Failure) : Prop :=
  ∀ reason, accepted failures reason < (rules.rule reason).threshold.toNat

/-- The failure is the first one with which a kind reaches its threshold. -/
def Breaks (rules : Rules) (earlier : List Failure) (failure : Failure) : Prop :=
  rules.Tolerates earlier ∧ ¬ rules.Tolerates (earlier ++ [failure])

/-- Failures are counted from this status on, and nothing else happens until a kind reaches its threshold. -/
structure Debounces (rules : Rules) (status : SelectionStatus) : Prop where
  tolerated : ∀ failures, rules.Tolerates failures →
    rules.reportAll status failures = { status with counters := tally failures }
  answered : ∀ earlier failure, rules.Tolerates (earlier ++ [failure]) →
    (rules.report (rules.reportAll status earlier) failure).2 =
      if failure.isAccepted then
        .debounced (UInt32.ofNat (accepted (earlier ++ [failure]) failure.reason)) (rules.rule failure.reason).threshold
      else .ignored
  broken : ∀ earlier failure, rules.Breaks earlier failure →
    accepted (earlier ++ [failure]) failure.reason = (rules.rule failure.reason).threshold.toNat ∧
      rules.report (rules.reportAll status earlier) failure =
        (failure.disable { status with counters := tally (earlier ++ [failure]) }, failure.verdict)
  /-- From then on the same kind of failure is counted, and nothing else happens. -/
  repeated : ∀ earlier failure again, rules.Breaks earlier failure → (∀ other ∈ again, other.reason = failure.reason) →
    rules.reportAll status (earlier ++ failure :: again) =
      failure.disable { status with counters := tally (earlier ++ failure :: again) } ∧
    ∀ next : Failure, next.reason = failure.reason →
      (rules.report (rules.reportAll status (earlier ++ failure :: again)) next).2 =
        if next.isAccepted then .unchanged else .ignored

def act (rules : Rules) (status : SelectionStatus) : SelectionAct → SelectionStatus
  | .call call => rules.take status call
  | .clearCounters => status.clearCounters
  | .clearCounter reason => status.clearCounter reason
  | .setCandidate candidate => status.setCandidate candidate.sighting candidate.score
  | .clearCandidate => status.clearCandidate
  | .choose choice => { status with connectChoice := choice }
  | .noteConnected ever => { status with hasEverConnected := ever }

def actAll (rules : Rules) (status : SelectionStatus) (acts : List SelectionAct) : SelectionStatus :=
  acts.foldl rules.act status

/-- While the status is enabled, the failures of every kind are below its threshold. -/
def StaysBelow (rules : Rules) (status : SelectionStatus) : Prop :=
  status.isEnabled = true → ∀ reason, status.counter reason < (rules.rule reason).threshold

end Rules

theorem Reason.exists_code (code : Fin Reason.count) : ∃ reason : Reason, reason.code = code := by
  have every : ∀ code : Fin Reason.count, ∃ reason ∈ Reason.all, reason.code = code := by decide
  obtain ⟨reason, _, same⟩ := every code
  exact ⟨reason, same⟩

theorem Reason.ext_counters {left right : Vector UInt32 Reason.count}
    (same : ∀ reason : Reason, (left.get reason.code).toNat = (right.get reason.code).toNat) : left = right := by
  refine Vector.ext fun index bound => UInt32.toNat_inj.1 ?_
  obtain ⟨reason, code⟩ := exists_code ⟨index, bound⟩
  have here := same reason
  simp only [code] at here
  exact here

variable {failures earlier again : List Failure} {failure next : Failure} {reason : Reason}

theorem accepted_append_singleton (failures : List Failure) (failure : Failure) (reason : Reason) :
    accepted (failures ++ [failure]) reason =
      accepted failures reason + if failure.reason = reason ∧ failure.isAccepted = true then 1 else 0 := by
  simp [accepted, List.countP_append, List.countP_cons]

theorem toNat_tally (failures : List Failure) (reason : Reason) :
    ((tally failures).get reason.code).toNat = min (accepted failures reason) (UInt32.size - 1) := by
  have kinds (failure : Failure) : (failure.reason.code == reason.code) = (failure.reason == reason) := by
    have codes : failure.reason.code = reason.code ↔ failure.reason = reason := ⟨Reason.code_injective, congrArg _⟩
    rw [Bool.eq_iff_iff, beq_iff_eq, beq_iff_eq, codes]
  have entry : (tally failures).get reason.code = UInt32.ofNat (min (accepted failures reason) (UInt32.size - 1)) := by
    refine (Vector.getElem_ofFn reason.code.isLt).trans ?_
    simp only [accepted, kinds]
  have small : min (accepted failures reason) (UInt32.size - 1) < UInt32.size := by
    have size : 0 < UInt32.size := by decide
    omega
  rw [entry, UInt32.toNat_ofNat_of_lt' small]

theorem tally_nil : tally [] = SelectionStatus.noFailures := by
  refine Reason.ext_counters fun reason => ?_
  have none : SelectionStatus.noFailures.get reason.code = 0 := Vector.getElem_replicate reason.code.isLt
  rw [toNat_tally, none]
  simp [accepted]

namespace SelectionStatus

variable {status : SelectionStatus}

theorem toNat_countFailure (status : SelectionStatus) (reason : Reason) :
    ((status.countFailure reason).counter reason).toNat = min ((status.counter reason).toNat + 1) (UInt32.size - 1) := by
  have bound := (status.counter reason).toNat_lt_size
  rw [countFailure, counter_setCounter, if_pos rfl]
  split
  · next greatest =>
      rw [greatest]
      rfl
  · next less =>
      rw [toNat_counter_succ less]
      have apart : (status.counter reason).toNat ≠ UInt32.size - 1 := fun same => less (UInt32.toNat_inj.1 same)
      omega

/-- One more accepted failure, counted. -/
theorem countFailure_tally (status : SelectionStatus) (counted : status.counters = tally failures)
    (taken : failure.isAccepted = true) :
    status.countFailure failure.reason = { status with counters := tally (failures ++ [failure]) } := by
  have counters : (status.countFailure failure.reason).counters = tally (failures ++ [failure]) := by
    refine Reason.ext_counters fun reason => ?_
    have before : (status.counter reason).toNat = min (accepted failures reason) (UInt32.size - 1) := by
      rw [counter, counted]
      exact toNat_tally failures reason
    rw [toNat_tally, accepted_append_singleton, taken]
    change ((status.countFailure failure.reason).counter reason).toNat = _
    by_cases same : failure.reason = reason
    · subst same
      rw [toNat_countFailure, before, if_pos ⟨rfl, rfl⟩]
      omega
    · rw [counter_countFailure_of_ne _ (Ne.symm same), before, if_neg fun both => same both.1, Nat.add_zero]
  rw [← counters]
  rfl

end SelectionStatus

theorem tally_of_ignored (dropped : failure.isAccepted = false) : tally (failures ++ [failure]) = tally failures := by
  refine Reason.ext_counters fun reason => ?_
  rw [toNat_tally, toNat_tally, accepted_append_singleton, dropped]
  simp

namespace Failure

theorem eligibility_ne_enabled (failure : Failure) : failure.reason.eligibility ≠ .enabled := by
  rw [Reason.eligibility, if_neg failure.isFailure]
  split <;> simp

/-- A failure that takes effect, where another kind or none did before. -/
theorem force_of_other {status : SelectionStatus} (other : status.mood ≠ (failure.reason.eligibility, failure.reason)) :
    status.force failure.reason failure.now = (failure.disable status, failure.verdict) := by
  unfold SelectionStatus.force disable verdict
  rw [SelectionStatus.mood, Reason.eligibility, if_neg failure.isFailure] at other
  rw [if_neg failure.isFailure, Reason.eligibility, if_neg failure.isFailure]
  cases permanent : failure.reason.isPermanent with
  | true =>
      have apart : ¬ (status.isPermanentlyDisabled = true ∧ status.reason = failure.reason) := by
        rintro ⟨state, reason⟩
        exact other (by rw [SelectionStatus.isPermanentlyDisabled_iff.1 state, reason, permanent]; rfl)
      simp only [if_true, if_neg apart]
  | false =>
      have apart : ¬ (status.isTemporarilyDisabled = true ∧ status.reason = failure.reason) := by
        rintro ⟨state, reason⟩
        have temporarily : status.state = .temporarilyDisabled := by
          simpa [SelectionStatus.isTemporarilyDisabled] using state
        exact other (by rw [temporarily, reason, permanent]; rfl)
      simp only [Bool.false_eq_true, if_false, if_neg apart]

/-- A failure of the kind that is in effect. -/
theorem force_of_same {status : SelectionStatus} (same : status.mood = (failure.reason.eligibility, failure.reason)) :
    status.force failure.reason failure.now = (status, .unchanged) := by
  obtain ⟨state, reason⟩ := Prod.mk.inj same
  rw [Reason.eligibility, if_neg failure.isFailure] at state
  unfold SelectionStatus.force
  rw [if_neg failure.isFailure]
  cases permanent : failure.reason.isPermanent with
  | true =>
      rw [permanent, if_pos rfl] at state
      rw [if_pos rfl, if_pos ⟨SelectionStatus.isPermanentlyDisabled_iff.2 state, reason⟩]
  | false =>
      rw [permanent, if_neg Bool.false_ne_true] at state
      rw [if_neg Bool.false_ne_true, if_pos ⟨by simp [SelectionStatus.isTemporarilyDisabled, state], reason⟩]

end Failure

namespace Rules

variable {rules : Rules} {status : SelectionStatus}

theorem report_of_ignored (rules : Rules) (status : SelectionStatus) (dropped : failure.isAccepted = false) :
    rules.report status failure = (status, .ignored) := by
  have gated : (failure.reason.isGated && failure.ignoring) = true := by simpa [Failure.isAccepted] using dropped
  rw [report, apply, if_neg failure.isFailure, if_pos gated]

theorem report_of_accepted (rules : Rules) (counted : status.counters = tally failures) (taken : failure.isAccepted = true) :
    rules.report status failure =
      if accepted (failures ++ [failure]) failure.reason < (rules.rule failure.reason).threshold.toNat then
        ({ status with counters := tally (failures ++ [failure]) },
          .debounced (UInt32.ofNat (accepted (failures ++ [failure]) failure.reason)) (rules.rule failure.reason).threshold)
      else { status with counters := tally (failures ++ [failure]) }.force failure.reason failure.now := by
  have heeded : ¬ (failure.reason.isGated && failure.ignoring) = true := by
    rw [Failure.isAccepted, Bool.not_eq_true'] at taken
    exact ne_true_of_eq_false taken
  -- The counter saturates, and no threshold lies above its greatest value, so it compares as the number of failures does.
  have stands : (status.countFailure failure.reason).counter failure.reason < (rules.rule failure.reason).threshold ↔
      accepted (failures ++ [failure]) failure.reason < (rules.rule failure.reason).threshold.toNat := by
    have bound := (rules.rule failure.reason).threshold.toNat_lt_size
    rw [UInt32.lt_iff_toNat_lt, status.countFailure_tally counted taken]
    change ((tally (failures ++ [failure])).get failure.reason.code).toNat < _ ↔ _
    rw [toNat_tally]
    omega
  rw [report, apply, if_neg failure.isFailure, if_neg heeded]
  simp only
  by_cases below : accepted (failures ++ [failure]) failure.reason < (rules.rule failure.reason).threshold.toNat
  · have value : (status.countFailure failure.reason).counter failure.reason =
        UInt32.ofNat (accepted (failures ++ [failure]) failure.reason) := by
      have bound := (rules.rule failure.reason).threshold.toNat_lt_size
      refine UInt32.toNat_inj.1 ?_
      rw [status.countFailure_tally counted taken, UInt32.toNat_ofNat_of_lt' (Nat.lt_trans below bound)]
      change ((tally (failures ++ [failure])).get failure.reason.code).toNat = _
      rw [toNat_tally]
      omega
    rw [if_pos (stands.2 below), if_pos below, value, status.countFailure_tally counted taken]
  · rw [if_neg (mt stands.1 below), if_neg below, status.countFailure_tally counted taken]

theorem reportAll_append_singleton (rules : Rules) (status : SelectionStatus) (failures : List Failure) (failure : Failure) :
    rules.reportAll status (failures ++ [failure]) = (rules.report (rules.reportAll status failures) failure).1 := by
  simp [reportAll, List.foldl_append]

theorem Tolerates.of_append (tolerated : rules.Tolerates (failures ++ [failure])) : rules.Tolerates failures := by
  intro reason
  have fewer := tolerated reason
  rw [accepted_append_singleton] at fewer
  omega

/-- The failure is accepted, and its kind reaches the threshold. -/
theorem Breaks.reached (breaks : rules.Breaks earlier failure) :
    failure.isAccepted = true ∧
      accepted (earlier ++ [failure]) failure.reason = (rules.rule failure.reason).threshold.toNat := by
  obtain ⟨tolerated, broken⟩ := breaks
  obtain ⟨reason, reached⟩ := not_forall.1 broken
  have before := tolerated reason
  rw [accepted_append_singleton] at reached
  by_cases counted : failure.reason = reason ∧ failure.isAccepted = true
  · obtain ⟨rfl, taken⟩ := counted
    rw [if_pos ⟨rfl, taken⟩] at reached
    refine ⟨taken, ?_⟩
    rw [accepted_append_singleton, if_pos ⟨rfl, taken⟩]
    omega
  · rw [if_neg counted] at reached
    omega

/-- What is reported while every kind is tolerated. -/
theorem report_of_tolerated (counted : status.counters = tally failures)
    (tolerated : rules.Tolerates (failures ++ [failure])) :
    rules.report status failure =
      ({ status with counters := tally (failures ++ [failure]) },
        if failure.isAccepted then
          .debounced (UInt32.ofNat (accepted (failures ++ [failure]) failure.reason)) (rules.rule failure.reason).threshold
        else .ignored) := by
  cases taken : failure.isAccepted with
  | true => rw [rules.report_of_accepted counted taken, if_pos (tolerated failure.reason), if_pos rfl]
  | false =>
      rw [rules.report_of_ignored status taken, tally_of_ignored taken, if_neg Bool.false_ne_true, ← counted]

theorem reportAll_of_tolerated (fresh : status.counters = SelectionStatus.noFailures)
    (tolerated : rules.Tolerates failures) : rules.reportAll status failures = { status with counters := tally failures } := by
  induction failures using List.reverseRecOn with
  | nil => rw [tally_nil, ← fresh]; rfl
  | append_singleton failures failure ih =>
      have earlier := ih tolerated.of_append
      rw [reportAll_append_singleton, earlier, report_of_tolerated rfl tolerated]

/-- The failure that breaks the tolerance disables. -/
theorem report_of_breaks (fresh : status.counters = SelectionStatus.noFailures) (enabled : status.isEnabled = true)
    (breaks : rules.Breaks earlier failure) :
    rules.report (rules.reportAll status earlier) failure =
      (failure.disable { status with counters := tally (earlier ++ [failure]) }, failure.verdict) := by
  obtain ⟨taken, reached⟩ := breaks.reached
  have other : (SelectionStatus.mood { status with counters := tally (earlier ++ [failure]) }) ≠
      (failure.reason.eligibility, failure.reason) := by
    intro same
    have state : status.state = .enabled := by simpa [SelectionStatus.isEnabled] using enabled
    exact failure.eligibility_ne_enabled ((congrArg Prod.fst same).symm.trans state)
  rw [reportAll_of_tolerated fresh breaks.1, rules.report_of_accepted rfl taken,
    if_neg (Nat.not_lt.2 (Nat.le_of_eq reached.symm)), failure.force_of_other other]

/-- One more failure of the kind that is in effect. -/
theorem report_again (sameKind : next.reason = failure.reason)
    (reached : (rules.rule failure.reason).threshold.toNat ≤ accepted failures failure.reason) :
    rules.report (failure.disable { status with counters := tally failures }) next =
      (failure.disable { status with counters := tally (failures ++ [next]) },
        if next.isAccepted then .unchanged else .ignored) := by
  cases taken : next.isAccepted with
  | true =>
      have more : (rules.rule next.reason).threshold.toNat ≤ accepted (failures ++ [next]) next.reason := by
        rw [accepted_append_singleton, sameKind]
        omega
      have same : (SelectionStatus.mood (failure.disable { status with counters := tally (failures ++ [next]) })) =
          (next.reason.eligibility, next.reason) := by
        rw [sameKind]
        rfl
      rw [rules.report_of_accepted rfl taken, if_neg (Nat.not_lt.2 more), if_pos rfl]
      exact next.force_of_same same
  | false =>
      rw [rules.report_of_ignored _ taken, tally_of_ignored taken]
      rfl

theorem reportAll_of_breaks (fresh : status.counters = SelectionStatus.noFailures) (enabled : status.isEnabled = true)
    (breaks : rules.Breaks earlier failure) (sameKind : ∀ other ∈ again, other.reason = failure.reason) :
    rules.reportAll status (earlier ++ failure :: again) =
        failure.disable { status with counters := tally (earlier ++ failure :: again) } ∧
      (rules.rule failure.reason).threshold.toNat ≤ accepted (earlier ++ failure :: again) failure.reason := by
  -- On the repeats, last one first, since the counters are those of all failures so far.
  induction again using List.reverseRecOn with
  | nil =>
      refine ⟨?_, Nat.le_of_eq breaks.reached.2.symm⟩
      rw [reportAll_append_singleton, report_of_breaks fresh enabled breaks]
  | append_singleton again next ih =>
      obtain ⟨disabled, reached⟩ := ih fun other among => sameKind other (List.mem_append_left _ among)
      have parts : earlier ++ failure :: (again ++ [next]) = earlier ++ failure :: again ++ [next] := by simp
      have kind := sameKind next (by simp)
      rw [parts, reportAll_append_singleton, disabled, report_again kind reached, accepted_append_singleton]
      exact ⟨rfl, Nat.le_trans reached (Nat.le_add_right _ _)⟩

theorem debounces (rules : Rules) (enabled : status.isEnabled = true) (fresh : status.counters = SelectionStatus.noFailures) :
    rules.Debounces status where
  tolerated _ tolerated := reportAll_of_tolerated fresh tolerated
  answered earlier failure tolerated := by
    rw [reportAll_of_tolerated fresh tolerated.of_append, report_of_tolerated rfl tolerated]
  broken earlier failure breaks := ⟨breaks.reached.2, report_of_breaks fresh enabled breaks⟩
  repeated earlier failure again breaks sameKind := by
    obtain ⟨disabled, reached⟩ := reportAll_of_breaks fresh enabled breaks sameKind
    refine ⟨disabled, fun next kind => ?_⟩
    rw [disabled, report_again kind reached]

/-- Failures that are not all tolerated have a first one that is not. -/
theorem exists_breaks (initially : rules.Tolerates []) (many : ¬ rules.Tolerates failures) :
    ∃ earlier failure later, failures = earlier ++ failure :: later ∧ rules.Breaks earlier failure := by
  induction failures using List.reverseRecOn with
  | nil => exact absurd initially many
  | append_singleton failures failure ih =>
      by_cases tolerated : rules.Tolerates failures
      · exact ⟨failures, failure, [], rfl, tolerated, many⟩
      · obtain ⟨earlier, first, later, rfl, breaks⟩ := ih tolerated
        exact ⟨earlier, first, later ++ [failure], by simp, breaks⟩

theorem tolerates_nil (overrides : RuleOverrides) : (ofOverrides overrides).Tolerates [] :=
  fun reason => UInt32.lt_iff_toNat_lt.1 (threshold_pos overrides reason)

theorem staysBelow_of_disabled (disabled : status.isEnabled = false) : rules.StaysBelow status :=
  fun enabled => Bool.noConfusion (disabled.symm.trans enabled)

/-- Enabling takes all counters back, and any other reason disables. -/
theorem staysBelow_force (positive : ∀ reason, 0 < (rules.rule reason).threshold) (status : SelectionStatus) (reason : Reason)
    (now : Millis) : rules.StaysBelow (status.force reason now).1 := by
  by_cases enabling : reason = .enable
  · subst enabling
    intro _ other
    have cleared : (status.force .enable now).1.counter other = 0 := status.counter_clearCounters other
    rw [cleared]
    exact positive other
  · refine staysBelow_of_disabled ?_
    rw [SelectionStatus.force, if_neg enabling]
    split
    · split
      · next already => simp [SelectionStatus.isEnabled, SelectionStatus.isPermanentlyDisabled_iff.1 already.1]
      · rfl
    · split
      · next already =>
          have state : status.state = .temporarilyDisabled := by
            simpa [SelectionStatus.isTemporarilyDisabled] using already.1
          simp [SelectionStatus.isEnabled, state]
      · rfl

theorem staysBelow_apply (positive : ∀ reason, 0 < (rules.rule reason).threshold) (below : rules.StaysBelow status)
    (reason : Reason) (now : Millis) (ignoring : Bool) : rules.StaysBelow (rules.apply status reason now ignoring).1 := by
  unfold apply
  split
  · exact staysBelow_force positive status reason now
  · split
    · exact below
    · simp only
      split
      · next few =>
          intro enabled other
          by_cases same : other = reason
          · rw [same]
            exact few
          · rw [status.counter_countFailure_of_ne same]
            exact below enabled other
      · exact staysBelow_force positive _ reason now

theorem staysBelow_tryEnable (positive : ∀ reason, 0 < (rules.rule reason).threshold) (below : rules.StaysBelow status)
    (now : Millis) (blocked : UInt32) : rules.StaysBelow (rules.tryEnable status now blocked).1 := by
  rw [tryEnable_eq_ite]
  split
  · split
    · exact below
    · split
      · exact staysBelow_force positive status .enable now
      · exact below
  · exact below

theorem staysBelow_act (positive : ∀ reason, 0 < (rules.rule reason).threshold) (below : rules.StaysBelow status)
    (act : SelectionAct) : rules.StaysBelow (rules.act status act) := by
  cases act with
  | call call =>
      cases call with
      | apply reason now ignoring => exact staysBelow_apply positive below reason now ignoring
      | force reason now => exact staysBelow_force positive status reason now
      | poll now blocked => exact staysBelow_tryEnable positive below now blocked
  | clearCounters =>
      intro _ reason
      have cleared : (rules.act status .clearCounters).counter reason = 0 := status.counter_clearCounters reason
      rw [cleared]
      exact positive reason
  | clearCounter given =>
      intro enabled reason
      have cleared : (rules.act status (.clearCounter given)).counter reason =
          if reason = given then 0 else status.counter reason := status.counter_setCounter given reason 0
      rw [cleared]
      split
      · exact positive reason
      · exact below enabled reason
  | setCandidate | clearCandidate | choose | noteConnected => exact below

theorem staysBelow_actAll (positive : ∀ reason, 0 < (rules.rule reason).threshold) (below : rules.StaysBelow status)
    (acts : List SelectionAct) : rules.StaysBelow (rules.actAll status acts) := by
  induction acts generalizing status with
  | nil => exact below
  | cons act rest ih => exact ih (staysBelow_act positive below act)

/-- Failures are counted until one kind reaches its threshold; that failure disables, and repeats of it change no more
than their counter. Whatever else happens to a new status, it is enabled only while every counter is below its threshold. -/
theorem debounces_until_threshold (overrides : RuleOverrides) (enabled : status.isEnabled = true)
    (fresh : status.counters = SelectionStatus.noFailures) :
    (ofOverrides overrides).Debounces status ∧
      (∀ failures, ¬ (ofOverrides overrides).Tolerates failures →
        ∃ earlier failure later, failures = earlier ++ failure :: later ∧ (ofOverrides overrides).Breaks earlier failure) ∧
      (∀ (other : SelectionStatus) (failure : Failure), failure.isAccepted = false →
        (ofOverrides overrides).report other failure = (other, .ignored)) ∧
      ∀ acts, (ofOverrides overrides).StaysBelow ((ofOverrides overrides).actAll .initial acts) :=
  ⟨debounces _ enabled fresh, fun _ many => exists_breaks (tolerates_nil overrides) many,
    fun other _ dropped => report_of_ignored _ other dropped,
    staysBelow_actAll (threshold_pos overrides) (staysBelow_of_disabled rfl)⟩

/-- Two leases fail before the third one disables, whatever happens in between. -/
def failingLeases : List Failure :=
  [⟨.dhcpFailure, 100, false, by decide⟩, ⟨.authenticationFailure, 150, false, by decide⟩,
    ⟨.dhcpFailure, 200, true, by decide⟩, ⟨.dhcpFailure, 250, false, by decide⟩]

theorem breaks_failingLeases :
    (ofOverrides (.ofList [(.dhcpFailure, ⟨some 3, none⟩)])).Breaks failingLeases ⟨.dhcpFailure, 300, false, by decide⟩ := by
  refine ⟨fun reason => ?_, fun tolerated => absurd (tolerated .dhcpFailure) (by decide)⟩
  cases reason <;> decide

theorem debounces_failingLeases :
    SelectionStatus.initial.readied.isEnabled = true ∧ SelectionStatus.initial.readied.counters = SelectionStatus.noFailures ∧
      ((ofOverrides (.ofList [(.dhcpFailure, ⟨some 3, none⟩)])).report
        ((ofOverrides (.ofList [(.dhcpFailure, ⟨some 3, none⟩)])).reportAll SelectionStatus.initial.readied failingLeases)
        ⟨.dhcpFailure, 300, false, by decide⟩).2 = .temporarilyDisabled .dhcpFailure := by
  obtain ⟨debounces, _⟩ := debounces_until_threshold (.ofList [(.dhcpFailure, ⟨some 3, none⟩)])
    (rfl : SelectionStatus.initial.readied.isEnabled = true) rfl
  exact ⟨rfl, rfl, congrArg Prod.snd (debounces.broken failingLeases _ breaks_failingLeases).2⟩

end Rules

end SavedNetworks
