import SavedNetworks.Selection.Status

/-!
How failures, time and explicit decisions move a selection status. Each kind of failure is counted; at
the threshold of its rule the profile is disabled, for good or until a backoff is over that doubles with
every further blocked transmitter.
-/

namespace SavedNetworks

/-- What a call did to a status. -/
inductive Transition where
  | unchanged
  /-- Counted, and still below the threshold. -/
  | debounced (count threshold : UInt32)
  /-- Dropped on the word of the watchdog. -/
  | ignored
  | enabled
  | temporarilyDisabled (reason : Reason)
  | permanentlyDisabled (reason : Reason)
deriving DecidableEq

namespace Transition

def isStateChange : Transition → Bool
  | enabled | temporarilyDisabled _ | permanentlyDisabled _ => true
  | _ => false

def isAccepted (transition : Transition) : Bool := transition != ignored

end Transition

namespace SelectionStatus

/-- Moves to the state that `reason` asks for, without counting. A repeat of the current state and
reason leaves the time of the disabling alone. -/
def force (status : SelectionStatus) (reason : Reason) (now : Millis) : SelectionStatus × Transition :=
  if reason = .enable then
    ({ status with state := .enabled, reason := .enable, disabledAt := none, counters := noFailures },
      if status.isEnabled then .unchanged else .enabled)
  else if reason.isPermanent then
    if status.isPermanentlyDisabled ∧ status.reason = reason then (status, .unchanged)
    else
      ({ status with state := .permanentlyDisabled, reason, disabledAt := none }, .permanentlyDisabled reason)
  else if status.isTemporarilyDisabled ∧ status.reason = reason then (status, .unchanged)
  else
    ({ status with state := .temporarilyDisabled, reason, disabledAt := some now }, .temporarilyDisabled reason)

end SelectionStatus

/-- No more blocked transmitters than this lengthen a backoff. -/
def maxBlocked : UInt32 := 10

namespace Rules

/-- Takes in one reason: an enabling at once, a failure by its count. With `ignoring`, gated failures
are not even counted. -/
def apply (rules : Rules) (status : SelectionStatus) (reason : Reason) (now : Millis) (ignoring : Bool) :
    SelectionStatus × Transition :=
  if reason = .enable then status.force reason now
  else if reason.isGated && ignoring then (status, .ignored)
  else
    let counted := status.countFailure reason
    let count := counted.counter reason
    let threshold := (rules.rule reason).threshold
    if count < threshold then (counted, .debounced count threshold) else counted.force reason now

/-- How long a disabling for `reason` lasts while `blocked` transmitters are blocked. Without any there
is no wait; without a timeout there is no end. -/
def backoff? (rules : Rules) (reason : Reason) (blocked : UInt32) : Option Millis :=
  let blocked := min blocked maxBlocked
  if blocked = 0 then some 0
  else (rules.rule reason).timeout.map fun base => Millis.saturate (base.toInt * Int.pow 2 (blocked.toNat - 1))

/-- Enables a temporarily disabled profile whose backoff is over. None if it halts on the time that has
passed. -/
def tryEnable? (rules : Rules) (status : SelectionStatus) (now : Millis) (blocked : UInt32) :
    Option (SelectionStatus × Transition) :=
  if status.isTemporarilyDisabled then
    match rules.backoff? status.reason blocked with
    | none => some (status, .unchanged)
    | some timeout =>
      (Millis.sub? now (status.disabledAt.getD now)).map fun passed =>
        if timeout ≤ passed then status.force .enable now else (status, .unchanged)
  else some (status, .unchanged)

/-- What a poll comes to; nothing changes where it halts. -/
def tryEnable (rules : Rules) (status : SelectionStatus) (now : Millis) (blocked : UInt32) :
    SelectionStatus × Transition :=
  (rules.tryEnable? status now blocked).getD (status, .unchanged)

theorem tryEnable_eq_ite (rules : Rules) (status : SelectionStatus) (now : Millis) (blocked : UInt32) :
    rules.tryEnable status now blocked =
      if status.isTemporarilyDisabled then
        match rules.backoff? status.reason blocked with
        | none => (status, .unchanged)
        | some timeout =>
          if (Millis.sub? now (status.disabledAt.getD now)).any (timeout ≤ ·) then status.force .enable now
          else (status, .unchanged)
      else (status, .unchanged) := by
  unfold tryEnable tryEnable?
  split
  · cases rules.backoff? status.reason blocked with
    | none => rfl
    | some timeout => cases Millis.sub? now (status.disabledAt.getD now) <;> simp
  · rfl

end Rules

end SavedNetworks
