import SavedNetworks.Profile.Key
import SavedNetworks.Selection.Reason
import SavedNetworks.Sighting.Basic

/-!
What automatic selection knows of one profile: whether it may be selected and why not, the failures
counted so far, the best sighting of the current round, and the user's choice against it.
-/

namespace SavedNetworks

inductive Eligibility where
  | enabled
  | temporarilyDisabled
  | permanentlyDisabled
deriving DecidableEq

namespace Eligibility

def all : List Eligibility := [enabled, temporarilyDisabled, permanentlyDisabled]

def name : Eligibility → String
  | enabled => "Enabled"
  | temporarilyDisabled => "TemporarilyDisabled"
  | permanentlyDisabled => "PermanentlyDisabled"

def ofName? (name : String) : Option Eligibility := all.find? fun state => state.name == name

theorem ofName?_name (state : Eligibility) : ofName? state.name = some state := by
  cases state <;> decide

end Eligibility

/-- The best sighting of a profile in the current round. -/
structure Candidate where
  sighting : Sighting
  score : Int32
deriving DecidableEq

/-- The profile that the user preferred to this one, and when. -/
structure ConnectChoice where
  key : ProfileKey
  chosenAt : Millis
deriving DecidableEq

structure SelectionStatus where
  state : Eligibility
  reason : Reason
  counters : Vector UInt32 Reason.count
  /-- Monotonic time at which a temporary disabling began. -/
  disabledAt : Option Millis
  candidate : Option Candidate
  seenInLastRound : Bool
  connectChoice : Option ConnectChoice
  hasEverConnected : Bool
deriving DecidableEq

namespace SelectionStatus

def noFailures : Vector UInt32 Reason.count := Vector.replicate Reason.count 0

/-- A new profile waits for an explicit enabling. -/
def initial : SelectionStatus :=
  { state := .permanentlyDisabled
    reason := .byManager
    counters := noFailures
    disabledAt := none
    candidate := none
    seenInLastRound := false
    connectChoice := none
    hasEverConnected := false }

def isEnabled (status : SelectionStatus) : Bool := status.state == .enabled

def isTemporarilyDisabled (status : SelectionStatus) : Bool := status.state == .temporarilyDisabled

def isPermanentlyDisabled (status : SelectionStatus) : Bool := status.state == .permanentlyDisabled

def counter (status : SelectionStatus) (reason : Reason) : UInt32 := status.counters[reason.code]

def clearCounters (status : SelectionStatus) : SelectionStatus := { status with counters := noFailures }

def setCounter (status : SelectionStatus) (reason : Reason) (count : UInt32) : SelectionStatus :=
  { status with counters := status.counters.set reason.code count }

def clearCounter (status : SelectionStatus) (reason : Reason) : SelectionStatus := status.setCounter reason 0

/-- Counts one more failure; the greatest count stays. -/
def countFailure (status : SelectionStatus) (reason : Reason) : SelectionStatus :=
  let count := status.counter reason
  status.setCounter reason (if count = UInt32.ofNat (UInt32.size - 1) then count else count + 1)

def setCandidate (status : SelectionStatus) (sighting : Sighting) (score : Int32) : SelectionStatus :=
  { status with candidate := some ⟨sighting, score⟩, seenInLastRound := true }

def clearCandidate (status : SelectionStatus) : SelectionStatus :=
  { status with candidate := none, seenInLastRound := false }

/-- Forgets the choice for `key`. -/
def forgetChoice (status : SelectionStatus) (key : ProfileKey) : SelectionStatus :=
  if status.connectChoice.any (·.key == key) then { status with connectChoice := none } else status

/-- What outlives the run: the candidate of a round does not. -/
def persisted (status : SelectionStatus) : SelectionStatus := status.clearCandidate

theorem counter_setCounter (status : SelectionStatus) (reason other : Reason) (count : UInt32) :
    (status.setCounter reason count).counter other = if other = reason then count else status.counter other := by
  by_cases same : other = reason
  · simp [counter, setCounter, same]
  · have apart : (reason.code : Nat) ≠ other.code := fun equal =>
      same (Reason.code_injective (Fin.ext equal)).symm
    simp [counter, setCounter, same, apart]

@[simp] theorem counter_clearCounters (status : SelectionStatus) (reason : Reason) :
    status.clearCounters.counter reason = 0 := by
  simp [counter, clearCounters, noFailures]

end SelectionStatus

end SavedNetworks
