import SavedNetworks.Selection.Transition
import SavedNetworks.Sighting.Record

/-!
The written form of reasons, rules and selection statuses. The candidate of a round is not written to
records.
-/

namespace SavedNetworks

namespace ProfileKey

def toJson (key : ProfileKey) : Json := .text key.text

def ofJson? (document : Json) : Option ProfileKey := document.text?.map mk

end ProfileKey

namespace Reason

def toJson (reason : Reason) : Json := .text reason.name

def ofJson? : Json → Option Reason := Json.variant? ofName?

end Reason

namespace Eligibility

def toJson (state : Eligibility) : Json := .text state.name

def ofJson? : Json → Option Eligibility := Json.variant? ofName?

end Eligibility

namespace RuleOverride

def toJson (change : RuleOverride) : Json :=
  .object
    [("threshold", .ofOption .ofUInt32 change.threshold), ("timeout_ms", .ofOption .ofInt64 change.timeout)]

def ofJson? (document : Json) : Option RuleOverride := do
  let fields ← document.fields? ["threshold", "timeout_ms"]
  some
    { threshold := ← fields.optional "threshold" Json.uint32?
      timeout := ← fields.optional "timeout_ms" Json.int64? }

end RuleOverride

namespace RuleOverrides

def toJson (overrides : RuleOverrides) : Json :=
  .object (overrides.entries.map fun (reason, change) => (reason.name, change.toJson))

def ofJson? : Json → Option RuleOverrides := Json.mapOf? Reason.ofName? RuleOverride.ofJson?

end RuleOverrides

namespace ConnectChoice

def toJson (choice : ConnectChoice) : Json :=
  .object [("key", choice.key.toJson), ("timestamp_ms", .ofInt64 choice.chosenAt)]

def ofJson? (document : Json) : Option ConnectChoice := do
  let fields ← document.fields? ["key", "timestamp_ms"]
  some
    { key := ← fields.required "key" ProfileKey.ofJson?
      chosenAt := ← fields.required "timestamp_ms" Json.int64? }

end ConnectChoice

namespace Candidate

def toJson (candidate : Candidate) : Json :=
  .object [("observation", candidate.sighting.toJson), ("score", .ofInt32 candidate.score)]

end Candidate

namespace SelectionStatus

def toMembers (status : SelectionStatus) : List (String × Json) :=
  [("state", status.state.toJson),
    ("reason", status.reason.toJson),
    ("counters", .list (status.counters.toList.map .ofUInt32)),
    ("disable_time_ms", .ofOption .ofInt64 status.disabledAt),
    ("connect_choice", .ofOption ConnectChoice.toJson status.connectChoice),
    ("has_ever_connected", .bool status.hasEverConnected)]

def toJson (status : SelectionStatus) : Json := .object status.toMembers

/-- The whole status, with what records leave out. -/
def toFullJson (status : SelectionStatus) : Json :=
  .object (status.toMembers ++
    [("candidate", .ofOption Candidate.toJson status.candidate),
      ("seen_in_last_round", .bool status.seenInLastRound)])

def ofJson? (document : Json) : Option SelectionStatus := do
  let fields ← document.fields?
    ["state", "reason", "counters", "disable_time_ms", "connect_choice", "has_ever_connected"]
  some
    { state := ← fields.required "state" Eligibility.ofJson?
      reason := ← fields.required "reason" Reason.ofJson?
      counters := ← fields.required "counters" (Json.vectorOf? Reason.count Json.uint32?)
      disabledAt := ← fields.optional "disable_time_ms" Json.int64?
      candidate := none
      seenInLastRound := false
      connectChoice := ← fields.optional "connect_choice" ConnectChoice.ofJson?
      hasEverConnected := ← fields.required "has_ever_connected" Json.bool? }

end SelectionStatus

namespace Transition

def text : Transition → String
  | unchanged => "Unchanged"
  | ignored => "Ignored"
  | enabled => "Enabled"
  | debounced count threshold =>
    "Debounced \x7b count: " ++ toString count.toNat ++ ", threshold: " ++ toString threshold.toNat ++ " \x7d"
  | temporarilyDisabled reason => "TemporarilyDisabled(" ++ reason.name ++ ")"
  | permanentlyDisabled reason => "PermanentlyDisabled(" ++ reason.name ++ ")"

def toJson (transition : Transition) : Json :=
  .object
    [("text", .text transition.text),
      ("change", .bool transition.isStateChange),
      ("accepted", .bool transition.isAccepted)]

end Transition

end SavedNetworks
