import SavedNetworks.Calendar
import SavedNetworks.Profile.Basic

/-!
What the manager announces, who listens, and the line that the log shows for each announcement.
-/

namespace SavedNetworks

inductive Event where
  | added (profile : Profile)
  | updated (profile : Profile)
  | removed (profile : Profile)
  | enabled (profile : Profile)
  | temporarilyDisabled (profile : Profile) (reason : Reason)
  | permanentlyDisabled (profile : Profile) (reason : Reason)
  /-- The profiles were read from the store again. -/
  | reloaded (count : Nat) (at_ : Millis)
deriving DecidableEq

namespace Event

def profile? : Event → Option Profile
  | added profile | updated profile | removed profile | enabled profile => some profile
  | temporarilyDisabled profile _ | permanentlyDisabled profile _ => some profile
  | reloaded _ _ => none

end Event

inductive LogLevel where
  | debug
  | info
  | warn
deriving DecidableEq

namespace LogLevel

def name : LogLevel → String
  | debug => "DEBUG"
  | info => "INFO"
  | warn => "WARN"

end LogLevel

structure LogLine where
  level : LogLevel
  text : String
deriving DecidableEq

namespace Event

private def withId (verb : String) (profile : Profile) : String :=
  verb ++ " " ++ profile.key.text ++ " (id " ++ String.ofList (Text.decimal profile.id.value.toNat) ++ ")"

private def withReason (verb : String) (profile : Profile) (reason : Reason) : String :=
  verb ++ " " ++ profile.key.text ++ " (" ++ reason.longName ++ ")"

/-- The line in the log; a moment beyond the calendar has no text. -/
def logLine : Event → LogLine
  | added profile => ⟨.info, withId "added" profile⟩
  | updated profile => ⟨.debug, withId "updated" profile⟩
  | removed profile => ⟨.info, withId "removed" profile⟩
  | enabled profile => ⟨.debug, "enabled " ++ profile.key.text⟩
  | temporarilyDisabled profile reason => ⟨.info, withReason "temporarily disabled" profile reason⟩
  | permanentlyDisabled profile reason => ⟨.warn, withReason "permanently disabled" profile reason⟩
  | reloaded count at_ =>
    ⟨.info, "loaded " ++ String.ofList (Text.decimal count) ++ " profiles from store at " ++
      (Moment.text? at_.toInt).getD ""⟩

end Event

inductive Listener where
  /-- Keeps the events themselves, under a number of its own. -/
  | recorder (number : Nat)
  | log
deriving DecidableEq

/-- What one listener got of one event. -/
inductive Delivery where
  | recorded (number : Nat) (event : Event)
  | logged (line : LogLine)
deriving DecidableEq

namespace Listener

def receive (event : Event) : Listener → Delivery
  | recorder number => .recorded number event
  | log => .logged event.logLine

/-- Every listener hears every event, in the order in which they registered. -/
def broadcast (listeners : List Listener) (event : Event) : List Delivery := listeners.map (receive event)

end Listener

end SavedNetworks
