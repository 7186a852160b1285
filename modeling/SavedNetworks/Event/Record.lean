import SavedNetworks.Event.Basic
import SavedNetworks.Profile.Record

/-!
What listeners got, as documents.
-/

namespace SavedNetworks

namespace Event

def profileMembers (event : String) (profile : Profile) : List (String × Json) :=
  [("event", .text event), ("id", profile.id.toJson), ("key", profile.key.toJson),
    ("status", profile.status.toJson), ("state", profile.selection.state.toJson)]

/-- A moment beyond the calendar is left out. -/
def toMembers : Event → List (String × Json)
  | added profile => profileMembers "Added" profile
  | updated profile => profileMembers "Updated" profile
  | removed profile => profileMembers "Removed" profile
  | enabled profile => profileMembers "Enabled" profile
  | temporarilyDisabled profile reason =>
    profileMembers "TemporarilyDisabled" profile ++ [("reason", .text reason.longName)]
  | permanentlyDisabled profile reason =>
    profileMembers "PermanentlyDisabled" profile ++ [("reason", .text reason.longName)]
  | reloaded count at_ =>
    [("event", .text "Reloaded"), ("count", .nat count)] ++
      match Moment.text? at_.toInt with
      | some moment => [("at", .text moment)]
      | none => []

end Event

namespace Delivery

def toMembers : Delivery → List (String × Json)
  | recorded number event => ("handler", .nat number) :: event.toMembers
  | logged line => [("log", .text (line.level.name ++ " " ++ line.text))]

end Delivery

end SavedNetworks
