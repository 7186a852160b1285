import SavedNetworks.Json.Basic

/-!
Documents that report failures: the kind of the failure, and its text where it has one.
-/

namespace SavedNetworks.Json

def failure (kind : String) : Json := .object [("error", .text kind)]

def failureWith (kind message : String) : Json := .object [("error", .text kind), ("message", .text message)]

end SavedNetworks.Json
