import SavedNetworks.Json.Failure
import SavedNetworks.Network.Record

/-!
Requests: records whose members are the arguments. An argument that has a default may be left out; what
is there has to be readable.
-/

namespace SavedNetworks

/-- Why a request cannot be read. -/
inductive RequestError where
  /-- An argument is missing or is of the wrong kind. -/
  | unreadable
  | address (failure : Address.Malformed)
deriving DecidableEq

namespace RequestError

def toJson : RequestError → Json
  | unreadable => .failure "BadInput"
  | address failure => .failureWith "MacParse" failure.message

end RequestError

abbrev Reading := Except RequestError

namespace Reading

def ofOption {α : Type} : Option α → Reading α
  | some value => .ok value
  | none => .error .unreadable

end Reading

namespace Json

variable {α : Type}

def isRecord : Json → Bool
  | record _ => true
  | _ => false

/-- Any document at all. -/
def any? (document : Json) : Option Json := some document

def record? (document : Json) : Option Json := if document.isRecord then some document else none

/-- An argument that must be present. -/
def need (request : Json) (name : String) (read : Json → Option α) : Reading α :=
  .ofOption ((request.member? name).bind read)

/-- An argument with a default. -/
def want (request : Json) (name : String) (read : Json → Option α) (default : α) : Reading α :=
  match request.member? name with
  | some document => .ofOption (read document)
  | none => .ok default

/-- An argument that may be null or absent. -/
def maybe (request : Json) (name : String) (read : Json → Option α) : Reading (Option α) :=
  request.want name (nullable? read) none

def needAddress (request : Json) (name : String) : Reading Address := do
  (Address.ofText (← request.need name text?)).mapError .address

end Json

end SavedNetworks
