/-!
Documents of the record and settings format, as trees. A tree keeps what the reader of a field has to
know and forgets the rest: members stay in order and may repeat, a number that is not written as a whole
number is only known to be one, and so is a string whose surrogates are not paired.
-/

namespace SavedNetworks

inductive Json where
  | null
  | bool (value : Bool)
  | int (value : Int)
  /-- A number with a fraction or an exponent, or a negative zero. -/
  | inexact
  /-- A string; none if a surrogate in it has no partner. -/
  | string (value : Option String)
  | list (items : List Json)
  | record (members : List (Option String × Json))

namespace Json

instance : Inhabited Json := ⟨null⟩

def text (value : String) : Json := string (some value)

/-- A record whose member names are all proper texts. -/
def object (members : List (String × Json)) : Json :=
  record (members.map fun (name, value) => (some name, value))

def ofOption {α : Type} (write : α → Json) : Option α → Json
  | none => null
  | some value => write value

def nat (value : Nat) : Json := int value

/-- The last member of the given name. -/
def member? (name : String) : Json → Option Json
  | record members => (members.reverse.find? fun entry => entry.1 == some name).map Prod.snd
  | _ => none

/-- Puts a member in place of the first of its name, or at the end. -/
def setMember (name : Option String) (value : Json) :
    List (Option String × Json) → List (Option String × Json)
  | [] => [(name, value)]
  | (other, old) :: rest =>
    if other = name then (name, value) :: rest else (other, old) :: setMember name value rest

mutual

/-- Lays `top` over `base`: records are merged member by member, anything else is replaced. -/
def overlay (base : Json) : Json → Json
  | record members =>
    match base with
    | record below => record (overlayMembers below members)
    | _ => record (overlayMembers [] members)
  | other => other

def overlayMembers (below : List (Option String × Json)) :
    List (Option String × Json) → List (Option String × Json)
  | [] => below
  | (name, value) :: rest =>
    let merged := match (below.find? fun entry => entry.1 == name).map Prod.snd with
      | some (record inner) => overlay (record inner) value
      | _ => value
    overlayMembers (setMember name merged below) rest

end

mutual

/-- Keeps, of members with one name, the value of the last. -/
def settle : Json → Json
  | list items => list (settleItems items)
  | record members => record (settleMembers [] members)
  | other => other

def settleItems : List Json → List Json
  | [] => []
  | item :: rest => settle item :: settleItems rest

def settleMembers (done : List (Option String × Json)) :
    List (Option String × Json) → List (Option String × Json)
  | [] => done
  | (name, value) :: rest => settleMembers (setMember name (settle value) done) rest

end

end Json

end SavedNetworks
