import SavedNetworks.Address

/-!
Cost and privacy choices of a network: whether its traffic is metered, and which address the station
shows to it.
-/

namespace SavedNetworks

inductive MeteredOverride where
  | automatic
  | metered
  | notMetered
deriving DecidableEq

namespace MeteredOverride

def all : List MeteredOverride := [automatic, metered, notMetered]

def name : MeteredOverride → String
  | automatic => "None"
  | metered => "Metered"
  | notMetered => "NotMetered"

def ofName? (name : String) : Option MeteredOverride := all.find? fun choice => choice.name == name

theorem ofName?_name (choice : MeteredOverride) : ofName? choice.name = some choice := by
  cases choice <;> decide

end MeteredOverride

inductive AddressChoice where
  /-- The station's own address. -/
  | own
  /-- A randomized address that stays the same for the profile. -/
  | persistent
deriving DecidableEq

namespace AddressChoice

def all : List AddressChoice := [own, persistent]

def name : AddressChoice → String
  | own => "None"
  | persistent => "Persistent"

def ofName? (name : String) : Option AddressChoice := all.find? fun choice => choice.name == name

theorem ofName?_name (choice : AddressChoice) : ofName? choice.name = some choice := by
  cases choice <;> decide

end AddressChoice

/-- The randomized address of a profile and the wall-clock time until which it is kept. -/
structure StationAddress where
  address : Address
  expiresAt : Int64
deriving DecidableEq

namespace StationAddress

def unset : StationAddress := ⟨.sentinel, 0⟩

end StationAddress

end SavedNetworks
