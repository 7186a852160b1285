/-!
How a network is given its IP address and whether its traffic goes through a proxy.
-/

namespace SavedNetworks

inductive IpAssignment where
  | unassigned
  | dhcp
  | fixed
deriving DecidableEq

namespace IpAssignment

def all : List IpAssignment := [unassigned, dhcp, fixed]

def name : IpAssignment → String
  | unassigned => "Unassigned"
  | dhcp => "Dhcp"
  | fixed => "Static"

def ofName? (name : String) : Option IpAssignment := all.find? fun assignment => assignment.name == name

theorem ofName?_name (assignment : IpAssignment) : ofName? assignment.name = some assignment := by
  cases assignment <;> decide

end IpAssignment

/-- The address settings that a fixed assignment needs. -/
structure FixedIp where
  address : String
  networkBits : UInt8
  gateway : Option String
  nameServers : List String
deriving DecidableEq

inductive Proxy where
  | unassigned
  | direct
  | server (host : String) (port : UInt16) (exclusions : List String)
  | script (url : String)
deriving DecidableEq

structure IpSettings where
  assignment : IpAssignment
  fixed : Option FixedIp
  proxy : Proxy
deriving DecidableEq

namespace IpSettings

def unassigned : IpSettings := ⟨.unassigned, none, .unassigned⟩

def automatic : IpSettings := ⟨.dhcp, none, .direct⟩

end IpSettings

end SavedNetworks
