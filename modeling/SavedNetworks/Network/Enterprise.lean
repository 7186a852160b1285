/-!
Enterprise credentials: an EAP method with the identities and secrets that it uses.
-/

namespace SavedNetworks

inductive EapMethod where
  | peap
  | tls
  | ttls
  | pwd
  | sim
  | aka
  | akaPrime
deriving DecidableEq

namespace EapMethod

def all : List EapMethod := [peap, tls, ttls, pwd, sim, aka, akaPrime]

def name : EapMethod → String
  | peap => "Peap"
  | tls => "Tls"
  | ttls => "Ttls"
  | pwd => "Pwd"
  | sim => "Sim"
  | aka => "Aka"
  | akaPrime => "AkaPrime"

def ofName? (name : String) : Option EapMethod := all.find? fun method => method.name == name

theorem ofName?_name (method : EapMethod) : ofName? method.name = some method := by
  cases method <;> decide

def usesSim : EapMethod → Bool
  | sim | aka | akaPrime => true
  | _ => false

end EapMethod

structure Enterprise where
  method : EapMethod
  identity : String
  anonymousIdentity : String
  password : Option String
  caCertificate : Option String
  clientCertificate : Option String
deriving DecidableEq

namespace Enterprise

def ofMethod (method : EapMethod) : Enterprise := ⟨method, "", "", none, none, none⟩

def usesSim (enterprise : Enterprise) : Bool := enterprise.method.usesSim

end Enterprise

end SavedNetworks
