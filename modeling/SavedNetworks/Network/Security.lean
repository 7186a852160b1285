/-!
The security type of a network.
-/

namespace SavedNetworks

inductive Security where
  | unsecured
  | wep
  | psk
  | sae
  | owe
  | eap
deriving DecidableEq

namespace Security

def all : List Security := [unsecured, wep, psk, sae, owe, eap]

def name : Security → String
  | unsecured => "Open"
  | wep => "Wep"
  | psk => "Psk"
  | sae => "Sae"
  | owe => "Owe"
  | eap => "Eap"

def ofName? (name : String) : Option Security := all.find? fun security => security.name == name

def keySuffix : Security → String
  | unsecured => "NONE"
  | wep => "WEP"
  | psk => "WPA_PSK"
  | sae => "SAE"
  | owe => "OWE"
  | eap => "WPA_EAP"

def isPreSharedKey (security : Security) : Bool := security == psk

theorem ofName?_name (security : Security) : ofName? security.name = some security := by
  cases security <;> decide

end Security

end SavedNetworks
