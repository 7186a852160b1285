import SavedNetworks.Profile.Draft

/-!
The rules that a draft has to keep, in the order in which they are checked.
-/

namespace SavedNetworks

/-- Whether a draft is to become a new profile or to change one. -/
inductive DraftUse where
  | add
  | update
deriving DecidableEq

inductive ValidationError where
  | missingSsid
  | ssidLength (bytes : Nat)
  | missingSecurity
  | missingPreSharedKey
  | invalidPreSharedKey
  | invalidWepKey (index : Nat)
  | invalidWepKeyIndex (index : UInt8)
  | missingEnterprise
  | unexpectedEnterprise
  | missingFixedIp
  | emptyProxyHost
  | zeroProxyPort
  | emptyProxyScript
  | invalidBssid (text : String)
deriving DecidableEq

namespace ValidationError

def message : ValidationError → String
  | missingSsid => "missing SSID"
  | ssidLength bytes => "SSID must be 1 to 32 bytes, got " ++ toString bytes
  | missingSecurity => "missing security type"
  | missingPreSharedKey => "pre-shared key is required for this security type"
  | invalidPreSharedKey => "malformed pre-shared key"
  | invalidWepKey index => "malformed WEP key at index " ++ toString index
  | invalidWepKeyIndex index => "WEP transmit key index " ++ toString index ++ " out of range"
  | missingEnterprise => "enterprise security requires an EAP configuration"
  | unexpectedEnterprise => "EAP configuration supplied for non-enterprise security"
  | missingFixedIp => "static IP assignment requires a static configuration"
  | emptyProxyHost => "invalid proxy settings: empty proxy host"
  | zeroProxyPort => "invalid proxy settings: proxy port must be non-zero"
  | emptyProxyScript => "invalid proxy settings: empty PAC url"
  | invalidBssid text => "malformed BSSID " ++ Text.quoted text

/-- The kind under which an error is reported. -/
def kind : ValidationError → String
  | missingSsid => "MissingSsid"
  | ssidLength _ => "SsidLength"
  | missingSecurity => "MissingSecurity"
  | missingPreSharedKey => "MissingPreSharedKey"
  | invalidPreSharedKey => "InvalidPreSharedKey"
  | invalidWepKey _ => "InvalidWepKey"
  | invalidWepKeyIndex _ => "InvalidWepKeyIndex"
  | missingEnterprise => "MissingEnterpriseConfig"
  | unexpectedEnterprise => "UnexpectedEnterpriseConfig"
  | missingFixedIp => "MissingStaticIpConfig"
  | emptyProxyHost | zeroProxyPort | emptyProxyScript => "InvalidProxy"
  | invalidBssid _ => "InvalidBssid"

end ValidationError

namespace Secret

def isHexText (text : String) : Bool := text.toList.all Text.isHex

/-- 64 hexadecimal digits, or a passphrase of 8 to 63 ASCII characters. -/
def isPreSharedKey (secret : String) : Bool :=
  (secret.utf8ByteSize == 64 && isHexText secret) ||
    (Text.isAscii secret && 8 ≤ secret.utf8ByteSize && secret.utf8ByteSize ≤ 63)

/-- 5, 13 or 16 ASCII characters, or twice as many hexadecimal digits. -/
def isWepKey (secret : String) : Bool :=
  ([5, 13, 16].contains secret.utf8ByteSize && Text.isAscii secret) ||
    ([10, 26, 32].contains secret.utf8ByteSize && isHexText secret)

/-- The mask stands for a stored secret, which only an update can have. -/
def isAcceptable (wellFormed : String → Bool) (use : DraftUse) (secret : String) : Bool :=
  if secret = mask then use = .update else wellFormed secret

end Secret

namespace Draft

open ValidationError

def checkSsid (draft : Draft) (use : DraftUse) : Except ValidationError Unit :=
  match draft.ssid, use with
  | some ssid, _ =>
    if ssid.utf8ByteSize = 0 ∨ 32 < ssid.utf8ByteSize then throw (ssidLength ssid.utf8ByteSize) else pure ()
  | none, .add => throw missingSsid
  | none, .update => pure ()

def checkSecurity (draft : Draft) (use : DraftUse) : Except ValidationError Unit :=
  if use = .add ∧ draft.security = none then throw missingSecurity else pure ()

def checkBssid (draft : Draft) : Except ValidationError Unit :=
  match draft.bssid with
  | some text => if (Address.ofText? text).isSome then pure () else throw (invalidBssid text)
  | none => pure ()

def checkPreSharedKey (draft : Draft) (use : DraftUse) : Except ValidationError Unit :=
  match draft.preSharedKey with
  | some secret =>
    if Secret.isAcceptable Secret.isPreSharedKey use secret then pure () else throw invalidPreSharedKey
  | none =>
    if use = .add ∧ (draft.security = some .psk ∨ draft.security = some .sae) then throw missingPreSharedKey
    else pure ()

def badWepKey? (use : DraftUse) (keys : WepKeys) : Option Nat :=
  keys.toList.findIdx? fun key => key.any fun secret => !Secret.isAcceptable Secret.isWepKey use secret

def checkWepKeys (draft : Draft) (use : DraftUse) : Except ValidationError Unit :=
  match draft.wepKeys with
  | some keys =>
    match badWepKey? use keys with
    | some index => throw (invalidWepKey index)
    | none => if 4 ≤ draft.wepTransmitIndex then throw (invalidWepKeyIndex draft.wepTransmitIndex) else pure ()
  | none => pure ()

def checkEnterprise (draft : Draft) (use : DraftUse) : Except ValidationError Unit :=
  match draft.security, draft.enterprise with
  | some .eap, none => if use = .add then throw missingEnterprise else pure ()
  | some security, some _ => if security = .eap then pure () else throw unexpectedEnterprise
  | _, _ => pure ()

def checkIp (draft : Draft) : Except ValidationError Unit :=
  if draft.ip.assignment = .fixed ∧ draft.ip.fixed = none then throw missingFixedIp else pure ()

def checkProxy (draft : Draft) : Except ValidationError Unit :=
  match draft.ip.proxy with
  | .server host port _ =>
    if Text.isBlankText host then throw emptyProxyHost
    else if port = 0 then throw zeroProxyPort
    else pure ()
  | .script url => if Text.isBlankText url then throw emptyProxyScript else pure ()
  | _ => pure ()

def validate (draft : Draft) (use : DraftUse) : Except ValidationError Unit := do
  draft.checkSsid use
  draft.checkSecurity use
  draft.checkBssid
  draft.checkPreSharedKey use
  draft.checkWepKeys use
  draft.checkEnterprise use
  draft.checkIp
  draft.checkProxy

end Draft

end SavedNetworks
