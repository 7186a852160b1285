import SavedNetworks.Json.Fields
import SavedNetworks.Network.Enterprise
import SavedNetworks.Network.Ip
import SavedNetworks.Network.Privacy
import SavedNetworks.Network.Security

/-!
The written form of network settings in records and settings documents.
-/

namespace SavedNetworks

namespace Security

def toJson (security : Security) : Json := .text security.name

def ofJson? : Json → Option Security := Json.variant? ofName?

end Security

namespace MeteredOverride

def toJson (choice : MeteredOverride) : Json := .text choice.name

def ofJson? : Json → Option MeteredOverride := Json.variant? ofName?

end MeteredOverride

namespace AddressChoice

def toJson (choice : AddressChoice) : Json := .text choice.name

def ofJson? : Json → Option AddressChoice := Json.variant? ofName?

end AddressChoice

namespace IpAssignment

def toJson (assignment : IpAssignment) : Json := .text assignment.name

def ofJson? : Json → Option IpAssignment := Json.variant? ofName?

end IpAssignment

namespace FixedIp

def toJson (fixed : FixedIp) : Json :=
  .object
    [("address", .text fixed.address),
      ("prefix_length", .ofUInt8 fixed.networkBits),
      ("gateway", .ofOption .text fixed.gateway),
      ("dns_servers", .ofTexts fixed.nameServers)]

def ofJson? (document : Json) : Option FixedIp := do
  let fields ← document.fields? ["address", "prefix_length", "gateway", "dns_servers"]
  some
    { address := ← fields.required "address" Json.text?
      networkBits := ← fields.required "prefix_length" Json.uint8?
      gateway := ← fields.optional "gateway" Json.text?
      nameServers := ← fields.required "dns_servers" (Json.listOf? Json.text?) }

end FixedIp

namespace Proxy

def toJson : Proxy → Json
  | unassigned => .text "Unassigned"
  | direct => .text "None"
  | server host port exclusions =>
    .object [("Static",
      .object [("host", .text host), ("port", .ofUInt16 port), ("exclusions", .ofTexts exclusions)])]
  | script url => .object [("Pac", .object [("url", .text url)])]

def simple? : String → Option Proxy
  | "Unassigned" => some unassigned
  | "None" => some direct
  | _ => none

def server? (origin : Json.Origin) (document : Json) : Option Proxy := do
  let fields ← document.contentFields? origin ["host", "port", "exclusions"]
  some (server (← fields.required "host" Json.text?) (← fields.required "port" Json.uint16?)
    (← fields.required "exclusions" (Json.listOf? Json.text?)))

def script? (origin : Json.Origin) (document : Json) : Option Proxy := do
  let fields ← document.contentFields? origin ["url"]
  some (script (← fields.required "url" Json.text?))

def ofJson? (origin : Json.Origin) : Json → Option Proxy
  | .record [(some "Static", content)] => server? origin content
  | .record [(some "Pac", content)] => script? origin content
  | document => Json.variant? simple? document

end Proxy

namespace IpSettings

def toJson (ip : IpSettings) : Json :=
  .object
    [("assignment", ip.assignment.toJson),
      ("static_config", .ofOption FixedIp.toJson ip.fixed),
      ("proxy", ip.proxy.toJson)]

def ofJson? (origin : Json.Origin) (document : Json) : Option IpSettings := do
  let fields ← document.fields? ["assignment", "static_config", "proxy"]
  some
    { assignment := ← fields.required "assignment" IpAssignment.ofJson?
      fixed := ← fields.optional "static_config" FixedIp.ofJson?
      proxy := ← fields.required "proxy" (Proxy.ofJson? origin) }

end IpSettings

namespace EapMethod

def toJson (method : EapMethod) : Json := .text method.name

def ofJson? : Json → Option EapMethod := Json.variant? ofName?

end EapMethod

namespace Enterprise

def toJson (enterprise : Enterprise) : Json :=
  .object
    [("method", enterprise.method.toJson),
      ("identity", .text enterprise.identity),
      ("anonymous_identity", .text enterprise.anonymousIdentity),
      ("password", .ofOption .text enterprise.password),
      ("ca_certificate_alias", .ofOption .text enterprise.caCertificate),
      ("client_certificate_alias", .ofOption .text enterprise.clientCertificate)]

def ofJson? (document : Json) : Option Enterprise := do
  let fields ← document.fields?
    ["method", "identity", "anonymous_identity", "password", "ca_certificate_alias", "client_certificate_alias"]
  some
    { method := ← fields.required "method" EapMethod.ofJson?
      identity := ← fields.required "identity" Json.text?
      anonymousIdentity := ← fields.required "anonymous_identity" Json.text?
      password := ← fields.optional "password" Json.text?
      caCertificate := ← fields.optional "ca_certificate_alias" Json.text?
      clientCertificate := ← fields.optional "client_certificate_alias" Json.text? }

end Enterprise

namespace Address

def toJson (address : Address) : Json := .text address.text

def ofJson? (document : Json) : Option Address := document.text?.bind ofText?

end Address

namespace StationAddress

def toJson (station : StationAddress) : Json :=
  .object [("address", station.address.toJson), ("expiration_ms", .ofInt64 station.expiresAt)]

def ofJson? (document : Json) : Option StationAddress := do
  let fields ← document.fields? ["address", "expiration_ms"]
  some
    { address := ← fields.required "address" Address.ofJson?
      expiresAt := ← fields.required "expiration_ms" Json.int64? }

end StationAddress

end SavedNetworks
