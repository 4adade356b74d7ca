/-
  TunnelSession.Tunnel.Config

  The parameters that bring one tunnel up, and the check that they do so
  completely: a config that passes names both keys, an endpoint, a device
  address and routes, and no value in it spans two lines.
-/
import TunnelSession.Key.Basic
import TunnelSession.Net.Cidr
import TunnelSession.Text.Quoted

namespace TunnelSession

open Net (Address Cidr CidrError)
open Key (KeyError PublicKey PrivateKey)

/-- The parameters of one tunnel. Addresses are kept as the texts they came as;
    an empty text is an address that is not given. -/
structure TunnelConfig where
  privateKey : String
  deviceV4 : String := ""
  deviceV6 : String := ""
  gatewayV4 : String := ""
  gatewayV6 : String := ""
  serverKey : String
  endpointV4 : String := ""
  endpointV6 : String := ""
  port : UInt16
  ipv6Enabled : Bool := false
  ranges : List Cidr
  dnsServer : Option String := none
  deriving DecidableEq

/-- Why a config cannot be used. -/
inductive ConfigError
  | invalidKey (cause : KeyError)
  | missingField (name : String)
  | invalidAddress (text : String)
  | invalidPrefix (address : Address) (length : Nat)
  | lineBreak (name : String)
  | unreadable
  deriving DecidableEq

def ConfigError.message : ConfigError → String
  | .invalidKey cause => "Invalid key: " ++ cause.message
  | .missingField name => "Missing required field: " ++ name
  | .invalidAddress text => "Invalid address: " ++ text
  | .invalidPrefix address length => s!"Invalid prefix /{length} for {address.text}"
  | .lineBreak name => s!"Field {name} contains a line break"
  | .unreadable => "Parse error"

/-- A range that cannot be read, as a fault of the config that holds it. -/
def ConfigError.ofCidr : CidrError → ConfigError
  | .invalidAddress text => .invalidAddress text
  | .invalidLength address length => .invalidPrefix address length

namespace TunnelConfig

/-! ## Validity -/

/-- Whether a text spans more than one line. -/
def hasLineBreak (s : String) : Bool :=
  s.toList.any (fun c => c == '\n' || c == '\r')

/-- The fields that hold texts, by the names they have on the wire. -/
def textFields (c : TunnelConfig) : List (String × String) := [
  ("privateKey", c.privateKey),
  ("deviceIpv4Address", c.deviceV4),
  ("deviceIpv6Address", c.deviceV6),
  ("serverIpv4Gateway", c.gatewayV4),
  ("serverIpv6Gateway", c.gatewayV6),
  ("serverPublicKey", c.serverKey),
  ("serverIpv4AddrIn", c.endpointV4),
  ("serverIpv6AddrIn", c.endpointV6),
  ("dnsServer", c.dnsServer.getD "")]

/-- Fails with the error if the condition does not hold. -/
def check (ok : Bool) (e : ConfigError) : Except ConfigError Unit :=
  if ok then .ok () else .error e

/-- Checks that no text field spans more than one line. -/
def checkLines (c : TunnelConfig) : Except ConfigError Unit :=
  c.textFields.forM (fun f => check (!hasLineBreak f.2) (.lineBreak f.1))

/-- Checks that a key is given and can be read. -/
def checkKey (name text : String) : Except ConfigError Unit := do
  check (!text.isEmpty) (.missingField name)
  match Key.KeyBytes.read text with
  | .ok _ => .ok ()
  | .error e => .error (.invalidKey e)

/-- Checks that a device address, if given, is an address or a range. -/
def checkDevice (text : String) : Except ConfigError Unit :=
  if text.isEmpty then .ok ()
  else match Cidr.read text with
    | .ok _ => .ok ()
    | .error e => .error (.ofCidr e)

/-- Checks that an address, if given, is one. -/
def checkAddress (text : String) : Except ConfigError Unit :=
  check (text.isEmpty || (Address.read? text).isSome) (.invalidAddress text)

/-- Checks all that must hold before an interface is touched. The first fault is
    reported, in the order of the checks. -/
def validate (c : TunnelConfig) : Except ConfigError Unit := do
  c.checkLines
  checkKey "privateKey" c.privateKey
  checkKey "serverPublicKey" c.serverKey
  check (c.port != 0) (.missingField "serverPort")
  check (!(c.deviceV4.isEmpty && c.deviceV6.isEmpty)) (.missingField "deviceIpv4Address")
  checkDevice c.deviceV4
  checkDevice c.deviceV6
  check (!(c.endpointV4.isEmpty && c.endpointV6.isEmpty)) (.missingField "serverIpv4AddrIn")
  checkAddress c.endpointV4
  checkAddress c.endpointV6
  checkAddress c.gatewayV4
  checkAddress c.gatewayV6
  check (!c.ranges.isEmpty) (.missingField "allowedIPAddressRanges")

/-! ## Views -/

/-- The routed ranges, those of greater length first, and in their given order
    otherwise. -/
def sortedRanges (c : TunnelConfig) : List Cidr :=
  c.ranges.mergeSort (fun a b => b.length ≤ a.length)

/-- The address at which the server is reached, IPv4 preferred. -/
def endpoint (c : TunnelConfig) : Option Address :=
  (Address.read? c.endpointV4).or (Address.read? c.endpointV6)

/-- The name servers inside the tunnel: the one that was set, else the
    gateways. -/
def dnsServers (c : TunnelConfig) : List String :=
  match c.dnsServer with
  | some dns => [dns]
  | none =>
    (if c.gatewayV4.isEmpty then [] else [c.gatewayV4]) ++
      (if c.ipv6Enabled && !c.gatewayV6.isEmpty then [c.gatewayV6] else [])

/-- A config as a message shows it, without its secrets. -/
def shown (c : TunnelConfig) : String :=
  let fields := [
    ("private_key", Text.quoted "[redacted]"),
    ("device_ipv4_address", Text.quoted c.deviceV4),
    ("device_ipv6_address", Text.quoted c.deviceV6),
    ("server_ipv4_gateway", Text.quoted c.gatewayV4),
    ("server_public_key", Text.quoted (Key.short c.serverKey)),
    ("server_ipv4_addr_in", Text.quoted c.endpointV4),
    ("server_port", Text.decimal c.port.toNat),
    ("ipv6_enabled", if c.ipv6Enabled then "true" else "false"),
    ("allowed_ranges", Text.decimal c.ranges.length)]
  "TunnelConfig \x7b " ++ ", ".intercalate (fields.map (fun f => f.1 ++ ": " ++ f.2)) ++ " \x7d"

end TunnelConfig

end TunnelSession
