/-
  TunnelSession.Wire.Records

  The JSON forms of ranges and tunnel configs, as objects or as lists of their
  fields in order.
-/
import TunnelSession.Json.Reader
import TunnelSession.Json.Writer
import TunnelSession.Tunnel.Config

namespace TunnelSession

open Net (Address Cidr)

/-! ## Ranges -/

/-- The JSON form of a range. -/
def Net.Cidr.toJson (r : Cidr) : Json :=
  .object [
    ("address", .text r.address.text),
    ("range", .ofNat r.length),
    ("isIpv6", .bool r.isV6)]

/-- Reads the JSON form of a range. The family it states must be that of its
    address, and IPv4 is meant where it states none. -/
def Net.Cidr.ofJson? (j : Json) : Option Cidr := do
  let [address, length, isV6] ← j.fields? ["address", "range", "isIpv6"] | none
  let text ← address.bind Json.text?
  let length ← length.bind (Json.nat? 255)
  let isV6 ← Json.orDefault false Json.bool? isV6
  let address ← Address.read? text
  if address.isV6 = isV6 then (Cidr.make address length).toOption else none

/-! ## Tunnel configs -/

/-- The fields of a tunnel config in the order of the wire. -/
def TunnelConfig.members (c : TunnelConfig) : List (String × Json) := [
    ("privateKey", .text c.privateKey),
    ("deviceIpv4Address", .text c.deviceV4),
    ("deviceIpv6Address", .text c.deviceV6),
    ("serverIpv4Gateway", .text c.gatewayV4),
    ("serverIpv6Gateway", .text c.gatewayV6),
    ("serverPublicKey", .text c.serverKey),
    ("serverIpv4AddrIn", .text c.endpointV4),
    ("serverIpv6AddrIn", .text c.endpointV6),
    ("serverPort", .ofNat c.port.toNat),
    ("ipv6Enabled", .bool c.ipv6Enabled),
    ("allowedIPAddressRanges", .list (c.ranges.map Cidr.toJson))] ++
  (c.dnsServer.toList.map (fun dns => ("dnsServer", .text dns)))

def TunnelConfig.toJson (c : TunnelConfig) : Json :=
  .object c.members

/-- Reads the JSON form of a tunnel config, valid or not. -/
def TunnelConfig.ofJson? (j : Json) : Option TunnelConfig := do
  let [privateKey, deviceV4, deviceV6, gatewayV4, gatewayV6, serverKey, endpointV4, endpointV6,
      port, ipv6Enabled, ranges, dnsServer] ← j.fields? [
    "privateKey", "deviceIpv4Address", "deviceIpv6Address", "serverIpv4Gateway",
    "serverIpv6Gateway", "serverPublicKey", "serverIpv4AddrIn", "serverIpv6AddrIn", "serverPort",
    "ipv6Enabled", "allowedIPAddressRanges", "dnsServer"] | none
  let optional := Json.orDefault "" Json.text?
  some {
    privateKey := ← privateKey.bind Json.text?
    deviceV4 := ← optional deviceV4
    deviceV6 := ← optional deviceV6
    gatewayV4 := ← optional gatewayV4
    gatewayV6 := ← optional gatewayV6
    serverKey := ← serverKey.bind Json.text?
    endpointV4 := ← optional endpointV4
    endpointV6 := ← optional endpointV6
    port := UInt16.ofNat (← port.bind (Json.nat? 65535))
    ipv6Enabled := ← Json.orDefault false Json.bool? ipv6Enabled
    ranges := ← (← ranges.bind Json.list?).mapM Cidr.ofJson?
    dnsServer := ← Json.orNone Json.text? dnsServer }

/-- Reads and checks a tunnel config. -/
def TunnelConfig.read (text : String) : Except ConfigError TunnelConfig :=
  match (Json.read? text).bind TunnelConfig.ofJson? with
  | none => .error .unreadable
  | some c => c.validate.map (fun _ => c)

end TunnelSession
