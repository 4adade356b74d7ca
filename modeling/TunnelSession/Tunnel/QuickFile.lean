/-
  TunnelSession.Tunnel.QuickFile

  The interface file that brings a tunnel up: one section for the device and
  one for its peer, a key and a value to the line.
-/
import TunnelSession.Tunnel.Config

namespace TunnelSession.TunnelConfig

/-- The device addresses of the interface. That of IPv6 counts only if IPv6 is
    enabled. -/
def interfaceAddresses (c : TunnelConfig) : List String :=
  (c.deviceV4 :: (if c.ipv6Enabled then [c.deviceV6] else [])).filter (fun a => !a.isEmpty)

/-- One line of the file. -/
def setting (key : String) (values : List String) : String :=
  key ++ " = " ++ ", ".intercalate values

/-- The lines of the file, given the address of the server. -/
def quickLines (c : TunnelConfig) (endpoint : Net.Address) : List String :=
  ["[Interface]",
    setting "PrivateKey" [c.privateKey],
    setting "Address" c.interfaceAddresses] ++
  (if c.dnsServers.isEmpty then [] else [setting "DNS" c.dnsServers]) ++
  ["",
    "[Peer]",
    setting "PublicKey" [c.serverKey],
    setting "Endpoint" [endpoint.withPort c.port.toNat],
    setting "AllowedIPs" (c.sortedRanges.map Net.Cidr.text)]

/-- The interface file. A config that names no server address has none. -/
def quickFile? (c : TunnelConfig) : Option String :=
  c.endpoint.map (fun e => String.join ((c.quickLines e).map (· ++ "\n")))

end TunnelSession.TunnelConfig
