/-
  TunnelSession.Catalog.Reader

  Reads a catalog from its JSON text. Every server must have a key and an IPv4
  gateway that can be used; cities take the code of their country.
-/
import TunnelSession.Catalog.Basic
import TunnelSession.Json.Reader
import TunnelSession.Key.Basic

namespace TunnelSession

/-- Why a text is no catalog. -/
inductive CatalogError
  | unreadable
  | invalidServer (hostname : String)
  deriving DecidableEq

def CatalogError.message : CatalogError → String
  | .unreadable => "Parse error"
  | .invalidServer hostname => "Invalid server entry: " ++ hostname

/-! ## The JSON form -/

def Server.ofJson? (j : Json) : Option Server := do
  let [hostname, publicKey, endpointV4, endpointV6, gatewayV4, gatewayV6, port, weight] ←
    j.fields? ["hostname", "public_key", "ipv4_addr_in", "ipv6_addr_in", "ipv4_gateway",
      "ipv6_gateway", "port", "weight"] | none
  some {
    hostname := ← hostname.bind Json.text?
    publicKey := ← publicKey.bind Json.text?
    endpointV4 := ← endpointV4.bind Json.text?
    endpointV6 := ← Json.orDefault "" Json.text? endpointV6
    gatewayV4 := ← gatewayV4.bind Json.text?
    gatewayV6 := ← Json.orDefault "" Json.text? gatewayV6
    port := UInt16.ofNat (← Json.orDefault 51820 (Json.nat? 65535) port)
    weight := ← Json.orDefault 1 (Json.nat? 0xFFFFFFFF) weight }

/-- A city's coordinates are checked to be numbers and not kept. -/
def City.ofJson? (j : Json) : Option City := do
  let [name, code, countryCode, latitude, longitude, servers] ←
    j.fields? ["name", "code", "country_code", "latitude", "longitude", "servers"] | none
  let _ ← Json.orDefault () Json.real? latitude
  let _ ← Json.orDefault () Json.real? longitude
  some {
    name := ← name.bind Json.text?
    code := ← Json.orDefault "" Json.text? code
    countryCode := ← Json.orDefault "" Json.text? countryCode
    servers := ← (← servers.bind Json.list?).mapM Server.ofJson? }

def Country.ofJson? (j : Json) : Option Country := do
  let [name, code, cities] ← j.fields? ["name", "code", "cities"] | none
  some {
    name := ← name.bind Json.text?
    code := ← code.bind Json.text?
    cities := ← (← cities.bind Json.list?).mapM City.ofJson? }

def Catalog.ofJson? (j : Json) : Option Catalog := do
  let [countries] ← j.fields? ["countries"] | none
  some { countries := ← (← countries.bind Json.list?).mapM Country.ofJson? }

/-! ## Checks -/

/-- Whether a tunnel can be configured to the server. -/
def Server.isUsable (s : Server) : Bool :=
  (Key.PublicKey.read s.publicKey).toBool && (Net.Address.readV4? s.gatewayV4).isSome

/-- Gives the cities of a country its code, lowered. -/
def Country.mark (k : Country) : Country :=
  { k with cities := k.cities.map ({ · with countryCode := Text.lower k.code }) }

/-- Reads and checks a catalog. -/
def Catalog.read (text : String) : Except CatalogError Catalog :=
  match (Json.read? text).bind Catalog.ofJson? with
  | none => .error .unreadable
  | some c =>
    match c.servers.find? (fun s => !s.isUsable) with
    | some s => .error (.invalidServer s.hostname)
    | none => .ok ⟨c.countries.map Country.mark⟩

end TunnelSession
