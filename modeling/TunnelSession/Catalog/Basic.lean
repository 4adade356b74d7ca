/-
  TunnelSession.Catalog.Basic

  The servers that a session can use, by country and city, and how a user
  names a city among them.
-/
import TunnelSession.Net.Address
import TunnelSession.Text.Blank
import TunnelSession.Text.Lower

namespace TunnelSession

/-- One server. The addresses and the key are texts, as the catalog gives
    them. -/
structure Server where
  hostname : String
  publicKey : String
  endpointV4 : String
  endpointV6 : String := ""
  gatewayV4 : String
  gatewayV6 : String := ""
  port : UInt16 := 51820
  /-- How often the server is chosen, relative to its neighbours. -/
  weight : Nat := 1
  deriving DecidableEq

/-- A city with its servers. -/
structure City where
  name : String
  code : String := ""
  countryCode : String := ""
  servers : List Server
  deriving DecidableEq

/-- A country with its cities. -/
structure Country where
  name : String
  code : String
  cities : List City
  deriving DecidableEq

/-- All countries. -/
structure Catalog where
  countries : List Country := []
  deriving DecidableEq

/-! ## Naming a city -/

/-- A city as the user names it and the settings remember it. -/
structure Selection where
  countryCode : String
  cityName : String
  deriving DecidableEq

/-- The selection of a country code, which is lowered, and a city name. -/
def Selection.make (countryCode cityName : String) : Selection :=
  ⟨Text.lower countryCode, cityName⟩

namespace Catalog

/-- All cities, country by country. -/
def cities (c : Catalog) : List City :=
  c.countries.flatMap (·.cities)

/-- All servers, city by city. -/
def servers (c : Catalog) : List Server :=
  c.cities.flatMap (·.servers)

/-- The first city with a name in the countries with a code, both up to ASCII
    case. -/
def findCity? (c : Catalog) (countryCode cityName : String) : Option City :=
  ((c.countries.filter (fun k => Text.equalFold k.code countryCode)).flatMap (·.cities)).find?
    (fun city => Text.equalFold city.name cityName)

end Catalog

/-! ## Where to connect to -/

/-- The servers that a tunnel may be brought up to: those of one city, and the
    key of the one that is preferred. -/
structure Destination where
  countryCode : String
  cityName : String
  servers : List Server
  exit : Option String := none
  deriving DecidableEq

namespace Destination

/-- All servers of a city. -/
def ofCity (city : City) : Destination :=
  ⟨city.countryCode, city.name, city.servers, none⟩

/-- Prefers the server with the given key. -/
def withExit (d : Destination) (publicKey : String) : Destination :=
  { d with exit := some publicKey }

/-- The first server with a key. -/
def server? (d : Destination) (publicKey : String) : Option Server :=
  d.servers.find? (·.publicKey == publicKey)

/-- The preferred server. -/
def exitServer? (d : Destination) : Option Server :=
  d.exit.bind d.server?

/-- The selection that names the city. -/
def selection (d : Destination) : Selection :=
  .make d.countryCode d.cityName

end Destination

/-- The servers of a selected city. -/
def Catalog.destination? (c : Catalog) (s : Selection) : Option Destination :=
  (c.findCity? s.countryCode s.cityName).map .ofCity

end TunnelSession
