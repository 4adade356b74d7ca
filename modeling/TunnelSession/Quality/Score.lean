/-
  TunnelSession.Quality.Score

  How good a city is to connect to. The number of usable servers sets a base,
  the user's own country and measured latency can lift it.
-/
import TunnelSession.Quality.Registry

namespace TunnelSession

/-- The quality of a city, in five tiers. -/
inductive Score
  | unavailable
  | poor
  | moderate
  | good
  | excellent
  deriving DecidableEq, Repr

namespace Score

/-- The place of a tier, the worst first. -/
def rank : Score → Nat
  | unavailable => 0
  | poor => 1
  | moderate => 2
  | good => 3
  | excellent => 4

/-- The next better tier; there is none above the best. -/
def upgrade : Score → Score
  | unavailable => poor
  | poor => moderate
  | moderate => good
  | good => excellent
  | excellent => excellent

/-- The better of two tiers. -/
def best (a b : Score) : Score :=
  if a.rank ≤ b.rank then b else a

/-- Whether a connection can be tried at all. -/
def isAvailable (s : Score) : Bool :=
  s != unavailable

/-- The name of a tier. -/
def name : Score → String
  | unavailable => "unavailable"
  | poor => "poor"
  | moderate => "moderate"
  | good => "good"
  | excellent => "excellent"

def all : List Score :=
  [unavailable, poor, moderate, good, excellent]

/-- The tier with a name. -/
def ofName? (s : String) : Option Score :=
  all.find? (·.name == s)

/-- The tier that a number of usable servers earns. -/
def ofServers : Nat → Score
  | 0 => unavailable
  | 1 => poor
  | 2 => moderate
  | _ => good

end Score

namespace Registry

/-- The tier that a city earns by its usable servers. A city of the user's own
    country is at least good while one server is usable. -/
def baseScore (r : Registry) (now : Nat) (city : City) (userCountry : Option String) : Score :=
  let score := Score.ofServers (r.activeServers now city)
  if score = .unavailable then score
  else if userCountry.any (Text.equalFold · city.countryCode) then score.best .good
  else score

/-- Below this latency a city that is faster than the average gains a second
    tier. -/
def lowLatency : Nat := 30

/-- The tier of a city: its base, lifted by one if the city is faster than the
    average, and by another if it is also fast in itself. -/
def score (r : Registry) (now : Nat) (city : City) (userCountry : Option String) : Score :=
  let base := r.baseScore now city userCountry
  let latency := r.cityLatency city
  if !base.isAvailable || latency = 0 || r.averageLatency ≤ latency then base
  else if latency < lowLatency then base.upgrade.upgrade
  else base.upgrade

end Registry

/-! ## Reports -/

/-- The measured quality of a city. -/
structure CityReport where
  countryCode : String
  cityName : String
  latency : Nat
  score : Score
  deriving DecidableEq, Repr

namespace CityReport

/-- Whether a report may stand before another: better tiers first, and within
    a tier the measured cities first, the fastest of them at the head. -/
def before (a b : CityReport) : Bool :=
  if a.score ≠ b.score then b.score.rank < a.score.rank
  else if b.latency = 0 then true
  else a.latency ≠ 0 && a.latency ≤ b.latency

end CityReport

/-- The report on a city. -/
def Registry.report (r : Registry) (now : Nat) (userCountry : Option String) (city : City) :
    CityReport :=
  ⟨city.countryCode, city.name, r.cityLatency city, r.score now city userCountry⟩

/-- The reports on all cities of a catalog, the best first; cities of equal
    quality stay in the order of the catalog. -/
def Registry.reports (r : Registry) (now : Nat) (userCountry : Option String) (c : Catalog) :
    List CityReport :=
  (c.cities.map (r.report now userCountry)).mergeSort CityReport.before

/-- The last of the cities with the best tier. -/
def Registry.bestCity? (r : Registry) (now : Nat) (userCountry : Option String) (c : Catalog) :
    Option City :=
  c.cities.foldl (fun best city =>
    match best with
    | none => some city
    | some b =>
      if (r.score now b userCountry).rank ≤ (r.score now city userCountry).rank then some city
      else some b) none

end TunnelSession
