/-
  TunnelSession.Session.Basic

  A session is the connection together with the catalog it chooses from: it knows
  the city that was used last, and measures the servers while no tunnel is up.
-/
import TunnelSession.Control.Inputs
import TunnelSession.Quality.Score
import TunnelSession.Sweep.Basic

namespace TunnelSession

/-- What a user can ask of a session. -/
inductive Command
  /-- Connects to a city, or to the one that was used last. -/
  | activate (selection : Option Selection)
  | deactivate
  | changeServer (selection : Selection) (silent : Bool)
  | silentSwitch
  | quit
  | portal (present : Bool)
  | requestStatus
  | fetchLogs (ticket : Nat)
  | cleanLogs
  deriving DecidableEq

/-- What comes to a session, in the order of its arrival. -/
inductive SessionInput
  | command (c : Command)
  | link (event : LinkEvent)
  | timer (token : TimerToken)
  | probe (reply : ProbeReply)
  deriving DecidableEq

/-- The state of a session. -/
structure Session where
  controller : Controller
  catalog : Catalog := {}
  sweep : Sweep := {}
  sweepEnabled : Bool := true
  /-- The city that was used last. -/
  lastSelection : Option Selection := none
  userCountry : Option String := none

/-- A view of a session at one time. -/
structure SessionStatus where
  phase : Phase
  city : Option String
  server : Option String
  stability : Stability
  /-- The smoothed latency in milliseconds. -/
  latency : Option Float
  connectedSince : Option Nat
  txBytes : UInt64
  rxBytes : UInt64

namespace Session

/-! ## Views -/

/-- What the user sees of a session. -/
def snapshot (s : Session) : SessionStatus where
  phase := s.controller.phase
  city := s.controller.destination.map (·.cityName)
  server := s.controller.server.map (·.hostname)
  stability := s.controller.health.stability
  latency := s.controller.health.smoothed
  connectedSince := s.controller.connectedSince
  txBytes := (s.controller.lastStatus.map (·.txBytes)).getD 0
  rxBytes := (s.controller.lastStatus.map (·.rxBytes)).getD 0

/-- The measured quality of all cities, the best first. -/
def scores (s : Session) (around : Surroundings) : List CityReport :=
  s.controller.registry.reports around.clock s.userCountry s.catalog

/-! ## Commands -/

/-- The city to connect to: the one that is asked for, else the one used last,
    else the one of the last tunnel, else the best one. -/
def wanted? (s : Session) (around : Surroundings) (selection : Option Selection) :
    Option Selection :=
  selection.or <| s.lastSelection.or <| (s.controller.destination.map (·.selection)).or <|
    (s.controller.registry.bestCity? around.clock s.userCountry s.catalog).map
      (fun city => .make city.countryCode city.name)

/-- Finds the servers of the wanted city, and remembers the city. -/
def resolve? (s : Session) (around : Surroundings) (selection : Option Selection) :
    Option (Destination × Session) := do
  let wanted ← s.wanted? around selection
  let d ← s.catalog.destination? wanted
  some (d, { s with lastSelection := some wanted })

/-- Does what the user asks for. A city that the catalog does not have is
    ignored. Probes would get in the way of a handshake, so measuring stops for
    one. -/
def command (s : Session) (around : Surroundings) : Command → Session
  | .activate selection =>
    match s.resolve? around selection with
    | some (d, s) =>
      { s with sweep := s.sweep.cancel, controller := (s.controller.activate around d).2 }
    | none => s
  | .changeServer selection silent =>
    match s.resolve? around (some selection) with
    | some (d, s) => { s with controller := (s.controller.changeServer around d silent).2 }
    | none => s
  | .quit => { s with sweep := s.sweep.cancel, controller := s.controller.quit around }
  | .deactivate => { s with controller := (s.controller.deactivate around).2 }
  | .silentSwitch => { s with controller := (s.controller.silentSwitch around).2 }
  | .portal true => { s with controller := s.controller.portalDetected around }
  | .portal false => { s with controller := s.controller.portalGone around }
  | .requestStatus => { s with controller := s.controller.requestStatus around }
  | .fetchLogs ticket => { s with controller := s.controller.fetchLogs around ticket }
  | .cleanLogs => { s with controller := s.controller.cleanLogs around }

/-! ## Events and ticks -/

/-- Takes the answer to a probe of the sweep. -/
def sweepReply (s : Session) (r : ProbeReply) : Session :=
  match s.sweep.reply? s.controller.registry r with
  | some (sweep, registry) =>
    { s with sweep := sweep, controller := { s.controller with registry := registry } }
  | none => s

/-- Handles what comes to the session. -/
def handle (s : Session) (around : Surroundings) : SessionInput → Session
  | .command c => s.command around c
  | .link event => { s with controller := s.controller.onLink around event }
  | .timer token => { s with controller := s.controller.onTimer around token }
  | .probe r =>
    match r.purpose with
    | .health => { s with controller := s.controller.onProbeReply r }
    | .sweep => s.sweepReply r

/-- It is time for a probe of the tunnel. -/
def probeTick (s : Session) (around : Surroundings) : Session :=
  { s with controller := s.controller.probeTick around }

/-- It is time to look at the health of the tunnel. -/
def checkupTick (s : Session) (around : Surroundings) : Session :=
  { s with controller := s.controller.checkup around }

/-- It is time to ask the daemon for its counters. -/
def statusTick (s : Session) (around : Surroundings) : Session :=
  { s with controller := s.controller.requestStatus around }

/-- It is time to go on with the sweep, which runs only while the connection is
    off. `reaches` tells whether the probe with a number can be sent. -/
def sweepTick (s : Session) (around : Surroundings) (reaches : Nat → Net.Address → Bool) :
    List Sweep.SweepProbe × Session :=
  if s.controller.phase ≠ .off then
    ([], if s.sweep.running then { s with sweep := s.sweep.cancel } else s)
  else if !s.sweepEnabled then ([], s)
  else
    let sweep :=
      if s.sweep.isDue around.now then s.sweep.start s.catalog.sweepTargets else s.sweep
    let pumped := sweep.pump reaches around.now
    (pumped.1, { s with sweep := pumped.2 })

end Session

end TunnelSession
