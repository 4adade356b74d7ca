/-
  TunnelSession.Console.Report

  What the console prints about a session: its events, its state, and the quality
  of the cities.
-/
import TunnelSession.Console.Command
import TunnelSession.Session.Loop

namespace TunnelSession.Console

/-- A text filled up with blanks to a width. A longer text stays as it is. -/
def column (width : Nat) (s : String) : String :=
  s ++ String.ofList (List.replicate (width - s.length) ' ')

/-- The title of a tier. -/
def scoreTitle : Score → String
  | .unavailable => "Unavailable"
  | .poor => "Poor"
  | .moderate => "Moderate"
  | .good => "Good"
  | .excellent => "Excellent"

/-- The line on a city. -/
def scoreLine (r : CityReport) : String :=
  column 4 r.countryCode ++ column 24 r.cityName
    ++ column 12 (if r.latency = 0 then "-" else Text.decimal r.latency ++ " ms")
    ++ scoreTitle r.score

/-- The lines on the state of a session. -/
def statusLines (s : SessionStatus) : List String :=
  ["state:     " ++ s.phase.name]
    ++ s.city.toList.map ("city:      " ++ ·)
    ++ (if s.phase.isActive then s.server.toList.map ("server:    " ++ ·) else [])
    ++ (if s.phase.isOn then
        ("stability: " ++ s.stability.name)
          :: s.latency.toList.map (fun ms => "latency:   " ++ Text.fixedPlaces 1 ms ++ " ms")
      else [])
    ++ s.connectedSince.toList.map (fun t => "since:     " ++ Text.decimal t ++ " (unix time)")
    ++ [s!"traffic:   {s.txBytes.toNat} B up, {s.rxBytes.toNat} B down"]

/-- The line on an event. Two of them are not for the user. -/
def eventLine? : SessionEvent → Option String
  | .phaseChanged phase => some ("* " ++ phase.name)
  | .handshakeFailed publicKey => some s!"* handshake with {publicKey} failed"
  | .serverUnavailable answered => some s!"* server unavailable (answered pings: {answered})"
  | .backendFailure => some "* the daemon reported a backend failure"
  | .blockedByPortal => some "* captive portal detected, log in first"
  | .stabilityChanged stability => some ("* " ++ stability.name)
  | .readyToQuit | .statusUpdated _ _ => none

/-- Lines as one text. -/
def textOf (lines : List String) : String :=
  String.join (lines.map (· ++ "\n"))

/-- The text of an answer. The daemon's log is printed as it is. -/
def answerText : Answer → String
  | .status s => textOf (statusLines s)
  | .logs text => text
  | .scores reports => textOf (reports.map scoreLine)
  | .closed => textOf ["Session stopped"]

/-- What a session did, as far as it is for the user. -/
def loopText (l : SessionLoop) : String :=
  textOf (l.effects.filterMap fun e =>
      match e with
      | .emit event => eventLine? event
      | _ => none)
    ++ String.join (l.answers.map (fun a => answerText a.2))

end TunnelSession.Console
