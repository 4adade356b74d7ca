/-
  TunnelSession.Quality.Registry

  What is known about servers, by public key: how fast they answered, and until
  when they are left alone after they failed. Times are in seconds of the wall
  clock, latencies in milliseconds; zero stands for no sample and no cooldown.
-/
import TunnelSession.Catalog.Basic

namespace TunnelSession

/-- What is known about one server. -/
structure Standing where
  latency : Nat := 0
  coolingUntil : Nat := 0
  deriving DecidableEq, Repr

/-- What is known about all servers. -/
structure Registry where
  entries : List (String × Standing) := []
  deriving Repr

/-- The mean of the numbers that are not zero, rounded up; zero if there are
    none. -/
def ceilMean (values : List Nat) : Nat :=
  let known := values.filter (0 < ·)
  if known.isEmpty then 0 else (known.foldr (· + ·) 0 + known.length - 1) / known.length

namespace Registry

/-- What is known about the server with a key. -/
def standing (r : Registry) (key : String) : Standing :=
  ((r.entries.find? (·.1 == key)).map (·.2)).getD {}

/-- Replaces what is known about the server with a key. -/
def put (r : Registry) (key : String) (s : Standing) : Registry :=
  if r.entries.any (·.1 == key) then
    ⟨r.entries.map (fun e => if e.1 == key then (key, s) else e)⟩
  else ⟨r.entries ++ [(key, s)]⟩

/-! ## Latency -/

/-- Records a sample in the place of the one before. -/
def setLatency (r : Registry) (key : String) (ms : Nat) : Registry :=
  r.put key { r.standing key with latency := ms }

/-- The latest sample of a server. -/
def latency (r : Registry) (key : String) : Nat :=
  (r.standing key).latency

/-- The mean over all servers with a sample. -/
def averageLatency (r : Registry) : Nat :=
  ceilMean (r.entries.map (·.2.latency))

/-- The number of servers with a sample. -/
def measuredCount (r : Registry) : Nat :=
  (r.entries.filter (fun e => 0 < e.2.latency)).length

/-- The mean over the servers of a city with a sample. -/
def cityLatency (r : Registry) (city : City) : Nat :=
  ceilMean (city.servers.map (fun s => r.latency s.publicKey))

/-! ## Cooldown -/

/-- The last second that the clock can show. -/
def endOfTime : Nat := 0xFFFFFFFFFFFFFFFF

/-- Leaves a server alone for some seconds from now; zero ends a cooldown. -/
def setCooldown (r : Registry) (now : Nat) (key : String) (seconds : Nat) : Registry :=
  let until_ := if seconds = 0 then 0 else min (now + seconds) endOfTime
  r.put key { r.standing key with coolingUntil := until_ }

/-- When the cooldown of a server ends, zero if it is not cooling down. -/
def cooldown (r : Registry) (now : Nat) (key : String) : Nat :=
  let t := (r.standing key).coolingUntil
  if now < t then t else 0

/-- Whether a server is to be left alone now. -/
def isCooling (r : Registry) (now : Nat) (key : String) : Bool :=
  r.cooldown now key != 0

/-- The number of servers of a city that can be used now. -/
def activeServers (r : Registry) (now : Nat) (city : City) : Nat :=
  (city.servers.filter (fun s => !r.isCooling now s.publicKey)).length

end Registry

end TunnelSession
