/-
  TunnelSession.Quality.Choice

  Which server of a destination is tried next: the preferred one while it can
  be used, else one drawn by weight from those that can.
-/
import TunnelSession.Quality.Registry

namespace TunnelSession

/-- The sum of the weights of some servers. -/
def totalWeight : List Server → Nat
  | [] => 0
  | s :: rest => s.weight + totalWeight rest

/-- The server in whose share of the total weight a number falls. -/
def atWeight? : List Server → Nat → Option Server
  | [], _ => none
  | s :: rest, n => if n < s.weight then some s else atWeight? rest (n - s.weight)

/-- The server that a throw of the dice draws: by weight, and evenly if no
    server has any. -/
def draw? (servers : List Server) (dice : Nat) : Option Server :=
  if totalWeight servers = 0 then servers[dice % servers.length]?
  else atWeight? servers (dice % totalWeight servers)

/-- The servers that some throw draws. -/
def drawable (servers : List Server) : List Server :=
  if totalWeight servers = 0 then servers else servers.filter (0 < ·.weight)

namespace Destination

/-- The servers that are not cooling down. -/
def available (d : Destination) (r : Registry) (now : Nat) : List Server :=
  d.servers.filter (fun s => !r.isCooling now s.publicKey)

/-- The preferred server, if it is not cooling down. -/
def usableExit? (d : Destination) (r : Registry) (now : Nat) : Option Server :=
  d.exitServer?.filter (fun s => !r.isCooling now s.publicKey)

/-- The server for the next attempt; none if all are cooling down. -/
def choose? (d : Destination) (r : Registry) (now dice : Nat) : Option Server :=
  match d.usableExit? r now with
  | some s => some s
  | none => draw? (d.available r now) dice

/-- The servers that can be chosen. -/
def possible (d : Destination) (r : Registry) (now : Nat) : List Server :=
  match d.usableExit? r now with
  | some s => [s]
  | none => drawable (d.available r now)

end Destination

end TunnelSession
