/-
  TunnelSession.Daemon.Loop

  The keeper in time: while a handshake is awaited, it looks for it every quarter
  of a second. Times are in microseconds.
-/
import TunnelSession.Clock.Ticker
import TunnelSession.Daemon.Keeper

namespace TunnelSession.Daemon

/-- The time between two looks for a handshake. -/
def handshakePoll : Nat := 250000

/-- A keeper in time. -/
structure KeeperLoop (β : Type) where
  keeper : Keeper β
  poll : Ticker := ⟨handshakePoll, 0⟩
  stopped : Bool := false

namespace KeeperLoop

variable {β : Type} (b : Backend β)

/-- Looks for the handshake, if one is awaited and it is time. A look that is due
    waits until one is awaited. -/
def settle (l : KeeperLoop β) (now clock : Nat) : KeeperLoop β :=
  if !l.stopped && l.keeper.awaitsHandshake then
    match l.poll.tick? now with
    | some poll => { l with keeper := l.keeper.checkHandshake b clock, poll := poll }
    | none => l
  else l

/-- Handles a command. After the last one nothing is answered. -/
def demand (l : KeeperLoop β) (now clock : Nat) (d : Demand) : Option Reply × KeeperLoop β :=
  if l.stopped then (none, l)
  else
    let handled := l.keeper.handle b clock d
    (handled.1, { l with keeper := handled.2, stopped := d == Demand.shutdown }.settle b now clock)

/-- Hands over what was told to all clients. -/
def takeNotices (l : KeeperLoop β) : List Reply × KeeperLoop β :=
  (l.keeper.notices, { l with keeper := { l.keeper with notices := [] } })

end KeeperLoop

end TunnelSession.Daemon
