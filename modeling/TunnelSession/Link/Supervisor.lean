/-
  TunnelSession.Link.Supervisor

  Keeps the link to the daemon: it tries to connect, waits longer after each try in
  vain, takes messages out of what arrives, and reports an outage once. What was to
  be sent on one connection is not sent on the next. Times are in microseconds.
-/
import TunnelSession.Link.Backoff
import TunnelSession.Link.Basic
import TunnelSession.Wire.LineBuffer

namespace TunnelSession

/-- Where the link stands. -/
inductive LinkStage
  /-- There is no connection; `due` is the time of the next try. -/
  | apart (due : Nat)
  /-- There is a connection; `buffer` holds what has arrived of an unfinished line. -/
  | joined (buffer : LineBuffer)
  deriving DecidableEq

/-- The state of the link. -/
structure Supervisor where
  backoff : Backoff := {}
  stage : LinkStage := .apart 0
  /-- Whether the outage that goes on has been reported. -/
  outageReported : Bool := false
  /-- The requests that are still to be sent, the oldest first. -/
  queue : List Request := []
  deriving DecidableEq

namespace Supervisor

def isConnected (s : Supervisor) : Bool :=
  match s.stage with
  | .joined _ => true
  | .apart _ => false

/-! ## Requests -/

/-- Accepts a request, if there is a connection. -/
def send (s : Supervisor) (r : Request) : Except SendError Unit × Supervisor :=
  if s.isConnected then (.ok (), { s with queue := s.queue ++ [r] })
  else (.error .notConnected, s)

/-- The request that goes out next on the connection. -/
def write? (s : Supervisor) : Option (Request × Supervisor) :=
  match s.stage, s.queue with
  | .joined _, r :: rest => some (r, { s with queue := rest })
  | _, _ => none

/-! ## Connections -/

/-- Waits before the next try, and reports the outage if it is a new one. -/
def pause (s : Supervisor) (now : Nat) : List LinkEvent × Supervisor :=
  let delay := s.backoff.next
  (if s.outageReported then [] else [.lost],
    { s with stage := .apart (now + delay.1), backoff := delay.2, outageReported := true })

/-- Tries to connect, if it is time. A new connection starts afresh: with the shortest
    delay, and without the requests that were left over. -/
def attempt (s : Supervisor) (now : Nat) (reachable : Bool) : List LinkEvent × Supervisor :=
  match s.stage with
  | .joined _ => ([], s)
  | .apart due =>
    if now < due then ([], s)
    else if reachable then
      ([.ready], { backoff := s.backoff.reset, stage := .joined {} })
    else s.pause now

/-- What a line from the daemon reports. A line that is no reply is passed over. -/
def eventOf? : Except FrameError String → Option LinkEvent
  | .ok line => (Reply.read line).toOption.map .message
  | .error _ => none

/-- Takes bytes from the connection. -/
def receive (s : Supervisor) (bytes : List UInt8) : List LinkEvent × Supervisor :=
  match s.stage with
  | .joined buffer =>
    let fed := buffer.feed bytes
    (fed.1.filterMap eventOf?, { s with stage := .joined fed.2 })
  | .apart _ => ([], s)

/-- The connection has ended. -/
def disconnect (s : Supervisor) (now : Nat) : List LinkEvent × Supervisor :=
  match s.stage with
  | .joined _ => s.pause now
  | .apart _ => ([], s)

end Supervisor

end TunnelSession
