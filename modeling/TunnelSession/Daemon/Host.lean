/-
  TunnelSession.Daemon.Host

  The daemon's clients: what each one sends is taken apart into commands, answers
  go to the one who asked, and what the keeper tells goes to all. What is logged here,
  of connections that come and go and of lines that are passed over, is left out; so is
  what is wrong with a payload that cannot be read, which the keeper does no more than log.
-/
import TunnelSession.Daemon.Loop
import TunnelSession.Wire.LineBuffer

namespace TunnelSession.Daemon

/-- What a line from a client asks for. A line that is no request is passed over,
    unless it is an activation that cannot be read. -/
def Demand.ofLine? (user : Option UInt32) : Except FrameError String → Option Demand
  | .error _ => none
  | .ok line =>
    match Request.read line with
    | .ok r => some (.request user r)
    | .error (.invalidPayload "activate") => some (.invalidActivation user)
    | .error _ => none

/-- A client. -/
structure Client where
  user : Option UInt32
  buffer : LineBuffer := {}
  isOpen : Bool := true
  /-- What was sent to the client, the latest last. -/
  sent : List Reply := []

/-- The daemon and its clients, in the order of their arrival. -/
structure Host (β : Type) where
  daemon : KeeperLoop β
  clients : List Client := []

namespace Host

variable {β : Type} (b : Backend β)

/-- A new client. -/
def connect (h : Host β) (user : Option UInt32) : Host β :=
  { h with clients := h.clients ++ [{ user := user }] }

/-- A client leaves. -/
def close (h : Host β) (i : Nat) : Host β :=
  { h with clients := h.clients.modify i (fun c => { c with isOpen := false }) }

/-- Sends what the keeper has told to all clients. -/
def spread (h : Host β) : Host β :=
  let taken := h.daemon.takeNotices
  { h with
    daemon := taken.2
    clients := h.clients.map (fun c =>
      if c.isOpen then { c with sent := c.sent ++ taken.1 } else c) }

/-- Handles commands in turn, and gathers the answers. -/
def demands (now clock : Nat) : KeeperLoop β → List Demand → List Reply × KeeperLoop β
  | l, [] => ([], l)
  | l, d :: rest =>
    let handled := l.demand b now clock d
    let later := demands now clock handled.2 rest
    (handled.1.toList ++ later.1, later.2)

/-- Takes bytes from a client. It gets its answers before anything that is told to
    all clients. -/
def receive (h : Host β) (now clock i : Nat) (bytes : List UInt8) : Host β :=
  match h.clients[i]? with
  | none => h
  | some c =>
    if c.isOpen then
      let fed := c.buffer.feed bytes
      let handled := demands b now clock h.daemon (fed.1.filterMap (Demand.ofLine? c.user))
      { h with
        daemon := handled.2
        clients := h.clients.set i { c with buffer := fed.2, sent := c.sent ++ handled.1 } }.spread
    else h

/-- Lets the keeper do what is due. -/
def settle (h : Host β) (now clock : Nat) : Host β :=
  { h with daemon := h.daemon.settle b now clock }.spread

/-- Takes the tunnel down for good. -/
def shutdown (h : Host β) (now clock : Nat) : Host β :=
  { h with daemon := (h.daemon.demand b now clock .shutdown).2 }.spread

/-- Hands over what was sent to the clients. -/
def takeSent (h : Host β) : List (List Reply) × Host β :=
  (h.clients.map (·.sent), { h with clients := h.clients.map (fun c => { c with sent := [] }) })

end Host

end TunnelSession.Daemon
