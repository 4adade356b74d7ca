/-
  TunnelSession.Daemon.Dummy

  Machinery without a tunnel: a peer in memory, whose handshake shows up after some
  looks at it, and whose counters grow with every look.
-/
import TunnelSession.Daemon.Backend

namespace TunnelSession.Daemon

/-- The state of the machinery without a tunnel. -/
structure Dummy where
  peer : Option PeerStatus := none
  failStart : Bool := false
  failStop : Bool := false
  /-- How many looks at a new peer do not show its handshake. -/
  handshakeAfter : Nat := 0
  /-- How many of these looks are left. -/
  looksLeft : Nat := 0
  starts : Nat := 0
  deriving DecidableEq, Repr

namespace Dummy

def start (d : Dummy) (c : TunnelConfig) : Except BackendError Unit × Dummy :=
  if d.failStart then (.error (.command "injected start failure"), d)
  else (.ok (), { d with
    starts := d.starts + 1
    looksLeft := d.handshakeAfter
    peer := some { publicKey := c.serverKey } })

def stop (d : Dummy) : Except BackendError Unit × Dummy :=
  (if d.failStop then .error (.command "injected stop failure") else .ok (),
    { d with peer := none })

/-- A look at a peer at a time in seconds: it has shaken hands, and moved some
    bytes. -/
def look (p : PeerStatus) (clock : Nat) : PeerStatus :=
  { p with
    lastHandshake := if p.lastHandshake = 0 then UInt64.ofNat clock else p.lastHandshake
    rxBytes := p.rxBytes + 1024
    txBytes := p.txBytes + 512 }

def status (d : Dummy) (clock : Nat) : Except BackendError (Option PeerStatus) × Dummy :=
  let d := if 0 < d.looksLeft then { d with looksLeft := d.looksLeft - 1 }
    else { d with peer := d.peer.map (look · clock) }
  (.ok d.peer, d)

/-- The machinery without a tunnel. -/
def backend : Backend Dummy where
  name := "dummy"
  start
  stop
  status

end Dummy

end TunnelSession.Daemon
