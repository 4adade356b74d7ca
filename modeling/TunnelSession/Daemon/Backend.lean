/-
  TunnelSession.Daemon.Backend

  The machinery behind a tunnel, as the daemon sees it: it brings a peer up and
  down, and tells how it fares.
-/
import TunnelSession.Daemon.Log
import TunnelSession.Text.Blank
import TunnelSession.Text.Numeral
import TunnelSession.Tunnel.Config

namespace TunnelSession.Daemon

/-- The state of a peer. The handshake is in seconds of the wall clock, zero
    before the first one. -/
structure PeerStatus where
  publicKey : String
  lastHandshake : UInt64 := 0
  rxBytes : UInt64 := 0
  txBytes : UInt64 := 0
  deriving DecidableEq, Repr

/-- Why the machinery did not do what it was asked for. -/
inductive BackendError
  | io (what : String)
  | command (what : String)
  | invalidConfig (what : String)
  | unsupported (name : String)
  deriving DecidableEq, Repr

def BackendError.message : BackendError → String
  | .io what => "IO error: " ++ what
  | .command what => "Command failed: " ++ what
  | .invalidConfig what => "Invalid configuration: " ++ what
  | .unsupported name => "Unsupported backend: " ++ name

/-- A kind of machinery whose state is of type `β`. -/
structure Backend (β : Type) where
  name : String
  /-- Brings the tunnel up. -/
  start : β → TunnelConfig → Except BackendError Unit × β
  /-- Takes the tunnel down. -/
  stop : β → Except BackendError Unit × β
  /-- The state of the peer at a time in seconds; none if no tunnel is up. -/
  status : β → Nat → Except BackendError (Option PeerStatus) × β
  /-- All that it has logged, the latest last. -/
  logged : β → List LogRecord := fun _ => []

/-! ## The dump of an interface -/

/-- A counter in a dump; zero if it is not a number of 64 bits. -/
def counterOf (s : String) : UInt64 :=
  UInt64.ofNat ((Text.readBounded? 0xFFFFFFFFFFFFFFFF s).getD 0)

/-- The peer on one line of a dump, if it is the one with the key. -/
def PeerStatus.ofLine? (publicKey line : String) : Option PeerStatus :=
  match Text.splitAt '\t' line with
  | key :: _ :: _ :: _ :: handshake :: rx :: tx :: _ =>
    if key = publicKey then some ⟨key, counterOf handshake, counterOf rx, counterOf tx⟩ else none
  | _ => none

/-- Finds the peer with a key in the dump of an interface, whose first line is about
    the interface itself. -/
def PeerStatus.ofDump? (dump publicKey : String) : Option PeerStatus :=
  (Text.lines dump).tail.findSome? (ofLine? publicKey)

end TunnelSession.Daemon
