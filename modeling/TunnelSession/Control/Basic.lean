/-
  TunnelSession.Control.Basic

  The vocabulary of the connection: its phases, what it waits for, and what it
  does to the world around it.
-/
import TunnelSession.Health.Monitor
import TunnelSession.Key.Basic
import TunnelSession.Link.Basic
import TunnelSession.Probe.Packet

namespace TunnelSession

/-! ## Phases -/

/-- The phase of the connection. -/
inductive Phase
  /-- Before the first status from the daemon. -/
  | initializing
  | off
  /-- A tunnel was asked for, and no handshake is seen yet. -/
  | connecting
  /-- The handshake is seen, and the daemon has yet to confirm the tunnel. -/
  | confirming
  | on
  /-- On the way to another server, with the user's knowledge. -/
  | switching
  /-- On the way to another server, without it. -/
  | silentSwitching
  | disconnecting
  /-- The tunnel is taken down, so that a captive portal can be reached. -/
  | captivePortal
  deriving DecidableEq, Repr

namespace Phase

def name : Phase → String
  | initializing => "Initializing"
  | off => "Off"
  | connecting => "Connecting"
  | confirming => "Confirming"
  | on => "On"
  | switching => "Switching"
  | silentSwitching => "SilentSwitching"
  | disconnecting => "Disconnecting"
  | captivePortal => "CaptivePortal"

/-- Whether traffic goes through the tunnel. -/
def isOn : Phase → Bool
  | on => true
  | _ => false

/-- Whether a tunnel is up, or on its way up. -/
def isActive : Phase → Bool
  | connecting | confirming | on | switching | silentSwitching => true
  | _ => false

end Phase

/-! ## Waiting -/

/-- What the daemon has yet to say. -/
inductive Awaited
  | nothing
  /-- That it shook hands with the server with a key. -/
  | handshake (publicKey : String)
  /-- That the tunnel to this server is up. -/
  | confirmation (publicKey : String)
  /-- That no tunnel is up. -/
  | disconnection
  deriving DecidableEq, Repr

/-- What happens once the tunnel is down. -/
inductive NextStep
  | nothing
  | quit
  /-- Tell that no server of the city can be used. -/
  | serverUnavailable
  deriving DecidableEq, Repr

/-- What a timer limits the time for. -/
inductive TimerKind
  | handshake
  | confirm
  | disconnect
  deriving DecidableEq, Repr

def TimerKind.name : TimerKind → String
  | .handshake => "Handshake"
  | .confirm => "Confirm"
  | .disconnect => "Disconnect"

/-- One timer that was armed. Timers of an earlier generation no longer
    matter. A session counts them with 64 bits, which no run uses up: here they are
    numbers without a bound. -/
structure TimerToken where
  kind : TimerKind
  generation : Nat
  deriving DecidableEq, Repr

/-! ## What the connection does -/

/-- What the connection tells everyone. -/
inductive SessionEvent
  | phaseChanged (phase : Phase)
  | handshakeFailed (publicKey : String)
  | readyToQuit
  /-- No server of the city can be used; `answered` tells whether the last
      tunnel carried any probe. -/
  | serverUnavailable (answered : Bool)
  | backendFailure
  | blockedByPortal
  | stabilityChanged (stability : Stability)
  | statusUpdated (txBytes rxBytes : UInt64)
  deriving DecidableEq, Repr

/-- One thing that the connection does. -/
inductive Effect
  /-- Puts a request on the link. -/
  | send (request : Request)
  /-- Asks for a timer to come back after a delay in microseconds. -/
  | arm (token : TimerToken) (delay : Nat)
  /-- Sends a probe. -/
  | probe (target : Net.Address) (sequence : UInt16)
  | emit (event : SessionEvent)
  /-- Answers a fetch of the daemon's log. -/
  | giveLogs (ticket : Nat) (text : String)
  deriving DecidableEq

/-- The world around the connection while it handles one input. -/
structure Surroundings where
  /-- The time in microseconds. -/
  now : Nat := 0
  /-- The wall clock in seconds. -/
  clock : Nat := 0
  /-- Whether the link takes a request. -/
  accepts : Request → Except SendError Unit := fun _ => .ok ()
  /-- Whether a probe can be sent to an address. -/
  reaches : Net.Address → Bool := fun _ => true
  /-- The throw of the dice that draws a server. -/
  dice : Nat := 0

/-! ## Settings and refusals -/

/-- This device's end of the tunnel. The addresses are texts, as the settings
    give them; an empty one is none. -/
structure Device where
  privateKey : Key.PrivateKey
  addressV4 : String
  addressV6 : String := ""
  deriving DecidableEq

/-- How the connection goes about it. Times are in microseconds. -/
structure ControlTuning where
  handshakeTimeout : Nat := 15000000
  confirmTimeout : Nat := 10000000
  disconnectTimeout : Nat := 10000000
  /-- How many seconds a server that failed is left alone. -/
  cooldown : Nat := 300
  ipv6Enabled : Bool := true
  /-- Ranges that stay outside the tunnel, beside the local networks. -/
  excluded : List Net.Cidr := []
  dnsServer : Option String := none
  /-- Whether an unstable connection moves to another server. -/
  switchOnUnstable : Bool := true
  health : HealthTuning := {}

/-- Why a tunnel is not brought up. -/
inductive ActivationError
  | wrongPhase (phase : Phase)
  | noServer
  | config (cause : ConfigError)
  | link (cause : SendError)
  deriving DecidableEq

def ActivationError.message : ActivationError → String
  | .wrongPhase phase => "Cannot activate while " ++ phase.name
  | .noServer => "No usable server available"
  | .config cause => "Configuration error: " ++ cause.message
  | .link cause => "Transport error: " ++ cause.message

end TunnelSession
