/-
  TunnelSession.Link.Basic

  What the link to the daemon reports, and why a request may not go out on it.
-/
import TunnelSession.Wire.Message

namespace TunnelSession

/-- What the link to the daemon reports. -/
inductive LinkEvent
  /-- The daemon can be reached. -/
  | ready
  /-- The daemon can no longer be reached. -/
  | lost
  | message (reply : Reply)
  deriving DecidableEq

/-- Why a request does not go out. -/
inductive SendError
  | notConnected
  | stopped
  deriving DecidableEq, Repr

def SendError.message : SendError → String
  | .notConnected => "Daemon not connected"
  | .stopped => "Transport task stopped"

end TunnelSession
