/-
  TunnelSession.Daemon.Kind

  The kinds of machinery that can bring a tunnel up.
-/

namespace TunnelSession.Daemon

/-- The kinds of machinery. -/
inductive BackendKind
  /-- The command line tools. -/
  | quick
  /-- No tunnel at all, for a trial. -/
  | dummy
  deriving DecidableEq, Repr

/-- The name of a kind in the settings. -/
def BackendKind.name : BackendKind → String
  | .quick => "wg-quick"
  | .dummy => "dummy"

/-- The kind with a name. -/
def BackendKind.ofName? : String → Option BackendKind
  | "wg-quick" => some .quick
  | "dummy" => some .dummy
  | _ => none

end TunnelSession.Daemon
