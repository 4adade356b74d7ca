/-
  TunnelSession.Daemon.Quick

  Machinery that leaves the tunnel to two command line tools: one brings an
  interface file up and down, the other shows the interface.
-/
import TunnelSession.Daemon.Backend
import TunnelSession.Tunnel.QuickFile

namespace TunnelSession.Daemon

/-- How a tool ends. -/
structure ToolOutcome where
  code : Nat := 0
  stdout : String := ""
  stderr : String := ""
  deriving DecidableEq, Repr

/-- One use of a tool. -/
structure ToolCall where
  tool : String
  arguments : List String
  deriving DecidableEq, Repr

/-- The machinery of tools, with what there is of the system around it. -/
structure Quick where
  interface : String := "hop0"
  directory : String := "/run/hopvpn"
  /-- The key of the peer that is up. -/
  peer : Option String := none
  /-- Whether the interface file can be written. -/
  writable : Bool := true
  /-- The interface file. -/
  file : Option String := none
  /-- How the tool for interface files ends; none if there is no such tool. -/
  quickTool : Option ToolOutcome := none
  /-- How the tool that shows interfaces ends. -/
  showTool : Option ToolOutcome := none
  /-- The uses of the tools, the latest last. -/
  calls : List ToolCall := []
  /-- What was logged, the latest last. -/
  logged : List LogRecord := []
  deriving DecidableEq, Repr

namespace Quick

/-- The permission bits of the interface file, which holds the private key. -/
def fileMode : Nat := 0o600

/-- The path of the interface file. The tool takes the name of the interface from
    it. -/
def path (q : Quick) : String := q.directory ++ "/" ++ q.interface ++ ".conf"

/-- The error of a tool that does not exist. -/
def missing (tool : String) : BackendError :=
  .command (tool ++ ": No such file or directory (os error 2)")

/-- Logs a message. -/
def note (q : Quick) (level : LogLevel) (message : String) : Quick :=
  { q with logged := q.logged ++ [⟨level, "hop_daemon::backend", message⟩] }

/-- Runs the tool for interface files. -/
def runQuick (q : Quick) (action : String) : Except BackendError Unit × Quick :=
  let q := q.note .debug s!"Running wg-quick {action} {q.path}"
  match q.quickTool with
  | none => (.error (missing "wg-quick"), q)
  | some outcome =>
    let q := { q with calls := q.calls ++ [⟨"wg-quick", [action, q.path]⟩] }
    if outcome.code = 0 then (.ok (), q)
    else (.error (.command s!"wg-quick {action} failed: {Text.trimmed outcome.stderr}"), q)

def start (q : Quick) (c : TunnelConfig) : Except BackendError Unit × Quick :=
  match c.quickFile? with
  | none => (.error (.invalidConfig "no server endpoint"), q)
  | some content =>
    if q.writable then
      match { q with file := some content }.runQuick "up" with
      | (.ok (), q) =>
        let q := q.note .info s!"Interface {q.interface} is up"
        (.ok (), { q with peer := some c.serverKey })
      | (.error e, q) => (.error e, { q with file := none })
    else (.error (.io "the interface file cannot be written"), q)

def stop (q : Quick) : Except BackendError Unit × Quick :=
  match q.peer with
  | none => (.ok (), q)
  | some _ =>
    -- the interface file was written by this machinery, so that it can be removed
    match { q with peer := none }.runQuick "down" with
    | (.ok (), q) =>
      (.ok (), { q with file := none }.note .info s!"Interface {q.interface} is down")
    | (.error e, q) => (.error e, { q with file := none })

def status (q : Quick) (_ : Nat) : Except BackendError (Option PeerStatus) × Quick :=
  match q.peer, q.showTool with
  | none, _ => (.ok none, q)
  | some _, none => (.error (missing "wg"), q)
  | some publicKey, some outcome =>
    let q := { q with calls := q.calls ++ [⟨"wg", ["show", q.interface, "dump"]⟩] }
    (.ok (if outcome.code = 0 then PeerStatus.ofDump? outcome.stdout publicKey else none), q)

/-- The machinery of tools. -/
def backend : Backend Quick where
  name := "wg-quick"
  start
  stop
  status
  logged q := q.logged

end Quick

end TunnelSession.Daemon
