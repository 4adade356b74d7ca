/-
  TunnelSession.Settings.Daemon

  The settings of the daemon. A file may leave out any of them.
-/
import TunnelSession.Daemon.Kind
import TunnelSession.Settings.Session
import TunnelSession.Text.Quoted

namespace TunnelSession

/-- The settings of the daemon. -/
structure DaemonSettings where
  socketPath : String := defaultSocketPath
  /-- The permission bits of the socket. -/
  socketMode : Nat := 0o666
  backend : Daemon.BackendKind := .quick
  interface : String := "hop0"
  /-- Where the file for the tools is written. -/
  configDirectory : String := "/run/hopvpn"
  /-- How many lines of the log are kept. -/
  logLines : Nat := 2000
  deriving DecidableEq, Repr

namespace DaemonSettings

def ofToml? (t : Toml) : Option DaemonSettings := do
  let [socketPath, socketMode, backend, interface, configDirectory, logLines] ← t.fields? [
    "socket_path", "socket_mode", "backend", "interface", "config_dir", "log_lines"] | none
  some {
    socketPath := ← Toml.orDefault defaultSocketPath Toml.text? socketPath
    socketMode := ← Toml.orDefault 0o666 (Toml.nat? most32) socketMode
    backend := ←
      Toml.orDefault .quick (fun v => v.choice?.bind Daemon.BackendKind.ofName?) backend
    interface := ← Toml.orDefault "hop0" Toml.text? interface
    configDirectory := ← Toml.orDefault "/run/hopvpn" Toml.text? configDirectory
    logLines := ← Toml.orDefault 2000 (Toml.nat? most64) logLines }

/-- The longest name of an interface in bytes. -/
def maxInterfaceName : Nat := 15

/-- Reads settings. The name of the interface is not empty and not too long. -/
def read (s : String) : Except SettingsError DaemonSettings :=
  match (Toml.read? s).bind ofToml? with
  | none => .error .unreadable
  | some settings =>
    if settings.interface.isEmpty ∨ maxInterfaceName < settings.interface.utf8ByteSize then
      .error (.invalid ("interface name " ++ Text.quoted settings.interface))
    else .ok settings

end DaemonSettings

end TunnelSession
