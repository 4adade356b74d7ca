/-
  TunnelSession.Console.Program

  The two programs: what they make of their arguments and files, and how they end.
  They read files in a monad of the caller's choice.
-/
import TunnelSession.Catalog.Reader
import TunnelSession.Console.Arguments
import TunnelSession.Console.Dialogue
import TunnelSession.Settings.Daemon

namespace TunnelSession.Console

/-- How a program ends. -/
structure Outcome where
  code : Nat := 0
  /-- What was printed. -/
  output : String := ""
  /-- The first line of the complaint. -/
  complaint : Option String := none
  /-- The files that were written, with their texts. -/
  written : List (String × String) := []
  deriving DecidableEq, Repr

/-- Why a program gives up. -/
inductive Failure
  | arguments (cause : ArgumentError)
  | noConfigDirectory
  | settings (path : String)
  | noCatalog
  | catalog (path : String)
  | session (cause : SettingsError)
  | present (path : String)
  | daemonSettings (path : String)
  deriving DecidableEq

/-- The first line of the complaint. -/
def Failure.message : Failure → String
  | .arguments cause => "error: " ++ cause.message
  | .noConfigDirectory => "Error: no configuration directory on this platform"
  | .settings path => "Error: loading " ++ path ++ " (create it with `hop init`)"
  | .noCatalog => "Error: settings do not name a servers_file"
  | .catalog path | .daemonSettings path => "Error: loading " ++ path
  | .session cause => "Error: Settings error: " ++ cause.message
  | .present path => s!"Error: {path} already exists (use --force to replace it)"

/-- The exit code: arguments have one of their own. -/
def Failure.code : Failure → Nat
  | .arguments _ => 2
  | _ => 1

def Outcome.ofFailure (f : Failure) : Outcome :=
  { code := f.code, complaint := some f.message }

/-! ## The client -/

/-- What the client comes to: an end, or a session with its user, whose settings are in
    the file at `path`. -/
inductive Job
  | finished (outcome : Outcome)
  | converse (path : String) (d : Dialogue)

/-- The end of a session with its user, after some output. -/
def Outcome.ofDialogue (path output : String) (d : Dialogue) : Outcome :=
  { output := output
    written := d.changedSettings?.toList.map (fun s => (path, s.write)) }

/-- Brings a session to its end with the lines of a user. -/
def Job.outcome (around : Surroundings) (lines : List String) : Job → Outcome
  | .finished outcome => outcome
  | .converse path d =>
    let talk := d.enterAll around lines
    .ofDialogue path (Dialogue.greeting ++ talk.1) talk.2

/-- The settings that are written for a new device. -/
def freshSettings (key : Key.PrivateKey) : SessionSettings :=
  { device := { privateKey := key.base64, addressV4 := "10.64.0.2/32" } }

/-- The two halves of a key. -/
def keyText (key : Key.PrivateKey) : String :=
  textOf ["private: " ++ key.base64, "public:  " ++ key.publicKey.base64]

/-- The scores after a sweep that left the registry. -/
def scoresText (settings : SessionSettings) (catalog : Catalog) (r : Registry) (clock : Nat) :
    String :=
  textOf (s!"{r.measuredCount} servers measured"
    :: (r.reports clock settings.userCountry catalog).map scoreLine)

variable {m : Type → Type} [Monad m]

/-- Loads the settings, and the catalog that they name. -/
def load (file? : String → m (Option String)) (path : String) :
    ExceptT Failure m (SessionSettings × Catalog) := do
  let text ← file? path
  match text.map SessionSettings.read with
  | some (.ok settings) =>
    match settings.serversFile with
    | none => throw .noCatalog
    | some servers =>
      let text ← file? servers
      match text.map Catalog.read with
      | some (.ok catalog) => return (settings, catalog)
      | _ => throw (.catalog servers)
  | _ => throw (.settings path)

/-- Runs the client up to the point where it talks with its user. `key` is a new key, and
    `swept` what a sweep of the catalog finds out. -/
def client (file? : String → m (Option String)) (around : Surroundings) (key : Key.PrivateKey)
    (swept : Registry) (defaultPath : Option String) (arguments : List String) :
    ExceptT Failure m Job := do
  let given ← (ClientArguments.read arguments).mapError Failure.arguments
  let some path := given.config <|> defaultPath | throw .noConfigDirectory
  match given.task with
  | .keygen => return .finished { output := keyText key }
  | .scores =>
    let (settings, catalog) ← load file? path
    return .finished { output := scoresText settings catalog swept around.clock }
  | .init force =>
    let text ← file? path
    if text.isSome ∧ !force then throw (.present path)
    return .finished {
      output := textOf ["Wrote " ++ path, "Device public key: " ++ key.publicKey.base64]
      written := [(path, (freshSettings key).write)] }
  | .run =>
    let (settings, catalog) ← load file? path
    match Dialogue.ofSettings around settings catalog with
    | .ok d => return .converse path d
    | .error e => throw (.session e)

/-! ## The daemon -/

/-- What the daemon is going to serve. -/
def daemonText (s : DaemonSettings) : String :=
  textOf [s!"hop-daemon: {s.backend.name} on {s.interface}, clients at {s.socketPath}"]

/-- The settings of the daemon: those of its file, if there is one, and what the arguments
    put in their place. -/
def daemon (file? : String → m (Option String)) (arguments : List String) :
    ExceptT Failure m DaemonSettings := do
  let given ← (DaemonArguments.read arguments).mapError Failure.arguments
  let text ← file? given.config
  let settings ← match text.map DaemonSettings.read with
    | none => pure {}
    | some (.ok settings) => pure settings
    | some (.error _) => throw (.daemonSettings given.config)
  return { settings with
    socketPath := given.socket.getD settings.socketPath
    backend := given.backend.getD settings.backend }

end TunnelSession.Console
