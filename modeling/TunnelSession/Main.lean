/-
  TunnelSession.Main

  The command line. The first argument names the program, the others are its own.
-/
import TunnelSession.Console.Program

namespace TunnelSession.Console

/-- The text of a file, if it can be read. -/
def readText (path : String) : IO (Option String) := do
  try return some (← IO.FS.readFile path) catch _ => return none

/-- The world of the console: no daemon and no server can be reached. -/
def surroundings : IO Surroundings := do
  let nanoseconds ← IO.monoNanosNow
  return { now := nanoseconds / 1000, clock := nanoseconds / 1000000000
           accepts := fun _ => .error .notConnected, reaches := fun _ => false }

/-- A new key. -/
def newKey : IO Key.PrivateKey := do
  let bytes ← IO.getRandomBytes 32
  match Key.PrivateKey.read (String.ofList (Text.Base64.encode bytes.toList)) with
  | .ok key => return key
  | .error e => throw (IO.userError e.message)

/-- Where the settings are if no argument says so. -/
def defaultPath : IO (Option String) := do
  let base := (← IO.getEnv "XDG_CONFIG_HOME") <|> (← IO.getEnv "HOME").map (· ++ "/.config")
  return base.map (· ++ "/hopvpn/settings.toml")

/-- Lets a user talk to a session. -/
partial def talk (d : Dialogue) : IO Dialogue := do
  if d.isOver then return d
  let line ← (← IO.getStdin).getLine
  let around ← surroundings
  let (output, d) := if line.isEmpty then d.leave around else d.enter around line
  IO.print output
  talk d

/-- Prints how a program ends, and writes its files. -/
def conclude (o : Outcome) : IO UInt32 := do
  IO.print o.output
  for (path, text) in o.written do
    IO.FS.writeFile path text
  for complaint in o.complaint do
    IO.eprintln complaint
  return o.code.toUInt32

/-- Runs the program that the first argument names. -/
def runProgram (arguments : List String) : IO UInt32 := do
  match arguments with
  | "hop" :: rest =>
    let around ← surroundings
    match ← client readText around (← newKey) {} (← defaultPath) rest with
    | .error f => conclude (.ofFailure f)
    | .ok (.finished o) => conclude o
    | .ok (.converse path d) =>
      IO.print Dialogue.greeting
      conclude (.ofDialogue path "" (← talk d))
  | "hop-daemon" :: rest =>
    match ← daemon readText rest with
    | .error f => conclude (.ofFailure f)
    | .ok settings => conclude { output := daemonText settings }
  | _ =>
    IO.eprintln "the first argument is hop or hop-daemon"
    return 2

end TunnelSession.Console

def main (arguments : List String) : IO UInt32 :=
  TunnelSession.Console.runProgram arguments
