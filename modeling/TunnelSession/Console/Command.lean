/-
  TunnelSession.Console.Command

  The commands that a user types, one to a line.
-/
import TunnelSession.Catalog.Basic

namespace TunnelSession.Console

/-- The lines that explain the commands. -/
def help : List String := [
  "commands:",
  "  on [<country> <city>]      connect, to the last or best city by default",
  "  off                        disconnect",
  "  switch <country> <city>    move to another city",
  "  silent                     switch to another server of the current city",
  "  status                     show the session state",
  "  scores                     list cities by measured quality",
  "  logs                       print the daemon log",
  "  cleanlogs                  clear the daemon log",
  "  portal on|off              report a captive portal",
  "  quit                       disconnect and exit"]

/-- One command. -/
inductive Command
  | on (selection : Option Selection)
  | off
  | switchTo (selection : Selection)
  | silent
  | status
  | scores
  | logs
  | cleanLogs
  | portal (detected : Bool)
  | quit
  | help
  deriving DecidableEq

/-- Why a line is no command. -/
inductive CommandError
  | unknown (word : String)
  | usage (form : String)
  deriving DecidableEq

def CommandError.message : CommandError → String
  | .unknown word => s!"unknown command '{word}', try 'help'"
  | .usage form => "usage: " ++ form

/-- A country code and the words of a city's name. -/
def selection? : List String → Option Selection
  | country :: city@(_ :: _) => some (.make country (" ".intercalate city))
  | _ => none

/-- Reads a command; a blank line holds none. -/
def Command.read (line : String) : Except CommandError (Option Command) :=
  match Text.words line with
  | [] => .ok none
  | word :: rest =>
    let selected (form : String) (f : Selection → Command) : Except CommandError (Option Command) :=
      match selection? rest with
      | some s => .ok (some (f s))
      | none => .error (.usage form)
    match Text.lowerAscii word with
    | "on" | "connect" =>
      if rest.isEmpty then .ok (some (.on none))
      else selected "on [<country> <city>]" (fun s => .on (some s))
    | "off" | "disconnect" => .ok (some .off)
    | "switch" => selected "switch <country> <city>" .switchTo
    | "silent" => .ok (some .silent)
    | "status" => .ok (some .status)
    | "scores" => .ok (some .scores)
    | "logs" => .ok (some .logs)
    | "cleanlogs" => .ok (some .cleanLogs)
    | "portal" =>
      match rest with
      | ["on"] => .ok (some (.portal true))
      | ["off"] => .ok (some (.portal false))
      | _ => .error (.usage "portal on|off")
    | "quit" | "exit" => .ok (some .quit)
    | "help" | "?" => .ok (some .help)
    | other => .error (.unknown other)

end TunnelSession.Console
