/-
  TunnelSession.Console.Dialogue

  A session that a user drives line by line. At its end the settings remember the
  city that was used last.
-/
import TunnelSession.Console.Report

namespace TunnelSession.Console

/-- A session and its user. -/
structure Dialogue where
  settings : SessionSettings
  loop : SessionLoop
  /-- Whether the user has left. -/
  isOver : Bool := false

namespace Dialogue

/-- A session that begins without a daemon in reach. -/
def ofSettings (around : Surroundings) (settings : SessionSettings) (catalog : Catalog) :
    Except SettingsError Dialogue :=
  (Session.ofSettings settings catalog).map fun s =>
    { settings := settings
      loop := (SessionLoop.ofSession s settings.tickPeriods around.now).input around (.link .lost) }

/-- What the user sees first. -/
def greeting : String := textOf help

/-- Hands over what there is to print. -/
def print (d : Dialogue) : String × Dialogue :=
  (loopText d.loop, { d with loop := d.loop.flush })

/-- Hands a command to the session. -/
def tell (around : Surroundings) (d : Dialogue) (c : TunnelSession.Command) : String × Dialogue :=
  { d with loop := d.loop.input around (.command c) }.print

/-- Puts a question to the session. -/
def ask (around : Surroundings) (d : Dialogue) (q : Query) : String × Dialogue :=
  { d with loop := d.loop.ask around 0 q }.print

/-- The user leaves. -/
def leave (around : Surroundings) (d : Dialogue) : String × Dialogue :=
  { d with isOver := true }.tell around .quit

/-- Does what the user typed. -/
def perform (around : Surroundings) (d : Dialogue) : Console.Command → String × Dialogue
  | .on selection => d.tell around (.activate selection)
  | .off => d.tell around .deactivate
  | .switchTo selection => d.tell around (.changeServer selection false)
  | .silent => d.tell around .silentSwitch
  | .status => d.ask around .status
  | .scores => d.ask around .scores
  | .logs => d.ask around .logs
  | .cleanLogs => d.tell around .cleanLogs
  | .portal detected => d.tell around (.portal detected)
  | .quit => d.leave around
  | .help => (greeting, d)

/-- Takes a line. -/
def enter (around : Surroundings) (d : Dialogue) (line : String) : String × Dialogue :=
  match Console.Command.read line with
  | .ok (some c) => d.perform around c
  | .ok none => ("", d)
  | .error e => (textOf [e.message], d)

/-- Takes lines until the user leaves. The end of the lines is the end of the
    session. -/
def enterAll (around : Surroundings) (d : Dialogue) : List String → String × Dialogue
  | [] => if d.isOver then ("", d) else d.leave around
  | line :: rest =>
    if d.isOver then ("", d)
    else
      let entered := d.enter around line
      let later := entered.2.enterAll around rest
      (entered.1 ++ later.1, later.2)

/-- The settings to be kept, if the city that was used last is a new one. -/
def changedSettings? (d : Dialogue) : Option SessionSettings :=
  let last := d.loop.session.lastSelection
  if last.isSome ∧ last ≠ d.settings.lastSelection then
    some { d.settings with lastSelection := last }
  else none

end Dialogue

end TunnelSession.Console
