/-
  TunnelSession.Daemon.Log

  What the daemon logs of its own doings. Everything that is logged is also kept, so
  that a client can ask for it: each record is written into the buffer of the latest
  lines. How a record is written, and which ones are not written at all, is up to the
  logging that the daemon runs with.
-/
import TunnelSession.Daemon.LogBuffer

namespace TunnelSession.Daemon

inductive LogLevel
  | error
  | warn
  | info
  | debug
  deriving DecidableEq, Repr

/-- The name of a level, as wide as that of any other. -/
def LogLevel.label : LogLevel → String
  | .error => "ERROR"
  | .warn => " WARN"
  | .info => " INFO"
  | .debug => "DEBUG"

/-- Something that is logged. -/
structure LogRecord where
  level : LogLevel
  /-- The part of the daemon that logs it. -/
  source : String
  message : String
  deriving DecidableEq, Repr

/-- The line of a record that is logged at a time. -/
def LogRecord.line (r : LogRecord) (time : String) : String :=
  s!"{time} {r.level.label} {r.source}: {r.message}\n"

/-- The latest lines, with the logging that writes them. -/
structure Log extends LogBuffer where
  /-- What is written for the record with a number; nothing if it is filtered out. The
      first record has the number zero. -/
  format : Nat → LogRecord → List UInt8 := fun _ _ => []
  /-- How many records there were. -/
  records : Nat := 0

namespace Log

/-- An empty log for a number of lines, at least one, without any logging. -/
def ofCapacity (n : Nat) : Log := { toLogBuffer := .ofCapacity n }

/-- Appends a line that is none of a record's. -/
def pushLine (log : Log) (line : String) : Log :=
  { log with toLogBuffer := log.toLogBuffer.pushLine line }

/-- Drops all lines. -/
def clear (log : Log) : Log := { log with toLogBuffer := log.toLogBuffer.clear }

/-- Writes a record. -/
@[irreducible] def note (log : Log) (r : LogRecord) : Log :=
  { log with
    toLogBuffer := log.toLogBuffer.collect ⟨log.format log.records r⟩
    records := log.records + 1 }

/-- Writes records, one after the other. -/
@[irreducible] def noteAll (log : Log) (rs : List LogRecord) : Log := rs.foldl note log

theorem noteAll_cons (log : Log) (r : LogRecord) (rs : List LogRecord) :
    log.noteAll (r :: rs) = (log.note r).noteAll rs := by
  unfold noteAll
  rfl

theorem noteAll_concat (log : Log) (rs : List LogRecord) (r : LogRecord) :
    log.noteAll (rs ++ [r]) = (log.noteAll rs).note r := by
  unfold noteAll
  rw [List.foldl_append, List.foldl_cons, List.foldl_nil]

/-- The format of the daemon as a program, without any settings for its logging: a line
    for each record, but none for those of the level `debug`. -/
def usualFormat (times : Nat → String) (i : Nat) (r : LogRecord) : List UInt8 :=
  if r.level = .debug then [] else Text.toBytes (r.line (times i))

end Log

end TunnelSession.Daemon
