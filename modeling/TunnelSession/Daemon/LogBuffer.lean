/-
  TunnelSession.Daemon.LogBuffer

  The latest lines of the daemon's log.
-/
import TunnelSession.Text.Blank
import TunnelSession.Text.Utf8

namespace TunnelSession.Daemon

/-- The latest lines, the oldest first, of which there are at most `capacity`. -/
structure LogBuffer where
  capacity : Nat := 2000
  lines : List String := []
  deriving DecidableEq, Repr

namespace LogBuffer

/-- An empty buffer for a number of lines, at least one. -/
def ofCapacity (n : Nat) : LogBuffer := { capacity := max n 1 }

/-- Appends a line; the oldest gives way if there is no room. -/
def pushLine (b : LogBuffer) (line : String) : LogBuffer :=
  { b with lines := (if b.lines.length = b.capacity then b.lines.tail else b.lines) ++ [line] }

/-- The lines that a piece of written text consists of, without the empty ones.
    Bytes that are not UTF-8 are replaced. -/
def linesOf (bytes : List UInt8) : List String :=
  (Text.lines (Text.ofBytesLossy bytes)).filter (fun l => !l.isEmpty)

/-- Drops all lines. -/
def clear (b : LogBuffer) : LogBuffer := { b with lines := [] }

/-- The number of lines. -/
def size (b : LogBuffer) : Nat := b.lines.length

/-- All lines, each with a line feed. -/
def contents (b : LogBuffer) : String :=
  String.join (b.lines.map (· ++ "\n"))

end LogBuffer

/-- Collects the bytes of a text that is written in parts. -/
structure LogWriter where
  pending : List UInt8 := []
  deriving DecidableEq, Repr

/-- Takes the next part. -/
def LogWriter.write (w : LogWriter) (part : List UInt8) : LogWriter := ⟨w.pending ++ part⟩

namespace LogBuffer

/-- Appends the lines of what a writer has collected, when it is dropped. -/
def collect (b : LogBuffer) (w : LogWriter) : LogBuffer :=
  (linesOf w.pending).foldl pushLine b

/-- Appends the lines of a text that was written in parts. -/
def write (b : LogBuffer) (parts : List (List UInt8)) : LogBuffer :=
  b.collect (parts.foldl LogWriter.write {})

end LogBuffer

end TunnelSession.Daemon
