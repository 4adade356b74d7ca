/-
  TunnelSession.Clock.Ticker

  Regular work: a tick every period. A tick that comes a little late does not move
  the ones after it; after one that comes too late they start anew. Times are in
  microseconds.
-/

namespace TunnelSession

/-- When regular work is due. -/
structure Ticker where
  period : Nat
  due : Nat := 0
  deriving DecidableEq, Repr

namespace Ticker

/-- How late a tick may come without moving the next one. -/
def grace : Nat := 5000

/-- Takes the tick that is due, if there is one. -/
def tick? (t : Ticker) (now : Nat) : Option Ticker :=
  if t.due ≤ now then
    some { t with due := if t.due + grace < now then now + t.period else t.due + t.period }
  else none

/-- Takes all ticks that are due, and tells how many there are. -/
def ticks (t : Ticker) (now : Nat) : Nat × Ticker :=
  if now < t.due then (0, t)
  else if t.due + grace < now then (1, { t with due := now + t.period })
  else
    let count := (now - t.due) / t.period + 1
    (count, { t with due := t.due + count * t.period })

end Ticker

end TunnelSession
