/-
  TunnelSession.Link.Backoff

  The growing delay between attempts to reach the daemon, in microseconds.
-/

namespace TunnelSession

/-- A delay that starts at `initial` and doubles up to `most`. -/
structure Backoff where
  initial : Nat := 500000
  most : Nat := 16000000
  current : Nat := initial
  deriving DecidableEq, Repr

/-- The delay before the next attempt. The first one is the initial delay, even
    if that is above the bound. -/
def Backoff.next (b : Backoff) : Nat × Backoff :=
  (b.current, { b with current := min (b.current * 2) b.most })

/-- Starts over. -/
def Backoff.reset (b : Backoff) : Backoff :=
  { b with current := b.initial }

end TunnelSession
