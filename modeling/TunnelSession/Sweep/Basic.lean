/-
  TunnelSession.Sweep.Basic

  A sweep measures the latency of many servers while no tunnel is up. Some
  probes are in flight at a time; one without an answer is sent again a few
  times. Times are in microseconds.
-/
import TunnelSession.Probe.Packet
import TunnelSession.Quality.Registry

namespace TunnelSession

/-- How a sweep goes about it. -/
structure SweepTuning where
  /-- The number of probes that may be in flight. -/
  maxParallel : Nat := 8
  /-- The time after which a probe is lost. -/
  probeTimeout : Nat := 5000000
  /-- How often a lost probe is sent again. -/
  maxRetries : Nat := 2
  /-- The time between the end of a sweep and the next one. -/
  refreshInterval : Nat := 1800000000
  deriving DecidableEq, Repr

/-- A server to measure. -/
structure SweepTarget where
  publicKey : String
  address : Net.Address
  deriving DecidableEq

/-- The servers of a catalog whose address a probe can be sent to. -/
def Catalog.sweepTargets (c : Catalog) : List SweepTarget :=
  c.servers.filterMap (fun s => (Net.Address.read? s.endpointV4).map (⟨s.publicKey, ·⟩))

/-- A target and the number of probes it was sent in vain. -/
structure SweepTry where
  target : SweepTarget
  retries : Nat := 0
  deriving DecidableEq

/-- A probe without an answer yet. -/
structure InFlight where
  sequence : UInt16
  attempt : SweepTry
  sentAt : Nat
  deriving DecidableEq

/-- The state of sweeping. -/
structure Sweep where
  tuning : SweepTuning := {}
  queue : List SweepTry := []
  /-- The probes without an answer, the oldest first. -/
  inFlight : List InFlight := []
  /-- How many probes were tried to send. The number of a probe on the wire is
      this one, in 16 bits. -/
  tried : Nat := 0
  running : Bool := false
  lastFinished : Option Nat := none

namespace Sweep

/-- Whether a new sweep should start. -/
def isDue (s : Sweep) (now : Nat) : Bool :=
  !s.running &&
    match s.lastFinished with
    | none => true
    | some finished => s.tuning.refreshInterval ≤ now - finished

/-- Starts to measure the targets. A sweep in progress is given up. -/
def start (s : Sweep) (targets : List SweepTarget) : Sweep :=
  { s with queue := targets.map (⟨·, 0⟩), inFlight := [], running := true }

/-- Gives up the sweep. It starts over when the next one is due. -/
def cancel (s : Sweep) : Sweep :=
  { s with queue := [], inFlight := [], running := false }

/-- The next try after a lost probe, if there is one. -/
def retry (maxRetries : Nat) (t : SweepTry) : List SweepTry :=
  if t.retries < maxRetries then [⟨t.target, t.retries + 1⟩] else []

/-- How many probes the tries of a queue can still lead to. -/
def triesLeft (maxRetries : Nat) : List SweepTry → Nat
  | [] => 0
  | t :: rest => maxRetries - t.retries + 1 + triesLeft maxRetries rest

theorem triesLeft_append (maxRetries : Nat) (queue more : List SweepTry) :
    triesLeft maxRetries (queue ++ more) = triesLeft maxRetries queue + triesLeft maxRetries more := by
  induction queue with
  | nil => simp [triesLeft]
  | cons t rest ih =>
    simp only [List.cons_append, triesLeft, ih]
    omega

theorem triesLeft_append_retry (maxRetries : Nat) (t : SweepTry) (queue : List SweepTry) :
    triesLeft maxRetries (queue ++ retry maxRetries t) < triesLeft maxRetries (t :: queue) := by
  rw [triesLeft_append]
  unfold retry
  split
  · simp only [triesLeft]
    omega
  · simp only [triesLeft]
    omega

/-- Adds a probe to those in flight, in the place of one with its number. -/
def launch (inFlight : List InFlight) (p : InFlight) : List InFlight :=
  inFlight.filter (·.sequence != p.sequence) ++ [p]

/-- A probe that went out: where to, and its number. -/
structure SweepProbe where
  address : Net.Address
  sequence : UInt16
  deriving DecidableEq

/-- Sends probes from the queue until enough are in flight. `reaches` tells
    whether the probe with a number can be sent to an address; one that cannot
    counts as lost. -/
def fill (reaches : Nat → Net.Address → Bool) (now : Nat) (s : Sweep) : List SweepProbe × Sweep :=
  if s.inFlight.length < s.tuning.maxParallel then
    match _ : s.queue with
    | [] => ([], s)
    | t :: rest =>
      let sequence := UInt16.ofNat s.tried
      if reaches s.tried t.target.address then
        let next := fill reaches now { s with
          queue := rest
          inFlight := launch s.inFlight ⟨sequence, t, now⟩
          tried := s.tried + 1 }
        (⟨t.target.address, sequence⟩ :: next.1, next.2)
      else
        fill reaches now { s with
          queue := rest ++ retry s.tuning.maxRetries t
          tried := s.tried + 1 }
  else ([], s)
termination_by triesLeft s.tuning.maxRetries s.queue
decreasing_by
  · simp [*, triesLeft]
  · simpa [*] using triesLeft_append_retry s.tuning.maxRetries t rest

/-- Puts the probes whose time is over back into the queue. -/
def expire (s : Sweep) (now : Nat) : Sweep :=
  let isLost (p : InFlight) : Bool := s.tuning.probeTimeout ≤ now - p.sentAt
  { s with
    queue := s.queue ++
      (s.inFlight.filter isLost).flatMap (fun p => retry s.tuning.maxRetries p.attempt)
    inFlight := s.inFlight.filter (fun p => !isLost p) }

/-- Notes that the sweep is over, if it is. -/
def settle (s : Sweep) (now : Nat) : Sweep :=
  if s.queue.isEmpty && s.inFlight.isEmpty then
    { s with running := false, lastFinished := some now }
  else s

/-- Goes on with the sweep: gives up on lost probes and sends new ones, which it
    tells. -/
def pump (s : Sweep) (reaches : Nat → Net.Address → Bool) (now : Nat) :
    List SweepProbe × Sweep :=
  if s.running then
    let filled := fill reaches now (s.expire now)
    (filled.1, filled.2.settle now)
  else ([], s)

/-- The largest latency that is recorded, in milliseconds. -/
def maxLatency : Nat := 0xFFFFFFFF

/-- Takes the answer to a probe in flight, if it is one from the address that
    was asked, and records the latency in whole milliseconds, at least one. -/
def reply? (s : Sweep) (r : Registry) (reply : ProbeReply) : Option (Sweep × Registry) :=
  match s.inFlight.find? (·.sequence == reply.sequence) with
  | some p =>
    if p.attempt.target.address = reply.source then
      let latency := min (max ((reply.receivedAt - p.sentAt) / 1000) 1) maxLatency
      some ({ s with inFlight := s.inFlight.filter (·.sequence != reply.sequence) },
        r.setLatency p.attempt.target.publicKey latency)
    else none
  | none => none

end Sweep

end TunnelSession
