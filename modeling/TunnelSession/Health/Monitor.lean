/-
  TunnelSession.Health.Monitor

  How well the tunnel carries probes. While the monitor is armed, numbered probes
  go to the gateway; the answers feed a smoothed latency, and a checkup now and
  then classifies the connection:

    * no signal: the monitor is not armed, or the last probe could not be sent;
    * unstable: too many probes of the window are lost, no answer came for too
      long, or the latest one took too long;
    * stable: otherwise.

  The monitor only reports. Times are in microseconds.
-/
import TunnelSession.Net.Address

namespace TunnelSession

/-- What counts as healthy. -/
structure HealthTuning where
  /-- The time between two probes. -/
  probeInterval : Nat := 1000000
  /-- The longest time without an answer. -/
  staleAfter : Nat := 4000000
  /-- The longest time that one answer may take. -/
  verySlow : Nat := 1000000
  /-- A sample weighs one part in this many in the smoothed latency. -/
  divisor : Nat := 8
  /-- The largest share of probes that may be lost. -/
  lossLimit : Float := 0.1

/-- The state of a connection. -/
inductive Stability
  | stable
  | unstable
  | noSignal
  deriving DecidableEq, Repr

def Stability.name : Stability → String
  | .stable => "Stable"
  | .unstable => "Unstable"
  | .noSignal => "NoSignal"

/-! ## Time spent in each state -/

/-- How often a state was entered, and the time spent in it until it was left. The
    counter wraps around at its end. -/
structure Stay where
  entries : UInt32 := 0
  time : Nat := 0
  deriving DecidableEq, Repr

/-- The stays in all states. -/
structure StayTally where
  stable : Stay := {}
  unstable : Stay := {}
  noSignal : Stay := {}
  deriving DecidableEq, Repr

/-- The stays in one state. -/
def StayTally.get (t : StayTally) : Stability → Stay
  | .stable => t.stable
  | .unstable => t.unstable
  | .noSignal => t.noSignal

/-- Changes the stays in one state. -/
def StayTally.modify (t : StayTally) (s : Stability) (f : Stay → Stay) : StayTally :=
  match s with
  | .stable => { t with stable := f t.stable }
  | .unstable => { t with unstable := f t.unstable }
  | .noSignal => { t with noSignal := f t.noSignal }

/-- Leaves a state after some time, and enters another. -/
def StayTally.change (t : StayTally) (left entered : Stability) (spent : Nat) : StayTally :=
  (t.modify left (fun s => { s with time := s.time + spent })).modify entered
    (fun s => { s with entries := s.entries + 1 })

/-! ## The monitor -/

/-- A probe that was sent. -/
structure SentProbe where
  sequence : UInt16
  sentAt : Nat
  /-- How long the answer took, once there is one. -/
  latency : Option Nat := none
  deriving DecidableEq, Repr

/-- Where probes go, and since when. -/
structure Armed where
  target : Net.Address
  since : Nat
  deriving DecidableEq

/-- The state of the monitor. -/
structure HealthMonitor where
  tuning : HealthTuning
  armed : Option Armed := none
  /-- The latest probes, the newest first. -/
  window : List SentProbe := []
  nextSequence : UInt16 := 0
  /-- The number of the only probe whose answer counts. -/
  awaited : Option UInt16 := none
  lastAnswerAt : Option Nat := none
  /-- The smoothed latency in milliseconds. -/
  smoothed : Option Float := none
  /-- The latest latency. -/
  latest : Option Nat := none
  sendFailed : Bool := false
  stability : Stability := .noSignal
  /-- Since when the stability is what it is. -/
  enteredAt : Nat := 0
  tally : StayTally := {}

/-- The largest number of probes that the loss is computed from. -/
def probeWindow : Nat := 32

/-- A time in milliseconds. -/
def milliseconds (time : Nat) : Float :=
  ((time / 1000000).toFloat + (time % 1000000 * 1000).toFloat / 1000000000) * 1000

/-- One step of the smoothed latency. The first sample is taken as it is. -/
def smooth (divisor : Nat) (previous : Option Float) (sample : Float) : Float :=
  let d := (max divisor 1).toFloat
  match previous with
  | none => sample
  | some previous => sample / d + previous * (d - 1) / d

namespace HealthMonitor

/-- Where probes go. -/
def target (m : HealthMonitor) : Option Net.Address := m.armed.map (·.target)

def isArmed (m : HealthMonitor) : Bool := m.armed.isSome

/-- Whether any answer came since the monitor was armed. -/
def answered (m : HealthMonitor) : Bool := m.lastAnswerAt.isSome

/-- Enters a state. Tells which, if it is another one. -/
def enter (m : HealthMonitor) (next : Stability) (now : Nat) : Option Stability × HealthMonitor :=
  if next = m.stability then (none, m)
  else (some next, { m with
    stability := next
    enteredAt := now
    tally := m.tally.change m.stability next (now - m.enteredAt) })

/-- Arms the monitor. The smoothed latency is kept only if the monitor was armed
    with the same target. -/
def start (m : HealthMonitor) (target : Net.Address) (now : Nat) : HealthMonitor :=
  { m with
    armed := some ⟨target, now⟩
    smoothed := if m.target = some target then m.smoothed else none
    window := []
    latest := none
    lastAnswerAt := none
    awaited := none
    sendFailed := false }

/-- Disarms the monitor, which then has no signal. -/
def stop (m : HealthMonitor) (now : Nat) : Option Stability × HealthMonitor :=
  if m.isArmed then { m with armed := none, awaited := none }.enter .noSignal now
  else (none, m)

/-- Numbers the next probe, and tells where to send it. -/
def nextProbe? (m : HealthMonitor) (now : Nat) :
    Option ((Net.Address × UInt16) × HealthMonitor) :=
  m.target.map fun target =>
    ((target, m.nextSequence), { m with
      nextSequence := m.nextSequence + 1
      window := (⟨m.nextSequence, now, none⟩ :: m.window).take probeWindow
      awaited := some m.nextSequence })

/-- Takes an answer, if it is the first one to the newest probe. -/
def answer? (m : HealthMonitor) (sequence : UInt16) (at_ : Nat) : Option HealthMonitor :=
  match m.window with
  | newest :: older =>
    if m.awaited = some sequence ∧ newest.sequence = sequence ∧ newest.latency = none then
      let latency := at_ - newest.sentAt
      some { m with
        window := { newest with latency := some latency } :: older
        latest := some latency
        lastAnswerAt := some at_
        sendFailed := false
        smoothed := some (smooth m.tuning.divisor m.smoothed (milliseconds latency)) }
    else none
  | [] => none

/-- Notes that the last probe could not be sent. -/
def noteSendFailure (m : HealthMonitor) : HealthMonitor :=
  { m with sendFailed := true }

/-! ## Classification -/

/-- The probes of the window without the newest, which may still be answered. -/
def settled (m : HealthMonitor) : List SentProbe := m.window.tail

/-- The settled probes without an answer. -/
def lost (m : HealthMonitor) : List SentProbe :=
  m.settled.filter (fun p => p.latency.isNone)

/-- The share of the settled probes that are lost. -/
def lossRatio (m : HealthMonitor) : Float :=
  if m.settled.isEmpty then 0 else m.lost.length.toFloat / m.settled.length.toFloat

/-- The state of the connection as it is seen now. -/
def classify (m : HealthMonitor) (now : Nat) : Stability :=
  match m.armed with
  | none => .noSignal
  | some armed =>
    if m.sendFailed then .noSignal
    else if m.lossRatio > m.tuning.lossLimit then .unstable
    else if m.tuning.staleAfter < now - max (m.lastAnswerAt.getD armed.since) armed.since then
      .unstable
    else if m.tuning.verySlow < m.latest.getD 0 then .unstable
    else .stable

/-- Classifies the connection. Tells the new state, if it is another one. -/
def checkup (m : HealthMonitor) (now : Nat) : Option Stability × HealthMonitor :=
  { m with sendFailed := false }.enter (m.classify now) now

end HealthMonitor

end TunnelSession
