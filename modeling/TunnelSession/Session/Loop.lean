/-
  TunnelSession.Session.Loop

  A session in time: its timers, its regular work, and the questions that are put
  to it and answered later. Times are in microseconds.
-/
import TunnelSession.Clock.Ticker
import TunnelSession.Settings.Session

namespace TunnelSession

/-- A timer on its way. -/
structure PendingTimer where
  due : Nat
  token : TimerToken
  deriving DecidableEq, Repr

/-- What can be asked about a session. -/
inductive Query
  | status
  | logs
  | scores
  deriving DecidableEq, Repr

/-- What a question is answered with. -/
inductive Answer
  | status (s : SessionStatus)
  | logs (text : String)
  | scores (reports : List CityReport)
  /-- The session is over. -/
  | closed

/-- A question for the status that waits for the daemon's counters. -/
structure WaitingStatus where
  ticket : Nat
  deadline : Nat
  deriving DecidableEq, Repr

/-- A session in time. -/
structure SessionLoop where
  session : Session
  probe : Ticker
  checkup : Ticker
  status : Ticker
  sweep : Ticker
  timers : List PendingTimer := []
  waiting : List WaitingStatus := []
  /-- What was done since the last time it was handed over. -/
  effects : List Effect := []
  sweepProbes : List Sweep.SweepProbe := []
  answers : List (Nat × Answer) := []

namespace SessionLoop

/-- How long a question for the status waits for the daemon. -/
def statusPatience : Nat := 2000000

/-- A session that is about to start. -/
def ofSession (s : Session) (periods : TickPeriods) (now : Nat) : SessionLoop where
  session := s
  probe := ⟨periods.probe, now⟩
  checkup := ⟨periods.checkup, now⟩
  status := ⟨periods.status, now⟩
  sweep := ⟨periods.sweep, now⟩

/-- Whether the session is over. -/
def ended (l : SessionLoop) : Bool := l.session.controller.finished

/-- Answers a question. -/
def answer (l : SessionLoop) (ticket : Nat) (a : Answer) : SessionLoop :=
  { l with answers := l.answers ++ [(ticket, a)] }

/-- Answers a question for the status as things are. -/
def answerStatus (l : SessionLoop) (ticket : Nat) : SessionLoop :=
  l.answer ticket (if l.ended then .closed else .status l.session.snapshot)

/-- Takes note of one thing that the connection did. -/
def note (around : Surroundings) (l : SessionLoop) : Effect → SessionLoop
  | .arm token delay => { l with timers := l.timers ++ [⟨around.now + delay, token⟩] }
  | .giveLogs ticket text => l.answer ticket (.logs text)
  | .emit (.statusUpdated _ _) =>
    l.waiting.foldl (fun l w => l.answerStatus w.ticket) { l with waiting := [] }
  | _ => l

/-- Takes the session over after it did something. -/
def absorb (l : SessionLoop) (around : Surroundings) (s : Session) : SessionLoop :=
  let flushed := s.controller.flush
  flushed.1.foldl (note around) { l with
    session := { s with controller := flushed.2 }
    effects := l.effects ++ flushed.1 }

/-- Lets the session do something, unless it is over. -/
def act (l : SessionLoop) (around : Surroundings) (f : Session → Session) : SessionLoop :=
  if l.ended then l else l.absorb around (f l.session)

/-! ## Timers -/

/-- The timer that is due first; of several, the one that was armed first. -/
def firstDue? (now : Nat) : List PendingTimer → Option PendingTimer
  | [] => none
  | t :: rest =>
    match firstDue? now rest with
    | some u => if t.due ≤ u.due then some t else some u
    | none => if t.due ≤ now then some t else none

/-- Lets the timers fire that are due, as many as the fuel allows: a timer may arm
    another one. -/
def fireTimers (around : Surroundings) : Nat → SessionLoop → SessionLoop
  | 0, l => l
  | fuel + 1, l =>
    match firstDue? around.now l.timers with
    | none => l
    | some t =>
      fireTimers around fuel <|
        { l with timers := l.timers.erase t }.act around (·.handle around (.timer t.token))

/-- The number of timers that may fire at one time beside those that are on their
    way. One that fires leads to two more at most: the tunnel is given up, and
    the held one is tried. -/
def timerFuel (l : SessionLoop) : Nat := 4 * (l.timers.length + 4)

/-- Lets the timers fire that are due. -/
def settleTimers (l : SessionLoop) (around : Surroundings) : SessionLoop :=
  fireTimers around l.timerFuel l

/-! ## Input -/

/-- Hands something to the session. -/
def input (l : SessionLoop) (around : Surroundings) (i : SessionInput) : SessionLoop :=
  (l.act around (·.handle around i)).settleTimers around

/-- Puts a question to the session. While the tunnel is up, a question for the
    status waits for fresh counters from the daemon. -/
def ask (l : SessionLoop) (around : Surroundings) (ticket : Nat) (q : Query) : SessionLoop :=
  if l.ended then l.answer ticket .closed
  else match q with
    | .scores => l.answer ticket (.scores (l.session.scores around))
    | .logs => l.input around (.command (.fetchLogs ticket))
    | .status =>
      if l.session.controller.phase.isOn then
        let w : WaitingStatus := ⟨ticket, around.now + statusPatience⟩
        { l with waiting := l.waiting ++ [w] }.input around (.command .requestStatus)
      else l.answerStatus ticket

/-! ## The passing of time -/

/-- Does the same piece of regular work some times. -/
def times (f : SessionLoop → SessionLoop) : Nat → SessionLoop → SessionLoop
  | 0, l => l
  | n + 1, l => times f n (f l)

/-- Does the regular work that is due. `reaches` tells whether the probe of the
    sweep with a number can be sent. -/
def runTicks (l : SessionLoop) (around : Surroundings) (reaches : Nat → Net.Address → Bool) :
    SessionLoop :=
  let probe := l.probe.ticks around.now
  let l := times (·.act around (·.probeTick around)) probe.1 { l with probe := probe.2 }
  let checkup := l.checkup.ticks around.now
  let l := times (·.act around (·.checkupTick around)) checkup.1 { l with checkup := checkup.2 }
  let status := l.status.ticks around.now
  let l := times (·.act around (·.statusTick around)) status.1 { l with status := status.2 }
  let sweep := l.sweep.ticks around.now
  times (fun l =>
    if l.ended then l
    else
      let swept := l.session.sweepTick around reaches
      { l with sweepProbes := l.sweepProbes ++ swept.1 }.absorb around swept.2) sweep.1
    { l with sweep := sweep.2 }

/-- Answers the questions for the status that waited long enough. -/
def expireWaiting (l : SessionLoop) (now : Nat) : SessionLoop :=
  (l.waiting.filter (·.deadline ≤ now)).foldl (fun l w => l.answerStatus w.ticket)
    { l with waiting := l.waiting.filter (fun w => !(w.deadline ≤ now)) }

/-- Does all that is due now. -/
def run (l : SessionLoop) (around : Surroundings) (reaches : Nat → Net.Address → Bool) :
    SessionLoop :=
  (((l.settleTimers around).runTicks around reaches).settleTimers around).expireWaiting around.now

/-- Hands over what was done. -/
def flush (l : SessionLoop) : SessionLoop :=
  { l with effects := [], sweepProbes := [], answers := [] }

end SessionLoop

end TunnelSession
