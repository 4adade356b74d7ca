/-
  TunnelSession.Control.Inputs

  How the connection handles what comes to it: the user's requests, the daemon's
  messages, timers, and the probes of the tunnel.
-/
import TunnelSession.Control.Controller

namespace TunnelSession.Controller

/-! ## Requests of the user -/

/-- Takes the tunnel down. False if there is nothing to take down, or it is
    already on its way. -/
def deactivate (c : Controller) (around : Surroundings) : Bool × Controller :=
  let c := { c with held := none }
  match c.phase with
  | .off | .initializing | .disconnecting => (false, c)
  | .captivePortal =>
    if c.awaited = .disconnection then (true, c.enter .disconnecting)
    else (true, c.finishOff around)
  | _ => (true, c.beginDisconnect around .disconnecting)

/-- Moves to another destination, or takes note of it while no tunnel is up. -/
def changeServer (c : Controller) (around : Surroundings) (d : Destination) (silent : Bool) :
    Except ActivationError Unit × Controller :=
  match c.phase with
  | .off | .initializing | .captivePortal => (.ok (), { c with destination := some d })
  | .disconnecting =>
    if c.held.isSome then (.ok (), { c with held := some d })
    else (.ok (), { c with destination := some d })
  | _ =>
    (c.stopHealth around).startActivation around d
      (if silent then .silentSwitching else .switching)

/-- Leaves the current server alone and moves to another one of the same city,
    without the user's knowledge. False if that did not work out. -/
def silentSwitch (c : Controller) (around : Surroundings) : Bool × Controller :=
  match c.phase, c.destination, c.server with
  | .on, some d, some s =>
    if d.servers.length < 2 then (false, c)
    else
      let c := c.coolDown around s.publicKey
      if (d.available c.registry around.clock).isEmpty then (false, c.giveUpCity around)
      else
        let moved := c.changeServer around d true
        (moved.1.isOk, moved.2)
  | _, _, _ => (false, c)

/-- Takes the tunnel down if there is one, and is done for good. -/
def quit (c : Controller) (around : Surroundings) : Controller :=
  let c := { c with held := none }
  match c.phase with
  | .off | .initializing => c.finish
  | .disconnecting => { c with nextStep := .quit }
  | .captivePortal =>
    if c.awaited = .disconnection then { c with nextStep := .quit }
    else (c.finishOff around).finish
  | _ => { c with nextStep := .quit }.beginDisconnect around .disconnecting

/-- A captive portal is in the way. -/
def portalDetected (c : Controller) (around : Surroundings) : Controller :=
  match c.phase with
  | .on => { c with portalSeen := true }.beginDisconnect around .captivePortal
  | .off => { c with portalSeen := true }
  | _ => c

/-- The captive portal is no longer in the way. -/
def portalGone (c : Controller) (around : Surroundings) : Controller :=
  let c := { c with portalSeen := false }
  if c.phase = .captivePortal ∧ c.awaited ≠ .disconnection then c.reconnect around else c

/-- Asks for the daemon's log. The answer is empty if the daemon cannot be
    asked. -/
def fetchLogs (c : Controller) (around : Surroundings) (ticket : Nat) : Controller :=
  match around.accepts .logs with
  | .ok () => { c.perform (.send .logs) with logFetches := c.logFetches ++ [ticket] }
  | .error _ => c.perform (.giveLogs ticket "")

/-- Sends a request, if that is possible. -/
def trySend (c : Controller) (around : Surroundings) (r : Request) : Controller :=
  match around.accepts r with
  | .ok () => c.perform (.send r)
  | .error _ => c

/-- Empties the daemon's log. -/
def cleanLogs (c : Controller) (around : Surroundings) : Controller :=
  c.trySend around .cleanLogs

/-- Asks for a status, while the tunnel is up. -/
def requestStatus (c : Controller) (around : Surroundings) : Controller :=
  if c.phase = .on ∧ c.awaited = .nothing then c.trySend around .status else c

/-! ## The link to the daemon -/

/-- The daemon can be reached: its status shows where to go on from. -/
def onReady (c : Controller) (around : Surroundings) : Controller :=
  match around.accepts .status with
  | .ok () => { c.perform (.send .status) with awaitingFirstStatus := true }
  | .error _ => { c with awaitingFirstStatus := false }

/-- Answers every fetch of the daemon's log with an empty text. -/
def dropLogFetches (c : Controller) : Controller :=
  c.logFetches.foldl (fun c ticket => c.perform (.giveLogs ticket "")) { c with logFetches := [] }

/-- The daemon can no longer be reached. -/
def onLost (c : Controller) (around : Surroundings) : Controller :=
  let c := { c with awaitingFirstStatus := false }.dropLogFetches
  match c.phase with
  | .initializing =>
    let c := c.enter .off
    if c.held.isSome then { c with held := none }.emit .backendFailure else c
  | .off => c
  | _ =>
    if c.awaited = .disconnection then c.completeDisconnect around
    else (c.finishOff around).emit .backendFailure

/-- The daemon shook hands with a server. -/
def onConnected (c : Controller) (around : Surroundings) (publicKey : String) : Controller :=
  if c.awaited = .handshake publicKey then
    let c := { c.cancelTimers with awaited := .confirmation publicKey }
    let c := if c.phase = .connecting then c.enter .confirming else c
    match around.accepts .status with
    | .ok () => (c.perform (.send .status)).arm .confirm c.tuning.confirmTimeout
    | .error _ => (c.finishOff around).emit .backendFailure
  else c

/-- The daemon has no tunnel. -/
def onDisconnected (c : Controller) (around : Surroundings) : Controller :=
  match c.awaited with
  | .disconnection => c.completeDisconnect around
  | .handshake _ | .confirmation _ => c.finishOff around
  | .nothing =>
    match c.phase with
    | .off | .initializing | .captivePortal => c
    | _ => c.finishOff around

/-- The first status on a link: a tunnel that is already up is taken over. Then
    the held tunnel is brought up. -/
def onFirstStatus (c : Controller) (around : Surroundings) (s : StatusReport) : Controller :=
  let c :=
    if s.connected ∧ (c.phase = .initializing ∨ c.phase = .off) then
      { { c with connectedSince := some s.date.toNat }.startHealth around
          (Net.Address.read? s.gatewayV4) with lastStatus := some s }.enter .on
    else if c.phase = .initializing then c.enter .off
    else c
  match c.held with
  | none => c
  | some d =>
    let c := { c with held := none }
    match c.phase with
    | .off => (c.activate around d).2
    | .on => (c.changeServer around d false).2
    | _ => c

/-- The tunnel is up. -/
def confirm (c : Controller) (around : Surroundings) (s : StatusReport) : Controller :=
  let target := (Net.Address.read? s.gatewayV4).or
    (c.server.bind (fun server => Net.Address.read? server.gatewayV4))
  { { c.cancelTimers with
      awaited := .nothing
      connectedSince := some (if s.date = 0 then around.clock else s.date.toNat) }.startHealth
        around target with lastStatus := some s }.enter .on

/-- The daemon tells its status. -/
def onStatus (c : Controller) (around : Surroundings) (s : StatusReport) : Controller :=
  if c.awaitingFirstStatus then { c with awaitingFirstStatus := false }.onFirstStatus around s
  else match c.awaited with
    | .confirmation publicKey =>
      if s.connected then c.confirm around s else c.giveUpServer around publicKey
    | _ => { c.emit (.statusUpdated s.txBytes s.rxBytes) with lastStatus := some s }

/-- The daemon tells its log. -/
def onLogs (c : Controller) (text : String) : Controller :=
  match c.logFetches with
  | ticket :: rest => { c with logFetches := rest }.perform (.giveLogs ticket text)
  | [] => c

/-- The daemon's machinery failed. If that was while taking a tunnel down, the
    daemon still tells when it is down. -/
def onBackendFailure (c : Controller) (around : Surroundings) : Controller :=
  (if c.awaited = .disconnection then c else c.finishOff around).emit .backendFailure

/-- Handles what the link reports. -/
def onLink (c : Controller) (around : Surroundings) : LinkEvent → Controller
  | .ready => c.onReady around
  | .lost => c.onLost around
  | .message (.connected publicKey) => c.onConnected around publicKey
  | .message .disconnected => c.onDisconnected around
  | .message (.status s) => c.onStatus around s
  | .message (.logs text) => c.onLogs text
  | .message .backendFailure => c.onBackendFailure around

/-! ## Timers and probes -/

/-- A timer fired. -/
def onTimer (c : Controller) (around : Surroundings) (token : TimerToken) : Controller :=
  if token.generation = c.generation then
    match token.kind, c.awaited with
    | .handshake, .handshake publicKey => c.giveUpServer around publicKey
    | .confirm, .confirmation publicKey => c.giveUpServer around publicKey
    | .disconnect, .disconnection => c.completeDisconnect around
    | _, _ => c
  else c

/-- It is time for a probe. -/
def probeTick (c : Controller) (around : Surroundings) : Controller :=
  if c.phase = .on then
    match c.health.nextProbe? around.now with
    | some ((target, sequence), health) =>
      if around.reaches target then { c with health := health }.perform (.probe target sequence)
      else { c with health := health.noteSendFailure }
    | none => c
  else c

/-- A probe was answered. -/
def onProbeReply (c : Controller) (r : ProbeReply) : Controller :=
  if r.purpose = .health ∧ c.health.target = some r.source then
    match c.health.answer? r.sequence r.receivedAt with
    | some health => { c with health := health }
    | none => c
  else c

/-- It is time to look at the health of the tunnel. A tunnel that becomes unstable
    may move to another server. -/
def checkup (c : Controller) (around : Surroundings) : Controller :=
  let checked := c.health.checkup around.now
  let c := { c with health := checked.2 }.emitStability checked.1
  if checked.1 = some .unstable ∧ c.tuning.switchOnUnstable ∧ c.phase = .on then
    (c.silentSwitch around).2
  else c

/-! ## Runs -/

/-- Everything that can come to the connection. -/
inductive Input
  | activate (d : Destination)
  | deactivate
  | changeServer (d : Destination) (silent : Bool)
  | silentSwitch
  | quit
  | portal (present : Bool)
  | fetchLogs (ticket : Nat)
  | cleanLogs
  | requestStatus
  | link (event : LinkEvent)
  | timer (token : TimerToken)
  | probeTick
  | probeReply (reply : ProbeReply)
  | checkup

/-- Handles one input. -/
def handle (c : Controller) (around : Surroundings) : Input → Controller
  | .activate d => (c.activate around d).2
  | .deactivate => (c.deactivate around).2
  | .changeServer d silent => (c.changeServer around d silent).2
  | .silentSwitch => (c.silentSwitch around).2
  | .quit => c.quit around
  | .portal true => c.portalDetected around
  | .portal false => c.portalGone around
  | .fetchLogs ticket => c.fetchLogs around ticket
  | .cleanLogs => c.cleanLogs around
  | .requestStatus => c.requestStatus around
  | .link event => c.onLink around event
  | .timer token => c.onTimer around token
  | .probeTick => c.probeTick around
  | .probeReply r => c.onProbeReply r
  | .checkup => c.checkup around

/-- Hands over what the connection has done since the last time. -/
def flush (c : Controller) : List Effect × Controller :=
  (c.outbox, { c with outbox := [] })

end TunnelSession.Controller
