/-
  TunnelSession.Control.Controller

  The connection as a state machine: its state, and the moves that the handling
  of inputs is made of. A move takes a state to the next one and notes in its
  outbox what it does, in order.
-/
import TunnelSession.Control.Basic
import TunnelSession.Net.Carve
import TunnelSession.Quality.Choice

namespace TunnelSession

/-- The state of the connection. -/
structure Controller where
  tuning : ControlTuning
  device : Device
  registry : Registry
  health : HealthMonitor
  phase : Phase := .initializing
  /-- Where the current or the next tunnel goes. -/
  destination : Option Destination := none
  /-- The server of the current or the last attempt. -/
  server : Option Server := none
  /-- Where to connect to once the daemon has spoken. -/
  held : Option Destination := none
  nextStep : NextStep := .nothing
  awaited : Awaited := .nothing
  /-- Timers of earlier generations do not count. As in `TimerToken`, 64 bits would do:
      the number only goes up by one at a time. -/
  generation : Nat := 0
  portalSeen : Bool := false
  /-- Whether the next status is the first one on this link. -/
  awaitingFirstStatus : Bool := false
  /-- When the tunnel came up, in seconds of the wall clock. -/
  connectedSince : Option Nat := none
  lastStatus : Option StatusReport := none
  /-- The fetches of the daemon's log without an answer, the oldest first. -/
  logFetches : List Nat := []
  finished : Bool := false
  outbox : List Effect := []

namespace Controller

/-- The state before anything has happened. -/
def initial (tuning : ControlTuning) (device : Device) (registry : Registry) : Controller where
  tuning := tuning
  device := device
  registry := registry
  health := { tuning := tuning.health }

/-! ## Small moves -/

/-- Does one thing. -/
def perform (c : Controller) (e : Effect) : Controller :=
  { c with outbox := c.outbox ++ [e] }

/-- Tells everyone about an event. -/
def emit (c : Controller) (e : SessionEvent) : Controller :=
  c.perform (.emit e)

/-- Enters a phase, and tells so if it is another one. -/
def enter (c : Controller) (phase : Phase) : Controller :=
  if c.phase = phase then c else { c with phase := phase }.emit (.phaseChanged phase)

/-- Makes all timers that were armed so far worthless. -/
def cancelTimers (c : Controller) : Controller :=
  { c with generation := c.generation + 1 }

/-- Arms a timer of the current generation. -/
def arm (c : Controller) (kind : TimerKind) (delay : Nat) : Controller :=
  c.perform (.arm ⟨kind, c.generation⟩ delay)

/-- Tells everyone about a new stability, if there is one. -/
def emitStability (c : Controller) : Option Stability → Controller
  | some s => c.emit (.stabilityChanged s)
  | none => c

/-- Stops to watch the health of the tunnel. -/
def stopHealth (c : Controller) (around : Surroundings) : Controller :=
  let stopped := c.health.stop around.now
  { c with health := stopped.2 }.emitStability stopped.1

/-- Starts to watch the health of the tunnel, if there is an address to ask. -/
def startHealth (c : Controller) (around : Surroundings) : Option Net.Address → Controller
  | some target => { c with health := c.health.start target around.now }
  | none => c

/-- Leaves a server alone for a while. -/
def coolDown (c : Controller) (around : Surroundings) (publicKey : String) : Controller :=
  { c with registry := c.registry.setCooldown around.clock publicKey c.tuning.cooldown }

/-- Waits for nothing, and is off, without a word to the daemon. -/
def finishOff (c : Controller) (around : Surroundings) : Controller :=
  { { c.cancelTimers with awaited := .nothing }.stopHealth around with
    connectedSince := none }.enter .off

/-- Is done for good. -/
def finish (c : Controller) : Controller :=
  { c with finished := true }.emit .readyToQuit

/-! ## Bringing a tunnel up -/

/-- The tunnel from this device to a server. The sixth version of the protocol is
    used only if both ends have an address for it. -/
def tunnelTo (c : Controller) (s : Server) : Except ConfigError TunnelConfig :=
  match Net.Address.readV4? s.gatewayV4 with
  | none => .error (.invalidAddress s.gatewayV4)
  | some gatewayV4 =>
    let gatewayV6 :=
      if c.tuning.ipv6Enabled && c.device.addressV6 != "" then Net.Address.readV6? s.gatewayV6
      else none
    let config : TunnelConfig := {
      privateKey := c.device.privateKey.base64
      deviceV4 := c.device.addressV4
      deviceV6 := if gatewayV6.isSome then c.device.addressV6 else ""
      gatewayV4 := s.gatewayV4
      gatewayV6 := (gatewayV6.map (fun g => (Net.Address.v6 g).text)).getD ""
      serverKey := s.publicKey
      endpointV4 := s.endpointV4
      endpointV6 := s.endpointV6
      port := s.port
      ipv6Enabled := gatewayV6.isSome
      ranges := Net.allowedRanges gatewayV4 gatewayV6 c.tuning.excluded
      dnsServer := c.tuning.dnsServer }
    config.validate.map (fun _ => config)

/-- Asks for a tunnel to a server of a destination, and waits for the handshake
    in the given phase. -/
def startActivation (c : Controller) (around : Surroundings) (d : Destination) (during : Phase) :
    Except ActivationError Unit × Controller :=
  match d.choose? c.registry around.clock around.dice with
  | none =>
    (.error .noServer, ({ c with destination := some d }.finishOff around).emit
      (.serverUnavailable false))
  | some s =>
    match c.tunnelTo s with
    | .error e => (.error (.config e), c.finishOff around)
    | .ok config =>
      let c := c.cancelTimers
      match around.accepts (.activate config) with
      | .error e => (.error (.link e), (c.finishOff around).emit .backendFailure)
      | .ok () =>
        (.ok (), (({ c.perform (.send (.activate config)) with
          awaited := .handshake s.publicKey
          destination := some d
          server := some s }.enter during).arm .handshake c.tuning.handshakeTimeout))

/-- Gives the destination its preference for a server back. -/
def restoreExit (c : Controller) (exit : Option String) : Controller :=
  { c with destination := c.destination.map (fun d => { d with exit := exit }) }

/-- Brings the last tunnel up again, to the same server if it can be used. The
    preference for this server holds only for this once. -/
def reconnect (c : Controller) (around : Surroundings) : Controller :=
  match c.destination with
  | none => c.finishOff around
  | some d =>
    let pinned := match c.server with
      | some s => d.withExit s.publicKey
      | none => d
    (c.startActivation around pinned .connecting).2.restoreExit d.exit

/-- Brings a tunnel up, or takes note that it is to be brought up later. -/
def activate (c : Controller) (around : Surroundings) (d : Destination) :
    Except ActivationError Unit × Controller :=
  match c.phase with
  | .off =>
    if c.portalSeen then (.ok (), { c with portalSeen := false }.emit .blockedByPortal)
    else c.startActivation around d .connecting
  | .initializing | .disconnecting => (.ok (), { c with held := some d })
  | phase => (.error (.wrongPhase phase), c)

/-! ## Taking a tunnel down -/

/-- Brings the held tunnel up, if there is one. -/
def activateHeld (c : Controller) (around : Surroundings) : Controller :=
  match c.held with
  | some d => ({ c with held := none }.activate around d).2
  | none => c

/-- The tunnel is down, as the daemon says or as is assumed. -/
def completeDisconnect (c : Controller) (around : Surroundings) : Controller :=
  let down := { { c.cancelTimers with awaited := .nothing }.stopHealth around with
    connectedSince := none
    nextStep := .nothing }
  match c.nextStep with
  | .quit => (down.enter .off).finish
  | .serverUnavailable => (down.enter .off).emit (.serverUnavailable down.health.answered)
  | .nothing =>
    if down.phase = .captivePortal then
      if down.portalSeen then down else down.reconnect around
    else (down.enter .off).activateHeld around

/-- Asks for the tunnel to be taken down, and waits for it in the given phase. -/
def beginDisconnect (c : Controller) (around : Surroundings) (during : Phase) : Controller :=
  let c := (c.cancelTimers.stopHealth around).enter during
  match around.accepts .deactivate with
  | .ok () =>
    { c.perform (.send .deactivate) with awaited := .disconnection }.arm .disconnect
      c.tuning.disconnectTimeout
  | .error _ => c.completeDisconnect around

/-- A server did not shake hands: it is left alone, and the tunnel is given up. -/
def giveUpServer (c : Controller) (around : Surroundings) (publicKey : String) : Controller :=
  ((c.coolDown around publicKey).emit (.handshakeFailed publicKey)).beginDisconnect around
    .disconnecting

/-- No server of the city can be used. -/
def giveUpCity (c : Controller) (around : Surroundings) : Controller :=
  { c with nextStep := .serverUnavailable }.beginDisconnect around .disconnecting

end Controller

end TunnelSession
