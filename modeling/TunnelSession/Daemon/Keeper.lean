/-
  TunnelSession.Daemon.Keeper

  The keeper of the tunnel: it owns the machinery, knows who may use it, and keeps
  the log. It handles one command at a time, and tells all clients what becomes of
  the tunnel. What it logs of its own doings goes into the log that it keeps, as does
  what the machinery logs.
-/
import TunnelSession.Daemon.Access
import TunnelSession.Daemon.Backend
import TunnelSession.Wire.Message

namespace TunnelSession.Daemon

/-- A tunnel that is up. Times are in seconds of the wall clock. -/
structure ActiveTunnel where
  config : TunnelConfig
  activatedAt : Nat
  /-- The first handshake, once it is seen. -/
  handshakeAt : Option UInt64 := none
  deriving DecidableEq

/-- The state of the keeper, over machinery in a state of type `β`. -/
structure Keeper (β : Type) where
  machine : β
  access : Access := {}
  log : Log := {}
  tunnel : Option ActiveTunnel := none
  /-- What was told to all clients, the latest last. -/
  notices : List Reply := []

/-- What can be asked of the keeper. -/
inductive Demand
  | request (user : Option UInt32) (r : Request)
  /-- A request to bring a tunnel up that could not be read, and why. -/
  | invalidActivation (user : Option UInt32) (reason : String := "")
  /-- To take the tunnel down for good. -/
  | shutdown
  deriving DecidableEq

namespace Keeper

variable {β : Type} (b : Backend β)

def isActive (k : Keeper β) : Bool := k.tunnel.isSome

/-- Whether a tunnel is up that has not been seen to shake hands. -/
def awaitsHandshake (k : Keeper β) : Bool :=
  k.tunnel.any (fun t => t.handshakeAt.isNone)

/-- Tells all clients. -/
def tell (k : Keeper β) (r : Reply) : Keeper β :=
  { k with notices := k.notices ++ [r] }

/-- A record of the keeper. -/
def record (level : LogLevel) (message : String) : LogRecord :=
  ⟨level, "hop_daemon::daemon", message⟩

/-- That a request of a kind has come. -/
def receipt (kind : String) : LogRecord := record .debug s!"Command received: {kind}"

/-- That a request of a kind is passed over, for its user may not make it. -/
def disregard (kind : String) : LogRecord :=
  record .warn s!"Caller is unauthorized. Ignoring {kind}"

/-- That a tunnel cannot be brought up, for a reason. -/
def complaint (reason : String) : LogRecord := record .error s!"Invalid configuration: {reason}"

/-- Logs a record. -/
def note (k : Keeper β) (r : LogRecord) : Keeper β :=
  { k with log := k.log.note r }

/-- Has the machinery do something, and logs what it has logged meanwhile. -/
def call {α : Type} (k : Keeper β) (action : β → α × β) : α × Keeper β :=
  let done := action k.machine
  (done.1, { k with
    machine := done.2
    log := k.log.noteAll ((b.logged done.2).drop (b.logged k.machine).length) })

/-- Forgets the owner of the tunnel. -/
def disown (k : Keeper β) : Keeper β :=
  { k with access := k.access.reset }

/-- Turns down a tunnel that cannot be brought up, for a reason. One that is up stays. -/
def reject (k : Keeper β) (reason : String) : Keeper β :=
  let k := k.note (complaint reason)
  (if k.isActive then k else k.disown).tell .disconnected

/-- Takes the tunnel down, if one is up. What it is taken down for is logged, and so is
    the failure if the machinery fails. -/
def takeDown (k : Keeper β) (cause : String) (level : LogLevel) (failed : String) :
    Except BackendError Unit × Keeper β :=
  match k.tunnel with
  | none => (.ok (), k)
  | some _ =>
    match ({ k with tunnel := none }.note (record .info cause)).call b b.stop with
    | (.ok (), k) => (.ok (), k)
    | (.error e, k) => (.error e, k.note (record level s!"{failed}: {e.message}"))

/-- Takes the tunnel down that is to be changed for another. If the machinery fails, the
    other one is brought up all the same. -/
def makeWay (k : Keeper β) : Keeper β :=
  match k.tunnel with
  | none => k
  | some old => (k.takeDown b "Already connected, switching server" .warn
      s!"Failed to stop previous tunnel to {old.config.endpointV4}").2

/-- The owner of the tunnel, as the log has it. -/
def ownerText (k : Keeper β) : String :=
  match k.access.owner with
  | none => "None"
  | some uid => s!"Some({uid})"

/-- Brings a tunnel up, while none is. -/
def bringUp (k : Keeper β) (clock : Nat) (c : TunnelConfig) : Keeper β :=
  let k := k.note (record .info
    s!"Activating interface via {b.name} (endpoint {c.endpointV4}:{c.port})")
  match k.call b (b.start · c) with
  | (.ok (), k) =>
    { k with tunnel := some ⟨c, clock, none⟩ }.note
      (record .debug s!"Session owned by uid {k.ownerText}")
  | (.error e, k) =>
    (k.note (record .error s!"Failed to activate the interface: {e.message}")).disown.tell
      .disconnected

/-- Brings a tunnel up in the place of the one that is up. -/
def activate (k : Keeper β) (clock : Nat) (c : TunnelConfig) : Keeper β :=
  match c.validate with
  | .error e => k.reject e.message
  | .ok () => (k.makeWay b).bringUp b clock c

/-- Takes the tunnel down and tells so. If the machinery failed, the tunnel counts
    as down all the same. -/
def deactivate (k : Keeper β) : Keeper β :=
  let k := if k.isActive then k
    else k.note (record .debug "Deactivate requested with no tunnel up")
  let k := match k.takeDown b "Deactivating interface" .error
      "Failed to deactivate the interface" with
    | (.ok (), k) => k
    | (.error _, k) => k.tell .backendFailure
  k.disown.tell .disconnected

/-- The state of the peer of the tunnel that is up. A look that fails is logged. -/
def peer? (k : Keeper β) (clock : Nat) (t : ActiveTunnel) (level : LogLevel) (failed : String) :
    Option PeerStatus × Keeper β :=
  match k.call b (b.status · clock) with
  | (.ok (some p), k) => (if p.publicKey = t.config.serverKey then some p else none, k)
  | (.ok none, k) => (none, k)
  | (.error e, k) => (none, k.note (record level s!"{failed}: {e.message}"))

/-- The status for a client. Its time is that of the first handshake, or of the
    activation before it. -/
def status (k : Keeper β) (clock : Nat) : StatusReport × Keeper β :=
  match k.tunnel with
  | none => ({}, k)
  | some t =>
    match k.peer? b clock t .warn "Status query failed" with
    | (none, k) => ({}, k)
    | (some p, k) => ({
        connected := true
        gatewayV4 := t.config.gatewayV4
        deviceV4 := t.config.deviceV4
        date := t.handshakeAt.getD (UInt64.ofNat t.activatedAt)
        txBytes := p.txBytes
        rxBytes := p.rxBytes }, k)

/-- Looks whether the tunnel has shaken hands, and tells so if it has. -/
def checkHandshake (k : Keeper β) (clock : Nat) : Keeper β :=
  match k.tunnel with
  | none => k
  | some t =>
    let k := k.note (record .debug "Checking for handshake...")
    match k.peer? b clock t .debug "Handshake check failed" with
    | (none, k) => k
    | (some p, k) =>
      if p.lastHandshake = 0 then k
      else
        let k := { k with tunnel := some { t with handshakeAt := some p.lastHandshake } }
        (k.note (record .info "Handshake completed")).tell (.connected t.config.serverKey)

/-- The answer to a request that its user may not make. Questions are answered
    with nothing in the answer. -/
def refusal : Request → Option Reply
  | .status => some (.status {})
  | .logs => some (.logs "")
  | _ => none

/-- Does what an authorized request asks for. -/
def perform (k : Keeper β) (clock : Nat) : Request → Option Reply × Keeper β
  | .activate c => (none, k.activate b clock c)
  | .deactivate => (none, k.deactivate b)
  | .status => let s := k.status b clock; (some (.status s.1), s.2)
  | .logs => (some (.logs k.log.contents), k)
  | .cleanLogs => (none, { k with log := k.log.clear })

/-- Decides whether a user may make a request of a kind, and logs what there is to
    say about it. -/
def authorize (k : Keeper β) (user : Option UInt32) (kind : String) : Bool × Keeper β :=
  let decision := k.access.authorize user kind k.isActive
  (decision.1, { k with
    access := decision.2
    log := k.log.noteAll (k.access.records user kind k.isActive) })

/-- Handles a request. -/
def request (k : Keeper β) (clock : Nat) (user : Option UInt32) (r : Request) :
    Option Reply × Keeper β :=
  match (k.note (receipt r.kind)).authorize user r.kind with
  | (true, k) => k.perform b clock r
  | (false, k) => (refusal r, k.note (disregard r.kind))

/-- Handles a request to bring a tunnel up that could not be read, for a reason. -/
def invalidActivation (k : Keeper β) (user : Option UInt32) (reason : String) : Keeper β :=
  match k.authorize user "activate" with
  | (true, k) => k.reject reason
  | (false, k) => k.note (disregard "activate")

/-- Takes the tunnel down for good. -/
def shutdown (k : Keeper β) : Keeper β :=
  let k := if k.isActive then
      (k.takeDown b "Shutting down, bringing the tunnel down" .error
        "Failed to deactivate the interface").2.tell .disconnected
    else k
  k.disown.note (record .debug "Tunnel actor stopped")

/-- Handles a command. -/
def handle (k : Keeper β) (clock : Nat) : Demand → Option Reply × Keeper β
  | .request user r => k.request b clock user r
  | .invalidActivation user reason => (none, k.invalidActivation user reason)
  | .shutdown => (none, k.shutdown b)

end Keeper

end TunnelSession.Daemon
