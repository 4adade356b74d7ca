/-
  TunnelSession.Proofs.Daemon.Effects

  What becomes of the keeper with each thing that it does, one equation for each. How
  the machinery fares decides about the tunnel, its owner and what is told; the log
  grows with everything and decides about nothing, so that no equation says more of it
  than that there is one.
-/
import TunnelSession.Daemon.Keeper

namespace TunnelSession.Daemon.Keeper

variable {β : Type} {k : Keeper β} {config : TunnelConfig}

theorem tunnel_eq_none (h : k.isActive = false) : k.tunnel = none := by
  rwa [isActive, Option.isSome_eq_false_iff, Option.isNone_iff_eq_none] at h

theorem isActive_of_some {t : ActiveTunnel} (h : k.tunnel = some t) : k.isActive = true := by
  rw [isActive, h]
  rfl

/-- With its own tunnel, machinery and log, the keeper is what it was. -/
theorem with_own (h : k.tunnel = none) :
    ({ k with machine := k.machine, tunnel := none, log := k.log } : Keeper β) = k := by
  rw [← h]

/-! ## Tunnels that go down -/

/-- What the machinery says when the tunnel is taken down, and its state then. It is only
    asked while one is up. -/
def stopped (b : Backend β) (k : Keeper β) : Except BackendError Unit × β :=
  if k.isActive then b.stop k.machine else (.ok (), k.machine)

theorem stopped_of_down (b : Backend β) (h : k.isActive = false) :
    k.stopped b = (.ok (), k.machine) := by
  rw [stopped, if_neg (Bool.eq_false_iff.mp h)]

theorem stopped_of_up (b : Backend β) (h : k.isActive = true) :
    k.stopped b = b.stop k.machine := if_pos h

theorem takeDown_eq (b : Backend β) (k : Keeper β) (cause : String) (level : LogLevel)
    (failed : String) :
    ∃ log, k.takeDown b cause level failed =
      ((k.stopped b).1, { k with machine := (k.stopped b).2, tunnel := none, log := log }) := by
  unfold takeDown
  cases htunnel : k.tunnel with
  | none =>
      have hdown : k.isActive = false := congrArg Option.isSome htunnel
      rw [stopped_of_down b hdown]
      exact ⟨k.log, by rw [with_own htunnel]⟩
  | some t =>
      rw [stopped_of_up b (isActive_of_some htunnel)]
      dsimp only [call, note]
      rcases b.stop k.machine with ⟨_ | _, machine⟩
      · exact ⟨_, rfl⟩
      · exact ⟨_, rfl⟩

theorem makeWay_eq (b : Backend β) (k : Keeper β) :
    ∃ log, k.makeWay b =
      { k with machine := (k.stopped b).2, tunnel := none, log := log } := by
  unfold makeWay
  cases htunnel : k.tunnel with
  | none =>
      have hdown : k.isActive = false := congrArg Option.isSome htunnel
      rw [stopped_of_down b hdown]
      exact ⟨k.log, (with_own htunnel).symm⟩
  | some old =>
      obtain ⟨log, heq⟩ := takeDown_eq b k "Already connected, switching server" .warn
        s!"Failed to stop previous tunnel to {old.config.endpointV4}"
      exact ⟨log, congrArg Prod.snd heq⟩

/-- What is told before the end of a tunnel that was taken down for good. -/
def farewell : Except BackendError Unit → List Reply
  | .ok () => []
  | .error _ => [.backendFailure]

/-- However the machinery fares, the tunnel is down, and that is the last that is said. -/
theorem deactivate_eq (b : Backend β) (k : Keeper β) :
    ∃ log, k.deactivate b =
      ({ k with
        machine := (k.stopped b).2
        tunnel := none
        log := log
        notices := k.notices ++ farewell (k.stopped b).1 }.disown.tell .disconnected) := by
  have hdown (log : Log) :
      ∃ log', ({ k with log := log } : Keeper β).takeDown b "Deactivating interface" .error
          "Failed to deactivate the interface" =
        ((k.stopped b).1, { k with machine := (k.stopped b).2, tunnel := none, log := log' }) :=
    takeDown_eq b { k with log := log } _ _ _
  obtain ⟨log, hlog⟩ : ∃ log, (if k.isActive then k else
      k.note (record .debug "Deactivate requested with no tunnel up")) = { k with log := log } := by
    split
    · exact ⟨k.log, rfl⟩
    · exact ⟨_, rfl⟩
  obtain ⟨log', heq⟩ := hdown log
  unfold deactivate
  rw [hlog]
  dsimp only
  rw [heq]
  cases (k.stopped b).1 with
  | ok _ => exact ⟨log', by rw [farewell, List.append_nil]⟩
  | error e => exact ⟨log', rfl⟩

theorem shutdown_of_up (b : Backend β) (h : k.isActive = true) :
    ∃ log, k.shutdown b =
      ({ k with machine := (k.stopped b).2, tunnel := none, log := log }.disown.tell
        .disconnected) := by
  obtain ⟨log, heq⟩ := takeDown_eq b k "Shutting down, bringing the tunnel down" .error
    "Failed to deactivate the interface"
  unfold shutdown
  rw [if_pos h, heq]
  exact ⟨_, rfl⟩

theorem shutdown_of_down (b : Backend β) (h : k.isActive = false) :
    ∃ log, k.shutdown b = { k with log := log }.disown := by
  unfold shutdown
  rw [if_neg (Bool.eq_false_iff.mp h)]
  exact ⟨_, rfl⟩

/-! ## Tunnels that come up -/

/-- The tunnel that is up stays. -/
theorem reject_of_up (h : k.isActive = true) (log : Log) (reason : String) :
    ({ k with log := log } : Keeper β).reject reason =
      ({ k with log := log.note (complaint reason) } : Keeper β).tell .disconnected :=
  congrArg (tell · .disconnected) (if_pos h)

/-- While no tunnel is up, whoever asked for one is forgotten. -/
theorem reject_of_down (h : k.isActive = false) (access : Access) (log : Log) (reason : String) :
    ({ k with access := access, log := log } : Keeper β).reject reason =
      ({ k with log := log.note (complaint reason) } : Keeper β).disown.tell .disconnected :=
  congrArg (tell · .disconnected) (if_neg (Bool.eq_false_iff.mp h))

theorem activate_of_invalid {e : ConfigError} (h : config.validate = .error e) (b : Backend β)
    (k : Keeper β) (clock : Nat) : k.activate b clock config = k.reject e.message := by
  rw [activate, h]

/-- A tunnel that the machinery starts is up, and its first handshake is to come. -/
theorem bringUp_of_started {b : Backend β} (h : (b.start k.machine config).1 = .ok ())
    (clock : Nat) :
    ∃ log, k.bringUp b clock config =
      { k with
        machine := (b.start k.machine config).2
        tunnel := some ⟨config, clock, none⟩
        log := log } := by
  unfold bringUp
  dsimp only [call, note]
  generalize b.start k.machine config = done at h ⊢
  obtain ⟨_, machine⟩ := done
  cases h
  exact ⟨_, rfl⟩

theorem bringUp_of_failed {b : Backend β} {e : BackendError}
    (h : (b.start k.machine config).1 = .error e) (clock : Nat) :
    ∃ log, k.bringUp b clock config =
      ({ k with machine := (b.start k.machine config).2, log := log }.disown.tell
        .disconnected) := by
  unfold bringUp
  dsimp only [call, note]
  generalize b.start k.machine config = done at h ⊢
  obtain ⟨_, machine⟩ := done
  cases h
  exact ⟨_, rfl⟩

/-- What the machinery says when a tunnel is brought up in the place of the one that is up,
    and its state then. -/
def started (b : Backend β) (k : Keeper β) (config : TunnelConfig) :
    Except BackendError Unit × β :=
  b.start (k.stopped b).2 config

theorem activate_of_valid (h : config.validate = .ok ()) (b : Backend β) (k : Keeper β)
    (clock : Nat) :
    ∃ log, k.activate b clock config =
      ({ k with machine := (k.stopped b).2, tunnel := none, log := log } : Keeper β).bringUp b
        clock config := by
  obtain ⟨log, hway⟩ := makeWay_eq b k
  exact ⟨log, by rw [activate, h, ← hway]⟩

/-- A valid tunnel comes up in the place of the old one. -/
theorem activate_of_started {b : Backend β} (hvalid : config.validate = .ok ())
    (h : (k.started b config).1 = .ok ()) (clock : Nat) :
    ∃ log, k.activate b clock config =
      { k with
        machine := (k.started b config).2
        tunnel := some ⟨config, clock, none⟩
        log := log } := by
  obtain ⟨log, hactivate⟩ := activate_of_valid hvalid b k clock
  rw [hactivate]
  exact bringUp_of_started h clock

/-- If it does not come up, none is up and none is owned. -/
theorem activate_of_failed {b : Backend β} (hvalid : config.validate = .ok ())
    {e : BackendError} (h : (k.started b config).1 = .error e) (clock : Nat) :
    ∃ log, k.activate b clock config =
      ({ k with machine := (k.started b config).2, tunnel := none, log := log }.disown.tell
        .disconnected) := by
  obtain ⟨log, hactivate⟩ := activate_of_valid hvalid b k clock
  rw [hactivate]
  exact bringUp_of_failed h clock

/-! ## Looks at the peer -/

/-- The peer of a tunnel in what the machinery shows. -/
def shownOf? (t : ActiveTunnel) : Except BackendError (Option PeerStatus) → Option PeerStatus
  | .ok (some p) => if p.publicKey = t.config.serverKey then some p else none
  | _ => none

/-- A peer is seen only if the machinery shows it, and it is that of the tunnel. -/
theorem shownOf?_eq_some {t : ActiveTunnel} {seen : Except BackendError (Option PeerStatus)}
    {p : PeerStatus} (h : shownOf? t seen = some p) :
    seen = .ok (some p) ∧ p.publicKey = t.config.serverKey := by
  unfold shownOf? at h
  split at h
  · next q =>
    by_cases hkey : q.publicKey = t.config.serverKey
    · rw [if_pos hkey] at h
      obtain rfl := Option.some.inj h
      exact ⟨rfl, hkey⟩
    · rw [if_neg hkey] at h
      cases h
  · cases h

/-- A look at the peer touches only the machinery. -/
theorem peer?_eq (b : Backend β) (k : Keeper β) (clock : Nat) (t : ActiveTunnel)
    (level : LogLevel) (failed : String) :
    ∃ log, k.peer? b clock t level failed =
      (shownOf? t (b.status k.machine clock).1,
        { k with machine := (b.status k.machine clock).2, log := log }) := by
  unfold peer?
  dsimp only [call]
  rcases b.status k.machine clock with ⟨_ | _ | p, machine⟩
  · exact ⟨_, rfl⟩
  · exact ⟨_, rfl⟩
  · exact ⟨_, rfl⟩

/-- A status is that of the tunnel that is up, and touches only the machinery. -/
theorem status_outcome (b : Backend β) (k : Keeper β) (clock : Nat) :
    ((k.status b clock).1.connected = true → k.isActive = true) ∧
      ∃ machine log, (k.status b clock).2 = { k with machine := machine, log := log } ∧
        (machine = k.machine ∨ machine = (b.status k.machine clock).2) := by
  unfold status
  split
  · exact ⟨nofun, k.machine, k.log, rfl, .inl rfl⟩
  · next t ht =>
    obtain ⟨log, hpeer⟩ := peer?_eq b k clock t .warn "Status query failed"
    rw [hpeer]
    cases shownOf? t (b.status k.machine clock).1 with
    | none => exact ⟨nofun, _, log, rfl, .inr rfl⟩
    | some p => exact ⟨fun _ => isActive_of_some ht, _, log, rfl, .inr rfl⟩

/-- With no tunnel up there is nothing to tell. -/
theorem status_of_down (b : Backend β) (h : k.isActive = false) (access : Access) (log : Log)
    (clock : Nat) :
    ({ k with access := access, log := log } : Keeper β).status b clock =
      ({}, { k with access := access, log := log }) := by
  rw [status, tunnel_eq_none h]

/-- A look for the handshake shows none and touches only the machinery, or it shows that of
    the tunnel that is up, and all are told. -/
theorem checkHandshake_cases (b : Backend β) (k : Keeper β) (clock : Nat) :
    (∃ machine log, k.checkHandshake b clock = { k with machine := machine, log := log } ∧
      (machine = k.machine ∨ machine = (b.status k.machine clock).2)) ∨
    ∃ t p log, k.tunnel = some t ∧ (b.status k.machine clock).1 = .ok (some p) ∧
      p.publicKey = t.config.serverKey ∧ p.lastHandshake ≠ 0 ∧
      k.checkHandshake b clock =
        ({ k with
          machine := (b.status k.machine clock).2
          log := log
          tunnel := some { t with handshakeAt := some p.lastHandshake } }.tell
            (.connected t.config.serverKey)) := by
  unfold checkHandshake
  split
  · exact .inl ⟨k.machine, k.log, rfl, .inl rfl⟩
  · next t ht =>
    obtain ⟨log, hpeer⟩ := peer?_eq b (k.note (record .debug "Checking for handshake...")) clock t
      .debug "Handshake check failed"
    dsimp only
    rw [hpeer]
    dsimp only [note]
    cases hshown : shownOf? t (b.status k.machine clock).1 with
    | none => exact .inl ⟨_, log, rfl, .inr rfl⟩
    | some p =>
        obtain ⟨hseen, hkey⟩ := shownOf?_eq_some hshown
        dsimp only
        split
        · exact .inl ⟨_, log, rfl, .inr rfl⟩
        · next hshaken => exact .inr ⟨t, p, _, ht, hseen, hkey, hshaken, rfl⟩

/-! ## Requests -/

variable {user : Option UInt32} {r : Request} {reason : String} {access : Access}

/-- What is logged about a request of a kind before it is performed or passed over. -/
def preamble (k : Keeper β) (user : Option UInt32) (r : Request) : List LogRecord :=
  receipt r.kind :: k.access.records user r.kind k.isActive

/-- A request that its user may make is performed. -/
theorem request_of_allowed (h : k.access.authorize user r.kind k.isActive = (true, access))
    (b : Backend β) (clock : Nat) :
    k.request b clock user r =
      ({ k with access := access, log := k.log.noteAll (k.preamble user r) } : Keeper β).perform b
        clock r := by
  rw [preamble, Log.noteAll_cons]
  unfold request authorize
  dsimp only [note, isActive] at h ⊢
  rw [h]

/-- Of a request that its user may not make nothing comes but records. -/
theorem request_of_refused (h : k.access.authorize user r.kind k.isActive = (false, access))
    (b : Backend β) (clock : Nat) :
    k.request b clock user r = (refusal r, { k with
      access := access
      log := k.log.noteAll (k.preamble user r ++ [disregard r.kind]) }) := by
  rw [Log.noteAll_concat, preamble, Log.noteAll_cons]
  unfold request authorize
  dsimp only [note, isActive] at h ⊢
  rw [h]

theorem invalidActivation_of_allowed
    (h : k.access.authorize user "activate" k.isActive = (true, access)) :
    k.invalidActivation user reason =
      ({ k with
        access := access
        log := k.log.noteAll (k.access.records user "activate" k.isActive) } : Keeper β).reject
          reason := by
  unfold invalidActivation authorize
  rw [h]

theorem invalidActivation_of_refused
    (h : k.access.authorize user "activate" k.isActive = (false, access)) :
    k.invalidActivation user reason = { k with
      access := access
      log := k.log.noteAll
        (k.access.records user "activate" k.isActive ++ [disregard "activate"]) } := by
  rw [Log.noteAll_concat]
  unfold invalidActivation authorize
  rw [h]
  rfl

end TunnelSession.Daemon.Keeper
