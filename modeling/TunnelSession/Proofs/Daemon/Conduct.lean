/-
  TunnelSession.Proofs.Daemon.Conduct

  How the keeper behaves towards the user that owns its tunnel: what becomes of
  the tunnel with each request, and what is said. The machinery is any; a start
  or a stop may fail at any time.
-/
import TunnelSession.Daemon.Dummy
import TunnelSession.Proofs.Daemon.Effects
import TunnelSession.Proofs.Wire.Requests

namespace TunnelSession.Daemon

/-- Machinery whose starts and stops do not fail while it is fit, and that
    stays fit. -/
structure Backend.Steady {β : Type} (b : Backend β) (fit : β → Prop) : Prop where
  start : ∀ m config, fit m → (b.start m config).1 = .ok () ∧ fit (b.start m config).2
  stop : ∀ m, fit m → (b.stop m).1 = .ok () ∧ fit (b.stop m).2
  status : ∀ m clock, fit m → fit (b.status m clock).2

/-- No failure is injected. -/
def Dummy.Fit (d : Dummy) : Prop := d.failStart = false ∧ d.failStop = false

/-- The machinery without a tunnel is steady, as long as no failure is injected. -/
theorem Dummy.steady : Dummy.backend.Steady Dummy.Fit where
  start d config hfit := by simp [Dummy.backend, Dummy.start, Dummy.Fit, hfit.1, hfit.2]
  stop d hfit := by simp [Dummy.backend, Dummy.stop, Dummy.Fit, hfit.1, hfit.2]
  status d clock hfit := by
    simp only [Dummy.backend, Dummy.status]
    split <;> exact hfit

namespace Keeper

variable {β : Type} {b : Backend β} {fit : β → Prop} {k : Keeper β} {user : UInt32}
  {config : TunnelConfig}

/-- The configuration of the tunnel that is up. -/
def config? (k : Keeper β) : Option TunnelConfig := k.tunnel.map (·.config)

theorem isActive_eq (k : Keeper β) : k.isActive = k.config?.isSome := by
  rw [config?, Option.isSome_map]
  rfl

/-- A tunnel that is up can be ruled by the user. -/
def OwnedBy (k : Keeper β) (user : UInt32) : Prop :=
  k.isActive = true → user = superuser ∨ k.access.owner = some user

/-! ## The tunnel -/

theorem stopped_steady (hb : b.Steady fit) (hfit : fit k.machine) :
    (k.stopped b).1 = .ok () ∧ fit (k.stopped b).2 := by
  cases hup : k.isActive with
  | true =>
      rw [stopped_of_up b hup]
      exact hb.stop k.machine hfit
  | false =>
      rw [stopped_of_down b hup]
      exact ⟨rfl, hfit⟩

theorem started_steady (hb : b.Steady fit) (hfit : fit k.machine) (config : TunnelConfig) :
    (k.started b config).1 = .ok () ∧ fit (k.started b config).2 :=
  hb.start _ config (stopped_steady hb hfit).2

/-- A valid tunnel comes up in the place of the old one, or none is up and all
    are told. -/
theorem activate_outcome (b : Backend β) (k : Keeper β) (clock : Nat)
    (hvalid : config.validate = .ok ()) :
    ((k.activate b clock config).config? = some config ∧
      (k.activate b clock config).access = k.access ∧
      (k.activate b clock config).notices = k.notices) ∨
    (k.activate b clock config).config? = none ∧
      (k.activate b clock config).notices = k.notices ++ [.disconnected] := by
  cases hstarted : (k.started b config).1 with
  | ok _ =>
      obtain ⟨log, heq⟩ := activate_of_started hvalid hstarted clock
      rw [heq]
      exact .inl ⟨rfl, rfl, rfl⟩
  | error e =>
      obtain ⟨log, heq⟩ := activate_of_failed hvalid hstarted clock
      rw [heq]
      exact .inr ⟨rfl, rfl⟩

theorem activate_steady (hb : b.Steady fit) (hfit : fit k.machine) (clock : Nat)
    (hvalid : config.validate = .ok ()) :
    (k.activate b clock config).config? = some config ∧
      fit (k.activate b clock config).machine := by
  obtain ⟨hstarted, hfit'⟩ := started_steady hb hfit config
  obtain ⟨log, heq⟩ := activate_of_started hvalid hstarted clock
  rw [heq]
  exact ⟨rfl, hfit'⟩

/-- However the machinery fares, the tunnel counts as down, and that is the last
    that is said. -/
theorem deactivate_outcome (b : Backend β) (k : Keeper β) :
    (k.deactivate b).tunnel = none ∧
      ((k.deactivate b).notices = k.notices ++ [.disconnected] ∨
        (k.stopped b).1 ≠ .ok () ∧
          (k.deactivate b).notices = k.notices ++ [.backendFailure, .disconnected]) := by
  obtain ⟨log, heq⟩ := deactivate_eq b k
  rw [heq]
  refine ⟨rfl, ?_⟩
  show (k.notices ++ farewell (k.stopped b).1) ++ [.disconnected] = _ ∨
    _ ∧ (k.notices ++ farewell (k.stopped b).1) ++ [.disconnected] = _
  rw [List.append_assoc]
  cases (k.stopped b).1 with
  | ok _ => exact .inl rfl
  | error e => exact .inr ⟨nofun, rfl⟩

theorem deactivate_fit (hb : b.Steady fit) (hfit : fit k.machine) :
    fit (k.deactivate b).machine := by
  obtain ⟨log, heq⟩ := deactivate_eq b k
  rw [heq]
  exact (stopped_steady hb hfit).2

/-- A look for the handshake leaves the tunnel up; what is told is the key of its
    server. -/
theorem checkHandshake_outcome (b : Backend β) (k : Keeper β) (clock : Nat) :
    (k.checkHandshake b clock).config? = k.config? ∧
      (k.checkHandshake b clock).access = k.access ∧
      ((k.checkHandshake b clock).notices = k.notices ∨
        ∃ config, k.config? = some config ∧
          (k.checkHandshake b clock).notices = k.notices ++ [.connected config.serverKey]) ∧
      ((k.checkHandshake b clock).machine = k.machine ∨
        (k.checkHandshake b clock).machine = (b.status k.machine clock).2) := by
  obtain ⟨machine, log, heq, hmachine⟩ | ⟨t, p, log, ht, -, -, -, heq⟩ :=
    checkHandshake_cases b k clock
  · rw [heq]
    exact ⟨rfl, rfl, .inl rfl, hmachine⟩
  · have hconfig : k.config? = some t.config := by rw [config?, ht]; rfl
    rw [heq]
    exact ⟨hconfig.symm, rfl, .inr ⟨t.config, hconfig, rfl⟩, .inr rfl⟩

/-! ## Requests of the owner -/

/-- What a request of the owner comes to: from the tunnel that was up, the one that
    is up afterwards and what is said. -/
inductive Outcome (up : Option TunnelConfig) : Request → Option TunnelConfig → List Reply → Prop
  | started (config : TunnelConfig) : Outcome up (.activate config) (some config) []
  | failed (config : TunnelConfig) : Outcome up (.activate config) none [.disconnected]
  | stopped : Outcome up .deactivate none [.disconnected]
  | stoppedBadly : Outcome up .deactivate none [.backendFailure, .disconnected]
  /-- There is nothing to take down, and not everyone may ask for it. -/
  | ignored (h : up = none) : Outcome up .deactivate none []
  | told (s : StatusReport) (h : s.connected = true → up.isSome = true) :
      Outcome up .status up [.status s]
  | read (text : String) : Outcome up .logs up [.logs text]
  | cleaned : Outcome up .cleanLogs up []

/-- The owner may ask for anything, and anyone becomes the owner by bringing a
    tunnel up. -/
theorem authorize_owner (h : k.OwnedBy user) (kind : String) :
    k.access.authorize (some user) kind k.isActive =
      if k.isActive then (true, k.access)
      else if kind == "activate" then (true, ⟨some user⟩)
      else (kind == "status" || kind == "logs" || user == superuser, k.access) := by
  unfold Access.authorize
  dsimp only
  by_cases hactive : k.isActive = true
  · rw [if_pos hactive, if_pos hactive]
    rcases h hactive with huser | howner
    · rw [huser]
      simp
    · rw [howner]
      simp
  · rw [if_neg hactive, if_neg hactive]

/-- A request of the owner is performed, or it is one that means nothing while no
    tunnel is up and is refused. -/
theorem request_cases (b : Backend β) (clock : Nat) (howned : k.OwnedBy user) (r : Request) :
    (∃ access log, k.request b clock (some user) r =
        ({ k with access := access, log := log } : Keeper β).perform b clock r ∧
      ({ k with access := access, log := log } : Keeper β).OwnedBy user ∧
      ∀ config, r = .activate config → user = superuser ∨ access.owner = some user) ∨
    k.tunnel = none ∧ (r = .deactivate ∨ r = .cleanLogs) ∧
      ∃ log, k.request b clock (some user) r = (none, { k with log := log }) := by
  have hdecision := authorize_owner howned r.kind
  by_cases hactive : k.isActive = true
  · rw [if_pos hactive] at hdecision
    exact .inl ⟨k.access, _, request_of_allowed hdecision b clock, howned,
      fun _ _ => howned hactive⟩
  · rw [if_neg hactive] at hdecision
    have hnone : k.tunnel = none := by simpa [isActive] using hactive
    have hidle (access : Access) (log : Log) :
        ({ k with access := access, log := log } : Keeper β).OwnedBy user :=
      fun h => absurd h hactive
    -- while no tunnel is up, what may be asked for depends on the request
    cases r with
    | activate config =>
        exact .inl ⟨⟨some user⟩, _, request_of_allowed hdecision b clock, hidle _ _,
          fun _ _ => .inr rfl⟩
    | status | logs =>
        exact .inl ⟨k.access, _, request_of_allowed hdecision b clock, hidle _ _, by simp⟩
    | deactivate | cleanLogs =>
        by_cases huser : user = superuser
        · rw [beq_iff_eq.mpr huser] at hdecision
          exact .inl ⟨k.access, _, request_of_allowed hdecision b clock, hidle _ _, by simp⟩
        · rw [beq_false_of_ne huser] at hdecision
          exact .inr ⟨hnone, by simp, _, request_of_refused hdecision b clock⟩

theorem perform_outcome (b : Backend β) (clock : Nat) (howned : k.OwnedBy user) {r : Request}
    (hr : ∀ config, r = .activate config →
      config.validate = .ok () ∧ (user = superuser ∨ k.access.owner = some user)) :
    (k.perform b clock r).2.OwnedBy user ∧
      ∃ news, (k.perform b clock r).2.notices = k.notices ++ news ∧
        Outcome k.config? r (k.perform b clock r).2.config?
          ((k.perform b clock r).1.toList ++ news) := by
  cases r with
  | activate config =>
      obtain ⟨hvalid, hruled⟩ := hr config rfl
      rcases activate_outcome b k clock hvalid with
        ⟨hconfig, haccess, hnotices⟩ | ⟨hconfig, hnotices⟩
      · refine ⟨fun _ => ?_, [], ?_, ?_⟩
        · rw [perform, haccess]
          exact hruled
        · rw [perform, hnotices, List.append_nil]
        · rw [perform, hconfig]
          exact .started config
      · refine ⟨fun hactive => ?_, [.disconnected], hnotices, ?_⟩
        · -- no tunnel is up, so none has to be owned
          simp_all [perform, isActive, config?]
        · rw [perform, hconfig]
          exact .failed config
  | deactivate =>
      obtain ⟨htunnel, hnotices⟩ := deactivate_outcome b k
      have hconfig : (k.deactivate b).config? = none := by rw [config?, htunnel]; rfl
      refine ⟨fun hactive => ?_, ?_⟩
      · rw [perform, isActive, htunnel] at hactive
        cases hactive
      · rw [perform, hconfig]
        rcases hnotices with hnotices | ⟨-, hnotices⟩
        · exact ⟨_, hnotices, .stopped⟩
        · exact ⟨_, hnotices, .stoppedBadly⟩
  | status =>
      obtain ⟨htold, m, log, hframe, -⟩ := status_outcome b k clock
      rw [perform]
      dsimp only
      rw [hframe]
      refine ⟨howned, [], (List.append_nil _).symm, .told _ fun h => ?_⟩
      simpa [config?, isActive] using htold h
  | logs => exact ⟨howned, [], (List.append_nil _).symm, .read _⟩
  | cleanLogs => exact ⟨howned, [], (List.append_nil _).symm, .cleaned⟩

/-- What a request of the owner comes to. The tunnel, if there is one, is the
    owner's afterwards. -/
theorem request_outcome (b : Backend β) (clock : Nat) (howned : k.OwnedBy user) {r : Request}
    (hvalid : ∀ config, r = .activate config → config.validate = .ok ()) :
    (k.request b clock (some user) r).2.OwnedBy user ∧
      ∃ news, (k.request b clock (some user) r).2.notices = k.notices ++ news ∧
        Outcome k.config? r (k.request b clock (some user) r).2.config?
          ((k.request b clock (some user) r).1.toList ++ news) := by
  rcases request_cases b clock howned r with
    ⟨access, log, heq, howned', hruled⟩ | ⟨hnone, hr, log, heq⟩
  · rw [heq]
    exact perform_outcome b clock howned' fun config hc => ⟨hvalid config hc, hruled config hc⟩
  · rw [heq]
    refine ⟨howned, [], (List.append_nil _).symm, ?_⟩
    have hconfig : k.config? = none := by rw [config?, hnone]; rfl
    show Outcome k.config? r k.config? []
    rw [hconfig]
    rcases hr with rfl | rfl
    · exact .ignored rfl
    · exact .cleaned

theorem perform_steady (hb : b.Steady fit) (clock : Nat) (hfit : fit k.machine) {r : Request}
    (hvalid : ∀ config, r = .activate config → config.validate = .ok ()) :
    fit (k.perform b clock r).2.machine ∧
      (k.perform b clock r).2.config? = r.want k.config? ∧
      (.backendFailure ∈ (k.perform b clock r).1.toList ++ (k.perform b clock r).2.notices →
        .backendFailure ∈ k.notices) := by
  cases r with
  | activate config =>
      obtain ⟨hconfig, hfit'⟩ := activate_steady hb hfit clock (hvalid config rfl)
      refine ⟨hfit', hconfig, fun hmem => ?_⟩
      rcases activate_outcome b k clock (hvalid config rfl) with
        ⟨-, -, hnotices⟩ | ⟨-, hnotices⟩
      · rw [perform, hnotices] at hmem
        exact hmem
      · rw [perform, hnotices] at hmem
        simpa using hmem
  | deactivate =>
      obtain ⟨htunnel, hnotices⟩ := deactivate_outcome b k
      refine ⟨deactivate_fit hb hfit, ?_, fun hmem => ?_⟩
      · rw [perform, config?, htunnel]
        rfl
      · rcases hnotices with hnotices | ⟨hfailed, -⟩
        · rw [perform, hnotices] at hmem
          simpa using hmem
        · exact absurd (stopped_steady hb hfit).1 hfailed
  | status =>
      obtain ⟨-, m, log, hframe, hm⟩ := status_outcome b k clock
      rw [perform]
      dsimp only
      rw [hframe]
      refine ⟨?_, rfl, fun hmem => by simpa using hmem⟩
      rcases hm with rfl | rfl
      · exact hfit
      · exact hb.status k.machine clock hfit
  | logs => exact ⟨hfit, rfl, fun hmem => by simpa [perform] using hmem⟩
  | cleanLogs => exact ⟨hfit, rfl, id⟩

/-- Over steady machinery a request leaves just the tunnel up that it asks for. -/
theorem request_steady (hb : b.Steady fit) (clock : Nat) (hfit : fit k.machine)
    (howned : k.OwnedBy user)
    {r : Request} (hvalid : ∀ config, r = .activate config → config.validate = .ok ()) :
    fit (k.request b clock (some user) r).2.machine ∧
      (k.request b clock (some user) r).2.config? = r.want k.config? ∧
      (.backendFailure ∈ (k.request b clock (some user) r).1.toList ++
        (k.request b clock (some user) r).2.notices → .backendFailure ∈ k.notices) := by
  rcases request_cases b clock howned r with
    ⟨access, log, heq, -, -⟩ | ⟨hnone, hr, log, heq⟩
  · rw [heq]
    exact perform_steady (k := { k with access := access, log := log }) hb clock hfit hvalid
  · rw [heq]
    refine ⟨hfit, ?_, id⟩
    show k.config? = r.want k.config?
    rw [config?, hnone]
    rcases hr with rfl | rfl <;> rfl

end Keeper

end TunnelSession.Daemon
