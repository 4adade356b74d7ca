/-
  TunnelSession.Proofs.Daemon.Rejections

  What becomes of a request for a tunnel that does not come up. Whoever asks is written
  down as the owner before the configuration is looked at, and the tunnel that is up
  is taken down before the new one is started, so that each way to fail has something
  else to make up for. A request that cannot be read and a configuration that is not
  valid leave the keeper as it was, but that they are logged; a start that fails leaves
  it without a tunnel and without an owner.
-/
import TunnelSession.Proofs.Daemon.Calls
import TunnelSession.Proofs.Daemon.Endings

namespace TunnelSession.Daemon.Keeper

variable {β : Type} {b : Backend β} {k : Keeper β} {user : UInt32} {config : TunnelConfig}
  {d : Demand}

/-- The user may bring a tunnel up, in the place of the one that is up if there is one. -/
def MayActivate (k : Keeper β) (user : Option UInt32) : Prop :=
  (k.access.authorize user "activate" k.isActive).1 = true

instance (k : Keeper β) (user : Option UInt32) : Decidable (k.MayActivate user) :=
  inferInstanceAs (Decidable (_ = true))

/-- The decision on a user who may bring a tunnel up: while one is up it changes nothing,
    otherwise the user is written down as the owner. -/
theorem authorize_of_mayActivate (h : k.MayActivate (some user)) :
    k.isActive = true ∧
        k.access.authorize (some user) "activate" k.isActive = (true, k.access) ∨
      k.isActive = false ∧
        k.access.authorize (some user) "activate" k.isActive = (true, ⟨some user⟩) := by
  obtain heq | ⟨uid, huser, ⟨hup, -, heq⟩ | ⟨hdown, -, heq⟩ | ⟨-, hkind, -⟩⟩ :=
    k.access.authorize_cases (some user) "activate" k.isActive
  · rw [MayActivate, heq] at h
    cases h
  · exact .inl ⟨hup, heq⟩
  · obtain rfl := Option.some.inj huser
    exact .inr ⟨hdown, heq⟩
  · exact absurd rfl hkind

/-- Where no tunnel is up nobody owns one. -/
theorem Owned.access_of_down (hk : k.Owned) (hdown : k.isActive = false) : k.access = {} := by
  have howner : k.access.owner.isSome = false := hk.symm.trans hdown
  rw [Option.isSome_eq_false_iff, Option.isNone_iff_eq_none] at howner
  exact congrArg Access.mk howner

/-! ## Requests that are turned down -/

/-- What is wrong with a configuration, as the log has it. -/
def faultOf (config : TunnelConfig) : String :=
  match config.validate with
  | .ok () => ""
  | .error e => e.message

/-- What is logged about a request for a tunnel that cannot be brought up, if its user may
    make it. -/
def rejectionRecords (k : Keeper β) : Demand → List LogRecord
  | .request user (.activate config) =>
      k.preamble user (.activate config) ++ [complaint (faultOf config)]
  | .invalidActivation user reason =>
      k.access.records user "activate" k.isActive ++ [complaint reason]
  | _ => []

theorem reject_of_owned (hk : k.Owned) (h : k.MayActivate (some user)) (records : List LogRecord)
    (reason : String) :
    ({ k with
      access := (k.access.authorize (some user) "activate" k.isActive).2
      log := k.log.noteAll records } : Keeper β).reject reason =
    ({ k with log := k.log.noteAll (records ++ [complaint reason]) } : Keeper β).tell
      .disconnected := by
  rw [Log.noteAll_concat]
  obtain ⟨hup, heq⟩ | ⟨hdown, heq⟩ := authorize_of_mayActivate h
  · rw [heq, reject_of_up hup]
  · -- the user who was written down is forgotten, and nobody was written down before
    rw [reject_of_down hdown]
    have haccess : k.access = {} := hk.access_of_down hdown
    rw [disown, Access.reset, ← haccess]

/-- Nothing comes of a request for a tunnel that cannot be brought up but the word that
    the tunnel is down, and what is logged. -/
theorem handle_of_unusable (hk : k.Owned) (hd : d.Unusable user) (h : k.MayActivate (some user))
    (clock : Nat) :
    k.handle b clock d =
      (none, ({ k with log := k.log.noteAll (k.rejectionRecords d) } : Keeper β).tell
        .disconnected) := by
  have hallowed : k.access.authorize (some user) "activate" k.isActive =
      (true, (k.access.authorize (some user) "activate" k.isActive).2) := Prod.ext h rfl
  cases hd with
  | unread reason =>
      rw [handle, invalidActivation_of_allowed hallowed, reject_of_owned hk h]
      rfl
  | invalid config hinvalid =>
      cases hvalidate : config.validate with
      | ok _ => exact absurd hvalidate hinvalid
      | error e =>
          have hrequest := request_of_allowed (r := .activate config) hallowed b clock
          rw [handle, hrequest, perform, activate_of_invalid hvalidate, reject_of_owned hk h,
            rejectionRecords, faultOf, hvalidate]

/-- The keeper but for its log. -/
def unlogged (k : Keeper β) : Keeper β := { k with log := {} }

/-- Why a tunnel cannot be brought up shows in the log alone. -/
theorem unlogged_reject {k k' : Keeper β} (h : k.unlogged = k'.unlogged) (reason reason' : String) :
    (k.reject reason).unlogged = (k'.reject reason').unlogged := by
  obtain ⟨machine, access, log, tunnel, notices⟩ := k
  obtain ⟨machine', access', log', tunnel', notices'⟩ := k'
  cases h
  cases tunnel <;> rfl

/-- A configuration that is not valid is as good as none: but for what is logged, both are
    turned down in the same way, whoever asks. -/
theorem handle_of_invalid (h : config.validate ≠ .ok ()) (b : Backend β) (k : Keeper β)
    (clock : Nat) (user : Option UInt32) (reason : String) :
    let invalid := k.handle b clock (.request user (.activate config))
    let unread := k.handle b clock (.invalidActivation user reason)
    invalid.1 = unread.1 ∧ invalid.2.unlogged = unread.2.unlogged := by
  obtain ⟨e, hvalidate⟩ : ∃ e, config.validate = .error e := by
    cases hvalidate : config.validate with
    | ok _ => exact absurd hvalidate h
    | error e => exact ⟨e, rfl⟩
  dsimp only [handle]
  rcases hdecision : k.access.authorize user (Request.activate config).kind k.isActive with
    ⟨_ | _, access⟩
  · rw [request_of_refused hdecision, invalidActivation_of_refused hdecision]
    exact ⟨rfl, rfl⟩
  · rw [request_of_allowed hdecision, invalidActivation_of_allowed hdecision, perform,
      activate_of_invalid hvalidate]
    refine ⟨rfl, ?_⟩
    apply unlogged_reject
    rfl

/-! ## Starts that fail -/

theorem handle_of_failed (h : k.MayActivate (some user)) (hvalid : config.validate = .ok ())
    (clock : Nat) {e : BackendError}
    (hstart : (b.start (k.makeWay b).machine config).1 = .error e) :
    ∃ machine log, k.handle b clock (.request (some user) (.activate config)) =
      (none, { k with machine := machine, tunnel := none, log := log }.disown.tell
        .disconnected) := by
  have hallowed : k.access.authorize (some user) (Request.activate config).kind k.isActive =
      (true, (k.access.authorize (some user) "activate" k.isActive).2) := Prod.ext h rfl
  -- who is written down as the owner is nothing to the machinery
  have hstarted (access : Access) (log : Log) :
      (({ k with access := access, log := log } : Keeper β).started b config).1 = .error e := by
    obtain ⟨_, hway⟩ := makeWay_eq b k
    rw [hway] at hstart
    exact hstart
  obtain ⟨log, heq⟩ := activate_of_failed hvalid (hstarted _ _) clock
  rw [handle, request_of_allowed hallowed, perform, heq]
  exact ⟨_, log, rfl⟩

/-- On every run, over any machinery, with all its calls and with any logging: a user who
    may bring a tunnel up and asks for one in a way that cannot be read, or with a
    configuration that is not valid, is told that the tunnel is down, and the keeper stays
    as it is, but that this is logged. Its tunnel and owner are the same, and so are the
    machinery and its calls. The two are alike for every user, but for what is logged. If
    the configuration is valid, but the machinery fails to start it, then no tunnel is up
    and nobody owns one, whatever was up before. -/
theorem activation_leaves_only_records (b : Backend β) (machine : β) (log : Log)
    (turns : List Turn) :
    let k := (initial (machine, []) log).run b.recorded turns
    k.forget = (initial machine log).run b turns ∧
    (∀ clock user d, d.Unusable user → k.MayActivate (some user) →
      k.handle b.recorded clock d =
        (none, { k with log := k.log.noteAll (k.rejectionRecords d) }.tell .disconnected)) ∧
    (∀ clock user reason (config : TunnelConfig), config.validate ≠ .ok () →
      let invalid := k.handle b.recorded clock (.request user (.activate config))
      let unread := k.handle b.recorded clock (.invalidActivation user reason)
      invalid.1 = unread.1 ∧ invalid.2.unlogged = unread.2.unlogged) ∧
    ∀ clock user (config : TunnelConfig) e, config.validate = .ok () →
      k.MayActivate (some user) →
      (b.recorded.start (k.makeWay b.recorded).machine config).1 = .error e →
      let k' := (k.handle b.recorded clock (.request (some user) (.activate config))).2
      k'.tunnel = none ∧ k'.access.owner = none ∧ k'.notices = k.notices ++ [.disconnected] := by
  intro k
  have howned : k.Owned := run_owned b.recorded (machine, []) log turns
  refine ⟨(run_forget b (initial (machine, []) log) turns).symm, ?_, ?_, ?_⟩
  · intro clock user d hd hmay
    exact handle_of_unusable howned hd hmay clock
  · intro clock user reason config hinvalid
    exact handle_of_invalid hinvalid b.recorded k clock user reason
  · intro clock user config e hvalid hmay hstart k'
    obtain ⟨m, log', heq⟩ := handle_of_failed hmay hvalid clock hstart
    have hk' : k' = ({ k with machine := m, tunnel := none, log := log' }.disown.tell
        .disconnected) := congrArg Prod.snd heq
    rw [hk']
    exact ⟨rfl, rfl, rfl⟩

/-- Machinery that starts one tunnel and no more. -/
def startsOnce : Backend Dummy :=
  { Dummy.backend with
    start := fun d config =>
      if d.starts = 0 then d.start config else (.error (.command "injected start failure"), d) }

/-- The owner asks for another port: first with a configuration without keys, then with
    one that is valid, which the machinery fails to start. -/
theorem activation_leaves_only_records_on_change :
    let k := (initial (({} : Dummy), []) {}).run startsOnce.recorded
      [.handle 0 (.request (some 1000) (.activate plainConfig)), .look 5]
    let broken := { plainConfig with serverKey := "", port := 443 }
    let other := { plainConfig with port := 443 }
    let d := Demand.request (some 1000) (.activate broken)
    k.tunnel = some ⟨plainConfig, 0, some 5⟩ ∧
    k.handle startsOnce.recorded 9 d =
      (none, { k with log := k.log.noteAll (k.rejectionRecords d) }.tell .disconnected) ∧
    (k.handle startsOnce.recorded 9 (.request (some 1000) (.activate other))).2.tunnel = none ∧
    (k.handle startsOnce.recorded 9 (.request (some 1000) (.activate other))).2.access.owner =
      none := by
  intro k broken other d
  obtain ⟨-, hspurn, -, hfail⟩ := activation_leaves_only_records startsOnce {} {}
    [.handle 0 (.request (some 1000) (.activate plainConfig)), .look 5]
  have hfail := hfail 9 1000 other (.command "injected start failure") (by decide +kernel)
    (by decide +kernel) (by decide +kernel)
  refine ⟨by decide +kernel, ?_, hfail.1, hfail.2.1⟩
  exact hspurn 9 1000 _ (.invalid broken (by decide +kernel)) (by decide +kernel)

/-- With the logging of the program, an activation without a key that is turned down adds
    a line to the log, though it changes nothing else. -/
theorem rejected_activation_is_logged :
    let time := "2024-05-01T08:00:00.000000Z"
    let k := (initial {} { format := Log.usualFormat fun _ => time }).run Dummy.backend
      [.handle 0 (.request (some 1000) (.activate plainConfig))]
    let d := Demand.request (some 1000) (.activate { plainConfig with serverKey := "" })
    d.Unusable 1000 ∧ k.MayActivate (some 1000) ∧
      (k.handle Dummy.backend 5 d).2.log.lines = k.log.lines ++
        [time ++ " ERROR hop_daemon::daemon: Invalid configuration: " ++
          "Missing required field: serverPublicKey"] := by
  refine ⟨.invalid _ (by decide +kernel), by decide +kernel, by decide +kernel⟩

end TunnelSession.Daemon.Keeper
