/-
  TunnelSession.Proofs.Control.Bearing

  The bearing of the connection: where it goes, to which server, and which tunnels it
  has asked for. Most of what comes to it leaves the attempt that is under way alone or
  ends it; only an attempt at a destination asks for a tunnel, and it goes to a server
  of that destination that may be tried at that moment. One lemma for each function
  says which destination that is.
-/
import TunnelSession.Proofs.Control.Switches
import TunnelSession.Proofs.Quality.Choice

namespace TunnelSession

open Controller (Input)

/-! ## Bearings -/

/-- The tunnel that a request asks for. -/
def Request.tunnel? : Request → Option TunnelConfig
  | .activate config => some config
  | _ => none

/-- The tunnel that an effect asks for. -/
def Effect.tunnel? (e : Effect) : Option TunnelConfig := e.request?.bind Request.tunnel?

/-- The key of the server that an attempt waits for. -/
def Awaited.key? : Awaited → Option String
  | handshake key | confirmation key => some key
  | nothing | disconnection => none

/-- An attempt that is under way: the key that is waited for, and where it goes. -/
structure Attempt where
  key : String
  destination : Option Destination
  server : Option Server

/-- What the laws of attempts speak about. -/
structure Bearing where
  tuning : ControlTuning
  device : Device
  destination : Option Destination
  server : Option Server
  held : Option Destination
  awaited : Awaited
  /-- The tunnels that were asked for, the latest last. -/
  asked : List TunnelConfig

/-- The attempt that is under way, if there is one. -/
def Bearing.attempt? (s : Bearing) : Option Attempt :=
  s.awaited.key?.map fun key => ⟨key, s.destination, s.server⟩

namespace Controller

variable {c c' c₁ : Controller} {around : Surroundings} {d : Destination} {s : Server}
  {config : TunnelConfig} {aim : Option Destination}

/-- The tunnels that were asked for, the latest last. -/
def asked (c : Controller) : List TunnelConfig := c.sent.filterMap Request.tunnel?

/-- The bearing of the connection. -/
def bearing (c : Controller) : Bearing where
  tuning := c.tuning
  device := c.device
  destination := c.destination
  server := c.server
  held := c.held
  awaited := c.awaited
  asked := c.asked

/-- The attempt that is under way, if there is one. -/
def attempt? (c : Controller) : Option Attempt := c.bearing.attempt?

theorem attempt?_eq_some {a : Attempt} : c.attempt? = some a ↔
    c.awaited.key? = some a.key ∧ c.destination = a.destination ∧ c.server = a.server := by
  obtain ⟨key, destination, server⟩ := a
  unfold attempt? Bearing.attempt?
  simp [bearing]

theorem asked_perform (c : Controller) (e : Effect) :
    (c.perform e).asked = c.asked ++ e.tunnel?.toList := by
  have hsent : (c.perform e).sent = c.sent ++ e.request?.toList :=
    congrArg Stance.sent (stance_perform c e)
  rw [asked, hsent, List.filterMap_append, Effect.tunnel?]
  cases e.request? <;> rfl

section Moves

variable (c : Controller)

theorem bearing_perform {e : Effect} (h : e.tunnel? = none) :
    (c.perform e).bearing = c.bearing := by
  have hasked : (c.perform e).asked = c.asked := by
    rw [asked_perform, h]
    exact List.append_nil _
  exact congrArg (fun asked => { c.bearing with asked := asked }) hasked

theorem bearing_emit (e : SessionEvent) : (c.emit e).bearing = c.bearing :=
  bearing_perform c rfl

theorem bearing_arm (kind : TimerKind) (delay : Nat) : (c.arm kind delay).bearing = c.bearing :=
  bearing_perform c rfl

theorem bearing_enter (p : Phase) : (c.enter p).bearing = c.bearing := by
  unfold enter
  split
  · rfl
  · exact bearing_emit { c with phase := p } _

theorem bearing_emitStability (s : Option Stability) : (c.emitStability s).bearing = c.bearing := by
  cases s with
  | none => rfl
  | some s => exact bearing_emit c _

theorem bearing_stopHealth (around : Surroundings) : (c.stopHealth around).bearing = c.bearing :=
  bearing_emitStability { c with health := (c.health.stop around.now).2 } _

theorem bearing_startHealth (around : Surroundings) (target : Option Net.Address) :
    (c.startHealth around target).bearing = c.bearing := by
  cases target <;> rfl

theorem bearing_finish : c.finish.bearing = c.bearing :=
  bearing_emit { c with finished := true } _

theorem bearing_cutOff : c.cutOff.bearing = c.bearing :=
  dropLogFetches_keeps { c with awaitingFirstStatus := false } rfl
    fun d _ => bearing_perform d rfl

theorem bearing_finishOff (around : Surroundings) :
    (c.finishOff around).bearing = { c.bearing with awaited := .nothing } :=
  (bearing_enter _ .off).trans
    (bearing_stopHealth { c.cancelTimers with awaited := .nothing } around)

theorem bearing_settled (around : Surroundings) (s : StatusReport) :
    (c.settled around s).bearing = c.bearing := by
  unfold settled
  split
  · refine (bearing_enter _ .on).trans ?_
    exact bearing_startHealth { c with connectedSince := some s.date.toNat } around _
  · split
    · exact bearing_enter c .off
    · rfl

end Moves

/-! ## Keeping an attempt, and launching one -/

/-- No tunnel was asked for in between, and it would be made from the same. -/
structure Quiet (c c' : Controller) : Prop where
  tuning : c'.tuning = c.tuning
  device : c'.device = c.device
  asked : c'.asked = c.asked

/-- No tunnel was asked for in between: the attempt is the same, or there is none. -/
structure Keeps (c c' : Controller) : Prop extends c.Quiet c' where
  attempt : c'.attempt? = none ∨ c'.attempt? = c.attempt?

/-- A tunnel to a server of the destination was asked for, and an attempt to bring it
    up is under way. -/
structure Launches (c : Controller) (around : Surroundings) (d : Destination) (s : Server)
    (config : TunnelConfig) (c' : Controller) : Prop where
  candidate : s ∈ d.servers
  usable : c'.registry.isCooling around.clock s.publicKey = false
  made : c.tunnelTo s = .ok config
  asked : c'.asked = c.asked ++ [config]
  awaited : c'.awaited = .handshake s.publicKey
  destination : c'.destination = some d
  server : c'.server = some s

/-- A tunnel was asked for only if there is a destination to aim at, and to a server of
    it. -/
def Steers (c : Controller) (around : Surroundings) (aim : Option Destination)
    (c' : Controller) : Prop :=
  c.Keeps c' ∨ ∃ d, aim = some d ∧ ∃ s config, c.Launches around d s config c'

theorem Quiet.of_bearing (h : c'.bearing = c.bearing) : c.Quiet c' :=
  ⟨congrArg Bearing.tuning h, congrArg Bearing.device h, congrArg Bearing.asked h⟩

theorem Quiet.trans (h : c.Quiet c₁) (h' : c₁.Quiet c') : c.Quiet c' :=
  ⟨h'.tuning.trans h.tuning, h'.device.trans h.device, h'.asked.trans h.asked⟩

/-- Where no server is waited for there is no attempt. -/
theorem Quiet.keeps (h : c.Quiet c') (hkey : c'.awaited.key? = none) : c.Keeps c' :=
  ⟨h, .inl (congrArg (Option.map _) hkey)⟩

theorem Quiet.of_awaited {a : Awaited} (h : c'.bearing = { c.bearing with awaited := a }) :
    c.Quiet c' :=
  ⟨congrArg Bearing.tuning h, congrArg Bearing.device h, congrArg Bearing.asked h⟩

theorem Quiet.finishOff (h : c.Quiet c₁) : c.Quiet (c₁.finishOff around) :=
  h.trans (.of_awaited (bearing_finishOff c₁ around))

theorem key?_finishOff (c : Controller) (around : Surroundings) :
    (c.finishOff around).awaited.key? = none :=
  congrArg (fun s : Bearing => s.awaited.key?) (bearing_finishOff c around)

theorem Quiet.launches (h : c.Quiet c₁) (h' : c₁.Launches around d s config c') :
    c.Launches around d s config c' where
  candidate := h'.candidate
  usable := h'.usable
  made := (tunnelTo_congr h.tuning h.device s).symm.trans h'.made
  asked := by rw [h'.asked, h.asked]
  awaited := h'.awaited
  destination := h'.destination
  server := h'.server

theorem Launches.attempt (h : c.Launches around d s config c') :
    c'.attempt? = some ⟨s.publicKey, some d, some s⟩ :=
  attempt?_eq_some.mpr ⟨congrArg Awaited.key? h.awaited, h.destination, h.server⟩

/-- The bearing shows whether an attempt is the same. -/
theorem Keeps.of_bearing (h : c'.bearing = c.bearing) : c.Keeps c' :=
  ⟨.of_bearing h, .inr (congrArg Bearing.attempt? h)⟩

/-- What is not part of an attempt may change. -/
theorem keeps_hold (c : Controller) (held : Option Destination) : c.Keeps (c.hold held) :=
  ⟨⟨rfl, rfl, rfl⟩, .inr rfl⟩

theorem Keeps.of_awaited {a : Awaited} (h : c'.bearing = { c.bearing with awaited := a })
    (ha : a.key? = none) : c.Keeps c' :=
  (Quiet.of_awaited h).keeps ((congrArg (fun s : Bearing => s.awaited.key?) h).trans ha)

theorem Keeps.trans (h : c.Keeps c₁) (h' : c₁.Keeps c') : c.Keeps c' := by
  refine ⟨h.toQuiet.trans h'.toQuiet, ?_⟩
  rcases h'.attempt with hnone | hsame
  · exact .inl hnone
  · rw [hsame]
    exact h.attempt

theorem keeps_finishOff (c : Controller) (around : Surroundings) : c.Keeps (c.finishOff around) :=
  .of_awaited (bearing_finishOff c around) rfl

theorem Keeps.steers (h : c.Keeps c₁) (h' : c₁.Steers around aim c') : c.Steers around aim c' := by
  rcases h' with hkeeps | ⟨d, hd, s, config, hlaunches⟩
  · exact .inl (h.trans hkeeps)
  · exact .inr ⟨d, hd, s, config, h.launches hlaunches⟩

theorem Steers.of_bearing (h : c'.bearing = c.bearing) : c.Steers around aim c' :=
  .inl (.of_bearing h)

/-! ## Bringing a tunnel up -/

/-- An attempt at a destination goes to one of its servers that can be used, or is over
    before it has begun. -/
theorem startActivation_launches (c : Controller) (around : Surroundings) (d : Destination)
    (during : Phase) :
    (c.Quiet (c.startActivation around d during).2 ∧
        (c.startActivation around d during).2.awaited.key? = none) ∨
      ∃ s config, c.Launches around d s config (c.startActivation around d during).2 := by
  unfold startActivation
  split
  · -- no server can be used
    have hplanned : c.Quiet { c with destination := some d } := ⟨rfl, rfl, rfl⟩
    exact .inl ⟨hplanned.finishOff.trans (.of_bearing (bearing_emit _ _)), key?_finishOff _ around⟩
  · next s hs =>
    obtain ⟨hcandidate, husable⟩ := Destination.mem_available.mp (Destination.mem_of_choose? hs)
    split
    · -- no tunnel can be made to the server
      have hquiet : c.Quiet c := ⟨rfl, rfl, rfl⟩
      exact .inl ⟨hquiet.finishOff, key?_finishOff c around⟩
    · next config hconfig =>
      dsimp only
      split
      · -- the daemon cannot be asked
        have hcancel : c.Quiet c.cancelTimers := ⟨rfl, rfl, rfl⟩
        exact .inl ⟨hcancel.finishOff.trans (.of_bearing (bearing_emit _ _)),
          key?_finishOff _ around⟩
      · generalize hsent : ({ c.cancelTimers.perform (.send (.activate config)) with
          awaited := .handshake s.publicKey, destination := some d,
          server := some s } : Controller) = sent
        have hbearing : ((sent.enter during).arm .handshake
            c.cancelTimers.tuning.handshakeTimeout).bearing = sent.bearing :=
          (bearing_arm _ _ _).trans (bearing_enter sent during)
        have hsent' : sent.awaited = .handshake s.publicKey ∧ sent.destination = some d ∧
            sent.server = some s := by
          rw [← hsent]
          exact ⟨rfl, rfl, rfl⟩
        obtain ⟨hawaited, hdestination, hserver⟩ := hsent'
        refine .inr ⟨s, config, hcandidate, ?_, hconfig, ?_,
          (congrArg Bearing.awaited hbearing).trans hawaited,
          (congrArg Bearing.destination hbearing).trans hdestination,
          (congrArg Bearing.server hbearing).trans hserver⟩
        · have hregistry : (sent.enter during).registry = c.registry := by
            rw [← hsent]
            unfold enter
            split <;> rfl
          exact hregistry ▸ husable
        · refine (congrArg Bearing.asked hbearing).trans ?_
          rw [← hsent]
          exact asked_perform c.cancelTimers _

theorem startActivation_steers (c : Controller) (around : Surroundings) (d : Destination)
    (during : Phase) : c.Steers around (some d) (c.startActivation around d during).2 := by
  rcases startActivation_launches c around d during with ⟨hquiet, hkey⟩ | hlaunches
  · exact .inl (hquiet.keeps hkey)
  · exact .inr ⟨d, rfl, hlaunches⟩

/-- A preference for a server that holds only for this once leaves the destination as it
    was. -/
theorem restoreExit_steers {pinned : Destination} (hservers : pinned.servers = d.servers)
    (hrestored : { pinned with exit := d.exit } = d) :
    c.Steers around (some d)
      ((c.startActivation around pinned .connecting).2.restoreExit d.exit) := by
  rcases startActivation_launches c around pinned .connecting with
    ⟨hquiet, hkey⟩ | ⟨s, config, h⟩
  · have hrestore : c.Quiet ((c.startActivation around pinned .connecting).2.restoreExit d.exit) :=
      ⟨hquiet.tuning, hquiet.device, hquiet.asked⟩
    exact .inl (hrestore.keeps hkey)
  · refine .inr ⟨d, rfl, s, config, hservers ▸ h.candidate, h.usable, h.made, h.asked, h.awaited,
      ?_, h.server⟩
    rw [restoreExit, h.destination, Option.map_some, hrestored]

theorem reconnect_steers (c : Controller) (around : Surroundings) :
    c.Steers around c.destination (c.reconnect around) := by
  unfold reconnect
  split
  · exact .inl (keeps_finishOff _ around)
  · next d hd =>
    rw [hd]
    cases c.server with
    | none => exact restoreExit_steers rfl rfl
    | some s => exact restoreExit_steers rfl rfl

theorem activate_steers (c : Controller) (around : Surroundings) (d : Destination) :
    c.Steers around (some d) (c.activate around d).2 := by
  unfold activate
  split
  · split
    · exact .of_bearing (bearing_emit _ _)
    · exact startActivation_steers c around d .connecting
  · exact .inl (keeps_hold c (some d))
  · exact .inl (keeps_hold c (some d))
  · exact .of_bearing rfl

theorem activateHeld_steers (c : Controller) (around : Surroundings) :
    c.Steers around c.held (c.activateHeld around) := by
  unfold activateHeld
  split
  · next d hd =>
    have hlet : c.Keeps { c with held := none } := keeps_hold c none
    rw [hd]
    exact hlet.steers (activate_steers _ around d)
  · exact .of_bearing rfl

/-! ## Taking a tunnel down -/

/-- Where the connection goes to of its own accord: off a portal to where it was, and
    otherwise to what is held. -/
def successor (c : Controller) : Option Destination :=
  if c.phase = .captivePortal then c.destination else c.held

/-- Where the connection goes to once its tunnel is down. -/
def resumption (c : Controller) : Option Destination :=
  match c.nextStep with
  | .nothing => c.successor
  | _ => none

theorem successor_of_resumption (h : c.resumption = some d) : c.successor = some d := by
  unfold resumption at h
  split at h
  · exact h
  · cases h

/-- Only what is planned, the phase and the bearing say where the connection goes to. -/
theorem resumption_congr (hbearing : c'.bearing = c.bearing) (hp : c'.phase = c.phase)
    (hn : c'.nextStep = c.nextStep) : c'.resumption = c.resumption := by
  have hdestination : c'.destination = c.destination := congrArg Bearing.destination hbearing
  have hheld : c'.held = c.held := congrArg Bearing.held hbearing
  unfold resumption successor
  rw [hn, hp, hdestination, hheld]

theorem successor_of_isActive (hp : c.phase.isActive = true) : c.successor = c.held := by
  refine if_neg fun hportal => ?_
  rw [hportal] at hp
  cases hp

theorem Steers.mono {aim' : Option Destination} (h : c.Steers around aim c')
    (haim : ∀ d, aim = some d → aim' = some d) : c.Steers around aim' c' := by
  rcases h with hkeeps | ⟨d, hd, hlaunches⟩
  · exact .inl hkeeps
  · exact .inr ⟨d, haim d hd, hlaunches⟩

theorem completeDisconnect_steers (c : Controller) (around : Surroundings) :
    c.Steers around c.resumption (c.completeDisconnect around) := by
  unfold completeDisconnect
  generalize hdown : ({ { c.cancelTimers with awaited := .nothing }.stopHealth around with
    connectedSince := none, nextStep := .nothing } : Controller) = down
  have hbearing : down.bearing = { c.bearing with awaited := .nothing } := by
    rw [← hdown]
    exact bearing_stopHealth { c.cancelTimers with awaited := .nothing } around
  have hphase : down.phase = c.phase := by
    rw [← hdown]
    exact phase_stopHealth { c.cancelTimers with awaited := .nothing } around
  have hkeeps : c.Keeps down := .of_awaited hbearing rfl
  dsimp only
  split
  · exact .inl (hkeeps.trans (.of_bearing ((bearing_finish _).trans (bearing_enter down .off))))
  · exact .inl (hkeeps.trans (.of_bearing ((bearing_emit _ _).trans (bearing_enter down .off))))
  · next hnext =>
    unfold resumption successor
    rw [hnext, ← hphase]
    dsimp only
    split
    · -- off a portal, the last tunnel is brought up again
      rw [← show down.destination = c.destination from congrArg Bearing.destination hbearing]
      split
      · exact .inl hkeeps
      · exact hkeeps.steers (reconnect_steers down around)
    · -- otherwise the held one is
      have henter : down.Keeps (down.enter .off) := .of_bearing (bearing_enter down .off)
      have hheld : (down.enter .off).held = c.held :=
        (held_enter down .off).trans (congrArg Bearing.held hbearing)
      rw [← hheld]
      exact (hkeeps.trans henter).steers (activateHeld_steers _ around)

/-- A tunnel that is taken down is no attempt any more. If the daemon cannot be asked,
    the connection goes on at once. -/
theorem beginDisconnect_steers (c : Controller) (around : Surroundings) (during : Phase) :
    c.Steers around ({ c with phase := during } : Controller).resumption
      (c.beginDisconnect around during) := by
  unfold beginDisconnect
  generalize hstopped : (c.cancelTimers.stopHealth around).enter during = stopped
  have hbearing : stopped.bearing = c.bearing := by
    rw [← hstopped]
    exact (bearing_enter _ during).trans (bearing_stopHealth c.cancelTimers around)
  dsimp only
  split
  · have hsent : ({ stopped.perform (.send .deactivate) with
        awaited := .disconnection } : Controller).bearing =
        { c.bearing with awaited := .disconnection } := by
      rw [← hbearing, ← bearing_perform stopped (e := .send .deactivate) rfl]
      rfl
    exact .inl (.of_awaited ((bearing_arm _ _ _).trans hsent) rfl)
  · have hkeeps : c.Keeps stopped := .of_bearing hbearing
    have hstance : stopped.stance = c.cancelTimers.stance.enter during := by
      rw [← hstopped, stance_enter, stance_stopHealth]
    have hgoal : stopped.resumption = ({ c with phase := during } : Controller).resumption :=
      resumption_congr hbearing (congrArg Stance.phase hstance) (congrArg Stance.nextStep hstance)
    rw [← hgoal]
    exact hkeeps.steers (completeDisconnect_steers stopped around)

/-- A tunnel that is given up makes way for the held one. -/
theorem beginDisconnecting_steers (c : Controller) (around : Surroundings) :
    c.Steers around c.held (c.beginDisconnect around .disconnecting) := by
  exact (beginDisconnect_steers c around .disconnecting).mono fun _ => successor_of_resumption

theorem giveUpServer_steers (c : Controller) (around : Surroundings) (key : String) :
    c.Steers around c.held (c.giveUpServer around key) := by
  have hkeeps : c.Keeps ((c.coolDown around key).emit (.handshakeFailed key)) :=
    .of_bearing (bearing_emit (c.coolDown around key) _)
  exact hkeeps.steers (beginDisconnecting_steers _ around)

theorem giveUpCity_steers (c : Controller) (around : Surroundings) :
    c.Steers around none (c.giveUpCity around) := by
  have hkeeps : c.Keeps { c with nextStep := .serverUnavailable } := .of_bearing rfl
  exact hkeeps.steers (beginDisconnect_steers _ around .disconnecting)

/-! ## Requests of the user -/

theorem deactivate_steers (c : Controller) (around : Surroundings) :
    c.Steers around none (c.deactivate around).2 := by
  have hlet : c.Keeps { c with held := none } := keeps_hold c none
  refine hlet.steers ?_
  unfold deactivate
  dsimp only
  split
  · exact .of_bearing rfl
  · exact .of_bearing rfl
  · exact .of_bearing rfl
  · split
    · exact .of_bearing (bearing_enter _ _)
    · exact .inl (keeps_finishOff _ around)
  · exact beginDisconnecting_steers { c with held := none } around

/-- Where no tunnel is up or on its way up, there is no attempt. -/
theorem attempt?_of_not_isActive (h : c.stance.Matched) (hp : c.phase.isActive = false) :
    c.awaited.key? = none := by
  cases ha : c.awaited with
  | nothing => rfl
  | disconnection => rfl
  | handshake key => exact absurd ((h.isActive_of_handshake ha).symm.trans hp) nofun
  | confirmation key => exact absurd ((h.isActive_of_confirmation ha).symm.trans hp) nofun

theorem changeServer_steers (around : Surroundings) (h : c.stance.Matched) (d : Destination)
    (silent : Bool) : c.Steers around (some d) (c.changeServer around d silent).2 := by
  by_cases hp : c.phase.isActive = true
  · rw [changeServer_of_isActive hp]
    have hkeeps : c.Keeps (c.stopHealth around) := .of_bearing (bearing_stopHealth c around)
    exact hkeeps.steers (startActivation_steers _ around d _)
  · -- the destination is only noted, and there is no attempt that it could confuse
    have hkey := attempt?_of_not_isActive h (Bool.eq_false_iff.mpr hp)
    refine .inl ?_
    unfold changeServer
    split
    · exact Quiet.keeps ⟨rfl, rfl, rfl⟩ hkey
    · exact Quiet.keeps ⟨rfl, rfl, rfl⟩ hkey
    · exact Quiet.keeps ⟨rfl, rfl, rfl⟩ hkey
    · split
      · exact Quiet.keeps ⟨rfl, rfl, rfl⟩ hkey
      · exact Quiet.keeps ⟨rfl, rfl, rfl⟩ hkey
    · next hoff hinit hportal hdis =>
      exact absurd (Phase.isActive_of_ne hoff hinit hdis hportal) hp

theorem silentSwitch_steers (around : Surroundings) (h : c.stance.Matched) :
    c.Steers around c.destination (c.silentSwitch around).2 := by
  unfold silentSwitch
  split
  · next d s _ hd _ =>
    rw [hd]
    have hcool : c.Keeps (c.coolDown around s.publicKey) := .of_bearing rfl
    split
    · exact .of_bearing rfl
    · dsimp only
      split
      · exact hcool.steers ((giveUpCity_steers _ around).mono nofun)
      · have hchange := changeServer_steers (c := c.coolDown around s.publicKey) around h d true
        exact hcool.steers hchange
  · exact .of_bearing rfl

theorem quit_steers (c : Controller) (around : Surroundings) :
    c.Steers around none (c.quit around) := by
  have hlet : c.Keeps { c with held := none } := keeps_hold c none
  refine hlet.steers ?_
  unfold quit
  dsimp only
  split
  · exact .of_bearing (bearing_finish _)
  · exact .of_bearing (bearing_finish _)
  · exact .of_bearing rfl
  · split
    · exact .of_bearing rfl
    · exact .inl ((keeps_finishOff _ around).trans (.of_bearing (bearing_finish _)))
  · have hplan : Keeps { c with held := none } { c with held := none, nextStep := .quit } :=
      .of_bearing rfl
    exact hplan.steers (beginDisconnect_steers _ around .disconnecting)

theorem portalDetected_steers (c : Controller) (around : Surroundings) :
    c.Steers around c.destination (c.portalDetected around) := by
  unfold portalDetected
  split
  · have hseen : c.Keeps { c with portalSeen := true } := .of_bearing rfl
    exact hseen.steers
      ((beginDisconnect_steers _ around .captivePortal).mono fun _ => successor_of_resumption)
  · exact .of_bearing rfl
  · exact .of_bearing rfl

theorem portalGone_steers (c : Controller) (around : Surroundings) :
    c.Steers around c.destination (c.portalGone around) := by
  unfold portalGone
  have hgone : c.Keeps { c with portalSeen := false } := .of_bearing rfl
  dsimp only
  split
  · exact hgone.steers (reconnect_steers _ around)
  · exact .inl hgone

theorem keeps_trySend {r : Request} (hr : r.tunnel? = none) : c.Keeps (c.trySend around r) := by
  unfold trySend
  split
  · exact .of_bearing (bearing_perform c hr)
  · exact .of_bearing rfl

theorem keeps_fetchLogs (ticket : Nat) : c.Keeps (c.fetchLogs around ticket) := by
  unfold fetchLogs
  split
  · exact .of_bearing (bearing_perform c (e := .send .logs) rfl)
  · exact .of_bearing (bearing_perform c rfl)

/-! ## The link to the daemon -/

theorem keeps_onReady : c.Keeps (c.onReady around) := by
  unfold onReady
  split
  · exact .of_bearing (bearing_perform c (e := .send .status) rfl)
  · exact .of_bearing rfl

theorem onLost_steers (c : Controller) (around : Surroundings) :
    c.Steers around c.resumption (c.onLost around) := by
  have hkeeps : c.Keeps c.cutOff := .of_bearing (bearing_cutOff c)
  have hgoal : c.cutOff.resumption = c.resumption :=
    resumption_congr (bearing_cutOff c) phase_cutOff (congrArg Stance.nextStep stance_cutOff)
  rw [← hgoal]
  refine hkeeps.steers ?_
  unfold onLost
  rw [← cutOff]
  generalize c.cutOff = cut
  dsimp only
  split
  · have henter : cut.Keeps (cut.enter .off) := .of_bearing (bearing_enter cut .off)
    split
    · -- what was held is let go of before a tunnel was asked for
      have hlet : (cut.enter .off).Keeps { cut.enter .off with held := none } :=
        ⟨⟨rfl, rfl, rfl⟩, .inr rfl⟩
      exact .inl ((henter.trans hlet).trans (.of_bearing (bearing_emit _ _)))
    · exact .inl henter
  · exact .of_bearing rfl
  · split
    · exact completeDisconnect_steers cut around
    · exact .inl ((keeps_finishOff _ around).trans (.of_bearing (bearing_emit _ _)))

/-- The attempt goes on when the handshake is heard of, and with the same server. -/
theorem keeps_onConnected (key : String) : c.Keeps (c.onConnected around key) := by
  by_cases ha : c.awaited = .handshake key
  · have hheard : (c.heard key).bearing = { c.bearing with awaited := .confirmation key } := by
      unfold heard
      dsimp only
      split
      · exact bearing_enter _ _
      · rfl
    have hkeeps : c.Keeps (c.heard key) := by
      refine ⟨⟨congrArg Bearing.tuning hheard, congrArg Bearing.device hheard,
        congrArg Bearing.asked hheard⟩, .inr ?_⟩
      rw [attempt?, attempt?, hheard, Bearing.attempt?, Bearing.attempt?,
        show c.bearing.awaited = .handshake key from ha]
      rfl
    rw [onConnected_eq ha]
    refine hkeeps.trans ?_
    split
    · exact .of_bearing ((bearing_arm _ _ _).trans (bearing_perform _ (e := .send .status) rfl))
    · exact (keeps_finishOff _ around).trans (.of_bearing (bearing_emit _ _))
  · rw [onConnected, if_neg ha]
    exact .of_bearing rfl

theorem onDisconnected_steers (c : Controller) (around : Surroundings) :
    c.Steers around c.resumption (c.onDisconnected around) := by
  unfold onDisconnected
  split
  · exact completeDisconnect_steers c around
  · exact .inl (keeps_finishOff _ around)
  · exact .inl (keeps_finishOff _ around)
  · split
    · exact .of_bearing rfl
    · exact .of_bearing rfl
    · exact .of_bearing rfl
    · exact .inl (keeps_finishOff _ around)

/-- Once the first status has settled whether a tunnel is up, the held one is brought
    up or moved to. While a portal is in the way it is only let go of. -/
theorem onFirstStatus_steers (c : Controller) (around : Surroundings) (s : StatusReport) :
    c.Steers around c.successor (c.onFirstStatus around s) := by
  by_cases hp : c.phase = .captivePortal
  · rw [onFirstStatus_of_ne (by simp [hp]) (by simp [hp]) (by simp [hp])]
    exact .inl (keeps_hold c none)
  · rw [onFirstStatus_eq]
    have hbearing := bearing_settled c around s
    have hkeeps : c.Keeps (c.settled around s) := .of_bearing hbearing
    rw [successor, if_neg hp, show c.held = (c.settled around s).held from
      (congrArg Bearing.held hbearing).symm]
    generalize c.settled around s = settled at hkeeps ⊢
    refine hkeeps.steers ?_
    split
    · exact .of_bearing rfl
    · next d hd =>
      have hlet : settled.Keeps { settled with held := none } := keeps_hold settled none
      rw [hd]
      refine hlet.steers ?_
      split
      · exact activate_steers _ around d
      · next hon =>
        have hactive : ({ settled with held := none } : Controller).phase.isActive = true :=
          congrArg Phase.isActive hon
        rw [changeServer_of_isActive hactive]
        have hstop : Keeps { settled with held := none }
            (({ settled with held := none } : Controller).stopHealth around) :=
          .of_bearing (bearing_stopHealth _ around)
        exact hstop.steers (startActivation_steers _ around d _)
      · exact .of_bearing rfl

theorem keeps_confirm (s : StatusReport) : c.Keeps (c.confirm around s) := by
  have hbearing : (c.confirm around s).bearing = { c.bearing with awaited := .nothing } :=
    (bearing_enter _ .on).trans (bearing_startHealth _ around _)
  exact .of_awaited hbearing rfl

theorem onStatus_steers (around : Surroundings) (h : c.stance.Matched) (s : StatusReport) :
    c.Steers around c.successor (c.onStatus around s) := by
  unfold onStatus
  split
  · have hmark : c.Keeps { c with awaitingFirstStatus := false } := .of_bearing rfl
    exact hmark.steers (onFirstStatus_steers { c with awaitingFirstStatus := false } around s)
  · split
    · next key ha =>
      split
      · exact .inl (keeps_confirm s)
      · rw [successor_of_isActive (h.isActive_of_confirmation ha)]
        exact giveUpServer_steers c around key
    · exact .of_bearing (bearing_emit c _)

theorem onLink_steers (around : Surroundings) (h : c.stance.Matched) (e : LinkEvent) :
    c.Steers around c.successor (c.onLink around e) := by
  cases e with
  | ready => exact .inl keeps_onReady
  | lost => exact (onLost_steers c around).mono fun _ => successor_of_resumption
  | message r =>
      cases r with
      | connected key => exact .inl (keeps_onConnected key)
      | disconnected => exact (onDisconnected_steers c around).mono fun _ => successor_of_resumption
      | status s => exact onStatus_steers around h s
      | logs text =>
          change c.Steers around c.successor (c.onLogs text)
          unfold onLogs
          split
          · exact .of_bearing (bearing_perform _ rfl)
          · exact .of_bearing rfl
      | backendFailure =>
          have hgivenUp : c.Keeps
              (if c.awaited = .disconnection then c else c.finishOff around) := by
            split
            · exact .of_bearing rfl
            · exact keeps_finishOff c around
          exact .inl (hgivenUp.trans (.of_bearing (bearing_emit _ _)))

/-! ## Timers and probes -/

theorem onTimer_steers (around : Surroundings) (h : c.stance.Matched) (token : TimerToken) :
    c.Steers around c.successor (c.onTimer around token) := by
  unfold onTimer
  split
  · split
    · next key _ ha =>
      rw [successor_of_isActive (h.isActive_of_handshake ha)]
      exact giveUpServer_steers c around key
    · next key _ ha =>
      rw [successor_of_isActive (h.isActive_of_confirmation ha)]
      exact giveUpServer_steers c around key
    · exact (completeDisconnect_steers c around).mono fun _ => successor_of_resumption
    · exact .of_bearing rfl
  · exact .of_bearing rfl

theorem keeps_probeTick : c.Keeps (c.probeTick around) := by
  unfold probeTick
  split
  · split
    · split
      · exact .of_bearing (bearing_perform _ rfl)
      · exact .of_bearing rfl
    · exact .of_bearing rfl
  · exact .of_bearing rfl

theorem keeps_onProbeReply (r : ProbeReply) : c.Keeps (c.onProbeReply r) := by
  unfold onProbeReply
  split
  · split <;> exact .of_bearing rfl
  · exact .of_bearing rfl

theorem checkup_steers (around : Surroundings) (h : c.stance.Matched) :
    c.Steers around c.destination (c.checkup around) := by
  have hbearing := bearing_emitStability { c with health := (c.health.checkup around.now).2 }
    (c.health.checkup around.now).1
  have hstance := stance_emitStability { c with health := (c.health.checkup around.now).2 }
    (c.health.checkup around.now).1
  unfold checkup
  dsimp only
  generalize ({ c with health := (c.health.checkup around.now).2 } : Controller).emitStability
    (c.health.checkup around.now).1 = checked at hbearing hstance ⊢
  have hkeeps : c.Keeps checked := .of_bearing hbearing
  have hdestination : checked.destination = c.destination := congrArg Bearing.destination hbearing
  split
  · have hm : checked.stance.Matched := by
      rw [hstance]
      exact h
    rw [← hdestination]
    exact hkeeps.steers (silentSwitch_steers around hm)
  · exact .inl hkeeps

/-! ## Every input -/

/-- The destination that an input may ask a tunnel to: the one that it names, the last
    one, or the one that comes next of its own accord. -/
def goal (c : Controller) : Input → Option Destination
  | .activate d | .changeServer d _ => some d
  | .silentSwitch | .checkup | .portal _ => c.destination
  | .link _ | .timer _ => c.successor
  | _ => none

/-- Whatever comes to the connection, a tunnel is asked for only to the goal. -/
theorem handle_steers (around : Surroundings) (h : c.stance.Matched) (i : Input) :
    c.Steers around (c.goal i) (c.handle around i) := by
  cases i with
  | activate d => exact activate_steers c around d
  | deactivate => exact deactivate_steers c around
  | changeServer d silent => exact changeServer_steers around h d silent
  | silentSwitch => exact silentSwitch_steers around h
  | quit => exact quit_steers c around
  | portal present =>
      cases present with
      | true => exact portalDetected_steers c around
      | false => exact portalGone_steers c around
  | fetchLogs ticket => exact .inl (keeps_fetchLogs ticket)
  | cleanLogs => exact .inl (keeps_trySend rfl)
  | requestStatus =>
      change c.Steers around none (c.requestStatus around)
      unfold requestStatus
      split
      · exact .inl (keeps_trySend rfl)
      · exact .of_bearing rfl
  | link e => exact onLink_steers around h e
  | timer token => exact onTimer_steers around h token
  | probeTick => exact .inl keeps_probeTick
  | probeReply r => exact .inl (keeps_onProbeReply r)
  | checkup => exact checkup_steers around h

end Controller

end TunnelSession
