/-
  TunnelSession.Proofs.Control.Staying

  What comes to a connection of its own accord leaves it with its server, whatever
  becomes of the tunnel: the link and the timers, the probes and what is found of them.
  Nothing of this asks for a tunnel while no destination is held and no portal is in the
  way, and no server that is left alone is let go earlier.

  A server is left alone until a moment that is the same for a whole run: that at which
  the first cooldown of the run may be over.
-/
import TunnelSession.Proofs.Control.Retirement
import TunnelSession.Proofs.Quality.Registry

namespace TunnelSession

/-- The clock is short of a moment, and a cooldown that begins now lasts until then. -/
structure Surroundings.ShortOf (around : Surroundings) (t cooldown : Nat) : Prop where
  before : around.clock < t
  lasts : t ≤ around.clock + cooldown
  shown : t ≤ Registry.endOfTime

namespace Controller

variable {t : Nat} {c c' c₁ : Controller} {around : Surroundings}

/-! ## Staying with a server -/

/-- `Stays t c c'`: the connection goes to the same place and has the same server, and
    asked for no tunnel in between. Whichever server rests until `t` still does, and no
    portal has come in the way. -/
structure Stays (t : Nat) (c c' : Controller) : Prop where
  bearing : ∃ a, c'.bearing = { c.bearing with awaited := a }
  rests : ∀ key, c.registry.RestsUntil t key → c'.registry.RestsUntil t key
  portal : c.phase ≠ .captivePortal → c'.phase ≠ .captivePortal

namespace Stays

theorem of_means {a : Awaited} (hb : c'.bearing = { c.bearing with awaited := a })
    (hm : c'.means = c.means) (hp : c.phase ≠ .captivePortal → c'.phase ≠ .captivePortal) :
    Stays t c c' := by
  refine ⟨⟨a, hb⟩, fun key h => ?_, hp⟩
  rwa [show c'.registry = c.registry from congrArg (fun m => m.2.2) hm]

/-- The bearing, the means and the phase show all that matters. -/
theorem same (hb : c'.bearing = c.bearing) (hm : c'.means = c.means) (hp : c'.phase = c.phase) :
    Stays t c c' :=
  of_means (a := c.awaited) hb hm (hp ▸ id)

theorem refl (c : Controller) : Stays t c c := same rfl rfl rfl

theorem trans (h : Stays t c c₁) (h' : Stays t c₁ c') : Stays t c c' := by
  obtain ⟨a, hb⟩ := h.bearing
  obtain ⟨a', hb'⟩ := h'.bearing
  refine ⟨⟨a', ?_⟩, fun key hr => h'.rests key (h.rests key hr), fun hp => h'.portal (h.portal hp)⟩
  rw [hb', hb]

theorem held (h : Stays t c c') : c'.held = c.held := by
  obtain ⟨a, hb⟩ := h.bearing
  exact congrArg Bearing.held hb

theorem destination (h : Stays t c c') : c'.destination = c.destination := by
  obtain ⟨a, hb⟩ := h.bearing
  exact congrArg Bearing.destination hb

theorem server (h : Stays t c c') : c'.server = c.server := by
  obtain ⟨a, hb⟩ := h.bearing
  exact congrArg Bearing.server hb

theorem quiet (h : Stays t c c') : c.Quiet c' := by
  obtain ⟨a, hb⟩ := h.bearing
  exact .of_awaited hb

end Stays

section Moves

variable (c : Controller)

theorem stays_perform {e : Effect} (he : e.tunnel? = none) : Stays t c (c.perform e) :=
  .same (bearing_perform c he) rfl rfl

theorem stays_emit (e : SessionEvent) : Stays t c (c.emit e) :=
  stays_perform c rfl

theorem stays_arm (kind : TimerKind) (delay : Nat) : Stays t c (c.arm kind delay) :=
  stays_perform c rfl

theorem stays_enter {p : Phase} (hp : p ≠ .captivePortal) : Stays t c (c.enter p) :=
  .of_means (a := c.awaited) (bearing_enter c p) (means_enter p)
    fun _ => by rwa [phase_enter]

theorem stays_emitStability (s : Option Stability) : Stays t c (c.emitStability s) :=
  .same (bearing_emitStability c s) (means_emitStability s) (phase_emitStability c s)

theorem stays_stopHealth (around : Surroundings) : Stays t c (c.stopHealth around) :=
  .same (bearing_stopHealth c around) means_stopHealth (phase_stopHealth c around)

theorem stays_startHealth (around : Surroundings) (target : Option Net.Address) :
    Stays t c (c.startHealth around target) :=
  .same (bearing_startHealth c around target) (means_startHealth target) (by cases target <;> rfl)

/-- A new wait, or none, with new timers. -/
theorem stays_wait (a : Awaited) : Stays t c { c.cancelTimers with awaited := a } :=
  .of_means (a := a) rfl rfl id

theorem means_finishOff (around : Surroundings) : (c.finishOff around).means = c.means :=
  (means_enter .off).trans
    (means_stopHealth (c := { c.cancelTimers with awaited := .nothing }))

theorem stays_finishOff (around : Surroundings) : Stays t c (c.finishOff around) :=
  .of_means (bearing_finishOff c around) (means_finishOff c around)
    fun _ => by rw [phase_finishOff]; nofun

theorem stays_wentDown (around : Surroundings) : Stays t c (c.wentDown around) := by
  have hstopped : Stays t c
      (({ c.cancelTimers with awaited := .nothing } : Controller).stopHealth around) :=
    (stays_wait c .nothing).trans (stays_stopHealth _ around)
  have hdone : Stays t c { ({ c.cancelTimers with awaited := .nothing } : Controller).stopHealth
      around with connectedSince := none, nextStep := .nothing } :=
    hstopped.trans (.same rfl rfl rfl)
  exact hdone.trans (stays_enter _ nofun)

theorem stays_finish : Stays t c c.finish :=
  .same (bearing_finish c) rfl rfl

theorem stays_cutOff : Stays t c c.cutOff := by
  have hmeans : c.cutOff.means = c.means :=
    dropLogFetches_keeps { c with awaitingFirstStatus := false } rfl fun _ _ => rfl
  exact .same (bearing_cutOff c) hmeans phase_cutOff

theorem stays_checked (around : Surroundings) : Stays t c (c.checked around) := by
  have hlook : Stays t c { c with health := (c.health.checkup around.now).2 } := .same rfl rfl rfl
  exact hlook.trans (stays_emitStability _ _)

/-- Whoever is left alone for long enough lets the others rest. -/
theorem stays_coolDown (hclock : around.ShortOf t c.tuning.cooldown) (key : String) :
    Stays t c (c.coolDown around key) :=
  ⟨⟨c.awaited, rfl⟩, fun _ h => h.setCooldown key hclock.before hclock.lasts hclock.shown, id⟩

end Moves

/-! ## Taking a tunnel down -/

/-- With nothing held, what follows the end of a tunnel is nothing. -/
theorem completeDisconnect_stays (around : Surroundings) (hp : c.phase = .disconnecting)
    (hh : c.held = none) : Stays t c (c.completeDisconnect around) := by
  have hdown : Stays t c (c.wentDown around) := stays_wentDown c around
  rw [completeDisconnect_eq around hp]
  cases c.nextStep with
  | quit => exact hdown.trans (stays_finish _)
  | serverUnavailable => exact hdown.trans (stays_emit _ _)
  | nothing =>
      have hheld : (c.wentDown around).held = none := hdown.held.trans hh
      dsimp only
      rw [activateHeld, hheld]
      exact hdown

theorem beginDisconnect_stays (around : Surroundings) (hh : c.held = none) :
    Stays t c (c.beginDisconnect around .disconnecting) := by
  have hstopped : Stays t c ((c.cancelTimers.stopHealth around).enter .disconnecting) :=
    ((stays_wait c c.awaited).trans (stays_stopHealth c.cancelTimers around)).trans
      (stays_enter _ nofun)
  have hphase : ((c.cancelTimers.stopHealth around).enter .disconnecting).phase = .disconnecting :=
    phase_enter _ .disconnecting
  unfold beginDisconnect
  dsimp only
  generalize (c.cancelTimers.stopHealth around).enter .disconnecting = stopped at hstopped hphase
  split
  · -- the daemon takes the order
    have hasked : Stays t stopped
        { stopped.perform (.send .deactivate) with awaited := .disconnection } :=
      .of_means (a := .disconnection)
        (congrArg (fun s => { s with awaited := .disconnection })
          (bearing_perform stopped (e := .send .deactivate) rfl)) rfl id
    exact (hstopped.trans hasked).trans (stays_arm _ _ _)
  · -- it cannot be asked, and the tunnel counts as down
    exact hstopped.trans (completeDisconnect_stays around hphase (hstopped.held.trans hh))

theorem giveUpServer_stays (hclock : around.ShortOf t c.tuning.cooldown) (hh : c.held = none)
    (key : String) : Stays t c (c.giveUpServer around key) := by
  have hcool : Stays t c ((c.coolDown around key).emit (.handshakeFailed key)) :=
    (stays_coolDown c hclock key).trans (stays_emit _ _)
  exact hcool.trans (beginDisconnect_stays around (hcool.held.trans hh))

theorem giveUpCity_stays (around : Surroundings) (hh : c.held = none) :
    Stays t c (c.giveUpCity around) := by
  have hplan : Stays t c { c with nextStep := .serverUnavailable } := .same rfl rfl rfl
  exact hplan.trans (beginDisconnect_stays around hh)

/-! ## The link to the daemon -/

theorem onReady_stays (c : Controller) (around : Surroundings) : Stays t c (c.onReady around) := by
  unfold onReady
  split
  · exact (stays_perform c (e := .send .status) rfl).trans (.same rfl rfl rfl)
  · exact .same rfl rfl rfl

/-- The end of a tunnel is waited for without a portal only on the way down. -/
theorem phase_of_wait (hm : c.stance.Matched) (hp : c.phase ≠ .captivePortal)
    (ha : c.awaited = .disconnection) : c.phase = .disconnecting :=
  (hm.phase_of_disconnection ha).resolve_right hp

theorem onLost_stays (around : Surroundings) (hm : c.stance.Matched) (hh : c.held = none)
    (hp : c.phase ≠ .captivePortal) : Stays t c (c.onLost around) := by
  have hcut : Stays t c c.cutOff := stays_cutOff c
  have hphase : c.cutOff.phase = c.phase := phase_cutOff
  have hawaited : c.cutOff.awaited = c.awaited := congrArg Stance.awaited stance_cutOff
  have hheld : c.cutOff.held = none := hcut.held.trans hh
  unfold onLost
  rw [← cutOff]
  generalize c.cutOff = cut at hcut hphase hawaited hheld
  refine hcut.trans ?_
  dsimp only
  split
  · have hnone : (cut.enter .off).held.isSome = false := by
      rw [held_enter, hheld]
      rfl
    rw [hnone]
    exact stays_enter cut (by decide)
  · exact .refl cut
  · split
    · next ha =>
      -- with the link, the answer that was waited for is lost
      have hdown : c.phase = .disconnecting := phase_of_wait hm hp (hawaited.symm.trans ha)
      exact completeDisconnect_stays around (hphase.trans hdown) hheld
    · exact (stays_finishOff cut around).trans (stays_emit _ _)

theorem onConnected_stays (around : Surroundings) (key : String) :
    Stays t c (c.onConnected around key) := by
  by_cases ha : c.awaited = .handshake key
  · have hheard : Stays t c (c.heard key) := by
      unfold heard
      dsimp only
      split
      · exact (stays_wait c _).trans (stays_enter _ nofun)
      · exact stays_wait c _
    rw [onConnected_eq ha]
    refine hheard.trans ?_
    split
    · exact (stays_perform _ (e := .send .status) rfl).trans (stays_arm _ _ _)
    · exact (stays_finishOff _ around).trans (stays_emit _ _)
  · rw [onConnected, if_neg ha]
    exact .refl c

theorem onDisconnected_stays (around : Surroundings) (hm : c.stance.Matched)
    (hh : c.held = none) (hp : c.phase ≠ .captivePortal) : Stays t c (c.onDisconnected around) := by
  unfold onDisconnected
  split
  · next ha => exact completeDisconnect_stays around (phase_of_wait hm hp ha) hh
  · exact stays_finishOff c around
  · exact stays_finishOff c around
  · split
    · exact .refl c
    · exact .refl c
    · exact .refl c
    · exact stays_finishOff c around

theorem settled_stays (c : Controller) (around : Surroundings) (s : StatusReport) :
    Stays t c (c.settled around s) := by
  refine .of_means (a := c.awaited) (bearing_settled c around s) (means_settled s) fun hp => ?_
  rw [phase_settled]
  split
  · nofun
  · split
    · nofun
    · exact hp

theorem confirm_stays (c : Controller) (around : Surroundings) (s : StatusReport) :
    Stays t c (c.confirm around s) := by
  have hwait : Stays t c { c.cancelTimers with
      awaited := .nothing
      connectedSince := some (if s.date = 0 then around.clock else s.date.toNat) } :=
    .of_means (a := .nothing) rfl rfl id
  have hwatch := hwait.trans (stays_startHealth _ around
    ((Net.Address.read? s.gatewayV4).or
      (c.server.bind fun server => Net.Address.read? server.gatewayV4)))
  generalize hwatched : Controller.startHealth _ around _ = watched at hwatch
  have htold : Stays t c { watched with lastStatus := some s } := hwatch.trans (.same rfl rfl rfl)
  unfold confirm
  dsimp only
  rw [hwatched]
  exact htold.trans (stays_enter _ nofun)

theorem onStatus_stays (hclock : around.ShortOf t c.tuning.cooldown) (hh : c.held = none)
    (s : StatusReport) : Stays t c (c.onStatus around s) := by
  unfold onStatus
  split
  · have hmark : Stays t c { c with awaitingFirstStatus := false } := .same rfl rfl rfl
    rw [onFirstStatus_of_held_none (c := { c with awaitingFirstStatus := false }) hh]
    exact hmark.trans (settled_stays _ around s)
  · split
    · next key _ =>
      split
      · exact confirm_stays c around s
      · exact giveUpServer_stays hclock hh key
    · exact (stays_emit c _).trans (.same rfl rfl rfl)

theorem onLogs_stays (c : Controller) (text : String) : Stays t c (c.onLogs text) := by
  unfold onLogs
  split
  · next rest _ =>
    have hrest : Stays t c { c with logFetches := rest } := .same rfl rfl rfl
    exact hrest.trans (stays_perform _ rfl)
  · exact .refl c

theorem onBackendFailure_stays (c : Controller) (around : Surroundings) :
    Stays t c (c.onBackendFailure around) := by
  unfold onBackendFailure
  split
  · exact stays_emit c _
  · exact (stays_finishOff c around).trans (stays_emit _ _)

theorem onLink_stays (hclock : around.ShortOf t c.tuning.cooldown) (hm : c.stance.Matched)
    (hh : c.held = none) (hp : c.phase ≠ .captivePortal) (e : LinkEvent) :
    Stays t c (c.onLink around e) := by
  cases e with
  | ready => exact onReady_stays c around
  | lost => exact onLost_stays around hm hh hp
  | message r =>
      cases r with
      | connected key => exact onConnected_stays around key
      | disconnected => exact onDisconnected_stays around hm hh hp
      | status s => exact onStatus_stays hclock hh s
      | logs text => exact onLogs_stays c text
      | backendFailure => exact onBackendFailure_stays c around

/-! ## Timers and probes -/

theorem onTimer_stays (hclock : around.ShortOf t c.tuning.cooldown) (hm : c.stance.Matched)
    (hh : c.held = none) (hp : c.phase ≠ .captivePortal) (token : TimerToken) :
    Stays t c (c.onTimer around token) := by
  unfold onTimer
  split
  · split
    · next key _ _ => exact giveUpServer_stays hclock hh key
    · next key _ _ => exact giveUpServer_stays hclock hh key
    · next ha => exact completeDisconnect_stays around (phase_of_wait hm hp ha) hh
    · exact .refl c
  · exact .refl c

theorem probeTick_stays (c : Controller) (around : Surroundings) :
    Stays t c (c.probeTick around) := by
  unfold probeTick
  split
  · split
    · next health _ =>
      split
      · have hlook : Stays t c { c with health := health } := .same rfl rfl rfl
        exact hlook.trans (stays_perform _ rfl)
      · exact .same rfl rfl rfl
    · exact .refl c
  · exact .refl c

theorem onProbeReply_stays (c : Controller) (r : ProbeReply) : Stays t c (c.onProbeReply r) := by
  unfold onProbeReply
  split
  · split <;> exact .same rfl rfl rfl
  · exact .refl c

end Controller

end TunnelSession
