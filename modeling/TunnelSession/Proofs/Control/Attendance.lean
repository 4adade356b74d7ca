/-
  TunnelSession.Proofs.Control.Attendance

  The watch over the tunnel, on every run. It is kept while the tunnel is up and at no
  other time: the monitor is armed only then, and the time since when the tunnel is up is
  known then, and is gone once the tunnel is down. A tunnel that the daemon confirms is
  always watched, for a server is tried only if its gateway can be read. A tunnel that is
  taken over goes without a watch if the daemon does not tell a gateway that can be read.
  Whatever the monitor makes of the tunnel is told when it changes.
-/
import TunnelSession.Proofs.Control.Portal
import TunnelSession.Proofs.Control.Attempts
import TunnelSession.Proofs.Health.Signal

namespace TunnelSession

open Controller (Input Happening)

/-- The stability that an effect tells of. -/
def Effect.stability? : Effect → Option Stability
  | emit (.stabilityChanged s) => some s
  | _ => none

/-- Whether there is no session, or none yet. -/
def Phase.lacksSession : Phase → Bool
  | initializing | off | connecting | confirming => true
  | _ => false

namespace Controller

variable {c c₁ c' : Controller} {around : Surroundings} {i : Input} {d : Destination}
  {during : Phase} {blind : Prop}

/-! ## What is told of the stability -/

/-- The stability as everyone knows it: the one that was told last, and no signal before
    that. -/
def known (c : Controller) : Stability :=
  (c.outbox.filterMap Effect.stability?).foldl (fun _ s => s) .noSignal

theorem known_perform (c : Controller) (e : Effect) :
    (c.perform e).known = e.stability?.getD c.known := by
  show ((c.outbox ++ [e]).filterMap Effect.stability?).foldl _ _ = _
  rw [List.filterMap_append, List.foldl_append]
  cases h : e.stability? with
  | none => simp [h, known]
  | some s => simp [h]

/-- What the watch over the tunnel speaks about. -/
structure Vigil where
  health : HealthMonitor
  since : Option Nat
  known : Stability

def vigil (c : Controller) : Vigil := ⟨c.health, c.connectedSince, c.known⟩

section Moves

variable (c : Controller)

/-- News of other things do not touch the watch. -/
theorem vigil_perform {e : Effect} (h : e.stability? = none) : (c.perform e).vigil = c.vigil := by
  have hknown : (c.perform e).known = c.known := by
    rw [known_perform, h]
    rfl
  exact congrArg (fun k => ({ c.vigil with known := k } : Vigil)) hknown

theorem vigil_enter (p : Phase) : (c.enter p).vigil = c.vigil := by
  unfold enter
  split
  · rfl
  · exact vigil_perform { c with phase := p } rfl

theorem vigil_finish : c.finish.vigil = c.vigil :=
  vigil_perform { c with finished := true } rfl

theorem vigil_cutOff : c.cutOff.vigil = c.vigil :=
  dropLogFetches_keeps { c with awaitingFirstStatus := false } rfl fun d _ => vigil_perform d rfl

theorem health_emitStability (s : Option Stability) : (c.emitStability s).health = c.health := by
  cases s <;> rfl

theorem connectedSince_emitStability (s : Option Stability) :
    (c.emitStability s).connectedSince = c.connectedSince := by
  cases s <;> rfl

theorem known_emitStability (s : Option Stability) :
    (c.emitStability s).known = s.getD c.known := by
  cases s with
  | none => rfl
  | some s => exact known_perform c _

end Moves

/-! ## The monitor and what is told of it -/

/-- Everyone knows what the monitor makes of the tunnel, and it makes nothing of it while it
    is not armed. -/
structure Reported (c : Controller) : Prop where
  told : c.known = c.health.stability
  quiet : c.health.Quiet

/-- The monitor is not armed, and nobody takes the tunnel for stable or unstable. -/
structure Unwatched (c : Controller) : Prop extends c.Reported where
  disarmed : c.health.isArmed = false

theorem Reported.congr (h : c.Reported) (hv : c'.vigil = c.vigil) : c'.Reported := by
  have hhealth : c'.health = c.health := congrArg Vigil.health hv
  have hknown : c'.known = c.known := congrArg Vigil.known hv
  exact ⟨by rw [hknown, hhealth, h.told], hhealth ▸ h.quiet⟩

theorem Unwatched.congr (h : c.Unwatched) (hv : c'.vigil = c.vigil) : c'.Unwatched :=
  ⟨h.toReported.congr hv, (congrArg (fun v : Vigil => v.health.isArmed) hv).trans h.disarmed⟩

/-- To stop the watch leaves the tunnel unwatched, whether or not it was watched before. -/
theorem Reported.stopHealth (h : c.Reported) (around : Surroundings) :
    (c.stopHealth around).Unwatched ∧
      (c.stopHealth around).connectedSince = c.connectedSince := by
  obtain ⟨hsignal, htold⟩ := h.quiet.stop around.now
  have hhealth : (c.stopHealth around).health = (c.health.stop around.now).2 :=
    health_emitStability { c with health := (c.health.stop around.now).2 } _
  have hknown : (c.stopHealth around).known = (c.health.stop around.now).1.getD c.known :=
    known_emitStability { c with health := (c.health.stop around.now).2 } _
  refine ⟨⟨⟨?_, ?_⟩, ?_⟩, connectedSince_emitStability _ _⟩
  · -- the end of the signal is told, unless there was none
    rw [hknown, h.told, htold, hhealth, hsignal]
  · rw [hhealth]
    exact fun _ => hsignal
  · rw [hhealth]
    exact HealthMonitor.isArmed_stop c.health around.now

theorem Reported.checked (h : c.Reported) (around : Surroundings) :
    (c.checked around).Reported := by
  have hknown : (c.checked around).known = (c.health.checkup around.now).1.getD c.known :=
    known_emitStability { c with health := (c.health.checkup around.now).2 } _
  refine ⟨?_, ?_⟩
  · rw [hknown, h.told, health_checked]
    exact HealthMonitor.getD_checkup c.health around.now
  · rw [health_checked]
    exact HealthMonitor.quiet_checkup c.health around.now

/-! ## The watch -/

/-- The watch over the tunnel, between two inputs. `blind` stands for the one reason that
    leaves a tunnel that is up without a watch. -/
structure Attended (blind : Prop) (c : Controller) : Prop where
  reported : c.Reported
  /-- Only a tunnel that is up is watched. -/
  armed : c.health.isArmed = true → c.phase = .on
  /-- Where there is no session, none has begun. -/
  fresh : c.phase.lacksSession = true → c.connectedSince = none
  /-- The time since when the tunnel is up is known. -/
  dated : c.phase = .on → c.connectedSince.isSome = true
  /-- A session that a portal has ended is over. -/
  parked : c.phase = .captivePortal → c.awaited ≠ .disconnection → c.connectedSince = none
  watched : c.phase = .on → c.health.isArmed = true ∨ blind

namespace Attended

/-- Where no tunnel is up, it is enough that none is watched. -/
theorem of_unwatched (h : c.Unwatched) (hp : c.phase ≠ .on)
    (hfresh : c.phase.lacksSession = true → c.connectedSince = none)
    (hparked : c.phase = .captivePortal → c.awaited ≠ .disconnection → c.connectedSince = none) :
    Attended blind c where
  reported := h.toReported
  armed := fun harmed => absurd (harmed.symm.trans h.disarmed) nofun
  fresh := hfresh
  dated := fun hon => absurd hon hp
  parked := hparked
  watched := fun hon => absurd hon hp

/-- In a phase of no session there is nothing left of one. -/
theorem of_fresh (h : c.Unwatched) (hp : c.phase.lacksSession = true)
    (hs : c.connectedSince = none) : Attended blind c :=
  of_unwatched h (fun hon => by rw [hon] at hp; cases hp) (fun _ => hs) fun _ _ => hs

theorem unwatched (h : Attended blind c) (hp : c.phase ≠ .on) : c.Unwatched :=
  ⟨h.reported, Bool.eq_false_iff.mpr fun harmed => hp (h.armed harmed)⟩

/-- Other changes do not matter. -/
theorem same (h : Attended blind c) (hp : c'.phase = c.phase) (ha : c'.awaited = c.awaited)
    (hv : c'.vigil = c.vigil) : Attended blind c' := by
  have hhealth : c'.health = c.health := congrArg Vigil.health hv
  have hsince : c'.connectedSince = c.connectedSince := congrArg Vigil.since hv
  refine ⟨h.reported.congr hv, ?_, ?_, ?_, ?_, ?_⟩ <;> rw [hp]
  · rw [hhealth]
    exact h.armed
  · rw [hsince]
    exact h.fresh
  · rw [hsince]
    exact h.dated
  · rw [ha, hsince]
    exact h.parked
  · rw [hhealth]
    exact h.watched

theorem mono {blind' : Prop} (h : Attended blind c) (hb : c.phase = .on → blind → blind') :
    Attended blind' c :=
  ⟨h.reported, h.armed, h.fresh, h.dated, h.parked, fun hon => (h.watched hon).imp_right (hb hon)⟩

theorem perform (h : Attended blind c) {e : Effect} (he : e.stability? = none) :
    Attended blind (c.perform e) :=
  h.same rfl rfl (vigil_perform c he)

theorem restoreExit (h : Attended blind c) (exit : Option String) :
    Attended blind (c.restoreExit exit) :=
  h.same rfl rfl rfl

end Attended

/-! ## Coming to rest -/

/-- Once the watch is stopped and the session over, it does not matter what else is noted. -/
theorem Unwatched.idle (h : c.Unwatched) (hh : c'.health = c.health) (hk : c'.known = c.known) :
    c'.Unwatched :=
  ⟨⟨by rw [hk, hh, h.told], hh ▸ h.quiet⟩, hh ▸ h.disarmed⟩

/-- A connection whose tunnel is down has ended its session. -/
theorem Reported.stoodDown (h : c.Reported) (around : Surroundings) :
    (c.stoodDown around).Unwatched ∧ (c.stoodDown around).connectedSince = none := by
  have hidle : ({ c.cancelTimers with awaited := .nothing } : Controller).Reported := h.congr rfl
  exact ⟨(hidle.stopHealth around).1.idle rfl rfl, rfl⟩

theorem Unwatched.enterOff (h : c.Unwatched) (hs : c.connectedSince = none) :
    Attended blind (c.enter .off) :=
  .of_fresh (h.congr (vigil_enter c .off)) (by rw [phase_enter]; rfl)
    ((congrArg Vigil.since (vigil_enter c .off)).trans hs)

theorem Reported.finishOff (h : c.Reported) (around : Surroundings) :
    Attended blind (c.finishOff around) := by
  have hidle : ({ c.cancelTimers with awaited := .nothing } : Controller).Reported := h.congr rfl
  have hended : ({ ({ c.cancelTimers with awaited := .nothing } : Controller).stopHealth around with
      connectedSince := none } : Controller).Unwatched :=
    (hidle.stopHealth around).1.idle rfl rfl
  exact hended.enterOff rfl

/-! ## Bringing a tunnel up -/

/-- An attempt begins with no tunnel watched, and from connecting with no session. -/
theorem Unwatched.startActivation (h : c.Unwatched) (around : Surroundings) (d : Destination)
    (hon : during ≠ .on) (hportal : during ≠ .captivePortal)
    (hs : during.lacksSession = true → c.connectedSince = none) :
    Attended blind (c.startActivation around d during).2 := by
  unfold Controller.startActivation
  split
  · have hto : ({ c with destination := some d } : Controller).Reported := h.toReported.congr rfl
    exact (hto.finishOff around).perform rfl
  · next s _ =>
    split
    · exact h.toReported.finishOff around
    · next config _ =>
      dsimp only
      split
      · -- the link refuses the request: there is nothing to wait for
        have hcancel : c.cancelTimers.Reported := h.toReported.congr rfl
        exact (hcancel.finishOff around).perform rfl
      · -- the request tells nothing of the tunnel that is up
        generalize hsent : ({ c.cancelTimers.perform (.send (.activate config)) with
          awaited := .handshake s.publicKey, destination := some d,
          server := some s } : Controller) = sent
        have hv : sent.vigil = c.vigil := by
          rw [← hsent]
          exact vigil_perform c.cancelTimers rfl
        have hentered : (sent.enter during).vigil = c.vigil := (vigil_enter sent during).trans hv
        have hphase : (sent.enter during).phase = during := phase_enter sent during
        apply Attended.perform _ rfl
        refine .of_unwatched (h.congr hentered) ?_ ?_ ?_ <;> rw [hphase]
        · exact hon
        · exact fun hlacks => (congrArg Vigil.since hentered).trans (hs hlacks)
        · exact fun hp => absurd hp hportal

theorem Unwatched.reconnect (h : c.Unwatched) (around : Surroundings)
    (hs : c.connectedSince = none) : Attended blind (c.reconnect around) := by
  unfold Controller.reconnect
  split
  · exact h.toReported.finishOff around
  · next d _ =>
    exact (h.startActivation around _ (by decide) (by decide) fun _ => hs).restoreExit d.exit

namespace Attended

/-- Where there is no session there is no tunnel to watch. -/
theorem unwatched_of_lacks (h : Attended blind c) (hp : c.phase.lacksSession = true) :
    c.Unwatched :=
  h.unwatched fun hon => by rw [hon] at hp; cases hp

theorem activate (h : Attended blind c) (around : Surroundings) (d : Destination) :
    Attended blind (c.activate around d).2 := by
  unfold Controller.activate
  split
  · next hp =>
    have hlacks : c.phase.lacksSession = true := by
      rw [hp]
      rfl
    split
    · have hcleared : Attended blind { c with portalSeen := false } := h.same rfl rfl rfl
      exact hcleared.perform rfl
    · exact (h.unwatched_of_lacks hlacks).startActivation around d nofun nofun
        fun _ => h.fresh hlacks
  · exact h.same rfl rfl rfl
  · exact h.same rfl rfl rfl
  · exact h

theorem activateHeld (h : Attended blind c) (around : Surroundings) :
    Attended blind (c.activateHeld around) := by
  unfold Controller.activateHeld
  split
  · next d _ =>
    have hlet : Attended blind { c with held := none } := h.same rfl rfl rfl
    exact hlet.activate around d
  · exact h

end Attended

/-! ## Taking a tunnel down -/

theorem Reported.completeDisconnect (h : c.Reported) (around : Surroundings) :
    Attended blind (c.completeDisconnect around) := by
  obtain ⟨hdown, hs⟩ := h.stoodDown around
  have hawaited : (c.stoodDown around).awaited ≠ .disconnection := by
    have hstance : (c.stoodDown around).awaited = .nothing :=
      congrArg Stance.awaited stance_stoodDown
    rw [hstance]
    nofun
  have hoff : Attended blind ((c.stoodDown around).enter .off) := hdown.enterOff hs
  unfold Controller.completeDisconnect
  rw [← Controller.stoodDown]
  dsimp only
  generalize c.stoodDown around = down at hdown hs hawaited hoff
  split
  · exact hoff.same rfl rfl (vigil_finish _)
  · exact hoff.perform rfl
  · split
    · next hp =>
      split
      · refine .of_unwatched hdown ?_ (fun _ => hs) fun _ _ => hs
        rw [hp]
        nofun
      · exact hdown.reconnect around hs
    · exact hoff.activateHeld around

theorem Reported.beginDisconnect (h : c.Reported) (around : Surroundings)
    (hd : during = .disconnecting ∨ during = .captivePortal) :
    Attended blind (c.beginDisconnect around during) := by
  have hcancel : c.cancelTimers.Reported := h.congr rfl
  have hstopped : ((c.cancelTimers.stopHealth around).enter during).Unwatched :=
    (hcancel.stopHealth around).1.congr (vigil_enter _ during)
  have hphase : ((c.cancelTimers.stopHealth around).enter during).phase = during :=
    phase_enter _ during
  unfold Controller.beginDisconnect
  dsimp only
  generalize (c.cancelTimers.stopHealth around).enter during = stopped at hstopped hphase
  split
  · -- the session is over only once the wait ends, and its time is kept until then
    have hasked : (stopped.perform (.send .deactivate)).Unwatched :=
      hstopped.congr (vigil_perform stopped rfl)
    apply Attended.perform _ rfl
    refine .of_unwatched (hasked.congr rfl) ?_ ?_ fun _ ha => absurd rfl ha
    · show stopped.phase ≠ .on
      rcases hd with rfl | rfl <;> rw [hphase] <;> decide
    · show stopped.phase.lacksSession = true → _
      rcases hd with rfl | rfl <;> rw [hphase] <;> exact fun hlacks => absurd hlacks (by decide)
  · exact hstopped.toReported.completeDisconnect around

theorem Reported.giveUpServer (h : c.Reported) (around : Surroundings) (key : String) :
    Attended blind (c.giveUpServer around key) := by
  have htold : ((c.coolDown around key).emit (.handshakeFailed key)).Reported :=
    h.congr (vigil_perform (c.coolDown around key) rfl)
  exact htold.beginDisconnect around (.inl rfl)

theorem Reported.giveUpCity (h : c.Reported) (around : Surroundings) :
    Attended blind (c.giveUpCity around) := by
  have hplan : ({ c with nextStep := .serverUnavailable } : Controller).Reported := h.congr rfl
  exact hplan.beginDisconnect around (.inl rfl)

namespace Attended

variable (around)

/-! ## Requests of the user -/

theorem deactivate (h : Attended blind c) : Attended blind (c.deactivate around).2 := by
  have hlet : Attended blind { c with held := none } := h.same rfl rfl rfl
  unfold Controller.deactivate
  dsimp only
  split
  · exact hlet
  · exact hlet
  · exact hlet
  · next hp =>
    split
    · -- the wait for the daemon goes on, in another phase
      have hv := vigil_enter ({ c with held := none } : Controller) .disconnecting
      have hportal : c.phase ≠ .on := by
        rw [show c.phase = .captivePortal from hp]
        decide
      refine .of_unwatched ((hlet.unwatched hportal).congr hv) ?_ ?_ ?_ <;> rw [phase_enter]
      · decide
      · exact fun hlacks => absurd hlacks (by decide)
      · exact fun h => absurd h (by decide)
    · exact hlet.reported.finishOff around
  · exact hlet.reported.beginDisconnect around (.inl rfl)

theorem changeServer (h : Attended blind c) (d : Destination) (silent : Bool) :
    Attended blind (c.changeServer around d silent).2 := by
  unfold Controller.changeServer
  split
  · exact h.same rfl rfl rfl
  · exact h.same rfl rfl rfl
  · exact h.same rfl rfl rfl
  · split <;> exact h.same rfl rfl rfl
  · -- the session goes on over a switch: the phases of a switch do not lack one
    have hstopped := (h.reported.stopHealth around).1
    cases silent with
    | true => exact hstopped.startActivation around d (by decide) (by decide) nofun
    | false => exact hstopped.startActivation around d (by decide) (by decide) nofun

theorem silentSwitch (h : Attended blind c) : Attended blind (c.silentSwitch around).2 := by
  unfold Controller.silentSwitch
  split
  · next d s _ _ _ =>
    have hcool : Attended blind (c.coolDown around s.publicKey) := h.same rfl rfl rfl
    split
    · exact h
    · dsimp only
      split
      · exact hcool.reported.giveUpCity around
      · exact hcool.changeServer around d true
  · exact h

theorem quit (h : Attended blind c) : Attended blind (c.quit around) := by
  have hlet : Attended blind { c with held := none } := h.same rfl rfl rfl
  have hplan : Attended blind { c with held := none, nextStep := .quit } := h.same rfl rfl rfl
  unfold Controller.quit
  dsimp only
  split
  · exact hlet.same rfl rfl (vigil_finish _)
  · exact hlet.same rfl rfl (vigil_finish _)
  · exact hplan
  · split
    · exact hplan
    · exact (hlet.reported.finishOff around).same rfl rfl (vigil_finish _)
  · exact hplan.reported.beginDisconnect around (.inl rfl)

theorem portalDetected (h : Attended blind c) : Attended blind (c.portalDetected around) := by
  have hseen : Attended blind { c with portalSeen := true } := h.same rfl rfl rfl
  unfold Controller.portalDetected
  split
  · exact hseen.reported.beginDisconnect around (.inr rfl)
  · exact hseen
  · exact h

theorem portalGone (h : Attended blind c) : Attended blind (c.portalGone around) := by
  have hgone : Attended blind { c with portalSeen := false } := h.same rfl rfl rfl
  unfold Controller.portalGone
  dsimp only
  split
  · next hdown =>
    -- the session ended when the tunnel went down
    have hportal : c.phase ≠ .on := by
      rw [show c.phase = .captivePortal from hdown.1]
      decide
    exact (hgone.unwatched hportal).reconnect around (hgone.parked hdown.1 hdown.2)
  · exact hgone

theorem trySend (h : Attended blind c) (r : Request) : Attended blind (c.trySend around r) := by
  unfold Controller.trySend
  split
  · exact h.perform rfl
  · exact h

theorem fetchLogs (h : Attended blind c) (ticket : Nat) :
    Attended blind (c.fetchLogs around ticket) := by
  unfold Controller.fetchLogs
  split
  · exact (h.perform (e := .send .logs) rfl).same rfl rfl rfl
  · exact h.perform rfl

theorem requestStatus (h : Attended blind c) : Attended blind (c.requestStatus around) := by
  unfold Controller.requestStatus
  split
  · exact h.trySend around .status
  · exact h

/-! ## The link to the daemon -/

theorem onReady (h : Attended blind c) : Attended blind (c.onReady around) := by
  unfold Controller.onReady
  split
  · exact (h.perform (e := .send .status) rfl).same rfl rfl rfl
  · exact h.same rfl rfl rfl

theorem onLost (h : Attended blind c) : Attended blind (c.onLost around) := by
  have hcut : Attended blind c.cutOff :=
    h.same phase_cutOff (congrArg Stance.awaited stance_cutOff) (vigil_cutOff c)
  unfold Controller.onLost
  rw [← cutOff]
  generalize c.cutOff = cut at hcut
  dsimp only
  split
  · next hp =>
    -- the daemon never told of a tunnel, so there is none to end
    have hlacks : cut.phase.lacksSession = true := by
      rw [hp]
      rfl
    have hoff : Attended blind (cut.enter .off) :=
      (hcut.unwatched_of_lacks hlacks).enterOff (hcut.fresh hlacks)
    split
    · have hlet : Attended blind { cut.enter .off with held := none } := hoff.same rfl rfl rfl
      exact hlet.perform rfl
    · exact hoff
  · exact hcut
  · split
    · exact hcut.reported.completeDisconnect around
    · exact (hcut.reported.finishOff around).perform rfl

/-- The handshake is heard of before there is a session. -/
theorem heard (h : Attended blind c) (hne : c.awaited ≠ .disconnection) (key : String) :
    Attended blind (c.heard key) := by
  have hshaken : Attended blind { c.cancelTimers with awaited := .confirmation key } :=
    ⟨h.reported.congr rfl, h.armed, h.fresh, h.dated, fun hp _ => h.parked hp hne, h.watched⟩
  unfold Controller.heard
  dsimp only
  split
  · next hp =>
    have hlacks : c.phase.lacksSession = true := by
      rw [show c.phase = .connecting from hp]
      rfl
    have hv := vigil_enter ({ c.cancelTimers with awaited := .confirmation key } : Controller)
      .confirming
    exact .of_fresh ((hshaken.unwatched_of_lacks hlacks).congr hv) (by rw [phase_enter]; rfl)
      ((congrArg Vigil.since hv).trans (h.fresh hlacks))
  · exact hshaken

theorem onConnected (h : Attended blind c) (key : String) :
    Attended blind (c.onConnected around key) := by
  by_cases ha : c.awaited = .handshake key
  · have hheard : Attended blind (c.heard key) := h.heard (by rw [ha]; nofun) key
    rw [onConnected_eq ha]
    split
    · exact (hheard.perform (e := .send .status) rfl).perform rfl
    · exact (hheard.reported.finishOff around).perform rfl
  · rw [Controller.onConnected, if_neg ha]
    exact h

theorem onDisconnected (h : Attended blind c) : Attended blind (c.onDisconnected around) := by
  unfold Controller.onDisconnected
  split
  · exact h.reported.completeDisconnect around
  · exact h.reported.finishOff around
  · exact h.reported.finishOff around
  · split
    · exact h
    · exact h
    · exact h
    · exact h.reported.finishOff around

/-- A tunnel is up from now on. It is watched if there is a gateway to ask, and to arm the
    monitor tells nothing of the tunnel yet. -/
theorem of_up (h : c.Unwatched) {since : Nat} {target : Option Net.Address}
    (hsince : c.connectedSince = some since) (hb : target = none → blind)
    (last : Option StatusReport) :
    Attended blind ({ c.startHealth around target with lastStatus := last }.enter .on) := by
  suffices hup : (c.startHealth around target).Reported ∧
      (c.startHealth around target).connectedSince = some since ∧
      ((c.startHealth around target).health.isArmed = true ∨ blind) by
    obtain ⟨hreported, hdate, hwatched⟩ := hup
    have hv : ({ c.startHealth around target with lastStatus := last }.enter .on).vigil =
        (c.startHealth around target).vigil := vigil_enter _ .on
    have hhealth := congrArg Vigil.health hv
    have hconnected := (congrArg Vigil.since hv).trans hdate
    refine ⟨hreported.congr hv, fun _ => phase_enter _ .on, ?_, fun _ => ?_, ?_, fun _ => ?_⟩
    · rw [phase_enter]
      exact fun hlacks => absurd hlacks (by decide)
    · exact (congrArg Option.isSome hconnected).trans rfl
    · rw [phase_enter]
      exact fun hp => absurd hp (by decide)
    · exact hwatched.imp_left fun harmed => (congrArg HealthMonitor.isArmed hhealth).trans harmed
  cases target with
  | none => exact ⟨h.toReported, hsince, .inr (hb rfl)⟩
  | some t => exact ⟨⟨h.told, nofun⟩, hsince, .inl rfl⟩

/-- A tunnel that is taken over is watched if its gateway can be read. -/
theorem settled (h : Attended blind c) (s : StatusReport)
    (hb : s.connected = true → c.phase = .initializing ∨ c.phase = .off →
      Net.Address.read? s.gatewayV4 = none → blind) :
    Attended blind (c.settled around s) := by
  have hlacks : c.phase = .initializing ∨ c.phase = .off → c.phase.lacksSession = true := by
    rintro (hp | hp) <;> rw [hp] <;> rfl
  unfold Controller.settled
  split
  · next hup =>
    have hdated : ({ c with connectedSince := some s.date.toNat } : Controller).Unwatched :=
      (h.unwatched_of_lacks (hlacks hup.2)).idle rfl rfl
    exact of_up around hdated rfl (hb hup.1 hup.2) (some s)
  · split
    · next hp =>
      exact (h.unwatched_of_lacks (hlacks (.inl hp))).enterOff (h.fresh (hlacks (.inl hp)))
    · exact h

theorem onFirstStatus (h : Attended blind c) (s : StatusReport)
    (hb : s.connected = true → c.phase = .initializing ∨ c.phase = .off →
      Net.Address.read? s.gatewayV4 = none → blind) :
    Attended blind (c.onFirstStatus around s) := by
  have hsettled := h.settled around s hb
  rw [onFirstStatus_eq]
  generalize c.settled around s = settled at hsettled
  split
  · exact hsettled
  · next d _ =>
    have hlet : Attended blind { settled with held := none } := hsettled.same rfl rfl rfl
    split
    · exact hlet.activate around d
    · exact hlet.changeServer around d false
    · exact hlet

/-- A tunnel that is confirmed is watched, for the gateway of its server can be read. -/
theorem confirm (h : Attended blind c) (hp : c.phase ≠ .on) {server : Server}
    (hserver : c.server = some server)
    (hgateway : (Net.Address.read? server.gatewayV4).isSome = true) (s : StatusReport) :
    Attended blind (c.confirm around s) := by
  have hdated : ({ c.cancelTimers with
      awaited := .nothing
      connectedSince := some (if s.date = 0 then around.clock else s.date.toNat) } :
        Controller).Unwatched := (h.unwatched hp).idle rfl rfl
  refine of_up around hdated rfl (fun hnone => ?_) (some s)
  -- the gateway of the status is asked first, and that of the server in its place
  rw [hserver] at hnone
  have hboth := Option.or_eq_none_iff.mp hnone
  exact absurd (hgateway.symm.trans (congrArg Option.isSome hboth.2)) nofun

end Attended

/-- Every attempt goes to a server whose gateway can be read. -/
def Located (c : Controller) : Prop :=
  ∀ a, c.attempt? = some a → ∃ s, a.server = some s ∧ (Net.Address.read? s.gatewayV4).isSome = true

theorem tunnelTo_gateway {s : Server} {config : TunnelConfig} (h : c.tunnelTo s = .ok config) :
    (Net.Address.read? s.gatewayV4).isSome = true := by
  unfold tunnelTo at h
  unfold Net.Address.read?
  split at h
  · cases h
  · next hgateway =>
    rw [hgateway]
    rfl

/-- An attempt is the one of before, or goes to a server that a tunnel can be made to. -/
theorem Located.meet (h : c.Located) (hm : c.stance.Matched) (x : Happening) :
    (c.meet x).Located := by
  cases x with
  | measured registry => exact h
  | input around i =>
      intro a ha
      rcases handle_steers around hm i with hkeeps | ⟨d, -, s, config, hlaunches⟩
      · have hkept : (c.handle around i).attempt? = none ∨
            (c.handle around i).attempt? = c.attempt? := hkeeps.attempt
        rw [show (c.handle around i).attempt? = some a from ha] at hkept
        exact h a (hkept.resolve_left nofun).symm
      · have hsame : a = ⟨s.publicKey, some d, some s⟩ :=
          Option.some.inj (ha.symm.trans hlaunches.attempt)
        exact ⟨s, by rw [hsame], tunnelTo_gateway hlaunches.made⟩

theorem Located.server (h : c.Located) {key : String} (ha : c.awaited = .confirmation key) :
    ∃ s, c.server = some s ∧ (Net.Address.read? s.gatewayV4).isSome = true := by
  have hattempt : c.attempt? = some ⟨key, c.destination, c.server⟩ :=
    attempt?_eq_some.mpr ⟨congrArg Awaited.key? ha, rfl, rfl⟩
  exact h _ hattempt

/-- Whether what happens is the first status on a link, and tells of a tunnel that is taken
    over, but of no gateway that can be read. -/
def blindedBy (c : Controller) : Happening → Bool
  | .input _ (.link (.message (.status s))) =>
    c.adopts s && (Net.Address.read? s.gatewayV4).isNone
  | _ => false

namespace Attended

variable (around)

theorem onStatus (h : Attended blind c) (hm : c.stance.Matched) (hl : c.Located)
    (s : StatusReport)
    (hb : c.blindedBy (.input around (.link (.message (.status s)))) = true → blind) :
    Attended blind (c.onStatus around s) := by
  unfold Controller.onStatus
  split
  · next hfirst =>
    have hmark : Attended blind { c with awaitingFirstStatus := false } := h.same rfl rfl rfl
    refine hmark.onFirstStatus around s fun hup hp hnone => hb ?_
    have hadopts : c.adopts s = true := by
      simp [adopts, hfirst, hup, show c.phase = .initializing ∨ c.phase = .off from hp]
    simp [blindedBy, hadopts, hnone]
  · split
    · next key ha =>
      split
      · -- a tunnel that is waited for is not up
        obtain ⟨server, hserver, hgateway⟩ := hl.server ha
        have hp : c.phase ≠ .on := by
          rcases hm.phase_of_confirmation ha with hp | hp | hp <;>
            rw [show c.phase = _ from hp] <;> decide
        exact h.confirm around hp hserver hgateway s
      · exact h.reported.giveUpServer around key
    · exact (h.perform (e := .emit (.statusUpdated s.txBytes s.rxBytes)) rfl).same rfl rfl rfl

theorem onLogs (h : Attended blind c) (text : String) : Attended blind (c.onLogs text) := by
  unfold Controller.onLogs
  split
  · next rest _ =>
    have htaken : Attended blind { c with logFetches := rest } := h.same rfl rfl rfl
    exact htaken.perform rfl
  · exact h

theorem onBackendFailure (h : Attended blind c) :
    Attended blind (c.onBackendFailure around) := by
  unfold Controller.onBackendFailure
  split
  · exact h.perform rfl
  · exact (h.reported.finishOff around).perform rfl

theorem onLink (h : Attended blind c) (hm : c.stance.Matched) (hl : c.Located) (e : LinkEvent)
    (hb : c.blindedBy (.input around (.link e)) = true → blind) :
    Attended blind (c.onLink around e) := by
  cases e with
  | ready => exact h.onReady around
  | lost => exact h.onLost around
  | message r =>
      cases r with
      | connected key => exact h.onConnected around key
      | disconnected => exact h.onDisconnected around
      | status s => exact h.onStatus around hm hl s hb
      | logs text => exact h.onLogs text
      | backendFailure => exact h.onBackendFailure around

/-! ## Timers and probes -/

theorem onTimer (h : Attended blind c) (token : TimerToken) :
    Attended blind (c.onTimer around token) := by
  unfold Controller.onTimer
  split
  · split
    · exact h.reported.giveUpServer around _
    · exact h.reported.giveUpServer around _
    · exact h.reported.completeDisconnect around
    · exact h
  · exact h

/-- What leaves the monitor armed or not, and tells what it makes of the tunnel, keeps the
    watch. -/
theorem monitor (h : Attended blind c) (hr : c'.Reported) (hp : c'.phase = c.phase)
    (ha : c'.awaited = c.awaited) (hs : c'.connectedSince = c.connectedSince)
    (harmed : c'.health.isArmed = c.health.isArmed) : Attended blind c' := by
  refine ⟨hr, ?_, ?_, ?_, ?_, ?_⟩ <;> rw [hp]
  · rw [harmed]
    exact h.armed
  · rw [hs]
    exact h.fresh
  · rw [hs]
    exact h.dated
  · rw [ha, hs]
    exact h.parked
  · rw [harmed]
    exact h.watched

theorem probed (h : Attended blind c) {health : HealthMonitor}
    (harmed : health.isArmed = c.health.isArmed) (hs : health.stability = c.health.stability) :
    Attended blind { c with health := health } :=
  h.monitor ⟨h.reported.told.trans hs.symm, h.reported.quiet.congr harmed hs⟩ rfl rfl rfl harmed

theorem probeTick (h : Attended blind c) : Attended blind (c.probeTick around) := by
  unfold Controller.probeTick
  split
  · split
    · next hprobe =>
      obtain ⟨harmed, hs⟩ := HealthMonitor.nextProbe?_keeps hprobe
      split
      · exact (h.probed harmed hs).perform rfl
      · exact h.probed harmed hs
    · exact h
  · exact h

theorem onProbeReply (h : Attended blind c) (r : ProbeReply) :
    Attended blind (c.onProbeReply r) := by
  unfold Controller.onProbeReply
  split
  · split
    · next hanswer =>
      obtain ⟨harmed, hs⟩ := HealthMonitor.answer?_keeps hanswer
      exact h.probed harmed hs
    · exact h
  · exact h

theorem checked (h : Attended blind c) : Attended blind (c.checked around) := by
  have hstance : (c.checked around).stance = c.stance := stance_checked
  have harmed : (c.checked around).health.isArmed = c.health.isArmed := by
    rw [health_checked]
    exact HealthMonitor.isArmed_checkup c.health around.now
  exact h.monitor (h.reported.checked around) (congrArg Stance.phase hstance)
    (congrArg Stance.awaited hstance) (connectedSince_emitStability _ _) harmed

theorem checkup (h : Attended blind c) : Attended blind (c.checkup around) := by
  rw [checkup_eq]
  split
  · exact (h.checked around).silentSwitch around
  · exact h.checked around

/-! ## Every input -/

/-- Whatever comes to the connection, the watch is kept. -/
theorem handle (h : Attended blind c) (hm : c.stance.Matched) (hl : c.Located) (i : Input)
    (hb : c.blindedBy (.input around i) = true → blind) :
    Attended blind (c.handle around i) := by
  cases i with
  | activate d => exact h.activate around d
  | deactivate => exact h.deactivate around
  | changeServer d silent => exact h.changeServer around d silent
  | silentSwitch => exact h.silentSwitch around
  | quit => exact h.quit around
  | portal present =>
      cases present with
      | true => exact h.portalDetected around
      | false => exact h.portalGone around
  | fetchLogs ticket => exact h.fetchLogs around ticket
  | cleanLogs => exact h.trySend around .cleanLogs
  | requestStatus => exact h.requestStatus around
  | link e => exact h.onLink around hm hl e hb
  | timer token => exact h.onTimer around token
  | probeTick => exact h.probeTick around
  | probeReply r => exact h.onProbeReply r
  | checkup => exact h.checkup around

theorem meet (h : Attended blind c) (hm : c.stance.Matched) (hl : c.Located) (x : Happening)
    (hb : c.blindedBy x = true → blind) : Attended blind (c.meet x) := by
  cases x with
  | measured registry => exact h.same rfl rfl rfl
  | input around i => exact h.handle around hm hl i hb

end Attended

/-! ## On every run -/

theorem initial_attended (tuning : ControlTuning) (device : Device) (registry : Registry) :
    Attended blind (initial tuning device registry) :=
  .of_fresh ⟨⟨rfl, fun _ => rfl⟩, rfl⟩ rfl rfl

/-- The watch is kept on every run, but for tunnels that are up without one. -/
theorem run_attended {c₀ : Controller} (hm : c₀.stance.Matched) (hl : c₀.Located)
    (h : Attended True c₀) (happenings : List Happening) :
    (c₀.run happenings).Located ∧ Attended True (c₀.run happenings) := by
  suffices hrun : (c₀.run happenings).stance.Matched ∧ (c₀.run happenings).Located ∧
      Attended True (c₀.run happenings) from hrun.2
  refine run_keeps (P := fun c => c.stance.Matched ∧ c.Located ∧ Attended True c) ?_
    ⟨hm, hl, h⟩ happenings
  rintro c x ⟨hmatched, hlocated, hattended⟩
  exact ⟨meet_matched hmatched x, hlocated.meet hmatched x,
    hattended.meet hmatched hlocated x fun _ => trivial⟩

theorem blindedBy_of_on (hp : c.phase = .on) (x : Happening) : c.blindedBy x = false := by
  unfold blindedBy
  split
  · simp [adopts, hp]
  · rfl

/-- A tunnel that is watched is watched as long as it is up. -/
theorem Attended.stays (h : Attended False c) (hm : c.stance.Matched) (hl : c.Located)
    {after : List Happening} (hon : ∀ p, p <+: after → (c.run p).phase = .on) :
    Attended False (c.run after) := by
  induction after generalizing c with
  | nil => exact h
  | cons x after ih =>
      have hup : c.phase = .on := hon [] List.nil_prefix
      have hsees : c.blindedBy x = true → False := by
        rw [blindedBy_of_on hup x]
        nofun
      -- a tunnel that is up is not taken over, so nothing blinds the watch at this step
      apply ih (h.meet hm hl x hsees) (meet_matched hm x) (hl.meet hm x)
      intro p hp
      exact hon (x :: p) ((List.prefix_cons_inj x).mpr hp)

/-- A tunnel that comes up is watched from then on, unless it is taken over without a gateway
    to ask. -/
theorem run_watched {c₀ : Controller} (hm : c₀.stance.Matched) (hl : c₀.Located)
    (h : Attended True c₀) {before after : List Happening} {x : Happening}
    (hdown : (c₀.run before).phase ≠ .on) (hx : (c₀.run before).blindedBy x = false)
    (hon : ∀ p, p <+: after → (c₀.run (before ++ x :: p)).phase = .on) :
    (c₀.run (before ++ x :: after)).health.isArmed = true := by
  obtain ⟨hlocated, hattended⟩ := run_attended hm hl h before
  have hmatched := run_matched hm before
  have hstep : ∀ p, c₀.run (before ++ x :: p) = ((c₀.run before).meet x).run p :=
    fun p => run_append before (x :: p)
  -- before the tunnel comes up nothing is to be watched, so the watch is whole there
  have hentered : Attended False ((c₀.run before).meet x) := by
    apply (hattended.mono fun hup => absurd hup hdown).meet hmatched hlocated x
    rw [hx]
    nofun
  have hlast : Attended False (c₀.run (before ++ x :: after)) := by
    rw [hstep]
    apply hentered.stays (meet_matched hmatched x) (hlocated.meet hmatched x)
    intro p hp
    rw [← hstep]
    exact hon p hp
  exact (hlast.watched (hon after List.prefix_rfl)).resolve_right id

/-- The tunnel is watched while it is up, and only then. On every run, between two inputs:
    the monitor is armed only in the phase on, and while it is not armed there is no signal;
    the time of the connection is there in the phase on, and is not in the phases that lack
    a session. From the moment at which a tunnel comes up the monitor is armed as long as
    the tunnel stays up, unless the moment is the first status on a link, and a tunnel is
    taken over of which it tells no gateway that can be read. And what was told last of the
    stability is what the monitor makes of the tunnel. -/
theorem tunnel_is_watched_while_up (tuning : ControlTuning) (device : Device)
    (registry : Registry) (happenings : List Happening) :
    let first := initial tuning device registry
    let c := first.run happenings
    (c.health.isArmed = true → c.phase = .on) ∧
      (c.health.isArmed = false → c.health.stability = .noSignal) ∧
      (c.phase ∈ [.initializing, .off, .connecting, .confirming] → c.connectedSince = none) ∧
      (c.phase = .on → ∃ since, c.connectedSince = some since) ∧
      (∀ before x after, happenings = before ++ x :: after →
        (first.run before).phase ≠ .on →
        (∀ p, p <+: after → (first.run (before ++ x :: p)).phase = .on) →
        (∀ around s, x = .input around (.link (.message (.status s))) →
          (first.run before).adopts s = true →
            ∃ gateway, Net.Address.read? s.gatewayV4 = some gateway) →
        c.health.isArmed = true) ∧
      c.known = c.health.stability := by
  intro first c
  have hm : first.stance.Matched := initial_matched tuning device registry
  have hl : first.Located := nofun
  have hfirst : Attended True first := initial_attended tuning device registry
  have h : Attended True c := (run_attended hm hl hfirst happenings).2
  refine ⟨h.armed, h.reported.quiet, fun hp => h.fresh ?_, fun hon => ?_, ?_, h.reported.told⟩
  · simp only [List.mem_cons, List.not_mem_nil, or_false] at hp
    rcases hp with hp | hp | hp | hp <;> rw [hp] <;> rfl
  · exact Option.isSome_iff_exists.mp (h.dated hon)
  · rintro before x after hsplit hdown hon hgateway
    rw [show c = first.run (before ++ x :: after) by rw [← hsplit]]
    refine run_watched hm hl hfirst hdown ?_ hon
    unfold blindedBy
    split
    · next around s =>
      cases hadopts : (first.run before).adopts s with
      | false => rfl
      | true =>
          obtain ⟨gateway, hread⟩ := hgateway around s rfl hadopts
          rw [hread]
          rfl
    · rfl

/-- A tunnel that is taken over without a gateway goes without a watch. -/
example :
    let c := (initial {} sampleDevice southCooling).run
      [.input {} (.link .ready), .input {} (.link (.message (.status { connected := true })))]
    c.phase = .on ∧ c.health.isArmed = false := by
  decide +kernel

end Controller

end TunnelSession
