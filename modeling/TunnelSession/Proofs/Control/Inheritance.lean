/-
  TunnelSession.Proofs.Control.Inheritance

  What a state of the connection has from an earlier one: the destination that it
  holds, the plan to quit, and the requests that were sent. One lemma for each
  function, from the small moves up, says that it adds nothing of its own; only
  the requests for a tunnel and to quit do.
-/
import TunnelSession.Proofs.Control.Held

namespace TunnelSession

open Controller (Input)

namespace Controller

variable {started : Prop} {c₀ c c' : Controller} {around : Surroundings} {i : Input}

/-! ## What one state has from another -/

/-- `Inherits started c₀ c`: what `c` holds and has planned it has from `c₀`. It holds
    the same destination or none, quits only if `c₀` was to quit already, and has
    asked for no tunnel since, unless one was started. -/
structure Inherits (started : Prop) (c₀ c : Controller) : Prop where
  held : c.held = none ∨ c.held = c₀.held
  quit : c.nextStep = .quit → c₀.nextStep = .quit
  sent : ∃ new, c.sent = c₀.sent ++ new ∧ (started ∨ ∀ config, .activate config ∉ new)

namespace Inherits

theorem refl (c : Controller) : Inherits started c c :=
  ⟨.inr rfl, id, [], (List.append_nil _).symm, .inr fun _ => List.not_mem_nil⟩

/-- Other changes do not matter. -/
theorem same (h : Inherits started c₀ c) (hh : c'.held = c.held) (hn : c'.nextStep = c.nextStep)
    (hs : c'.sent = c.sent) : Inherits started c₀ c' :=
  ⟨hh ▸ h.held, hn ▸ h.quit, hs ▸ h.sent⟩

theorem letGo (h : Inherits started c₀ c) : Inherits started c₀ { c with held := none } :=
  ⟨.inl rfl, h.quit, h.sent⟩

/-- Nothing is held where nothing was. -/
theorem held_none (h : Inherits started c₀ c) (hc : c₀.held = none) : c.held = none :=
  h.held.elim id fun heq => heq.trans hc

/-! ## The moves -/

theorem perform (h : Inherits started c₀ c) (e : Effect)
    (he : started ∨ ∀ config, e ≠ .send (.activate config)) :
    Inherits started c₀ (c.perform e) := by
  obtain ⟨new, hsent, hnew⟩ := h.sent
  have hsend : (c.perform e).sent = c.sent ++ e.request?.toList :=
    congrArg Stance.sent (stance_perform c e)
  refine ⟨h.held, h.quit, new ++ e.request?.toList, ?_, ?_⟩
  · rw [hsend, hsent, List.append_assoc]
  · refine he.elim .inl fun hne => hnew.imp_right fun hnone config hmem => ?_
    rcases List.mem_append.mp hmem with hold | hlast
    · exact hnone config hold
    · cases e with
      | send r => exact hne config (by rw [List.mem_singleton.mp hlast])
      | arm | probe | emit | giveLogs => cases hlast

theorem emit (h : Inherits started c₀ c) (e : SessionEvent) : Inherits started c₀ (c.emit e) :=
  h.perform _ (.inr fun _ => nofun)

theorem arm (h : Inherits started c₀ c) (kind : TimerKind) (delay : Nat) :
    Inherits started c₀ (c.arm kind delay) :=
  h.perform _ (.inr fun _ => nofun)

theorem enter (h : Inherits started c₀ c) (p : Phase) : Inherits started c₀ (c.enter p) :=
  h.same (held_enter c p) (congrArg Stance.nextStep (stance_enter c p))
    (sent_enter c p)

theorem emitStability (h : Inherits started c₀ c) (s : Option Stability) :
    Inherits started c₀ (c.emitStability s) :=
  h.same (held_emitStability c s) (congrArg Stance.nextStep (stance_emitStability c s))
    (congrArg Stance.sent (stance_emitStability c s))

theorem stopHealth (h : Inherits started c₀ c) (around : Surroundings) :
    Inherits started c₀ (c.stopHealth around) :=
  h.same (held_stopHealth c around) (congrArg Stance.nextStep (stance_stopHealth c around))
    (sent_stopHealth c around)

theorem startHealth (h : Inherits started c₀ c) (around : Surroundings)
    (target : Option Net.Address) :
    Inherits started c₀ (c.startHealth around target) := by
  cases target with
  | none => exact h
  | some target => exact h.same rfl rfl rfl

theorem finish (h : Inherits started c₀ c) : Inherits started c₀ c.finish := by
  have hdone : Inherits started c₀ { c with finished := true } := h.same rfl rfl rfl
  exact hdone.emit .readyToQuit

theorem finishOff (h : Inherits started c₀ c) : Inherits started c₀ (c.finishOff around) := by
  have hidle : Inherits started c₀ { c.cancelTimers with awaited := .nothing } :=
    h.same rfl rfl rfl
  have hstopped : Inherits started c₀
      { ({ c.cancelTimers with awaited := .nothing } : Controller).stopHealth around with
        connectedSince := none } := (hidle.stopHealth around).same rfl rfl rfl
  exact hstopped.enter .off

theorem startActivation (h : Inherits started c₀ c) (hs : started) (d : Destination)
    (during : Phase) : Inherits started c₀ (c.startActivation around d during).2 := by
  unfold Controller.startActivation
  split
  · have hto : Inherits started c₀ { c with destination := some d } := h.same rfl rfl rfl
    exact hto.finishOff.emit _
  · next server _ =>
    split
    · exact h.finishOff
    · next config _ =>
      have hcancel : Inherits started c₀ c.cancelTimers := h.same rfl rfl rfl
      dsimp only
      split
      · exact hcancel.finishOff.emit _
      · have hsent := hcancel.perform (.send (.activate config)) (.inl hs)
        have hto : Inherits started c₀ { c.cancelTimers.perform (.send (.activate config)) with
            awaited := .handshake server.publicKey, destination := some d
            server := some server } := hsent.same rfl rfl rfl
        exact (hto.enter during).arm _ _

theorem reconnect (h : Inherits started c₀ c) (hs : started) :
    Inherits started c₀ (c.reconnect around) := by
  unfold Controller.reconnect
  split
  · exact h.finishOff
  · exact (h.startActivation hs _ _).same rfl rfl rfl

theorem activate (h : Inherits started c₀ c) (hs : started) (hinit : c.phase ≠ .initializing)
    (hdis : c.phase ≠ .disconnecting) (d : Destination) :
    Inherits started c₀ (c.activate around d).2 := by
  unfold Controller.activate
  split
  · split
    · have hclear : Inherits started c₀ { c with portalSeen := false } := h.same rfl rfl rfl
      exact hclear.emit .blockedByPortal
    · exact h.startActivation hs d .connecting
  · next hp => exact absurd hp hinit
  · next hp => exact absurd hp hdis
  · exact h

theorem activate_of_off (h : Inherits started c₀ c) (hs : started) (hp : c.phase = .off)
    (d : Destination) : Inherits started c₀ (c.activate around d).2 :=
  h.activate hs (by rw [hp]; nofun) (by rw [hp]; nofun) d

theorem activateHeld (h : Inherits started c₀ c) (hs : c₀.held.isSome = true → started)
    (hp : c.phase = .off) : Inherits started c₀ (c.activateHeld around) := by
  unfold Controller.activateHeld
  split
  · next d hd =>
    -- it is the destination that was held before
    have heq : c.held = c₀.held := h.held.resolve_left fun hnone => by rw [hnone] at hd; cases hd
    have hstart : started := hs (by rw [← heq, hd]; rfl)
    exact h.letGo.activate_of_off hstart hp d
  · exact h

theorem completeDisconnect (h : Inherits started c₀ c) (hs : c₀.held.isSome = true → started)
    (hportal : c.phase = .captivePortal → started) :
    Inherits started c₀ (c.completeDisconnect around) := by
  unfold Controller.completeDisconnect
  generalize hdown : ({ { c.cancelTimers with awaited := .nothing }.stopHealth around with
    connectedSince := none, nextStep := .nothing } : Controller) = down
  have hidle : Inherits started c₀ { c.cancelTimers with awaited := .nothing } :=
    h.same rfl rfl rfl
  have hto : Inherits started c₀ down := by
    rw [← hdown]
    exact ⟨(hidle.stopHealth around).held, fun hq => absurd hq nofun, (hidle.stopHealth around).sent⟩
  have hphase : down.phase = c.phase := by
    rw [← hdown]
    exact phase_stopHealth { c.cancelTimers with awaited := .nothing } around
  have hoff : (down.enter .off).phase = .off := phase_enter down .off
  dsimp only
  split
  · exact (hto.enter .off).finish
  · exact (hto.enter .off).emit _
  · split
    · next hp =>
      split
      · exact hto
      · exact hto.reconnect (hportal (hphase ▸ hp))
    · exact (hto.enter .off).activateHeld hs hoff

theorem beginDisconnect (h : Inherits started c₀ c) (hs : c₀.held.isSome = true → started)
    {during : Phase} (hportal : during = .captivePortal → started) :
    Inherits started c₀ (c.beginDisconnect around during) := by
  have hcancel : Inherits started c₀ c.cancelTimers := h.same rfl rfl rfl
  have hstopped := (hcancel.stopHealth around).enter during
  have hphase : ((c.cancelTimers.stopHealth around).enter during).phase = during :=
    phase_enter _ during
  unfold Controller.beginDisconnect
  dsimp only
  split
  · have hsent := hstopped.perform (.send .deactivate) (.inr nofun)
    refine Inherits.arm ?_ _ _
    exact hsent.same rfl rfl rfl
  · exact hstopped.completeDisconnect hs fun hp => hportal (hphase ▸ hp)

theorem giveUpServer (h : Inherits started c₀ c) (hs : c₀.held.isSome = true → started)
    (key : String) : Inherits started c₀ (c.giveUpServer around key) := by
  have hcool : Inherits started c₀ (c.coolDown around key) := h.same rfl rfl rfl
  exact (hcool.emit _).beginDisconnect hs nofun

theorem giveUpCity (h : Inherits started c₀ c) (hs : c₀.held.isSome = true → started) :
    Inherits started c₀ (c.giveUpCity around) := by
  have hplan : Inherits started c₀ { c with nextStep := .serverUnavailable } :=
    ⟨h.held, fun hq => absurd hq nofun, h.sent⟩
  exact hplan.beginDisconnect hs nofun

/-! ## Requests of the user -/

theorem deactivate (h : Inherits started c₀ c) (hs : c₀.held.isSome = true → started) :
    Inherits started c₀ (c.deactivate around).2 := by
  unfold Controller.deactivate
  dsimp only
  split
  · exact h.letGo
  · exact h.letGo
  · exact h.letGo
  · split
    · exact h.letGo.enter .disconnecting
    · exact h.letGo.finishOff
  · exact h.letGo.beginDisconnect hs nofun

theorem changeServer (h : Inherits started c₀ c) (hs : started)
    (hc : c.held = none ∨ c.phase ≠ .disconnecting) (d : Destination) (silent : Bool) :
    Inherits started c₀ (c.changeServer around d silent).2 := by
  unfold Controller.changeServer
  split
  · exact h.same rfl rfl rfl
  · exact h.same rfl rfl rfl
  · exact h.same rfl rfl rfl
  · next hp =>
    have hnone : c.held = none := hc.resolve_right fun hne => hne hp
    rw [if_neg (by rw [hnone]; nofun)]
    exact h.same rfl rfl rfl
  · exact (h.stopHealth around).startActivation hs _ _

theorem silentSwitch (h : Inherits started c₀ c) (hs : started) :
    Inherits started c₀ (c.silentSwitch around).2 := by
  unfold Controller.silentSwitch
  split
  · next d s hp _ _ =>
    have hcool : Inherits started c₀ (c.coolDown around s.publicKey) := h.same rfl rfl rfl
    have hon : (c.coolDown around s.publicKey).phase ≠ .disconnecting := by
      rw [show (c.coolDown around s.publicKey).phase = .on from hp]
      nofun
    split
    · exact h
    · dsimp only
      split
      · exact hcool.giveUpCity fun _ => hs
      · exact hcool.changeServer hs (.inr hon) d true
  · exact h

theorem portalDetected (h : Inherits started c₀ c) (hs : started) :
    Inherits started c₀ (c.portalDetected around) := by
  have hseen : Inherits started c₀ { c with portalSeen := true } := h.same rfl rfl rfl
  unfold Controller.portalDetected
  split
  · exact hseen.beginDisconnect (fun _ => hs) fun _ => hs
  · exact hseen
  · exact h

theorem portalGone (h : Inherits started c₀ c) (hs : started) :
    Inherits started c₀ (c.portalGone around) := by
  have hclear : Inherits started c₀ { c with portalSeen := false } := h.same rfl rfl rfl
  unfold Controller.portalGone
  dsimp only
  split
  · exact hclear.reconnect hs
  · exact hclear

theorem trySend (h : Inherits started c₀ c) {r : Request} (hr : r.isOrder = false) :
    Inherits started c₀ (c.trySend around r) := by
  unfold Controller.trySend
  split
  · exact h.perform _ (.inr fun config heq => by cases heq; cases hr)
  · exact h

theorem fetchLogs (h : Inherits started c₀ c) (ticket : Nat) :
    Inherits started c₀ (c.fetchLogs around ticket) := by
  unfold Controller.fetchLogs
  split
  · exact (h.perform (.send .logs) (.inr nofun)).same rfl rfl rfl
  · exact h.perform _ (.inr nofun)

theorem requestStatus (h : Inherits started c₀ c) :
    Inherits started c₀ (c.requestStatus around) := by
  unfold Controller.requestStatus
  split
  · exact h.trySend rfl
  · exact h

/-! ## The link to the daemon -/

theorem onReady (h : Inherits started c₀ c) : Inherits started c₀ (c.onReady around) := by
  unfold Controller.onReady
  split
  · exact (h.perform (.send .status) (.inr nofun)).same rfl rfl rfl
  · exact h.same rfl rfl rfl

theorem onLost (h : Inherits started c₀ c) (hs : c₀.held.isSome = true → started)
    (hportal : c.phase = .captivePortal → started) :
    Inherits started c₀ (c.onLost around) := by
  have hcut : Inherits started c₀ c.cutOff :=
    h.same (held_dropLogFetches _) (congrArg Stance.nextStep (stance_cutOff (c := c)) :)
      (congrArg Stance.sent (stance_cutOff (c := c)) :)
  unfold Controller.onLost
  rw [← cutOff]
  dsimp only
  split
  · split
    · exact (hcut.enter .off).letGo.emit _
    · exact hcut.enter .off
  · exact hcut
  · split
    · exact hcut.completeDisconnect hs fun hp => hportal (phase_cutOff.symm.trans hp)
    · exact hcut.finishOff.emit _

theorem heard (h : Inherits started c₀ c) (key : String) :
    Inherits started c₀ (c.heard key) := by
  have hshaken : Inherits started c₀ { c.cancelTimers with awaited := .confirmation key } :=
    h.same rfl rfl rfl
  unfold Controller.heard
  dsimp only
  split
  · exact hshaken.enter .confirming
  · exact hshaken

theorem onConnected (h : Inherits started c₀ c) (key : String) :
    Inherits started c₀ (c.onConnected around key) := by
  by_cases ha : c.awaited = .handshake key
  · rw [onConnected_eq ha]
    split
    · exact ((h.heard key).perform (.send .status) (.inr nofun)).arm _ _
    · exact (h.heard key).finishOff.emit _
  · rw [Controller.onConnected, if_neg ha]
    exact h

theorem onDisconnected (h : Inherits started c₀ c) (hs : c₀.held.isSome = true → started)
    (hportal : c.phase = .captivePortal → started) :
    Inherits started c₀ (c.onDisconnected around) := by
  unfold Controller.onDisconnected
  split
  · exact h.completeDisconnect hs hportal
  · exact h.finishOff
  · exact h.finishOff
  · split
    · exact h
    · exact h
    · exact h
    · exact h.finishOff

theorem settled (h : Inherits started c₀ c) (around : Surroundings) (s : StatusReport) :
    Inherits started c₀ (c.settled around s) := by
  unfold Controller.settled
  split
  · have hsince : Inherits started c₀ { c with connectedSince := some s.date.toNat } :=
      h.same rfl rfl rfl
    have hstarted := hsince.startHealth around (Net.Address.read? s.gatewayV4)
    refine Inherits.enter ?_ .on
    exact hstarted.same rfl rfl rfl
  · split
    · exact h.enter .off
    · exact h

/-- The held destination has had its turn after the first status. -/
theorem onFirstStatus (h : Inherits started c₀ c) (hs : c₀.held.isSome = true → started)
    (s : StatusReport) :
    Inherits started c₀ (c.onFirstStatus around s) ∧ (c.onFirstStatus around s).held = none := by
  have hmid := h.settled around s
  rw [onFirstStatus_eq]
  generalize c.settled around s = mid at hmid
  split
  · next hnone => exact ⟨hmid, hnone⟩
  · next d hd =>
    have heq : mid.held = c₀.held := hmid.held.resolve_left fun hnone => by
      rw [hnone] at hd
      cases hd
    have hstart : started := hs (by rw [← heq, hd]; rfl)
    have hempty : Inherits True { mid with held := none } { mid with held := none } := .refl _
    split
    · next hp =>
      exact ⟨hmid.letGo.activate_of_off hstart hp d,
        (hempty.activate_of_off trivial hp d).held_none rfl⟩
    · exact ⟨hmid.letGo.changeServer hstart (.inl rfl) d false,
        (hempty.changeServer trivial (.inl rfl) d false).held_none rfl⟩
    · exact ⟨hmid.letGo, rfl⟩

theorem confirm (h : Inherits started c₀ c) (s : StatusReport) :
    Inherits started c₀ (c.confirm around s) := by
  have hsince : Inherits started c₀ { c.cancelTimers with
      awaited := .nothing
      connectedSince := some (if s.date = 0 then around.clock else s.date.toNat) } :=
    h.same rfl rfl rfl
  have hstarted := hsince.startHealth around ((Net.Address.read? s.gatewayV4).or
    (c.server.bind (fun server => Net.Address.read? server.gatewayV4)))
  unfold Controller.confirm
  refine Inherits.enter ?_ .on
  exact hstarted.same rfl rfl rfl

theorem onStatus (h : Inherits started c₀ c) (hs : c₀.held.isSome = true → started)
    (s : StatusReport) : Inherits started c₀ (c.onStatus around s) := by
  unfold Controller.onStatus
  split
  · have hmark : Inherits started c₀ { c with awaitingFirstStatus := false } :=
      h.same rfl rfl rfl
    exact (hmark.onFirstStatus hs s).1
  · split
    · next key _ =>
      split
      · exact h.confirm s
      · exact h.giveUpServer hs key
    · exact (h.emit _).same rfl rfl rfl

theorem onLogs (h : Inherits started c₀ c) (text : String) :
    Inherits started c₀ (c.onLogs text) := by
  unfold Controller.onLogs
  split
  · next rest _ =>
    have htaken : Inherits started c₀ { c with logFetches := rest } := h.same rfl rfl rfl
    exact htaken.perform _ (.inr nofun)
  · exact h

theorem onBackendFailure (h : Inherits started c₀ c) :
    Inherits started c₀ (c.onBackendFailure around) := by
  unfold Controller.onBackendFailure
  split
  · exact h.emit _
  · exact h.finishOff.emit _

theorem onLink (h : Inherits started c₀ c) (hs : c₀.held.isSome = true → started)
    (hportal : c.phase = .captivePortal → started) (e : LinkEvent) :
    Inherits started c₀ (c.onLink around e) := by
  cases e with
  | ready => exact h.onReady
  | lost => exact h.onLost hs hportal
  | message r =>
      cases r with
      | connected key => exact h.onConnected key
      | disconnected => exact h.onDisconnected hs hportal
      | status s => exact h.onStatus hs s
      | logs text => exact h.onLogs text
      | backendFailure => exact h.onBackendFailure

/-! ## Timers and probes -/

theorem onTimer (h : Inherits started c₀ c) (hs : c₀.held.isSome = true → started)
    (hportal : c.phase = .captivePortal → started) (token : TimerToken) :
    Inherits started c₀ (c.onTimer around token) := by
  unfold Controller.onTimer
  split
  · split
    · exact h.giveUpServer hs _
    · exact h.giveUpServer hs _
    · exact h.completeDisconnect hs hportal
    · exact h
  · exact h

theorem probeTick (h : Inherits started c₀ c) : Inherits started c₀ (c.probeTick around) := by
  unfold Controller.probeTick
  split
  · split
    · next health _ =>
      have hprobed : Inherits started c₀ { c with health := health } := h.same rfl rfl rfl
      split
      · exact hprobed.perform _ (.inr nofun)
      · exact h.same rfl rfl rfl
    · exact h
  · exact h

theorem onProbeReply (h : Inherits started c₀ c) (r : ProbeReply) :
    Inherits started c₀ (c.onProbeReply r) := by
  unfold Controller.onProbeReply
  split
  · split
    · exact h.same rfl rfl rfl
    · exact h
  · exact h

theorem checkup (h : Inherits started c₀ c) (hs : started) :
    Inherits started c₀ (c.checkup around) := by
  have hlook : Inherits started c₀ { c with health := (c.health.checkup around.now).2 } :=
    h.same rfl rfl rfl
  have hchecked := hlook.emitStability (c.health.checkup around.now).1
  unfold Controller.checkup
  dsimp only
  split
  · exact hchecked.silentSwitch hs
  · exact hchecked

end Inherits

/-- Whether an input puts a destination aside, for the first status or for the end of
    the tunnel. -/
def putsAside (c : Controller) : Input → Bool
  | .activate _ => c.phase = .initializing || c.phase = .disconnecting
  | .changeServer _ _ => c.phase = .disconnecting && c.held.isSome
  | _ => false

theorem phase_of_putsAside (hi : c.putsAside i = true) :
    c.phase = .initializing ∨ c.phase = .disconnecting := by
  cases i with
  | activate d => simpa [putsAside] using hi
  | changeServer d silent =>
      have hboth : c.phase = .disconnecting ∧ c.held.isSome = true := by
        simpa [putsAside] using hi
      exact .inr hboth.1
  | _ => cases hi

/-- To put a destination aside is all that such an input does. -/
theorem handle_of_putsAside (around : Surroundings) (hi : c.putsAside i = true) :
    ∃ d, c.handle around i = c.hold (some d) := by
  have hphase := phase_of_putsAside hi
  cases i with
  | activate d =>
      refine ⟨d, ?_⟩
      change (c.activate around d).2 = _
      unfold activate
      rcases hphase with hp | hp <;> simp [hp, hold]
  | changeServer d silent =>
      have hboth : c.phase = .disconnecting ∧ c.held.isSome = true := by
        simpa [putsAside] using hi
      refine ⟨d, ?_⟩
      change (c.changeServer around d silent).2 = _
      unfold changeServer
      simp [hboth.1, hboth.2, hold]
  | _ => cases hi

/-- Any other input but the request to quit plans and holds nothing of its own. -/
theorem handle_inherits (around : Surroundings) (hi : c.putsAside i = false) (hq : i ≠ .quit) :
    Inherits True c (c.handle around i) := by
  have h : Inherits True c c := .refl c
  cases i with
  | activate d =>
      have hne : ¬ c.phase = .initializing ∧ ¬ c.phase = .disconnecting := by
        simpa [putsAside] using hi
      exact h.activate trivial hne.1 hne.2 d
  | deactivate => exact h.deactivate fun _ => trivial
  | changeServer d silent =>
      refine h.changeServer trivial ?_ d silent
      by_cases hp : c.phase = .disconnecting
      · have hnone : c.held = none := by simpa [putsAside, hp] using hi
        exact .inl hnone
      · exact .inr hp
  | silentSwitch => exact h.silentSwitch trivial
  | quit => exact absurd rfl hq
  | portal present =>
      cases present with
      | true => exact h.portalDetected trivial
      | false => exact h.portalGone trivial
  | fetchLogs ticket => exact h.fetchLogs ticket
  | cleanLogs => exact h.trySend rfl
  | requestStatus => exact h.requestStatus
  | link e => exact h.onLink (fun _ => trivial) (fun _ => trivial) e
  | timer token => exact h.onTimer (fun _ => trivial) (fun _ => trivial) token
  | probeTick => exact h.probeTick
  | probeReply r => exact h.onProbeReply r
  | checkup => exact h.checkup trivial

/-- The plan to quit is made by the request for it. -/
theorem nextStep_handle_ne_quit (hn : c.nextStep ≠ .quit) (hq : i ≠ .quit) :
    (c.handle around i).nextStep ≠ .quit := by
  cases hi : c.putsAside i with
  | true =>
      obtain ⟨d, hd⟩ := handle_of_putsAside around hi
      rw [hd]
      exact hn
  | false => exact fun heq => hn ((handle_inherits around hi hq).quit heq)

/-- Whether an input comes from the daemon, the link to it, or a timer. -/
@[simp] def Input.comesUnasked : Input → Bool
  | .link _ | .timer _ => true
  | _ => false

/-- Unasked, a tunnel is started only if a destination is held, or once a portal is no
    longer in the way. -/
theorem handle_inherits_of_comesUnasked (around : Surroundings) (hi : i.comesUnasked = true) :
    Inherits (c.held.isSome = true ∨ c.phase = .captivePortal) c (c.handle around i) := by
  have h : Inherits (c.held.isSome = true ∨ c.phase = .captivePortal) c c := .refl c
  cases i with
  | link e => exact h.onLink .inl .inr e
  | timer token => exact h.onTimer .inl .inr token
  | _ => cases hi

end Controller

end TunnelSession
