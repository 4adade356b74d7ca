/-
  TunnelSession.Proofs.Control.Switches

  What a switch to another server does to the tunnel that it replaces. From an
  active phase the connection goes on to another active one, or asks the daemon for
  the end of the tunnel; without a word it comes to rest only if the tunnel is gone
  already, or if the daemon cannot be asked. But a switch for which no tunnel can be
  made comes to rest as well, and the tunnel that it was to replace stays up.
-/
import TunnelSession.Proofs.Control.Held

namespace TunnelSession

open Controller (Input)

/-- Whether an input tells that the tunnel is gone, or that the daemon's machinery
    failed. -/
@[simp] def Controller.Input.endsTunnel : Input → Bool
  | .link .lost | .link (.message .disconnected) | .link (.message .backendFailure) => true
  | _ => false

/-- The same world, with a link that takes every request. -/
def Surroundings.linked (around : Surroundings) : Surroundings :=
  { around with accepts := fun _ => .ok () }

namespace Controller

variable {c c' c₁ : Controller} {around : Surroundings} {i : Input} {d : Destination}
  {during : Phase}

/-! ## Tunnels that can be made -/

/-- Whether a tunnel can be made to the server that is chosen of a destination. -/
def canReach (c : Controller) (around : Surroundings) (d : Destination) : Bool :=
  (d.choose? c.registry around.clock around.dice).any fun s => (c.tunnelTo s).isOk

/-- What a tunnel is made from. -/
def means (c : Controller) : ControlTuning × Device × Registry := (c.tuning, c.device, c.registry)

theorem means_enter (p : Phase) : (c.enter p).means = c.means := by
  unfold enter
  split <;> rfl

theorem means_emitStability (s : Option Stability) : (c.emitStability s).means = c.means := by
  cases s <;> rfl

theorem means_stopHealth : (c.stopHealth around).means = c.means :=
  means_emitStability (c := { c with health := (c.health.stop around.now).2 }) _

theorem means_startHealth (target : Option Net.Address) :
    (c.startHealth around target).means = c.means := by
  cases target <;> rfl

theorem means_settled (s : StatusReport) : (c.settled around s).means = c.means := by
  unfold settled
  split
  · rw [means_enter]
    exact means_startHealth (c := { c with connectedSince := some s.date.toNat }) _
  · split
    · exact means_enter _
    · rfl

theorem tunnelTo_congr (htuning : c'.tuning = c.tuning) (hdevice : c'.device = c.device)
    (s : Server) : c'.tunnelTo s = c.tunnelTo s := by
  unfold tunnelTo
  rw [htuning, hdevice]

theorem canReach_congr (h : c'.means = c.means) : c'.canReach around d = c.canReach around d := by
  obtain ⟨htuning, hrest⟩ := Prod.mk.inj h
  obtain ⟨hdevice, hregistry⟩ := Prod.mk.inj hrest
  simp only [canReach, hregistry, tunnelTo_congr htuning hdevice]

/-- If no tunnel can be made, the connection comes to rest, whether or not a tunnel
    is up. -/
theorem startActivation_of_not_canReach (during : Phase) (h : c.canReach around d = false) :
    (c.startActivation around d during).2.phase = .off ∧
      (c.startActivation around d during).2.sent = c.sent := by
  unfold startActivation
  split
  · -- no server can be chosen
    exact ⟨phase_finishOff { c with destination := some d } around,
      (sent_emit _ _).trans (sent_finishOff { c with destination := some d } around)⟩
  · next s hs =>
    split
    · -- no tunnel to the chosen one is valid
      exact ⟨phase_finishOff c around, sent_finishOff c around⟩
    · next config hconfig =>
      -- a server is there and a tunnel to it is valid
      have hreach : c.canReach around d = true :=
        (Option.any_eq_true _ _).mpr ⟨s, hs, by rw [hconfig]; rfl⟩
      exact absurd (hreach.symm.trans h) nofun

theorem startActivation_of_canReach (hl : ∀ r, around.accepts r = .ok ())
    (h : c.canReach around d = true) : (c.startActivation around d during).2.phase = during := by
  obtain ⟨s, hs, hvalid⟩ := (Option.any_eq_true _ _).mp h
  unfold startActivation
  rw [hs]
  dsimp only
  cases hconfig : c.tunnelTo s with
  | error e => rw [hconfig] at hvalid; cases hvalid
  | ok config =>
      dsimp only
      rw [hl]
      exact phase_enter _ during

/-! ## Switches -/

/-- Whether the first status tells of a tunnel that is taken over. -/
def adopts (c : Controller) (s : StatusReport) : Bool :=
  c.awaitingFirstStatus && s.connected && (c.phase = .initializing || c.phase = .off)

/-- Whether a tunnel is up or on its way up, as far as is known once the input is
    there. -/
def hasTunnel (c : Controller) : Input → Bool
  | .link (.message (.status s)) => c.phase.isActive || c.adopts s
  | _ => c.phase.isActive

/-- Whether an unstable tunnel is to move to another server of the city, and none can
    be made to the one that is chosen. -/
def failsToMove (c : Controller) (around : Surroundings) : Bool :=
  c.phase = .on && c.destination.any fun d => c.server.any fun s =>
    let cooled := c.coolDown around s.publicKey
    2 ≤ d.servers.length && !(d.available cooled.registry around.clock).isEmpty &&
      !cooled.canReach around d

/-- Whether an input is a switch for which no tunnel can be made. -/
def failsToSwitch (c : Controller) (around : Surroundings) : Input → Bool
  | .changeServer d _ => c.phase.isActive && !c.canReach around d
  | .silentSwitch => c.failsToMove around
  | .checkup =>
    (c.health.checkup around.now).1 = some .unstable && c.tuning.switchOnUnstable &&
      c.failsToMove around
  | .link (.message (.status s)) =>
    (c.awaitingFirstStatus && c.phase = .on || c.adopts s) &&
      c.held.any fun d => !c.canReach around d
  | _ => false

/-- The connection keeps what tunnel there was, or asks the daemon for its end. -/
def Upholds (c c' : Controller) : Prop :=
  c'.phase.isActive = true ∨ ∃ new, c'.sent = c.sent ++ new ∧ .deactivate ∈ new

theorem Upholds.of_sent (hs : c₁.sent = c.sent) (h : Upholds c₁ c') : Upholds c c' :=
  h.imp_right fun ⟨new, hnew, hmem⟩ => ⟨new, hs ▸ hnew, hmem⟩

/-- A tunnel is up where one was. -/
theorem Upholds.of_phase (hp : c.phase.isActive = true) (h : c'.phase = c.phase) :
    Upholds c c' :=
  .inl (h ▸ hp)

theorem beginDisconnect_upholds (hl : ∀ r, around.accepts r = .ok ()) :
    c.Upholds (c.beginDisconnect around during) := by
  have hstopped : ((c.cancelTimers.stopHealth around).enter during).sent = c.sent :=
    (sent_enter _ during).trans (sent_stopHealth c.cancelTimers around)
  refine .inr ⟨[.deactivate], ?_, .head _⟩
  unfold beginDisconnect
  dsimp only
  rw [hl]
  generalize (c.cancelTimers.stopHealth around).enter during = stopped at hstopped
  rw [← hstopped]
  have hsend := congrArg Stance.sent (stance_send stopped .deactivate)
  have harm := congrArg Stance.sent (stance_arm ({ stopped.perform (.send .deactivate) with
    awaited := .disconnection } : Controller) .disconnect stopped.tuning.disconnectTimeout)
  exact harm.trans hsend

theorem giveUpServer_upholds (hl : ∀ r, around.accepts r = .ok ()) (key : String) :
    c.Upholds (c.giveUpServer around key) :=
  (beginDisconnect_upholds hl).of_sent (sent_emit (c.coolDown around key) (.handshakeFailed key))

/-! ### To another city -/

theorem changeServer_of_isActive (hp : c.phase.isActive = true) (d : Destination)
    (silent : Bool) : c.changeServer around d silent =
      (c.stopHealth around).startActivation around d
        (if silent then .silentSwitching else .switching) := by
  unfold changeServer
  split
  all_goals first | rfl | next h => rw [h] at hp; cases hp

theorem changeServer_of_not_canReach (hp : c.phase.isActive = true) {silent : Bool}
    (h : c.canReach around d = false) :
    (c.changeServer around d silent).2.phase = .off ∧
      (c.changeServer around d silent).2.sent = c.sent := by
  rw [changeServer_of_isActive hp]
  obtain ⟨hphase, hsent⟩ := startActivation_of_not_canReach
    (if silent then .silentSwitching else .switching) ((canReach_congr means_stopHealth).trans h)
  exact ⟨hphase, hsent.trans (sent_stopHealth c around)⟩

theorem changeServer_of_canReach (hl : ∀ r, around.accepts r = .ok ())
    (hp : c.phase.isActive = true) {silent : Bool} (h : c.canReach around d = true) :
    (c.changeServer around d silent).2.phase.isActive = true := by
  rw [changeServer_of_isActive hp, startActivation_of_canReach hl
    ((canReach_congr means_stopHealth).trans h)]
  cases silent <;> rfl

/-! ### To another server of the city -/

theorem silentSwitch_of_failsToMove (h : c.failsToMove around = true) :
    (c.silentSwitch around).2.phase = .off ∧ (c.silentSwitch around).2.sent = c.sent := by
  simp only [failsToMove, Bool.and_eq_true, decide_eq_true_eq, Option.any_eq_true,
    Bool.not_eq_true'] at h
  obtain ⟨hon, d, hd, s, hs, ⟨hmany, hsome⟩, hstuck⟩ := h
  unfold silentSwitch
  rw [hon, hd, hs]
  dsimp only
  rw [if_neg (Nat.not_lt.mpr hmany), if_neg (by rw [hsome]; nofun)]
  exact changeServer_of_not_canReach (c := c.coolDown around s.publicKey)
    (congrArg Phase.isActive hon) hstuck

theorem silentSwitch_upholds (hl : ∀ r, around.accepts r = .ok ())
    (hp : c.phase.isActive = true) (h : c.failsToMove around = false) :
    c.Upholds (c.silentSwitch around).2 := by
  unfold silentSwitch
  split
  · next d s hon hd hs =>
    split
    · -- the city has no other server
      exact .of_phase hp rfl
    · next hmany =>
      dsimp only
      split
      · -- none of the others can be used, and the tunnel is taken down
        exact (beginDisconnect_upholds hl).of_sent rfl
      · next hsome =>
        have hreach : (c.coolDown around s.publicKey).canReach around d = true := by
          simpa [failsToMove, hon, hd, hs, hsome, Nat.not_lt.mp hmany] using h
        exact .inl (changeServer_of_canReach hl (c := c.coolDown around s.publicKey)
          (congrArg Phase.isActive hon) hreach)
  · exact .of_phase hp rfl

/-! ### Once a session is restored -/

theorem phase_settled (s : StatusReport) : (c.settled around s).phase =
    if s.connected ∧ (c.phase = .initializing ∨ c.phase = .off) then .on
    else if c.phase = .initializing then .off else c.phase := by
  unfold settled
  split
  · exact phase_enter _ .on
  · split
    · exact phase_enter c .off
    · rfl

theorem held_settled (s : StatusReport) : (c.settled around s).held = c.held := by
  unfold settled
  split
  · rw [held_enter]
    cases Net.Address.read? s.gatewayV4 <;> rfl
  · split
    · exact held_enter c .off
    · rfl

theorem sent_settled (s : StatusReport) : (c.settled around s).sent = c.sent := by
  unfold settled
  split
  · rw [sent_enter]
    exact sent_startHealth { c with connectedSince := some s.date.toNat } around _
  · split
    · exact sent_enter c .off
    · rfl

theorem onFirstStatus_of_not_canReach {s : StatusReport}
    (hp : (c.settled around s).phase = .on) (hd : c.held = some d)
    (h : c.canReach around d = false) :
    (c.onFirstStatus around s).phase = .off ∧ (c.onFirstStatus around s).sent = c.sent := by
  have hheld : (c.settled around s).held = some d := (held_settled s).trans hd
  have hreach : (c.settled around s).canReach around d = false :=
    (canReach_congr (means_settled s)).trans h
  have hsent : (c.settled around s).sent = c.sent := sent_settled s
  rw [onFirstStatus_eq]
  generalize c.settled around s = mid at hp hheld hreach hsent
  rw [hheld, hp, ← hsent]
  exact changeServer_of_not_canReach (c := { mid with held := none })
    (congrArg Phase.isActive hp) hreach

theorem onFirstStatus_of_canReach (hl : ∀ r, around.accepts r = .ok ()) {s : StatusReport}
    (hp : (c.settled around s).phase.isActive = true)
    (h : (c.settled around s).phase = .on → ∀ d, c.held = some d → c.canReach around d = true) :
    (c.onFirstStatus around s).phase.isActive = true := by
  rw [onFirstStatus_eq, held_settled]
  split
  · exact hp
  · next d hd =>
    split
    · next hoff => rw [hoff] at hp; cases hp
    · next hon =>
      exact changeServer_of_canReach hl (c := { c.settled around s with held := none }) hp
        ((canReach_congr (c := c) (means_settled s)).trans (h hon d hd))
    · exact hp

/-- A tunnel that is there is still there once the first status is taken in. -/
theorem phase_settled_of_hasTunnel (around : Surroundings) {s : StatusReport}
    (hfirst : c.awaitingFirstStatus = true)
    (ht : c.hasTunnel (.link (.message (.status s))) = true) :
    (({ c with awaitingFirstStatus := false } : Controller).settled around s).phase =
      if c.adopts s then .on else c.phase := by
  have hadopts : c.adopts s = true ↔
      s.connected = true ∧ (c.phase = .initializing ∨ c.phase = .off) := by
    simp [adopts, hfirst]
  rw [phase_settled]
  by_cases hadopt : c.adopts s = true
  · rw [if_pos hadopt]
    exact if_pos (hadopts.mp hadopt)
  · have hp : c.phase.isActive = true := by simpa [hasTunnel, hadopt] using ht
    rw [if_neg hadopt, if_neg fun hup => hadopt (hadopts.mpr hup)]
    exact if_neg fun hinit => by rw [show c.phase = .initializing from hinit] at hp; cases hp

theorem onStatus_of_failsToSwitch {s : StatusReport}
    (h : c.failsToSwitch around (.link (.message (.status s))) = true) :
    (c.onStatus around s).phase = .off ∧ (c.onStatus around s).sent = c.sent := by
  simp only [failsToSwitch, Bool.and_eq_true, Bool.or_eq_true, decide_eq_true_eq,
    Option.any_eq_true, Bool.not_eq_true'] at h
  obtain ⟨hup, d, hd, hstuck⟩ := h
  have hfirst : c.awaitingFirstStatus = true :=
    hup.elim (·.1) fun hadopt => by simp_all [adopts]
  have hphase : (({ c with awaitingFirstStatus := false } : Controller).settled around s).phase =
      .on := by
    rcases hup with ⟨-, hon⟩ | hadopt
    · rw [phase_settled_of_hasTunnel around hfirst (by simp [hasTunnel, hon, Phase.isActive]), hon]
      exact ite_self _
    · rw [phase_settled_of_hasTunnel around hfirst (by simp [hasTunnel, hadopt])]
      exact if_pos hadopt
  unfold onStatus
  rw [if_pos hfirst]
  exact onFirstStatus_of_not_canReach (c := { c with awaitingFirstStatus := false }) hphase hd
    hstuck

theorem onStatus_upholds (hl : ∀ r, around.accepts r = .ok ()) {s : StatusReport}
    (ht : c.hasTunnel (.link (.message (.status s))) = true)
    (h : c.failsToSwitch around (.link (.message (.status s))) = false) :
    c.Upholds (c.onStatus around s) := by
  have hup : c.phase.isActive = true ∨ c.adopts s = true := by simpa [hasTunnel] using ht
  unfold onStatus
  split
  · next hfirst =>
    -- the tunnel is there, and the held destination may be a switch from it
    have hmid := phase_settled_of_hasTunnel around hfirst ht
    refine .inl (onFirstStatus_of_canReach (c := { c with awaitingFirstStatus := false }) hl ?_ ?_)
    · rw [hmid]
      split
      · rfl
      · next hadopt => exact hup.resolve_right hadopt
    · rintro hon d (hd : c.held = some d)
      change c.canReach around d = true
      rw [hmid] at hon
      by_cases hadopt : c.adopts s = true
      · simpa [failsToSwitch, hadopt, hd] using h
      · rw [if_neg hadopt] at hon
        simpa [failsToSwitch, hfirst, hon, hd] using h
  · next hlater =>
    have hp : c.phase.isActive = true := hup.resolve_right fun hadopt => by
      simp [adopts, hlater] at hadopt
    split
    · next key _ =>
      -- the daemon confirms the tunnel, or does not
      split
      · exact .inl (congrArg (fun t : Stance => t.phase.isActive) (stance_confirm s))
      · exact giveUpServer_upholds hl key
    · exact .of_phase hp rfl

/-! ### On a checkup -/

/-- The connection once it has looked at the health of the tunnel, before it acts on
    what it saw. -/
def checked (c : Controller) (around : Surroundings) : Controller :=
  { c with health := (c.health.checkup around.now).2 }.emitStability
    (c.health.checkup around.now).1

theorem stance_checked : (c.checked around).stance = c.stance :=
  stance_emitStability { c with health := (c.health.checkup around.now).2 } _

theorem phase_checked : (c.checked around).phase = c.phase :=
  congrArg Stance.phase stance_checked

theorem sent_checked : (c.checked around).sent = c.sent :=
  congrArg Stance.sent stance_checked

theorem failsToMove_checked : (c.checked around).failsToMove around = c.failsToMove around := by
  unfold checked
  cases (c.health.checkup around.now).1 <;> rfl

theorem checkup_eq : c.checkup around =
    if (c.health.checkup around.now).1 = some .unstable ∧ c.tuning.switchOnUnstable = true ∧
        c.phase = .on then
      ((c.checked around).silentSwitch around).2
    else c.checked around := by
  have htuning : (c.checked around).tuning = c.tuning := congrArg Prod.fst
    (means_emitStability (c := { c with health := (c.health.checkup around.now).2 }) _)
  change (if (c.health.checkup around.now).1 = some .unstable ∧
      (c.checked around).tuning.switchOnUnstable = true ∧ (c.checked around).phase = .on then
    ((c.checked around).silentSwitch around).2 else c.checked around) = _
  rw [htuning, phase_checked]

theorem checkup_of_failsToSwitch (h : c.failsToSwitch around .checkup = true) :
    (c.checkup around).phase = .off ∧ (c.checkup around).sent = c.sent := by
  simp only [failsToSwitch, Bool.and_eq_true, decide_eq_true_eq] at h
  obtain ⟨⟨hunstable, hswitch⟩, hstuck⟩ := h
  have hon : c.phase = .on := of_decide_eq_true (Bool.and_eq_true_iff.mp hstuck).1
  rw [checkup_eq, if_pos ⟨hunstable, hswitch, hon⟩]
  obtain ⟨hphase, hsent⟩ := silentSwitch_of_failsToMove (failsToMove_checked.trans hstuck)
  exact ⟨hphase, hsent.trans sent_checked⟩

theorem checkup_upholds (hl : ∀ r, around.accepts r = .ok ()) (hp : c.phase.isActive = true)
    (h : c.failsToSwitch around .checkup = false) : c.Upholds (c.checkup around) := by
  rw [checkup_eq]
  split
  · next hmoves =>
    obtain ⟨hunstable, hswitch, -⟩ := hmoves
    have hreach : c.failsToMove around = false := by
      simpa [failsToSwitch, hunstable, hswitch] using h
    exact (silentSwitch_upholds hl (phase_checked.symm ▸ hp)
      (failsToMove_checked.trans hreach)).of_sent sent_checked
  · exact .of_phase hp phase_checked

/-! ## Every input -/

/-- An input that is a switch for which no tunnel can be made takes the connection to
    rest, and the daemon hears nothing of it. -/
theorem handle_of_failsToSwitch (h : c.failsToSwitch around i = true) :
    (c.handle around i).phase = .off ∧ (c.handle around i).sent = c.sent := by
  cases i with
  | changeServer d silent =>
      simp only [failsToSwitch, Bool.and_eq_true, Bool.not_eq_true'] at h
      exact changeServer_of_not_canReach h.1 h.2
  | silentSwitch => exact silentSwitch_of_failsToMove h
  | checkup => exact checkup_of_failsToSwitch h
  | link e =>
      cases e with
      | message r =>
          cases r with
          | status s => exact onStatus_of_failsToSwitch h
          | connected | disconnected | logs | backendFailure => cases h
      | ready | lost => cases h
  | _ => cases h

theorem deactivate_upholds (hl : ∀ r, around.accepts r = .ok ()) (hp : c.phase.isActive = true) :
    c.Upholds (c.deactivate around).2 := by
  unfold deactivate
  dsimp only
  split
  all_goals first
    | next h => rw [h] at hp; cases hp
    | exact (beginDisconnect_upholds hl).of_sent rfl

theorem quit_upholds (hl : ∀ r, around.accepts r = .ok ()) (hp : c.phase.isActive = true) :
    c.Upholds (c.quit around) := by
  unfold quit
  dsimp only
  split
  all_goals first
    | next h => rw [h] at hp; cases hp
    | exact (beginDisconnect_upholds hl).of_sent rfl

theorem onConnected_upholds (hl : ∀ r, around.accepts r = .ok ())
    (hp : c.phase.isActive = true) (key : String) : c.Upholds (c.onConnected around key) := by
  by_cases ha : c.awaited = .handshake key
  · have hheard : (c.heard key).phase = if c.phase = .connecting then .confirming else c.phase :=
      congrArg Stance.phase (stance_heard key)
    rw [onConnected_eq ha, hl]
    refine .inl ?_
    change (c.heard key).phase.isActive = true
    rw [hheard]
    split
    · rfl
    · exact hp
  · rw [onConnected, if_neg ha]
    exact .of_phase hp rfl

theorem onTimer_upholds (hm : c.stance.Matched) (hl : ∀ r, around.accepts r = .ok ())
    (hp : c.phase.isActive = true) (token : TimerToken) :
    c.Upholds (c.onTimer around token) := by
  unfold onTimer
  split
  · split
    · exact giveUpServer_upholds hl _
    · exact giveUpServer_upholds hl _
    · next ha => exact absurd ha (hm.awaited_ne_of_isActive hp)
    · exact .of_phase hp rfl
  · exact .of_phase hp rfl

/-- Any other input keeps the tunnel that there is, or asks the daemon for its end. -/
theorem handle_upholds (hm : c.stance.Matched) (hl : ∀ r, around.accepts r = .ok ())
    (ht : c.hasTunnel i = true) (h : c.failsToSwitch around i = false)
    (hi : i.endsTunnel = false) : c.Upholds (c.handle around i) := by
  cases i with
  | activate d =>
      have hp : c.phase.isActive = true := ht
      refine .of_phase hp ?_
      change (c.activate around d).2.phase = c.phase
      unfold activate
      split
      · next hoff => rw [hoff] at hp; cases hp
      all_goals rfl
  | deactivate => exact deactivate_upholds hl ht
  | changeServer d silent =>
      have hp : c.phase.isActive = true := ht
      exact .inl (changeServer_of_canReach hl hp (by simpa [failsToSwitch, hp] using h))
  | silentSwitch => exact silentSwitch_upholds hl ht h
  | quit => exact quit_upholds hl ht
  | portal present =>
      have hp : c.phase.isActive = true := ht
      cases present with
      | true =>
          change c.Upholds (c.portalDetected around)
          unfold portalDetected
          split
          · exact (beginDisconnect_upholds hl).of_sent rfl
          · exact .of_phase hp rfl
          · exact .of_phase hp rfl
      | false =>
          change c.Upholds (c.portalGone around)
          unfold portalGone
          dsimp only
          split
          · next hportal => rw [hportal.1] at hp; cases hp
          · exact .of_phase hp rfl
  | fetchLogs ticket => exact .of_phase ht (phase_fetchLogs ticket)
  | cleanLogs => exact .of_phase ht (phase_trySend .cleanLogs)
  | requestStatus => exact .of_phase ht phase_requestStatus
  | link e =>
      cases e with
      | ready => exact .of_phase ht phase_onReady
      | lost => cases hi
      | message r =>
          cases r with
          | connected key => exact onConnected_upholds hl ht key
          | status s => exact onStatus_upholds hl ht h
          | logs text => exact .of_phase ht (phase_onLogs text)
          | disconnected | backendFailure => cases hi
  | timer token => exact onTimer_upholds hm hl ht token
  | probeTick => exact .of_phase ht phase_probeTick
  | probeReply r => exact .of_phase ht (phase_onProbeReply r)
  | checkup => exact checkup_upholds hl ht h

/-! ## On every run -/

/-- A tunnel is not abandoned by a switch that can be made. On every run, where a
    tunnel is up or on its way up, the connection stays active or asks the daemon for
    the end of the tunnel, unless the tunnel is gone already or a request that the
    link did not take made the difference. A switch for which no tunnel can be made,
    and no other, comes to rest without a word to the daemon. -/
theorem tunnel_is_upheld (tuning : ControlTuning) (device : Device) (registry : Registry)
    (happenings : List Happening) (around : Surroundings) (i : Input) :
    let c := (initial tuning device registry).run happenings
    let c' := c.handle around i
    c.hasTunnel i = true →
      (c.failsToSwitch around i = true → c'.phase = .off ∧ c'.sent = c.sent) ∧
        (c.failsToSwitch around i = false → i.endsTunnel = false →
          c' = c.handle around.linked i → c.Upholds c') := by
  intro c c' ht
  have hm : c.stance.Matched := run_matched (initial_matched tuning device registry) happenings
  refine ⟨handle_of_failsToSwitch, fun h hi hlinked => ?_⟩
  -- no failed request made a difference, so the link may be taken to take them all
  rw [hlinked]
  exact handle_upholds hm (fun _ => rfl) ht h hi

theorem tunnel_is_upheld_on_way_west :
    let c := (initial {} sampleDevice southCooling).run northTunnel
    let i : Input := .changeServer westCity false
    (c.hasTunnel i = true ∧ c.failsToSwitch {} i = false ∧ i.endsTunnel = false ∧
        c.handle {} i = c.handle (Surroundings.linked {}) i) ∧
      c.Upholds (c.handle {} i) := by
  have hupheld := tunnel_is_upheld {} sampleDevice southCooling northTunnel {}
    (.changeServer westCity false)
  generalize hc : (initial {} sampleDevice southCooling).run northTunnel = c at hupheld ⊢
  have hready : c.hasTunnel (.changeServer westCity false) = true ∧
      c.failsToSwitch {} (.changeServer westCity false) = false := by
    rw [← hc]
    decide +kernel
  obtain ⟨ht, h⟩ := hready
  exact ⟨⟨ht, h, rfl, rfl⟩, (hupheld ht).2 h rfl rfl⟩

/-- A city of which only the server is known that failed. -/
def southCity : Destination := ⟨"de", "Munich", [southServer], none⟩

/-- A switch to a city without a server that can be used abandons the tunnel: the
    connection counts as off, and the daemon was not asked for its end. -/
theorem switch_abandons_tunnel :
    let c := (initial {} sampleDevice southCooling).run northTunnel
    let i : Input := .changeServer southCity false
    (c.phase = .on ∧ c.hasTunnel i = true ∧ i.endsTunnel = false) ∧
      (c.changeServer {} southCity false).1 = .error .noServer ∧
      (c.handle {} i).phase = .off ∧ (c.handle {} i).sent = c.sent := by
  decide +kernel

end Controller

end TunnelSession
