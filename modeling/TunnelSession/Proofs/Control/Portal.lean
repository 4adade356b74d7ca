/-
  TunnelSession.Proofs.Control.Portal

  A captive portal that comes and goes while its tunnel is taken down. The wait for the
  end of the tunnel begins with a report that a portal is there. A report that it is gone
  counts while the wait goes on, and a later one that it is back does not: so once the
  tunnel is down, the connection stays down just if no report of the wait told that the
  portal is gone, and otherwise does what such a report makes it do afterwards.
-/
import TunnelSession.Proofs.Control.Probes
import TunnelSession.Proofs.Control.Attempts
import TunnelSession.Proofs.Control.Inheritance

namespace TunnelSession

open Controller (Input Happening)

namespace Controller

variable {c c₁ c' : Controller} {around : Surroundings} {i : Input} {d : Destination}
  {during : Phase}

/-! ## Bringing the last tunnel up again -/

/-- The tunnel that an attempt at a destination asks for: one to the server that is chosen,
    if it can be made and the link takes the request. -/
def offer? (c : Controller) (around : Surroundings) (d : Destination) : Option TunnelConfig :=
  (d.choose? c.registry around.clock around.dice).bind fun s =>
    (c.tunnelTo s).toOption.filter fun config => (around.accepts (.activate config)).isOk

/-- The tunnel that is asked for to come back to where the connection was, with a preference
    for the last server. -/
def comeback? (c : Controller) (around : Surroundings) : Option TunnelConfig :=
  c.destination.bind fun d => c.offer? around <| match c.server with
    | some s => d.withExit s.publicKey
    | none => d

theorem startActivation_offers (c : Controller) (around : Surroundings) (d : Destination)
    (during : Phase) :
    let c' := (c.startActivation around d during).2
    c'.phase = (if (c.offer? around d).isSome then during else .off) ∧
      c'.sent = c.sent ++ (c.offer? around d).toList.map .activate := by
  unfold startActivation offer?
  split
  · -- no server can be used
    next hnone =>
    rw [hnone]
    refine ⟨phase_finishOff { c with destination := some d } around, ?_⟩
    exact ((sent_emit _ _).trans (sent_finishOff { c with destination := some d } around)).trans
      (List.append_nil _).symm
  · next s hs =>
    rw [hs, Option.bind_some]
    split
    · -- no tunnel can be made to the server
      next e herror =>
      rw [herror]
      exact ⟨phase_finishOff c around, (sent_finishOff c around).trans (List.append_nil _).symm⟩
    · next config hconfig =>
      rw [hconfig]
      dsimp only
      split
      · -- the link does not take the request
        next e hrefused =>
        simp only [Except.toOption, Option.filter, hrefused, Except.isOk, Except.toBool]
        exact ⟨phase_finishOff c.cancelTimers around,
          ((sent_emit _ _).trans (sent_finishOff c.cancelTimers around)).trans
            (List.append_nil _).symm⟩
      · next htaken =>
        simp only [Except.toOption, Option.filter, htaken, Except.isOk, Except.toBool]
        refine ⟨phase_enter _ during, ?_⟩
        have hsent : (c.cancelTimers.perform (.send (.activate config))).sent =
            c.sent ++ [.activate config] :=
          congrArg Stance.sent (stance_send c.cancelTimers (.activate config))
        exact (congrArg Stance.sent (stance_arm _ _ _)).trans ((sent_enter _ during).trans hsent)

/-- Off a portal the last tunnel is asked for again, or the connection is off. -/
theorem reconnect_comes_back (c : Controller) (around : Surroundings) :
    (c.reconnect around).phase =
        (if (c.comeback? around).isSome then .connecting else .off) ∧
      (c.reconnect around).sent = c.sent ++ (c.comeback? around).toList.map .activate := by
  unfold reconnect comeback?
  split
  · next hnone =>
    rw [hnone]
    exact ⟨phase_finishOff c around, (sent_finishOff c around).trans (List.append_nil _).symm⟩
  · next d hd =>
    rw [hd]
    exact startActivation_offers c around _ .connecting

/-! ## The wait at a portal -/

/-- Whether the end of a tunnel is waited for because of a portal. -/
def WaitsAtPortal (c : Controller) : Prop :=
  c.phase = .captivePortal ∧ c.awaited = .disconnection

/-- What a wait at a portal depends on. -/
structure Outlook where
  phase : Phase
  awaited : Awaited
  nextStep : NextStep
  portalSeen : Bool

def outlook (c : Controller) : Outlook := ⟨c.phase, c.awaited, c.nextStep, c.portalSeen⟩

/-- `Lingers c c'`: a wait at a portal in `c'` is one of `c` already. No report was heeded
    since, and nothing was planned since but to quit. -/
def Lingers (c c' : Controller) : Prop :=
  c'.WaitsAtPortal → c.WaitsAtPortal ∧ c'.portalSeen = c.portalSeen ∧
    (c'.nextStep = c.nextStep ∨ c'.nextStep = .quit)

theorem Lingers.of_outlook (h : c'.outlook = c.outlook) : Lingers c c' := by
  have hphase : c'.phase = c.phase := congrArg Outlook.phase h
  have hawaited : c'.awaited = c.awaited := congrArg Outlook.awaited h
  rintro ⟨hp, ha⟩
  exact ⟨⟨hphase.symm.trans hp, hawaited.symm.trans ha⟩, congrArg Outlook.portalSeen h,
    .inl (congrArg Outlook.nextStep h)⟩

/-- Elsewhere there is no such wait. -/
theorem Lingers.of_phase (h : c'.phase ≠ .captivePortal) : Lingers c c' :=
  fun hwait => absurd hwait.1 h

theorem Lingers.of_awaited (h : c'.awaited ≠ .disconnection) : Lingers c c' :=
  fun hwait => absurd hwait.2 h

theorem Lingers.refl (c : Controller) : Lingers c c := .of_outlook rfl

theorem Lingers.trans (h : Lingers c c₁) (h' : Lingers c₁ c') : Lingers c c' := by
  intro hwait
  obtain ⟨hwait₁, hseen', hnext'⟩ := h' hwait
  obtain ⟨hwait₀, hseen, hnext⟩ := h hwait₁
  refine ⟨hwait₀, hseen'.trans hseen, ?_⟩
  rcases hnext' with heq | hquit
  · rw [heq]
    exact hnext
  · exact .inr hquit

/-! ### The moves -/

section Moves

variable (c : Controller)

theorem outlook_enter (p : Phase) : (c.enter p).outlook = { c.outlook with phase := p } := by
  unfold enter
  split
  · next h => rw [← h]; rfl
  · rfl

theorem outlook_emitStability (s : Option Stability) :
    (c.emitStability s).outlook = c.outlook := by
  cases s <;> rfl

theorem outlook_stopHealth (around : Surroundings) : (c.stopHealth around).outlook = c.outlook :=
  outlook_emitStability { c with health := (c.health.stop around.now).2 } _

theorem outlook_cutOff : c.cutOff.outlook = c.outlook :=
  dropLogFetches_keeps { c with awaitingFirstStatus := false } rfl fun _ _ => rfl

theorem outlook_checked (around : Surroundings) : (c.checked around).outlook = c.outlook :=
  outlook_emitStability { c with health := (c.health.checkup around.now).2 } _

theorem finishOff_lingers (around : Surroundings) : Lingers c₁ (c.finishOff around) :=
  .of_phase (by rw [phase_finishOff]; nofun)

theorem startActivation_lingers (around : Surroundings) (d : Destination)
    (hp : during ≠ .captivePortal) : Lingers c₁ (c.startActivation around d during).2 := by
  apply Lingers.of_phase
  rcases phase_startActivation c around d during with hoff | hduring
  · rw [hoff]
    nofun
  · rwa [hduring]

theorem activate_lingers (around : Surroundings) (d : Destination) :
    Lingers c (c.activate around d).2 := by
  unfold activate
  split
  · next hoff =>
    split
    · -- the report of a portal is cleared, but off there is no wait at one
      apply Lingers.of_phase
      show c.phase ≠ .captivePortal
      rw [hoff]
      nofun
    · exact startActivation_lingers c around d nofun
  · exact .of_outlook rfl
  · exact .of_outlook rfl
  · exact .refl c

/-- An activation leads from the phase off to itself or to connecting. -/
theorem phase_activate_of_off (around : Surroundings) (d : Destination) (hp : c.phase = .off) :
    (c.activate around d).2.phase = .off ∨ (c.activate around d).2.phase = .connecting := by
  unfold activate
  split
  · split
    · exact .inl hp
    · exact phase_startActivation c around d .connecting
  all_goals exact .inl hp

/-- A tunnel that is taken down for another reason does not lead to a portal. -/
theorem phase_completeDisconnect_of_disconnecting (around : Surroundings)
    (hp : c.phase = .disconnecting) :
    (c.completeDisconnect around).phase = .off ∨
      (c.completeDisconnect around).phase = .connecting := by
  have hoff : (c.wentDown around).phase = .off := phase_wentDown
  rw [completeDisconnect_eq around hp]
  cases c.nextStep with
  | quit => exact .inl hoff
  | serverUnavailable => exact .inl hoff
  | nothing =>
      dsimp only
      generalize c.wentDown around = down at hoff
      unfold activateHeld
      split
      · next d _ => exact phase_activate_of_off { down with held := none } around d hoff
      · exact .inl hoff

theorem beginDisconnecting_lingers (around : Surroundings) :
    Lingers c₁ (c.beginDisconnect around .disconnecting) := by
  have hphase : ((c.cancelTimers.stopHealth around).enter .disconnecting).phase = .disconnecting :=
    phase_enter _ .disconnecting
  apply Lingers.of_phase
  unfold beginDisconnect
  dsimp only
  generalize (c.cancelTimers.stopHealth around).enter .disconnecting = stopped at hphase
  split
  · show stopped.phase ≠ _
    rw [hphase]
    nofun
  · rcases phase_completeDisconnect_of_disconnecting stopped around hphase with h | h <;> rw [h] <;>
      nofun

/-- What is complete is not waited for. -/
theorem awaited_completeDisconnect (around : Surroundings) (hp : c.phase ≠ .initializing) :
    (c.completeDisconnect around).awaited ≠ .disconnection := by
  have hends : Ends (.link .lost) c.stance (c.completeDisconnect around).stance :=
    completeDisconnect_ends (.refl _) (fun _ => rfl) fun hinit => absurd hinit hp
  exact hends.awaited_ne rfl

theorem completeDisconnect_lingers (around : Surroundings) (hm : c.stance.Matched)
    (ha : c.awaited = .disconnection) : Lingers c₁ (c.completeDisconnect around) :=
  .of_awaited (awaited_completeDisconnect c around (hm.phase_ne_initializing (by simp [ha])))

/-- The end of the tunnel is waited for, or the daemon cannot be asked and it counts as
    down. -/
theorem outlook_beginDisconnect (around : Surroundings) (hp : during ≠ .initializing) :
    (c.beginDisconnect around during).outlook =
        ⟨during, .disconnection, c.nextStep, c.portalSeen⟩ ∨
      (c.beginDisconnect around during).awaited ≠ .disconnection := by
  have hstopped : ((c.cancelTimers.stopHealth around).enter during).outlook =
      { c.outlook with phase := during } :=
    (outlook_enter _ during).trans
      (congrArg (fun o : Outlook => { o with phase := during })
        (outlook_stopHealth c.cancelTimers around))
  unfold beginDisconnect
  dsimp only
  generalize (c.cancelTimers.stopHealth around).enter during = stopped at hstopped
  split
  · exact .inl (congrArg (fun o : Outlook => { o with awaited := .disconnection }) hstopped)
  · -- what comes next is left open here: it is enough that the wait is over
    have hphase : stopped.phase = during := congrArg Outlook.phase hstopped
    exact .inr (awaited_completeDisconnect stopped around (hphase ▸ hp))

end Moves

/-! ### Every input but the reports -/

theorem deactivate_lingers (c : Controller) (around : Surroundings) :
    Lingers c (c.deactivate around).2 := by
  unfold deactivate
  dsimp only
  split
  · exact .of_outlook rfl
  · exact .of_outlook rfl
  · exact .of_outlook rfl
  · split
    · exact .of_phase (by rw [phase_enter]; nofun)
    · exact finishOff_lingers _ around
  · exact beginDisconnecting_lingers _ around

theorem changeServer_lingers (c : Controller) (around : Surroundings) (d : Destination)
    (silent : Bool) : Lingers c (c.changeServer around d silent).2 := by
  unfold changeServer
  split
  · exact .of_outlook rfl
  · exact .of_outlook rfl
  · exact .of_outlook rfl
  · split <;> exact .of_outlook rfl
  · exact startActivation_lingers _ around d (by cases silent <;> nofun)

theorem silentSwitch_lingers (c : Controller) (around : Surroundings) :
    Lingers c (c.silentSwitch around).2 := by
  unfold silentSwitch
  split
  · next d s _ _ _ =>
    split
    · exact .refl c
    · dsimp only
      split
      · exact beginDisconnecting_lingers _ around
      · have hcool : Lingers c (c.coolDown around s.publicKey) := .of_outlook rfl
        exact hcool.trans (changeServer_lingers _ around d true)
  · exact .refl c

theorem quit_lingers (c : Controller) (around : Surroundings) : Lingers c (c.quit around) := by
  have hplan : Lingers c { c with held := none, nextStep := .quit } :=
    fun hwait => ⟨hwait, rfl, .inr rfl⟩
  unfold quit
  dsimp only
  split
  · exact .of_outlook rfl
  · exact .of_outlook rfl
  · exact hplan
  · split
    · exact hplan
    · exact (finishOff_lingers _ around : Lingers c _).trans (.of_outlook rfl)
  · exact beginDisconnecting_lingers _ around

theorem trySend_lingers (c : Controller) (around : Surroundings) (r : Request) :
    Lingers c (c.trySend around r) := by
  unfold trySend
  split <;> exact .of_outlook rfl

theorem onLost_lingers (around : Surroundings) (hm : c.stance.Matched) :
    Lingers c (c.onLost around) := by
  have hcut : Lingers c c.cutOff := .of_outlook (outlook_cutOff c)
  have hcutMatched : c.cutOff.stance.Matched := by
    rw [stance_cutOff]
    exact ⟨hm.admits, hm.planned⟩
  unfold onLost
  rw [← cutOff]
  generalize c.cutOff = cut at hcut hcutMatched
  dsimp only
  split
  · have hoff : (cut.enter .off).phase ≠ .captivePortal := by
      rw [phase_enter]
      decide
    split
    · exact .of_phase hoff
    · exact .of_phase hoff
  · exact hcut
  · split
    · next ha => exact completeDisconnect_lingers cut around hcutMatched ha
    · exact (finishOff_lingers cut around : Lingers c _).trans (.of_outlook rfl)

theorem onConnected_lingers (c : Controller) (around : Surroundings) (key : String) :
    Lingers c (c.onConnected around key) := by
  by_cases ha : c.awaited = .handshake key
  · -- a handshake that is heard of is waited for no longer, nor is the end of a tunnel
    have hheard : (c.heard key).awaited ≠ .disconnection := by
      have hstance : (c.heard key).awaited = .confirmation key :=
        congrArg Stance.awaited (stance_heard key)
      rw [hstance]
      nofun
    rw [onConnected_eq ha]
    split
    · exact .of_awaited hheard
    · exact (finishOff_lingers _ around : Lingers c _).trans (.of_outlook rfl)
  · rw [onConnected, if_neg ha]
    exact .refl c

theorem onDisconnected_lingers (around : Surroundings) (hm : c.stance.Matched) :
    Lingers c (c.onDisconnected around) := by
  unfold onDisconnected
  split
  · next ha => exact completeDisconnect_lingers c around hm ha
  · exact finishOff_lingers c around
  · exact finishOff_lingers c around
  · split
    · exact .refl c
    · exact .refl c
    · exact .refl c
    · exact finishOff_lingers c around

theorem settled_lingers (c : Controller) (around : Surroundings) (s : StatusReport) :
    Lingers c (c.settled around s) := by
  unfold settled
  split
  · exact .of_phase (by rw [phase_enter]; nofun)
  · split
    · exact .of_phase (by rw [phase_enter]; nofun)
    · exact .refl c

theorem onFirstStatus_lingers (c : Controller) (around : Surroundings) (s : StatusReport) :
    Lingers c (c.onFirstStatus around s) := by
  rw [onFirstStatus_eq]
  refine (settled_lingers c around s).trans ?_
  generalize c.settled around s = settled
  split
  · exact .refl settled
  · next d _ =>
    have hlet : Lingers settled { settled with held := none } := .of_outlook rfl
    refine hlet.trans ?_
    split
    · exact activate_lingers _ around d
    · exact changeServer_lingers _ around d false
    · exact .refl _

theorem giveUpServer_lingers (c : Controller) (around : Surroundings) (key : String) :
    Lingers c₁ (c.giveUpServer around key) :=
  beginDisconnecting_lingers _ around

theorem onStatus_lingers (c : Controller) (around : Surroundings) (s : StatusReport) :
    Lingers c (c.onStatus around s) := by
  unfold onStatus
  split
  · have hmark : Lingers c { c with awaitingFirstStatus := false } := .of_outlook rfl
    exact hmark.trans (onFirstStatus_lingers _ around s)
  · split
    · next key _ =>
      split
      · have hon : (c.confirm around s).phase = .on := phase_enter _ .on
        exact .of_phase (by rw [hon]; nofun)
      · exact giveUpServer_lingers c around key
    · exact .of_outlook rfl

theorem onLink_lingers (around : Surroundings) (hm : c.stance.Matched) (e : LinkEvent) :
    Lingers c (c.onLink around e) := by
  cases e with
  | ready =>
      show Lingers c (c.onReady around)
      unfold onReady
      split <;> exact .of_outlook rfl
  | lost => exact onLost_lingers around hm
  | message r =>
      cases r with
      | connected key => exact onConnected_lingers c around key
      | disconnected => exact onDisconnected_lingers around hm
      | status s => exact onStatus_lingers c around s
      | logs text =>
          show Lingers c (c.onLogs text)
          unfold onLogs
          split <;> exact .of_outlook rfl
      | backendFailure =>
          show Lingers c (c.onBackendFailure around)
          unfold onBackendFailure
          split
          · exact .of_outlook rfl
          · exact (finishOff_lingers c around : Lingers c _).trans (.of_outlook rfl)

theorem onTimer_lingers (around : Surroundings) (hm : c.stance.Matched) (token : TimerToken) :
    Lingers c (c.onTimer around token) := by
  unfold onTimer
  split
  · split
    · exact giveUpServer_lingers c around _
    · exact giveUpServer_lingers c around _
    · next ha => exact completeDisconnect_lingers c around hm ha
    · exact .refl c
  · exact .refl c

theorem probeTick_lingers (c : Controller) (around : Surroundings) :
    Lingers c (c.probeTick around) := by
  unfold probeTick
  split
  · split
    · split <;> exact .of_outlook rfl
    · exact .refl c
  · exact .refl c

theorem onProbeReply_lingers (c : Controller) (r : ProbeReply) : Lingers c (c.onProbeReply r) := by
  unfold onProbeReply
  split
  · split <;> exact .of_outlook rfl
  · exact .refl c

theorem checkup_lingers (c : Controller) (around : Surroundings) :
    Lingers c (c.checkup around) := by
  have hchecked : Lingers c (c.checked around) := .of_outlook (outlook_checked c around)
  rw [checkup_eq]
  split
  · exact hchecked.trans (silentSwitch_lingers _ around)
  · exact hchecked

/-- What is no report begins no wait at a portal, and touches none. -/
theorem handle_lingers (around : Surroundings) (hm : c.stance.Matched)
    (hi : ∀ present, i ≠ .portal present) : Lingers c (c.handle around i) := by
  cases i with
  | activate d => exact activate_lingers c around d
  | deactivate => exact deactivate_lingers c around
  | changeServer d silent => exact changeServer_lingers c around d silent
  | silentSwitch => exact silentSwitch_lingers c around
  | quit => exact quit_lingers c around
  | portal present => exact absurd rfl (hi present)
  | fetchLogs ticket =>
      show Lingers c (c.fetchLogs around ticket)
      unfold fetchLogs
      split <;> exact .of_outlook rfl
  | cleanLogs => exact trySend_lingers c around .cleanLogs
  | requestStatus =>
      show Lingers c (c.requestStatus around)
      unfold requestStatus
      split
      · exact trySend_lingers c around .status
      · exact .refl c
  | link e => exact onLink_lingers around hm e
  | timer token => exact onTimer_lingers around hm token
  | probeTick => exact probeTick_lingers c around
  | probeReply r => exact onProbeReply_lingers c r
  | checkup => exact checkup_lingers c around

/-! ### The reports -/

/-- A wait at a portal begins with a report that the portal is there, while the tunnel is
    up. Where it goes on, the report does not count. -/
theorem portalDetected_waits (hm : c.stance.Matched)
    (hwait : (c.portalDetected around).WaitsAtPortal) :
    c.portalDetected around = c ∨ c.phase = .on ∧ (c.portalDetected around).portalSeen = true ∧
      (c.portalDetected around).nextStep = .nothing := by
  unfold portalDetected at hwait ⊢
  split at hwait
  · next hon =>
    -- while the tunnel is up nothing is planned for when it is down
    have hnext : c.nextStep = .nothing :=
      hm.nextStep_eq (hm.awaited_ne_of_isActive (congrArg Phase.isActive hon))
    have hportal : Phase.captivePortal ≠ .initializing := nofun
    rcases outlook_beginDisconnect { c with portalSeen := true } around hportal with
      houtlook | hdone
    · exact .inr ⟨hon, congrArg Outlook.portalSeen houtlook,
        (congrArg Outlook.nextStep houtlook).trans hnext⟩
    · exact absurd hwait.2 hdone
  · next hoff => exact absurd (hoff.symm.trans hwait.1) nofun
  · exact .inl rfl

/-- A report that the portal is gone counts, and where the wait goes on nothing else comes
    of it. -/
theorem portalGone_waits (hwait : (c.portalGone around).WaitsAtPortal) :
    c.portalGone around = { c with portalSeen := false } := by
  by_cases hdown : c.phase = .captivePortal ∧ c.awaited ≠ .disconnection
  · -- the tunnel is down already, so the connection comes back and does not wait
    have hback : c.portalGone around =
        ({ c with portalSeen := false } : Controller).reconnect around := if_pos hdown
    have hphase := (reconnect_comes_back { c with portalSeen := false } around).1
    rw [← hback, hwait.1] at hphase
    split at hphase <;> cases hphase
  · exact if_neg hdown

/-! ## How a wait at a portal began -/

/-- A wait at a portal that goes on: it began with a report that the portal is there, while
    the tunnel was up, and the portal counts as there as long as no report tells that it is
    gone. -/
structure WaitedSince (c₀ : Controller) (pre : List Happening) (around : Surroundings)
    (since : List Happening) : Prop where
  up : (c₀.run pre).phase = .on
  waits : ∀ p, p <+: since → (c₀.run (pre ++ .input around (.portal true) :: p)).WaitsAtPortal
  seen : (c₀.run (pre ++ .input around (.portal true) :: since)).portalSeen = true ↔
    ∀ around, .input around (.portal false) ∉ since
  planned : (c₀.run (pre ++ .input around (.portal true) :: since)).nextStep = .nothing ∨
    (c₀.run (pre ++ .input around (.portal true) :: since)).nextStep = .quit

/-- The wait goes on as long as nothing ends it. -/
theorem WaitedSince.extend {c₀ : Controller} {pre since : List Happening} {x : Happening}
    (h : WaitedSince c₀ pre around since)
    (hc : c₀.run (pre ++ .input around (.portal true) :: since) = c)
    (hwait : (c.meet x).WaitsAtPortal)
    (hseen : (c.meet x).portalSeen = true ↔
      c.portalSeen = true ∧ ∀ around, x ≠ .input around (.portal false))
    (hplan : (c.meet x).nextStep = c.nextStep ∨ (c.meet x).nextStep = .quit) :
    WaitedSince c₀ pre around (since ++ [x]) := by
  have hlast : c₀.run (pre ++ .input around (.portal true) :: (since ++ [x])) = c.meet x := by
    rw [← hc, ← List.cons_append, ← List.append_assoc, run_append]
    rfl
  refine ⟨h.up, fun p hp => ?_, ?_, ?_⟩
  · rcases List.prefix_concat_iff.mp hp with rfl | hearlier
    · rw [hlast]
      exact hwait
    · exact h.waits p hearlier
  · rw [hlast, hseen, ← hc, h.seen]
    simp only [List.mem_append, List.mem_singleton, not_or, forall_and, ne_comm]
  · rw [hlast]
    rcases hplan with hsame | hquit
    · rw [hsame, ← hc]
      exact h.planned
    · exact .inr hquit

/-- Every wait at a portal in a run began in this way. The induction is on the run from its
    end: the last input began the wait, or the wait before it goes on. -/
theorem run_waits {c₀ : Controller} (hm : c₀.stance.Matched) (hc₀ : c₀.phase ≠ .captivePortal)
    (before : List Happening) (hwait : (c₀.run before).WaitsAtPortal) :
    ∃ pre around since, before = pre ++ .input around (.portal true) :: since ∧
      WaitedSince c₀ pre around since := by
  induction before using List.reverseRecOn with
  | nil => exact absurd hwait.1 hc₀
  | append_singleton before x ih =>
      generalize hc : c₀.run before = c at ih
      have hmc : c.stance.Matched := hc ▸ run_matched hm before
      have hnext : c₀.run (before ++ [x]) = c.meet x := by
        rw [run_append, hc]
        rfl
      rw [hnext] at hwait
      -- a wait that goes on keeps its beginning
      have hgoesOn : c.WaitsAtPortal →
          ((c.meet x).portalSeen = true ↔
            c.portalSeen = true ∧ ∀ around, x ≠ .input around (.portal false)) →
          ((c.meet x).nextStep = c.nextStep ∨ (c.meet x).nextStep = .quit) →
          ∃ pre around since, before ++ [x] = pre ++ .input around (.portal true) :: since ∧
            WaitedSince c₀ pre around since := by
        intro hwaited hseen hplan
        obtain ⟨pre, around, since, rfl, hsince⟩ := ih hwaited
        refine ⟨pre, around, since ++ [x], by simp, ?_⟩
        exact hsince.extend hc hwait hseen hplan
      cases x with
      | measured registry => exact hgoesOn hwait (by simp [meet]) (.inl rfl)
      | input around i =>
          by_cases hreport : ∃ present, i = .portal present
          · obtain ⟨present, rfl⟩ := hreport
            cases present with
            | true =>
                rcases portalDetected_waits hmc hwait with hsame | ⟨hon, hseen, hplan⟩
                · have hmeet : c.meet (.input around (.portal true)) = c := hsame
                  rw [hmeet] at hgoesOn hwait
                  exact hgoesOn hwait (by simp) (.inl rfl)
                · -- the wait begins here
                  refine ⟨before, around, [], rfl, hc ▸ hon, fun p hp => ?_, ?_, ?_⟩
                  · rw [List.prefix_nil.mp hp, hnext]
                    exact hwait
                  · rw [hnext]
                    exact ⟨fun _ _ => List.not_mem_nil, fun _ => hseen⟩
                  · rw [hnext]
                    exact .inl hplan
            | false =>
                have hgone : c.meet (.input around (.portal false)) =
                    { c with portalSeen := false } := portalGone_waits hwait
                rw [hgone] at hgoesOn hwait
                exact hgoesOn hwait (by simp) (.inl rfl)
          · -- what is no report leaves the wait as it was
            have hi : ∀ present, i ≠ .portal present := fun present h => hreport ⟨present, h⟩
            obtain ⟨hwaited, hseen, hplan⟩ := handle_lingers around hmc hi hwait
            refine hgoesOn hwaited ?_ hplan
            show (c.handle around i).portalSeen = true ↔ _
            rw [hseen]
            simp [hi]

/-! ## Once the tunnel is down -/

/-- The connection once its tunnel is down because of a portal, before it looks whether the
    portal is still there. -/
def stoodDown (c : Controller) (around : Surroundings) : Controller :=
  { { c.cancelTimers with awaited := .nothing }.stopHealth around with
    connectedSince := none
    nextStep := .nothing }

theorem stance_stoodDown : (c.stoodDown around).stance = { c.stance with
    awaited := .nothing, nextStep := .nothing, generation := c.generation + 1 } :=
  congrArg (fun s : Stance => { s with nextStep := .nothing })
    (stance_stopHealth ({ c.cancelTimers with awaited := .nothing } : Controller) around)

theorem completeDisconnect_of_portal (around : Surroundings) (hp : c.phase = .captivePortal)
    (hn : c.nextStep = .nothing) : c.completeDisconnect around =
      if c.portalSeen then c.stoodDown around else (c.stoodDown around).reconnect around := by
  have hphase : (c.stoodDown around).phase = .captivePortal :=
    (congrArg Stance.phase stance_stoodDown).trans hp
  have hseen : (c.stoodDown around).portalSeen = c.portalSeen :=
    congrArg Outlook.portalSeen
      (outlook_stopHealth ({ c.cancelTimers with awaited := .nothing } : Controller) around)
  unfold completeDisconnect
  rw [hn]
  show (if (c.stoodDown around).phase = .captivePortal then
    if (c.stoodDown around).portalSeen then c.stoodDown around
    else (c.stoodDown around).reconnect around else _) = _
  rw [if_pos hphase, hseen]

/-- The way back depends on what a tunnel is made from, and on where the connection was. -/
theorem comeback?_congr (hmeans : c'.means = c.means)
    (hdestination : c'.destination = c.destination) (hserver : c'.server = c.server) :
    c'.comeback? around = c.comeback? around := by
  obtain ⟨htuning, hrest⟩ := Prod.mk.inj hmeans
  obtain ⟨hdevice, hregistry⟩ := Prod.mk.inj hrest
  have hoffer : ∀ d, c'.offer? around d = c.offer? around d := by
    intro d
    simp only [offer?, hregistry, tunnelTo_congr htuning hdevice]
  simp only [comeback?, hdestination, hserver, hoffer]

theorem comeback?_stoodDown : (c.stoodDown around).comeback? around = c.comeback? around := by
  have hbearing := bearing_stopHealth ({ c.cancelTimers with awaited := .nothing } : Controller)
    around
  exact comeback?_congr (means_stopHealth (c := { c.cancelTimers with awaited := .nothing }))
    (congrArg Bearing.destination hbearing) (congrArg Bearing.server hbearing)

theorem comeback?_cutOff : c.cutOff.comeback? around = c.comeback? around := by
  have hmeans : c.cutOff.means = c.means :=
    dropLogFetches_keeps { c with awaitingFirstStatus := false } rfl fun _ _ => rfl
  exact comeback?_congr hmeans (congrArg Bearing.destination (bearing_cutOff c))
    (congrArg Bearing.server (bearing_cutOff c))

/-- If the portal still counts as there, the connection stays down. Otherwise it comes back. -/
theorem completeDisconnect_at_portal (around : Surroundings) (hp : c.phase = .captivePortal)
    (hn : c.nextStep = .nothing) :
    let c' := c.completeDisconnect around
    (c.portalSeen = true → c'.phase = .captivePortal ∧ c'.awaited = .nothing ∧ c'.sent = c.sent) ∧
      (c.portalSeen = false →
        c'.phase = (if (c.comeback? around).isSome then .connecting else .off) ∧
          c'.sent = c.sent ++ (c.comeback? around).toList.map .activate) := by
  have hstance : (c.stoodDown around).stance = _ := stance_stoodDown
  have hsent : (c.stoodDown around).sent = c.sent := congrArg Stance.sent hstance
  intro c'
  rw [show c' = _ from completeDisconnect_of_portal around hp hn]
  constructor
  · intro hseen
    rw [if_pos hseen]
    exact ⟨(congrArg Stance.phase hstance).trans hp, congrArg Stance.awaited hstance, hsent⟩
  · intro hgone
    rw [if_neg (by simp [hgone]), ← comeback?_stoodDown, ← hsent]
    exact reconnect_comes_back _ around

/-- The connection stays down for a portal, or comes back from it. -/
theorem handle_at_portal (around : Surroundings) (hwait : c.WaitsAtPortal)
    (hn : c.nextStep = .nothing) (hi : c.endsDisconnect i = true) :
    let c' := c.handle around i
    (c.portalSeen = true → c'.phase = .captivePortal ∧ c'.awaited = .nothing ∧ c'.sent = c.sent) ∧
      (c.portalSeen = false →
        c'.phase = (if (c.comeback? around).isSome then .connecting else .off) ∧
          c'.sent = c.sent ++ (c.comeback? around).toList.map .activate) := by
  have hcomplete := handle_of_endsWait around hwait.2 (.inr hwait.1) hi
  have houtlook : (c.takenIn i).outlook = c.outlook := takenIn_keeps (outlook_cutOff c) i
  have hsent : (c.takenIn i).sent = c.sent :=
    takenIn_keeps (congrArg Stance.sent (stance_cutOff (c := c)) :) i
  have hcomeback : (c.takenIn i).comeback? around = c.comeback? around :=
    takenIn_keeps (f := fun d => d.comeback? around) comeback?_cutOff i
  generalize c.takenIn i = m at hcomplete houtlook hsent hcomeback
  have hp : m.phase = .captivePortal := (congrArg Outlook.phase houtlook).trans hwait.1
  have hnext : m.nextStep = .nothing := (congrArg Outlook.nextStep houtlook).trans hn
  have hseen : m.portalSeen = c.portalSeen := congrArg Outlook.portalSeen houtlook
  have hdone := completeDisconnect_at_portal around hp hnext
  rw [hsent, hcomeback, hseen] at hdone
  intro c'
  rw [show c' = _ from hcomplete]
  exact hdone

/-! ## On every run -/

/-- A report that the portal is gone is not taken back. On every run, where the end of a
    tunnel is waited for because of a portal and no request to quit came, the wait began
    with a report that the portal is there, while the tunnel was up, and has gone on since
    then. What ends it leaves the connection down, with nothing asked of the daemon, if no
    report since then told that the portal is gone. If one did, whether or not a later one
    told that it is back, the connection asks for a tunnel to where it was, and is off if
    there is none to ask for. -/
theorem gone_portal_is_not_taken_back (tuning : ControlTuning) (device : Device)
    (registry : Registry) (before : List Happening) (around : Surroundings) (i : Input) :
    let first := initial tuning device registry
    let c := first.run before
    let c' := c.handle around i
    c.phase = .captivePortal → c.awaited = .disconnection → c.nextStep ≠ .quit →
      c.endsDisconnect i = true →
        ∃ pre around₀ since, before = pre ++ .input around₀ (.portal true) :: since ∧
          (first.run pre).phase = .on ∧
          (∀ p, p <+: since →
            (first.run (pre ++ .input around₀ (.portal true) :: p)).WaitsAtPortal) ∧
          ((∀ a, .input a (.portal false) ∉ since) →
            c'.phase = .captivePortal ∧ c'.awaited = .nothing ∧ c'.sent = c.sent) ∧
          ((∃ a, .input a (.portal false) ∈ since) →
            c'.phase = (if (c.comeback? around).isSome then .connecting else .off) ∧
              c'.sent = c.sent ++ (c.comeback? around).toList.map .activate) := by
  intro first c c' hp ha hquit hi
  obtain ⟨pre, around₀, since, hbefore, hsince⟩ :=
    run_waits (initial_matched tuning device registry) nofun before ⟨hp, ha⟩
  have hc : first.run (pre ++ .input around₀ (.portal true) :: since) = c := by
    rw [← hbefore]
  have hn : c.nextStep = .nothing := (hc ▸ hsince.planned).resolve_right hquit
  have hseen : c.portalSeen = true ↔ ∀ a, .input a (.portal false) ∉ since := hc ▸ hsince.seen
  obtain ⟨hstays, hcomesBack⟩ := handle_at_portal around ⟨hp, ha⟩ hn hi
  refine ⟨pre, around₀, since, hbefore, hsince.up, hsince.waits, fun hnone => ?_, ?_⟩
  · exact hstays (hseen.mpr hnone)
  · rintro ⟨a, hgone⟩
    exact hcomesBack (Bool.eq_false_iff.mpr fun h => hseen.mp h a hgone)

/-- A portal is there, and stays. -/
def northPortal : List Happening := northTunnel ++ [.input {} (.portal true)]

theorem gone_portal_is_not_taken_back_north :
    let before := northPortal ++ [.input {} (.link .ready)]
    let c := (initial {} sampleDevice southCooling).run before
    let i : Input := .link (.message .disconnected)
    (c.phase = .captivePortal ∧ c.awaited = .disconnection ∧ c.nextStep ≠ .quit ∧
        c.endsDisconnect i = true ∧ ∀ a, .input a (.portal false) ∉ before) ∧
      (c.handle {} i).phase = .captivePortal ∧ (c.handle {} i).sent = c.sent := by
  intro before c i
  have hready : c.phase = .captivePortal ∧ c.awaited = .disconnection ∧ c.nextStep ≠ .quit := by
    decide +kernel
  obtain ⟨hp, ha, hn⟩ := hready
  have hnever : ∀ a, Happening.input a (.portal false) ∉ before := by
    simp [before, northPortal, northTunnel, firstLink]
  obtain ⟨pre, around, since, hbefore, -, -, hstays, -⟩ :=
    gone_portal_is_not_taken_back {} sampleDevice southCooling before {} i hp ha hn rfl
  have hnone : ∀ a, Happening.input a (.portal false) ∉ since := by
    intro a hmem
    refine hnever a ?_
    rw [hbefore]
    exact List.mem_append_right pre (.tail _ hmem)
  obtain ⟨hphase, -, hsent⟩ := hstays hnone
  exact ⟨⟨hp, ha, hn, rfl, hnever⟩, hphase, hsent⟩

/-- The portal goes and is back before the tunnel is down, and yet the connection asks for
    the tunnel again. -/
theorem portal_that_is_back_is_ignored :
    let c := (initial {} sampleDevice southCooling).run
      (northPortal ++ [.input {} (.portal false), .input {} (.portal true)])
    let c' := c.handle {} (.link (.message .disconnected))
    (c.phase = .captivePortal ∧ c.awaited = .disconnection ∧ c.nextStep ≠ .quit) ∧
      c'.phase = .connecting ∧ c'.asked.length = c.asked.length + 1 := by
  decide +kernel

end Controller

end TunnelSession
