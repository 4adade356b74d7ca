/-
  TunnelSession.Proofs.Control.Retirement

  What the user's request to take the tunnel down is worth later on. From then on the
  connection is off, or on its way there with nowhere to go next, and as long as the
  user asks for no other tunnel it stays so, whatever the daemon, the link, the timers
  and the probes report. Only one thing ends it: the first status on a link tells that
  the daemon has a tunnel, and the connection takes it over. That can be the very
  tunnel that was to be taken down, for the wait for its end is over as soon as the
  link is lost.
-/
import TunnelSession.Proofs.Control.Portal

namespace TunnelSession

open Controller (Input Happening)

namespace Controller

variable {started : Prop} {c₀ c c₁ c' : Controller} {around : Surroundings} {i : Input}
  {x : Happening}

/-- Whether the user asks for a tunnel. -/
def Happening.activates : Happening → Bool
  | .input _ (.activate _) => true
  | _ => false

/-- Whether what happens is the first status on a link, and tells of a tunnel that is
    taken over. -/
def restoredBy (c : Controller) : Happening → Bool
  | .input _ (.link (.message (.status s))) => c.adopts s
  | _ => false

/-- `Retires c₀ c`: the connection is off, or on its way there with nowhere to go next,
    and no tunnel was asked for since `c₀`. -/
structure Retires (c₀ c : Controller) : Prop where
  phase : c.phase = .disconnecting ∨ c.phase = .off
  held : c.held = none
  asked : c.asked = c₀.asked

/-- Where no tunnel was started, none was asked for. -/
theorem Inherits.asked (h : Inherits started c₀ c) (hs : ¬ started) : c.asked = c₀.asked := by
  obtain ⟨new, hsent, hnew⟩ := h.sent
  have hnone : new.filterMap Request.tunnel? = [] := by
    apply List.filterMap_eq_nil_iff.mpr
    intro r hr
    cases r with
    | activate config => exact absurd hr (hnew.resolve_left hs config)
    | deactivate | status | logs | cleanLogs => rfl
  show c.sent.filterMap Request.tunnel? = c₀.sent.filterMap Request.tunnel?
  rw [hsent, List.filterMap_append, hnone, List.append_nil]

/-! ## The request to take the tunnel down -/

theorem asked_of_bearing (h : c'.bearing = c.bearing) : c'.asked = c.asked :=
  congrArg Bearing.asked h

/-- A tunnel that is down is not followed by another one if none is held. -/
theorem completeDisconnect_rests (around : Surroundings) (hp : c.phase = .disconnecting)
    (hh : c.held = none) :
    (c.completeDisconnect around).phase = .off ∧ (c.completeDisconnect around).held = none := by
  have hoff : (c.wentDown around).phase = .off := phase_wentDown
  have hheld : (c.wentDown around).held = none := by
    have hself := wentDown_hold c around none
    rw [show c.hold none = c from congrArg c.hold hh.symm] at hself
    rw [hself]
    rfl
  rw [completeDisconnect_eq around hp]
  cases c.nextStep with
  | quit => exact ⟨hoff, hheld⟩
  | serverUnavailable => exact ⟨hoff, hheld⟩
  | nothing =>
      show ((c.wentDown around).activateHeld around).phase = .off ∧ _
      rw [activateHeld, hheld]
      exact ⟨hoff, hheld⟩

/-- A tunnel is taken down for good if no destination is held. -/
theorem beginDisconnect_rests (around : Surroundings) (hh : c.held = none) :
    let c' := c.beginDisconnect around .disconnecting
    (c'.phase = .disconnecting ∨ c'.phase = .off) ∧ c'.held = none := by
  intro c'
  have hbearing : ((c.cancelTimers.stopHealth around).enter .disconnecting).bearing = c.bearing :=
    (bearing_enter _ .disconnecting).trans (bearing_stopHealth c.cancelTimers around)
  have hphase : ((c.cancelTimers.stopHealth around).enter .disconnecting).phase = .disconnecting :=
    phase_enter _ .disconnecting
  have hheld := (congrArg Bearing.held hbearing).trans hh
  unfold c' beginDisconnect
  dsimp only
  generalize (c.cancelTimers.stopHealth around).enter .disconnecting = stopped at hphase hheld
  split
  · exact ⟨.inl hphase, hheld⟩
  · -- the daemon cannot be asked, so the tunnel counts as down
    obtain ⟨hoff, hnone⟩ := completeDisconnect_rests around hphase hheld
    exact ⟨.inr hoff, hnone⟩

/-- A request to take the tunnel down that is granted retires the connection. -/
theorem deactivate_retires (h : (c.deactivate around).1 = true) :
    Retires c (c.deactivate around).2 := by
  have hasked : (c.deactivate around).2.asked = c.asked := by
    rcases deactivate_steers c around with hkeeps | ⟨d, hd, -⟩
    · exact hkeeps.asked
    · cases hd
  suffices hrests : ((c.deactivate around).2.phase = .disconnecting ∨
      (c.deactivate around).2.phase = .off) ∧ (c.deactivate around).2.held = none from
    ⟨hrests.1, hrests.2, hasked⟩
  unfold deactivate at h ⊢
  dsimp only at h ⊢
  split at h
  -- where no tunnel is up, the request is refused
  · cases h
  · cases h
  · cases h
  · split
    · exact ⟨.inl (phase_enter _ _), held_enter _ _⟩
    · refine ⟨.inr (phase_finishOff _ around), ?_⟩
      exact congrArg Bearing.held (bearing_finishOff { c with held := none } around)
  · exact beginDisconnect_rests (c := { c with held := none }) around rfl

/-! ## What comes later -/

/-- What neither leaves the phase nor asks for a tunnel nor holds one changes nothing. -/
theorem Retires.same (h : Retires c₀ c) (hp : c'.phase = c.phase) (hh : c'.held = none)
    (ha : c'.asked = c.asked) : Retires c₀ c' :=
  ⟨hp ▸ h.phase, hh, ha.trans h.asked⟩

theorem Retires.phase_ne (h : Retires c₀ c) {p : Phase} (hd : p ≠ .disconnecting)
    (ho : p ≠ .off) : c.phase ≠ p := by
  rintro rfl
  exact h.phase.elim hd ho

theorem Retires.phase_ne_on (h : Retires c₀ c) : c.phase ≠ .on :=
  h.phase_ne nofun nofun

theorem Retires.phase_ne_portal (h : Retires c₀ c) : c.phase ≠ .captivePortal :=
  h.phase_ne nofun nofun

/-- With nothing held, the first status on a link only settles whether a tunnel is up. -/
theorem onFirstStatus_of_held_none (hh : c.held = none) (s : StatusReport) :
    c.onFirstStatus around s = c.settled around s := by
  rw [onFirstStatus_eq, held_settled, hh]

/-- A status that tells of no tunnel to take over settles nothing for a connection that
    is off. -/
theorem onStatus_of_off (hm : c.stance.Matched) (hp : c.phase = .off) (hh : c.held = none)
    {s : StatusReport} (ha : c.adopts s = false) : (c.onStatus around s).phase = .off := by
  have hwait : c.awaited = .nothing := hm.awaited_of_off hp
  unfold onStatus
  split
  · next hfirst =>
    have hnotUp : ¬ s.connected = true := by
      intro hup
      simp [adopts, hfirst, hup, hp] at ha
    rw [onFirstStatus_of_held_none (c := { c with awaitingFirstStatus := false }) hh,
      phase_settled, if_neg fun hup => hnotUp hup.1]
    show (if c.phase = .initializing then .off else c.phase) = .off
    rw [hp]
    rfl
  · rw [hwait]
    exact hp

/-- A connection that is off and holds nothing stays off when it hears from the link or a
    timer, unless it takes a tunnel over. -/
theorem phase_handle_of_off (hm : c.stance.Matched) (hp : c.phase = .off) (hh : c.held = none)
    (hi : i.comesUnasked = true) (ha : c.restoredBy (.input around i) = false) :
    (c.handle around i).phase = .off := by
  have hwait : c.awaited = .nothing := hm.awaited_of_off hp
  cases i with
  | link event =>
      cases event with
      | ready => exact phase_onReady.trans hp
      | lost =>
          have hcut : c.cutOff.phase = .off := phase_cutOff.trans hp
          show (c.onLost around).phase = .off
          rw [onLost, ← cutOff]
          dsimp only
          rw [hcut]
          exact hcut
      | message reply =>
          cases reply with
          | connected key =>
              show (c.onConnected around key).phase = .off
              rw [onConnected, hwait, if_neg (by simp)]
              exact hp
          | disconnected =>
              show (c.onDisconnected around).phase = .off
              rw [onDisconnected, hwait, hp]
              exact hp
          | status s => exact onStatus_of_off hm hp hh ha
          | logs text => exact (phase_onLogs text).trans hp
          | backendFailure =>
              -- a failure that nobody waits for ends the session, and there is none
              show (c.onBackendFailure around).phase = .off
              rw [onBackendFailure, hwait, if_neg (by decide)]
              exact phase_finishOff c around
  | timer token =>
      show (c.onTimer around token).phase = .off
      rw [onTimer_eq_self fun _ => by simp [hwait, Awaited.timer?]]
      exact hp
  | _ => cases hi

/-- On its way to the phase off the connection goes on or arrives. -/
theorem phase_handle_of_retiring (hm : c.stance.Matched) (hp : c.phase = .disconnecting)
    (hh : c.held = none) :
    (c.handle around i).phase = .disconnecting ∨ (c.handle around i).phase = .off := by
  cases he : c.endsDisconnect i with
  | false => exact .inl ((phase_handle_of_disconnecting hm hp).mpr he)
  | true =>
      -- the disconnect is complete, and with nothing held no tunnel follows
      obtain ⟨m, hmp, -, hcomplete⟩ := handle_hold_of_endsDisconnect around hm hp he
      have hdone : c.handle around i = (m.hold none).completeDisconnect around := by
        rw [← hcomplete none, ← hh]
        rfl
      rw [hdone]
      exact .inr (completeDisconnect_rests (c := m.hold none) around hmp rfl).1

/-- The link and the timers bring no tunnel back of their own. -/
theorem Retires.handle_unasked (h : Retires c₀ c) (hm : c.stance.Matched)
    (hi : i.comesUnasked = true) (ha : c.restoredBy (.input around i) = false) :
    Retires c₀ (c.handle around i) := by
  have hinherits := handle_inherits_of_comesUnasked around (c := c) hi
  -- only what is held and a portal that goes make the link ask for a tunnel
  have hnotStarted : ¬ (c.held.isSome = true ∨ c.phase = .captivePortal) := by
    rw [h.held]
    rintro (hsome | hportal)
    · cases hsome
    · exact h.phase_ne_portal hportal
  refine ⟨?_, hinherits.held_none h.held, (hinherits.asked hnotStarted).trans h.asked⟩
  rcases h.phase with hp | hp
  · exact phase_handle_of_retiring hm hp h.held
  · exact .inr (phase_handle_of_off hm hp h.held hi ha)

/-- Nor do the other requests of the user, and the probes. -/
theorem Retires.handle_asked (h : Retires c₀ c) (hi : i.comesUnasked = false)
    (ha : Happening.activates (.input around i) = false) : Retires c₀ (c.handle around i) := by
  have hheld : c.held = none := h.held
  cases i with
  | activate d => cases ha
  | deactivate =>
      -- it is refused, for no tunnel is up, and only lets go of what is held
      have heq : (c.deactivate around).2 = c.hold none := by
        rcases h.phase with hp | hp <;> simp [deactivate, hp, hold]
      show Retires c₀ (c.deactivate around).2
      rw [heq]
      exact h.same rfl rfl rfl
  | changeServer d silent =>
      -- the destination is noted for the next tunnel
      have heq : (c.changeServer around d silent).2 = { c with destination := some d } := by
        rcases h.phase with hp | hp <;> simp [changeServer, hp, hheld]
      show Retires c₀ (c.changeServer around d silent).2
      rw [heq]
      exact h.same rfl hheld rfl
  | silentSwitch =>
      show Retires c₀ (c.silentSwitch around).2
      unfold silentSwitch
      split
      · next hon _ _ => exact absurd hon h.phase_ne_on
      · exact h
  | quit =>
      have heq : c.quit around = { c.hold none with nextStep := .quit } ∨
          c.quit around = (c.hold none).finish := by
        rcases h.phase with hp | hp <;> simp [quit, hp, hold]
      show Retires c₀ (c.quit around)
      rcases heq with heq | heq <;> rw [heq]
      · exact h.same rfl rfl rfl
      · exact h.same rfl rfl (asked_of_bearing (c := c.hold none) (bearing_finish _))
  | portal present =>
      cases present with
      | true =>
          have heq : c.portalDetected around = c ∨
              c.portalDetected around = { c with portalSeen := true } := by
            rcases h.phase with hp | hp <;> simp [portalDetected, hp]
          show Retires c₀ (c.portalDetected around)
          rcases heq with heq | heq <;> rw [heq]
          · exact h
          · exact h.same rfl hheld rfl
      | false =>
          show Retires c₀ (c.portalGone around)
          unfold portalGone
          dsimp only
          rw [if_neg fun hportal => h.phase_ne_portal hportal.1]
          exact h.same rfl hheld rfl
  | fetchLogs ticket =>
      have hinherits : Inherits True c (c.fetchLogs around ticket) :=
        (Inherits.refl c).fetchLogs ticket
      exact h.same (phase_fetchLogs ticket) (hinherits.held_none hheld)
        (keeps_fetchLogs ticket).asked
  | cleanLogs =>
      have hinherits : Inherits True c (c.trySend around .cleanLogs) :=
        (Inherits.refl c).trySend rfl
      exact h.same (phase_trySend .cleanLogs) (hinherits.held_none hheld) (keeps_trySend rfl).asked
  | requestStatus =>
      show Retires c₀ (c.requestStatus around)
      unfold requestStatus
      rw [if_neg fun hon => h.phase_ne_on hon.1]
      exact h
  | probeTick =>
      show Retires c₀ (c.probeTick around)
      unfold probeTick
      rw [if_neg h.phase_ne_on]
      exact h
  | probeReply r =>
      have hinherits : Inherits True c (c.onProbeReply r) := (Inherits.refl c).onProbeReply r
      exact h.same (phase_onProbeReply r) (hinherits.held_none hheld) (keeps_onProbeReply r).asked
  | checkup =>
      show Retires c₀ (c.checkup around)
      rw [checkup_eq, if_neg fun hmoves => h.phase_ne_on hmoves.2.2]
      have hchecked : (c.checked around).held = c.held := held_emitStability _ _
      exact h.same phase_checked (hchecked.trans hheld)
        (congrArg (List.filterMap Request.tunnel?) sent_checked)
  | link | timer => cases hi

/-- What comes to a retired connection leaves it so, unless the user asks for a tunnel or
    one is taken over. -/
theorem Retires.meet (h : Retires c₀ c) (hm : c.stance.Matched) (hx : x.activates = false)
    (ha : c.restoredBy x = false) : Retires c₀ (c.meet x) := by
  cases x with
  | measured registry => exact h.same rfl h.held rfl
  | input around i =>
      cases hi : i.comesUnasked with
      | true => exact h.handle_unasked hm hi ha
      | false => exact h.handle_asked hi hx

/-- As long as no tunnel is asked for, a retired connection stays so on every run, or at
    some point of the run a tunnel is taken over, and up to there it stayed so. -/
theorem Retires.run (h : Retires c₀ c) (hm : c.stance.Matched) (later : List Happening)
    (hquiet : ∀ x ∈ later, x.activates = false) :
    Retires c₀ (c.run later) ∨
      ∃ p x, p ++ [x] <+: later ∧ Retires c₀ (c.run p) ∧ (c.run p).restoredBy x = true := by
  induction later using List.reverseRecOn with
  | nil => exact .inl h
  | append_singleton later x ih =>
      have hearlier : ∀ y ∈ later, y.activates = false :=
        fun y hy => hquiet y (List.mem_append_left _ hy)
      rcases ih hearlier with hstill | ⟨p, y, hprefix, hp⟩
      · have hx : x.activates = false := hquiet x (by simp)
        cases ha : (c.run later).restoredBy x with
        | true => exact .inr ⟨later, x, List.prefix_rfl, hstill, ha⟩
        | false =>
            rw [run_append]
            exact .inl (hstill.meet (run_matched hm later) hx ha)
      · exact .inr ⟨p, y, hprefix.trans (List.prefix_append later [x]), hp⟩

/-- A retired connection takes a tunnel over only where it is off and hears the first status
    on a link. It is on then, without having asked for anything. -/
theorem Retires.restored (h : Retires c₀ c) (ha : c.restoredBy x = true) :
    ∃ around s, x = .input around (.link (.message (.status s))) ∧
      c.phase = .off ∧ c.awaitingFirstStatus = true ∧ s.connected = true ∧
      (c.meet x).phase = .on ∧ (c.meet x).asked = c₀.asked := by
  unfold restoredBy at ha
  split at ha
  · next around s =>
    have hadopts : (c.awaitingFirstStatus = true ∧ s.connected = true) ∧
        (c.phase = .initializing ∨ c.phase = .off) := by
      simpa [adopts] using ha
    obtain ⟨⟨hfirst, hup⟩, hphase⟩ := hadopts
    have hoff : c.phase = .off := hphase.resolve_left (h.phase_ne (by decide) (by decide))
    have hmeet : c.meet (.input around (.link (.message (.status s)))) =
        ({ c with awaitingFirstStatus := false } : Controller).settled around s := by
      show c.onStatus around s = _
      rw [onStatus, if_pos hfirst]
      exact onFirstStatus_of_held_none (c := { c with awaitingFirstStatus := false }) h.held s
    refine ⟨around, s, rfl, hoff, hfirst, hup, ?_, ?_⟩
    · rw [hmeet, phase_settled]
      exact if_pos ⟨hup, .inr hoff⟩
    · rw [hmeet]
      exact (asked_of_bearing (bearing_settled { c with awaitingFirstStatus := false } around
        s)).trans h.asked
  · cases ha

/-! ## On every run -/

/-- A tunnel that the user takes down stays down until the daemon has one again. On every
    run, from a request to take the tunnel down that is granted, and as long as the user
    asks for no tunnel, the connection is off or on its way there and asks for none,
    whatever comes to it; or else there is a moment up to which all of this was so, and
    at which the connection, off by then, heard the first status on a link and took over
    the tunnel that it tells of. -/
theorem deactivated_until_restored (tuning : ControlTuning) (device : Device)
    (registry : Registry) (before later : List Happening) (around : Surroundings) :
    let c := (initial tuning device registry).run before
    let down := (c.deactivate around).2
    (c.deactivate around).1 = true → (∀ around d, .input around (.activate d) ∉ later) →
      down.asked = c.asked ∧
        (((down.run later).phase = .disconnecting ∨ (down.run later).phase = .off) ∧
            (down.run later).asked = c.asked ∨
          ∃ p around s, p ++ [.input around (.link (.message (.status s)))] <+: later ∧
            (down.run p).phase = .off ∧ (down.run p).asked = c.asked ∧
            (down.run p).awaitingFirstStatus = true ∧ s.connected = true ∧
            ((down.run p).handle around (.link (.message (.status s)))).phase = .on ∧
            ((down.run p).handle around (.link (.message (.status s)))).asked = c.asked) := by
  intro c down hgranted hquiet
  have hm : c.stance.Matched := run_matched (initial_matched tuning device registry) before
  have hdown : down.stance.Matched :=
    (handle_matched hm .deactivate : (c.handle around .deactivate).stance.Matched)
  have hretires : Retires c down := deactivate_retires hgranted
  have hnone : ∀ x ∈ later, x.activates = false := by
    intro x hx
    cases hact : x.activates with
    | false => rfl
    | true =>
        unfold Happening.activates at hact
        split at hact
        · next around d => exact absurd hx (hquiet around d)
        · cases hact
  refine ⟨hretires.asked, ?_⟩
  rcases hretires.run hdown later hnone with hstill | ⟨p, x, hprefix, hp, hrestored⟩
  · exact .inl ⟨hstill.phase, hstill.asked⟩
  · obtain ⟨around, s, rfl, hoff, hfirst, hup, hon, hasked⟩ := hp.restored hrestored
    exact .inr ⟨p, around, s, hprefix, hoff, hp.asked, hfirst, hup, hon, hasked⟩

/-- The link is lost and comes back, and the daemon has no tunnel. -/
theorem deactivated_until_restored_north :
    let c := (initial {} sampleDevice southCooling).run northTunnel
    let later : List Happening := [.input {} (.link .lost), .input {} (.portal true),
      .input {} (.link .ready), .input {} (.link (.message (.status {}))), .input {} .checkup]
    ((c.deactivate {}).1 = true ∧ ∀ around d, .input around (.activate d) ∉ later) ∧
      (((c.deactivate {}).2.run later).phase = .disconnecting ∨
        ((c.deactivate {}).2.run later).phase = .off) ∧
      ((c.deactivate {}).2.run later).asked = c.asked := by
  intro c later
  have hgranted : (c.deactivate {}).1 = true := by decide +kernel
  have hquiet : ∀ around d, Happening.input around (.activate d) ∉ later := by
    simp [later]
  refine ⟨⟨hgranted, hquiet⟩, ?_⟩
  obtain ⟨-, hrests | ⟨p, around, s, hprefix, -, -, -, hup, -⟩⟩ :=
    deactivated_until_restored {} sampleDevice southCooling northTunnel later {} hgranted hquiet
  · exact hrests
  · -- the only status of the run tells of no tunnel
    have hmem : Happening.input around (.link (.message (.status s))) ∈ later :=
      hprefix.mem (by simp)
    have hs : around = {} ∧ s = {} := by simpa [later] using hmem
    rw [hs.2] at hup
    cases hup

/-- The link is lost before the tunnel is down, and the daemon still has it when the link
    is back: the tunnel that was to be taken down is up again. -/
theorem deactivated_tunnel_is_restored :
    let c := (initial {} sampleDevice southCooling).run northTunnel
    let later : List Happening := [.input {} (.link .lost), .input {} (.link .ready),
      .input {} (.link (.message (.status { connected := true })))]
    (c.phase = .on ∧ (c.deactivate {}).1 = true) ∧
      (∀ around d, .input around (.activate d) ∉ later) ∧
      ((c.deactivate {}).2.run later).phase = .on := by
  intro c later
  have hrun : (c.phase = .on ∧ (c.deactivate {}).1 = true) ∧
      ((c.deactivate {}).2.run later).phase = .on := by
    decide +kernel
  exact ⟨hrun.1, by simp [later], hrun.2⟩

end Controller

end TunnelSession
