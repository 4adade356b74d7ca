/-
  TunnelSession.Proofs.Control.Probes

  What becomes of a tunnel whose probe could not be sent. While the tunnel is up, probe
  ticks, answers and checkups do nothing to the connection but what they do to its
  monitor, unless a checkup moves it to another server. So an unsent probe is, for the
  connection as for its monitor, one that was sent and lost, but for the mark.
-/
import TunnelSession.Proofs.Control.Switches
import TunnelSession.Proofs.Health.Marks

namespace TunnelSession

open Controller (Input Happening)

/-- Whether an input is about the health of the tunnel alone. -/
@[simp] def Controller.Input.isWatch : Input → Bool
  | .probeTick | .probeReply _ | .checkup => true
  | _ => false

/-- Whether what happens is about the health of the tunnel alone. -/
@[simp] def Controller.Happening.isWatch : Happening → Bool
  | .input _ i => i.isWatch
  | .measured _ => false

/-- Whether what happens is a checkup. -/
@[simp] def Controller.Happening.isCheckup : Happening → Bool
  | .input _ .checkup => true
  | _ => false

namespace Controller

variable {c c' : Controller} {around : Surroundings} {d : Destination}

/-! ## Where a checkup leads -/

theorem phase_startActivation (c : Controller) (around : Surroundings) (d : Destination)
    (during : Phase) :
    (c.startActivation around d during).2.phase = .off ∨
      (c.startActivation around d during).2.phase = during := by
  unfold startActivation
  split
  · exact .inl (phase_finishOff { c with destination := some d } around)
  · split
    · exact .inl (phase_finishOff c around)
    · dsimp only
      split
      · exact .inl (phase_finishOff c.cancelTimers around)
      · exact .inr (phase_enter _ during)

/-- The connection before it asks for the end of its tunnel, since no server of the city
    can be used. -/
def givingUp (c : Controller) (around : Surroundings) : Controller :=
  ({ c with nextStep := .serverUnavailable }.cancelTimers.stopHealth around).enter .disconnecting

theorem stance_givingUp : (c.givingUp around).stance = { c.stance.enter .disconnecting with
    nextStep := .serverUnavailable, generation := c.generation + 1 } := by
  unfold givingUp
  rw [stance_enter, stance_stopHealth]
  rfl

/-- The daemon is asked for the end of the tunnel, or else the tunnel counts as down. -/
theorem giveUpCity_eq (c : Controller) (around : Surroundings) :
    c.giveUpCity around = match around.accepts .deactivate with
      | .ok () => { (c.givingUp around).perform (.send .deactivate) with
          awaited := .disconnection }.arm .disconnect (c.givingUp around).tuning.disconnectTimeout
      | .error _ => ((c.givingUp around).wentDown around).emit
          (.serverUnavailable ((c.givingUp around).wentDown around).health.answered) := by
  have hphase : (c.givingUp around).phase = .disconnecting :=
    congrArg Stance.phase stance_givingUp
  have hnext : (c.givingUp around).nextStep = .serverUnavailable :=
    congrArg Stance.nextStep stance_givingUp
  have hdone : (c.givingUp around).completeDisconnect around =
      ((c.givingUp around).wentDown around).emit
        (.serverUnavailable ((c.givingUp around).wentDown around).health.answered) := by
    rw [completeDisconnect_eq around hphase, hnext]
  rw [← hdone]
  rfl

theorem phase_giveUpCity (c : Controller) (around : Surroundings) :
    (c.giveUpCity around).phase ≠ .on := by
  rw [giveUpCity_eq]
  split
  · exact ne_of_eq_of_ne (congrArg Stance.phase stance_givingUp) nofun
  · exact ne_of_eq_of_ne phase_wentDown nofun

/-- A tunnel that is still up was not moved. -/
theorem silentSwitch_of_on (h : (c.silentSwitch around).2.phase = .on) :
    (c.silentSwitch around).2 = c := by
  unfold silentSwitch at h ⊢
  split at h
  · next d s hon hd hs =>
    split at h
    · next hfew => rw [if_pos hfew]
    · dsimp only at h
      split at h
      · exact absurd h (phase_giveUpCity _ around)
      · have hactive : (c.coolDown around s.publicKey).phase.isActive = true :=
          congrArg Phase.isActive hon
        rw [changeServer_of_isActive hactive] at h
        rcases phase_startActivation ((c.coolDown around s.publicKey).stopHealth around) around d
          (if true then .silentSwitching else .switching) with hoff | hsilent
        · exact absurd (hoff.symm.trans h) nofun
        · exact absurd (hsilent.symm.trans h) nofun
  · rfl

/-! ## The monitor of a tunnel that is up -/

theorem health_probeTick (hp : c.phase = .on) :
    (c.probeTick around).health = c.health.tick around.now around.reaches := by
  unfold probeTick HealthMonitor.tick
  rw [if_pos hp]
  cases c.health.nextProbe? around.now with
  | none => rfl
  | some p =>
      dsimp only
      split <;> rfl

/-- A probe that cannot be sent shows in nothing but the monitor. -/
theorem probeTick_of_unreached {target : Net.Address} (hp : c.phase = .on)
    (htarget : c.health.target = some target) (hunreached : around.reaches target = false) :
    c.probeTick around = { c with health := c.health.tick around.now around.reaches } := by
  unfold probeTick HealthMonitor.tick HealthMonitor.nextProbe?
  rw [if_pos hp, htarget, Option.map_some]
  dsimp only
  rw [hunreached]
  rfl

theorem health_onProbeReply (c : Controller) (r : ProbeReply) : (c.onProbeReply r).health =
    if r.purpose = .health then c.health.hear r.source r.sequence r.receivedAt
    else c.health := by
  unfold onProbeReply HealthMonitor.hear
  by_cases hpurpose : r.purpose = .health
  · by_cases htarget : c.health.target = some r.source
    · rw [if_pos ⟨hpurpose, htarget⟩, if_pos hpurpose, if_pos htarget]
      cases c.health.answer? r.sequence r.receivedAt <;> rfl
    · rw [if_neg fun h => htarget h.2, if_pos hpurpose, if_neg htarget]
  · rw [if_neg fun h => hpurpose h.1, if_neg hpurpose]

theorem health_checked (c : Controller) (around : Surroundings) :
    (c.checked around).health = (c.health.checkup around.now).2 := by
  unfold checked
  cases (c.health.checkup around.now).1 <;> rfl

/-- A checkup that leaves the tunnel up only looks at the monitor. -/
theorem checkup_of_on (h : (c.checkup around).phase = .on) :
    c.checkup around = c.checked around := by
  rw [checkup_eq] at h ⊢
  split at h
  · next hmoves =>
    rw [if_pos hmoves]
    exact silentSwitch_of_on h
  · next hstays => rw [if_neg hstays]

theorem health_checkup (h : (c.checkup around).phase = .on) :
    (c.checkup around).health = (c.health.checkup around.now).2 := by
  rw [checkup_of_on h]
  exact health_checked c around

/-! ## Two connections -/

variable {x : Happening} {later : List Happening}

/-- What is about the health of the tunnel alone brings no tunnel up. -/
theorem phase_of_meet_watch (hx : x.isWatch = true) (h : (c.meet x).phase = .on) :
    c.phase = .on := by
  cases x with
  | measured registry => cases hx
  | input around i =>
      cases i with
      | probeTick => exact phase_probeTick.symm.trans h
      | probeReply r => exact (phase_onProbeReply r).symm.trans h
      | checkup =>
          have hup : (c.checkup around).phase = .on := h
          rw [checkup_of_on hup] at hup
          exact phase_checked.symm.trans hup
      | _ => cases hx

theorem phase_of_run_watch (hwatch : ∀ x ∈ later, x.isWatch = true)
    (h : (c.run later).phase = .on) : c.phase = .on := by
  induction later generalizing c with
  | nil => exact h
  | cons x later ih =>
      exact phase_of_meet_watch (hwatch x (.head _)) (ih (fun y hy => hwatch y (.tail _ hy)) h)

/-- Two tunnels that stay up go on seeing the same, and a checkup makes them alike. -/
theorem meet_shades (hx : x.isWatch = true) (h : (c.meet x).phase = .on)
    (h' : (c'.meet x).phase = .on) (hs : c.health.Shades c'.health) :
    (c.meet x).health.Shades (c'.meet x).health ∧
      (x.isCheckup = true → (c'.meet x).health.Shades (c.meet x).health) := by
  cases x with
  | measured registry => cases hx
  | input around i =>
      cases i with
      | probeTick =>
          have hc : (c.probeTick around).health = _ := health_probeTick (phase_of_meet_watch hx h)
          have hc' : (c'.probeTick around).health = _ :=
            health_probeTick (phase_of_meet_watch hx h')
          refine ⟨?_, nofun⟩
          show (c.probeTick around).health.Shades (c'.probeTick around).health
          rw [hc, hc']
          exact hs.tick around.now around.reaches
      | probeReply r =>
          refine ⟨?_, nofun⟩
          show (c.onProbeReply r).health.Shades (c'.onProbeReply r).health
          rw [health_onProbeReply, health_onProbeReply]
          split
          · exact hs.hear r.source r.sequence r.receivedAt
          · exact hs
      | checkup =>
          show (c.checkup around).health.Shades (c'.checkup around).health ∧
            (_ → (c'.checkup around).health.Shades (c.checkup around).health)
          rw [health_checkup h, health_checkup h']
          exact ⟨hs.checkup around.now, fun _ => hs.checkup_symm around.now⟩
      | _ => cases hx

theorem run_shades (hwatch : ∀ x ∈ later, x.isWatch = true) (h : (c.run later).phase = .on)
    (h' : (c'.run later).phase = .on) (hs : c.health.Shades c'.health) :
    (c.run later).health.Shades (c'.run later).health ∧
      ((∃ x ∈ later, x.isCheckup = true) →
        (c'.run later).health.Shades (c.run later).health) := by
  induction later generalizing c c' with
  | nil => exact ⟨hs, nofun⟩
  | cons x later ih =>
      have hrest : ∀ y ∈ later, y.isWatch = true := fun y hy => hwatch y (.tail _ hy)
      obtain ⟨hnext, hback⟩ := meet_shades (hwatch x (.head _))
        (phase_of_run_watch hrest h) (phase_of_run_watch hrest h') hs
      obtain ⟨hrun, hcheckup⟩ := ih hrest h h' hnext
      refine ⟨hrun, fun ⟨y, hy, hchecks⟩ => ?_⟩
      rcases List.mem_cons.mp hy with rfl | hy
      · -- the runs are alike from here on
        exact (ih hrest h' h (hback hchecks)).1
      · exact hcheckup ⟨y, hy, hchecks⟩

/-! ## A probe that could not be sent -/

/-- An unsent probe counts as a lost one. On every run, a probe tick whose probe cannot be
    sent changes nothing but the monitor, and the monitor as if the probe had been sent:
    only an answer with its number counts from then on, and it is one of the lost probes
    as soon as there is another one. Whatever ticks, answers and checkups follow, as long
    as the tunnel stays up the monitor sees the same as if the probe had been sent, and
    finds the same; only up to the first checkup it may find no signal instead. -/
theorem unsent_probe_counts_as_lost (tuning : ControlTuning) (device : Device)
    (registry : Registry) (before : List Happening) (around : Surroundings)
    (target : Net.Address) :
    let c := (initial tuning device registry).run before
    let failed := c.handle around .probeTick
    let sent := c.handle { around with reaches := fun _ => true } .probeTick
    c.phase = .on → c.health.target = some target → around.reaches target = false →
      (failed = { c with health := failed.health } ∧
        ∀ now, failed.health.classify now = .noSignal) ∧
      (∀ sequence at_, sequence ≠ c.health.nextSequence →
        failed.health.answer? sequence at_ = none) ∧
      (∀ next : Surroundings, ⟨c.health.nextSequence, around.now, none⟩ ∈
        (failed.handle next .probeTick).health.lost) ∧
      ∀ later : List Happening, (∀ x ∈ later, x.isWatch = true) →
        (failed.run later).phase = .on → (sent.run later).phase = .on →
          (failed.run later).health.seen = (sent.run later).health.seen ∧
          ∀ now, (failed.run later).health.classify now = (sent.run later).health.classify now ∨
            (failed.run later).health.classify now = .noSignal ∧
              ∀ x ∈ later, x.isCheckup = false := by
  intro c failed sent hp htarget hunreached
  have htick : failed = { c with health := c.health.tick around.now around.reaches } :=
    probeTick_of_unreached hp htarget hunreached
  have hfailed : failed.health = c.health.tick around.now around.reaches :=
    congrArg health htick
  have hsent : sent.health = c.health.tick around.now fun _ => true :=
    health_probeTick hp
  have hup : failed.phase = .on := phase_probeTick.trans hp
  have hmarked : failed.health.sendFailed = true := by
    rw [hfailed, HealthMonitor.tick_eq htarget, hunreached]
    exact Bool.or_true _
  refine ⟨⟨?_, fun now => ?_⟩, fun sequence at_ hne => ?_, fun next => ?_,
    fun later hwatch h h' => ?_⟩
  · rw [hfailed]
    exact htick
  · rw [HealthMonitor.classify_eq, hmarked]
    rfl
  · rw [hfailed]
    exact HealthMonitor.answer?_tick htarget hne
  · have hnext : (failed.probeTick next).health = _ := health_probeTick hup
    show _ ∈ (failed.probeTick next).health.lost
    rw [hnext, hfailed]
    exact HealthMonitor.mem_lost_tick_tick htarget next.now next.reaches
  · have hshades : failed.health.Shades sent.health := by
      rw [hfailed, hsent]
      exact HealthMonitor.tick_shades_sent htarget around.now around.reaches
    obtain ⟨hrun, hcheckup⟩ := run_shades hwatch h h' hshades
    refine ⟨hrun.seen, fun now => ?_⟩
    -- a checkup marks the two alike; until then the one with the failed tick may be marked alone
    by_cases hchecked : ∃ x ∈ later, x.isCheckup = true
    · exact .inl (hrun.classify_eq (hcheckup hchecked) now)
    · refine (hrun.classify now).imp_right fun hnone => ⟨hnone, fun x hx => ?_⟩
      exact Bool.eq_false_iff.mpr fun hcheck => hchecked ⟨x, hx, hcheck⟩

/-- No probe can be sent at this time. -/
def unreached (now : Nat) : Surroundings := { now := now, reaches := fun _ => false }

theorem unsent_probe_counts_as_lost_after_answer :
    let c := (initial {} sampleDevice southCooling).run (northTunnel ++
      [.input { now := 1000000 } .probeTick,
        .input {} (.probeReply ⟨.health, 0, .v4 0x0A400001#32, 1050000⟩)])
    let failed := c.handle (unreached 2000000) .probeTick
    let sent := c.handle { unreached 2000000 with reaches := fun _ => true } .probeTick
    let later : List Happening := [.input { now := 2100000 } .checkup]
    (c.phase = .on ∧ c.health.target = some (.v4 0x0A400001#32) ∧
      (failed.run later).phase = .on ∧ (sent.run later).phase = .on) ∧
      (∀ next : Surroundings, ⟨c.health.nextSequence, 2000000, none⟩ ∈
        (failed.handle next .probeTick).health.lost) ∧
      (failed.run later).health.seen = (sent.run later).health.seen ∧
      (failed.run later).health.classify 2100000 = (sent.run later).health.classify 2100000 := by
  have hcounts := unsent_probe_counts_as_lost {} sampleDevice southCooling (northTunnel ++
    [.input { now := 1000000 } .probeTick,
      .input {} (.probeReply ⟨.health, 0, .v4 0x0A400001#32, 1050000⟩)])
    (unreached 2000000) (.v4 0x0A400001#32)
  generalize hc : (initial {} sampleDevice southCooling).run (northTunnel ++
    [.input { now := 1000000 } .probeTick,
      .input {} (.probeReply ⟨.health, 0, .v4 0x0A400001#32, 1050000⟩)]) = c at hcounts ⊢
  intro c failed sent later
  have hready : c.phase = .on ∧ c.health.target = some (.v4 0x0A400001#32) ∧
      (failed.run later).phase = .on ∧ (sent.run later).phase = .on := by
    unfold failed sent c
    rw [← hc]
    decide +kernel
  obtain ⟨hp, htarget, hfailed, hsent⟩ := hready
  obtain ⟨-, -, hlost, hlater⟩ := hcounts hp htarget rfl
  obtain ⟨hseen, hclassify⟩ := hlater later (by decide) hfailed hsent
  refine ⟨⟨hp, htarget, hfailed, hsent⟩, hlost, hseen, ?_⟩
  exact (hclassify 2100000).resolve_right fun hnone => absurd (hnone.2 _ (.head _)) nofun

/-- A probe is under way, and the next one cannot be sent. The answer to the first one no
    longer counts, the first one is lost, and the second checkup takes the tunnel down.
    Without the second probe the answer counts, and the tunnel is stable. -/
theorem unsent_probe_takes_tunnel_down :
    let answer : ProbeReply := ⟨.health, 0, .v4 0x0A400001#32, 1200000⟩
    let c := (initial {} sampleDevice southCooling).run (northTunnel ++
      [.input { now := 1000000 } .probeTick, .input { now := 1100000 } .checkup])
    let failed := c.handle (unreached 1200000) .probeTick
    let later : List Happening :=
      [.input { now := 1200000 } .checkup, .input {} (.probeReply answer)]
    let checkup : Happening := .input { now := 1200000 } .checkup
    c.phase = .on ∧ c.health.lost = [] ∧ failed.health.lost.length = 1 ∧
      ((c.run later).health.answered = true ∧ (c.run later).health.classify 1200000 = .stable ∧
        ((c.run later).meet checkup).phase = .on) ∧
      (failed.run later).phase = .on ∧ (failed.run later).health.answered = false ∧
      (failed.run later).health.classify 1200000 = .unstable ∧
      ((failed.run later).meet checkup).phase = .disconnecting := by
  decide +kernel

end Controller

end TunnelSession
