/-
  TunnelSession.Proofs.Control.Leaving

  Where a silent switch goes. The server that is left cools down, and the destination then
  chooses among those that do not. Nothing else tells the two servers apart, so whether the
  connection gets away from the first one depends on how long a cooldown lasts: if it lasts
  at all, the next server has another key.

  A cooldown of no time is no short cooldown, though. It ends the cooldown that there may
  be, and the server that is left is chosen like any other. Where the destination prefers
  it, the switch goes right back.
-/
import TunnelSession.Proofs.Control.Rotation
import TunnelSession.Proofs.Quality.Choice

namespace TunnelSession

open Controller (Input Happening)

/-! ## Cooldowns that last, and one that does not -/

namespace Registry

variable {r : Registry} {key : String} {now seconds : Nat}

/-- A cooldown that lasts at all has begun at once. -/
theorem isCooling_setCooldown (hs : seconds ≠ 0) (hnow : now < endOfTime) :
    (r.setCooldown now key seconds).isCooling now key = true := by
  rw [isCooling_iff, coolingUntil_setCooldown r now key hs, if_pos rfl]
  exact Nat.lt_min.mpr ⟨by omega, hnow⟩

/-- A cooldown of no time is none. -/
theorem isCooling_setCooldown_zero : (r.setCooldown now key 0).isCooling now key = false := by
  rw [← Bool.not_eq_true, isCooling_iff, setCooldown, standing_put, if_pos rfl]
  exact Nat.not_lt_zero now

end Registry

/-- A preferred server that can be used is chosen. -/
theorem Destination.choose?_of_usable {d : Destination} {s : Server} {r : Registry}
    {now : Nat} (dice : Nat) (hexit : d.exitServer? = some s)
    (husable : r.isCooling now s.publicKey = false) : d.choose? r now dice = some s := by
  rw [choose?, usableExit?_eq_some hexit husable]

namespace Controller

variable {c c₁ c' : Controller} {around : Surroundings} {d : Destination} {old s : Server}
  {config : TunnelConfig} {during : Phase}

/-! ## The server that is chosen -/

/-- The tunnel that is asked for goes to the server that the destination chooses. -/
theorem Launches.chosen (h : c.Launches around d s config (c.startActivation around d during).2) :
    d.choose? c.registry around.clock around.dice = some s := by
  have hwaits : (c.startActivation around d during).2.awaited.key? ≠ none := by
    rw [h.awaited]
    exact nofun
  have hserver := h.server
  -- on each way on which no tunnel is asked for, the connection waits for no server
  cases hs : d.choose? c.registry around.clock around.dice with
  | none =>
      simp only [startActivation, hs] at hwaits
      exact absurd (key?_finishOff { c with destination := some d } around) hwaits
  | some t =>
      cases hconfig : c.tunnelTo t with
      | error e =>
          simp only [startActivation, hs, hconfig] at hwaits
          exact absurd (key?_finishOff c around) hwaits
      | ok made =>
          cases htaken : around.accepts (.activate made) with
          | error e =>
              simp only [startActivation, hs, hconfig, htaken] at hwaits
              exact absurd (key?_finishOff c.cancelTimers around) hwaits
          | ok u =>
              simp only [startActivation, hs, hconfig, htaken] at hserver
              have hentered := congrArg Bearing.server
                ((bearing_arm _ .handshake c.cancelTimers.tuning.handshakeTimeout).trans
                  (bearing_enter { c.cancelTimers.perform (.send (.activate made)) with
                    awaited := .handshake t.publicKey
                    destination := some d
                    server := some t } during))
              exact hentered.symm.trans hserver

/-- `Leaves c around d old s config c'`: the tunnel to a server of the destination was up, and
    a tunnel to the one was asked for that the destination chooses once the old one has its
    cooldown. -/
structure Leaves (c : Controller) (around : Surroundings) (d : Destination) (old s : Server)
    (config : TunnelConfig) (c' : Controller) : Prop
    extends c.Launches around d s config c' where
  on : c.phase = .on
  stored : c.destination = some d
  left : c.server = some old
  many : 2 ≤ d.servers.length
  chosen : d.choose? (c.registry.setCooldown around.clock old.publicKey c.tuning.cooldown)
    around.clock around.dice = some s

theorem asked_giveUpCity (c : Controller) (around : Surroundings) :
    (c.giveUpCity around).asked = c.asked := by
  have hdown : (downOrder around).filterMap Request.tunnel? = [] := by
    rw [downOrder]
    split <;> rfl
  rw [asked, sent_giveUpCity, List.filterMap_append, hdown, List.append_nil]
  rfl

/-- A silent switch that asks for a tunnel leaves the old server for the next one. -/
theorem silentSwitch_leaves (c : Controller) (around : Surroundings) :
    (c.silentSwitch around).2.asked = c.asked ∨
      ∃ d old s config, c.Leaves around d old s config (c.silentSwitch around).2 := by
  rcases silentSwitch_cases c around with hsame | ⟨d, old, hon, hd, hold, hmany, hdown | hmove⟩
  · exact .inl (congrArg asked hsame)
  · rw [hdown]
    exact .inl (asked_giveUpCity (c.coolDown around old.publicKey) around)
  · rw [hmove]
    have hcool : c.Quiet (c.coolDown around old.publicKey) := .of_bearing rfl
    have hstopped : c.Quiet ((c.coolDown around old.publicKey).stopHealth around) :=
      hcool.trans (.of_bearing (bearing_stopHealth _ around))
    have hregistry : ((c.coolDown around old.publicKey).stopHealth around).registry =
        c.registry.setCooldown around.clock old.publicKey c.tuning.cooldown :=
      congrArg (fun m => m.2.2) (means_stopHealth (c := c.coolDown around old.publicKey))
    generalize (c.coolDown around old.publicKey).stopHealth around = stopped
      at hstopped hregistry
    rcases startActivation_launches stopped around d .silentSwitching with
      ⟨hquiet, -⟩ | ⟨s, config, hlaunches⟩
    · exact .inl (hstopped.trans hquiet).asked
    · exact .inr ⟨d, old, s, config, hstopped.launches hlaunches, hon, hd, hold, hmany,
        hregistry ▸ hlaunches.chosen⟩

/-- Whatever a checkup saw of the tunnel makes no difference to where it leads. -/
theorem Leaves.of_checked (h : (c.checked around).Leaves around d old s config c') :
    c.Leaves around d old s config c' := by
  have hlook : Stays 0 c (c.checked around) := stays_checked c around
  have hregistry : (c.checked around).registry = c.registry :=
    congrArg (fun m => m.2.2)
      (means_emitStability (c := { c with health := (c.health.checkup around.now).2 }) _)
  have hchosen := h.chosen
  rw [hregistry, hlook.quiet.tuning] at hchosen
  exact {
    toLaunches := hlook.quiet.launches h.toLaunches
    on := phase_checked.symm.trans h.on
    stored := hlook.destination.symm.trans h.stored
    left := hlook.server.symm.trans h.left
    many := h.many
    chosen := hchosen }

theorem checkup_leaves (c : Controller) (around : Surroundings) :
    (c.checkup around).asked = c.asked ∨
      ∃ d old s config, c.Leaves around d old s config (c.checkup around) := by
  have hasked : (c.checked around).asked = c.asked :=
    congrArg (List.filterMap Request.tunnel?) sent_checked
  rw [checkup_eq]
  split
  · rcases silentSwitch_leaves (c.checked around) around with hnone | ⟨d, old, s, config, hleaves⟩
    · exact .inl (hnone.trans hasked)
    · exact .inr ⟨d, old, s, config, hleaves.of_checked⟩
  · exact .inl hasked

/-- While a cooldown lasts at all, the next server is another one. -/
theorem Leaves.elsewhere (h : c.Leaves around d old s config c') (hcool : c.tuning.cooldown ≠ 0)
    (hnow : around.clock < Registry.endOfTime) : s.publicKey ≠ old.publicKey := by
  intro hsame
  obtain ⟨-, husable⟩ := Destination.mem_available.mp (Destination.mem_of_choose? h.chosen)
  rw [hsame, Registry.isCooling_setCooldown hcool hnow] at husable
  cases husable

/-- A cooldown of no time keeps nobody from going back to the server that is preferred. -/
theorem Leaves.back (h : c.Leaves around d old s config c') (hcool : c.tuning.cooldown = 0)
    (hexit : d.exitServer? = some old) : s = old := by
  have hchosen := h.chosen
  rw [hcool, Destination.choose?_of_usable around.dice hexit
    Registry.isCooling_setCooldown_zero] at hchosen
  exact (Option.some.inj hchosen).symm

/-! ## On every run -/

/-- On every run, a silent switch, be it requested or due to a checkup, asks for no tunnel, or
    for one tunnel. Then the connection was on, and the tunnel goes to a server of the
    destination, which stays the same: the one that is chosen once the server that is left
    has its cooldown. If cooldowns last at all, its key is not that of the server that is
    left. If they do not, a server that the destination prefers is left for itself. -/
theorem silent_switch_goes_elsewhere (tuning : ControlTuning) (device : Device)
    (registry : Registry) (before : List Happening) (around : Surroundings) (i : Input)
    (hi : i = .silentSwitch ∨ i = .checkup) :
    let c := (initial tuning device registry).run before
    let c' := c.handle around i
    c'.asked = c.asked ∨ ∃ d old s config,
      c.phase = .on ∧ c.destination = some d ∧ c.server = some old ∧ 2 ≤ d.servers.length ∧
      c'.asked = c.asked ++ [config] ∧ config.serverKey = s.publicKey ∧ s ∈ d.servers ∧
      c'.destination = some d ∧ c'.server = some s ∧
      d.choose? (c.registry.setCooldown around.clock old.publicKey c.tuning.cooldown)
        around.clock around.dice = some s ∧
      (c.tuning.cooldown ≠ 0 → around.clock < Registry.endOfTime →
        config.serverKey ≠ old.publicKey) ∧
      (c.tuning.cooldown = 0 → d.exitServer? = some old →
        config.serverKey = old.publicKey) := by
  intro c c'
  have hleaves : c'.asked = c.asked ∨ ∃ d old s config, c.Leaves around d old s config c' := by
    rcases hi with rfl | rfl
    · exact silentSwitch_leaves c around
    · exact checkup_leaves c around
  rcases hleaves with hnone | ⟨d, old, s, config, h⟩
  · exact .inl hnone
  · have hkey : config.serverKey = s.publicKey := (tunnelTo_ok h.made).1
    refine .inr ⟨d, old, s, config, h.on, h.stored, h.left, h.many, h.asked, hkey, h.candidate,
      h.destination, h.server, h.chosen, fun hcool hnow => ?_, fun hcool hexit => ?_⟩
    · rw [hkey]
      exact h.elsewhere hcool hnow
    · rw [hkey, h.back hcool hexit]

/-- From the north of the city there is only the south to go to. -/
theorem silent_switch_goes_elsewhere_from_north :
    let c := (initial {} sampleDevice {}).run northTunnel
    let c' := c.handle { clock := 10 } .silentSwitch
    c.server = some northServer ∧ c'.server = some southServer ∧
      ∃ config, c'.asked = c.asked ++ [config] ∧ config.serverKey ≠ northServer.publicKey := by
  have hgoes := silent_switch_goes_elsewhere {} sampleDevice {} northTunnel { clock := 10 }
    .silentSwitch (.inl rfl)
  generalize hc : (initial {} sampleDevice {}).run northTunnel = c at hgoes ⊢
  intro c c'
  have hready : c.server = some northServer ∧ c'.server = some southServer ∧
      c.tuning.cooldown = 300 ∧ c'.asked.length = c.asked.length + 1 := by
    unfold c' c
    rw [← hc]
    decide +kernel
  obtain ⟨hnorth, hsouth, hcooldown, hmore⟩ := hready
  have hasked : c'.asked ≠ c.asked := by
    intro hsame
    rw [hsame] at hmore
    omega
  obtain ⟨d, old, s, config, -, -, hold, -, hone, -, -, -, -, -, helsewhere, -⟩ :=
    hgoes.resolve_left hasked
  obtain rfl : northServer = old := Option.some.inj (hnorth.symm.trans hold)
  have hlasts : c.tuning.cooldown ≠ 0 := by omega
  exact ⟨hnorth, hsouth, config, hone, helsewhere hlasts (by decide)⟩

/-- With cooldowns of no time, the connection leaves the north of the city for the north. -/
theorem silent_switch_comes_back :
    let c := (initial { cooldown := 0 } sampleDevice {}).run northTunnel
    let c' := c.handle { clock := 10 } .silentSwitch
    c.phase = .on ∧ c.destination = some twinCity ∧ c.server = some northServer ∧
      c'.phase = .silentSwitching ∧
      (c'.asked.drop c.asked.length).map (·.serverKey) = [northServer.publicKey] := by
  decide +kernel

end Controller

end TunnelSession
