/-
  TunnelSession.Proofs.Control.Comeback

  Where a connection goes when it comes back from a captive portal. The destination stays
  as it is, with its preference, whatever comes of the attempt. The attempt goes to the
  last server if the destination has it and it can be used. Otherwise the dice decide, and
  they do so even where the destination prefers a server that can be used: for this
  attempt its preference was replaced by that for the last server, so a plain choice would
  have led elsewhere.
-/
import TunnelSession.Proofs.Control.Portal
import TunnelSession.Proofs.Quality.Choice

namespace TunnelSession

open Controller (Input Happening)

namespace Controller

variable {c m : Controller} {around : Surroundings} {i : Input} {d : Destination} {s t : Server}

/-! ## What brings a connection back -/

/-- The connection is down for a portal, and the input brings it back: the portal is gone
    and the tunnel is down already, or the tunnel goes down and the portal is gone
    already. -/
def ComesBackOn (c : Controller) (i : Input) : Prop :=
  c.phase = .captivePortal ∧
    (i = .portal false ∧ c.awaited ≠ .disconnection ∨
      c.awaited = .disconnection ∧ c.endsDisconnect i = true ∧ c.portalSeen = false ∧
        c.nextStep ≠ .quit)

/-- The server that a connection comes back to. -/
def next? (c : Controller) (around : Surroundings) (d : Destination) : Option Server :=
  match c.server with
  | some s => (d.withExit s.publicKey).choose? c.registry around.clock around.dice
  | none => d.choose? c.registry around.clock around.dice

/-- The tunnel to a server, if it can be made and the link takes the request for it. -/
def tunnelVia? (c : Controller) (around : Surroundings) (s : Server) : Option TunnelConfig :=
  (c.tunnelTo s).toOption.filter fun config => (around.accepts (.activate config)).isOk

theorem comeback?_eq_bind (hd : c.destination = some d) :
    c.comeback? around = (c.next? around d).bind (c.tunnelVia? around) := by
  rw [comeback?, hd, Option.bind_some, next?]
  cases c.server <;> rfl

theorem serverKey_of_tunnelVia? {config : TunnelConfig}
    (h : c.tunnelVia? around s = some config) : config.serverKey = s.publicKey := by
  obtain ⟨hmade, -⟩ := Option.filter_eq_some_iff.mp h
  cases hconfig : c.tunnelTo s with
  | error e => rw [hconfig] at hmade; cases hmade
  | ok made =>
      rw [hconfig] at hmade
      cases hmade
      exact (tunnelTo_ok hconfig).1

/-! ## The server -/

/-- The last server, if the destination has it and it can be used. -/
theorem next?_of_usable (hs : c.server = some s) (ht : d.server? s.publicKey = some t)
    (husable : c.registry.isCooling around.clock t.publicKey = false) :
    c.next? around d = some t := by
  rw [next?, hs]
  dsimp only
  rw [Destination.choose?_withExit, ht, Option.filter_some, husable]
  rfl

/-- If there was one but it cannot be used, the dice decide. -/
theorem next?_of_unusable (hs : c.server = some s)
    (hunusable : ∀ t, d.server? s.publicKey = some t →
      c.registry.isCooling around.clock t.publicKey = true) :
    c.next? around d = draw? (d.available c.registry around.clock) around.dice := by
  have hnone : ((d.server? s.publicKey).filter fun t =>
      !c.registry.isCooling around.clock t.publicKey) = none := by
    cases ht : d.server? s.publicKey with
    | none => rfl
    | some t => rw [Option.filter_some, hunusable t ht]; rfl
  rw [next?, hs]
  dsimp only
  rw [Destination.choose?_withExit, hnone]
  rfl

/-! ## The way back -/

/-- An attempt leaves the destination it had, or takes over the one it is made for. -/
theorem destination_startActivation (c : Controller) (around : Surroundings) (d : Destination)
    (during : Phase) :
    (c.startActivation around d during).2.destination = c.destination ∨
      (c.startActivation around d during).2.destination = some d := by
  have hoff (c : Controller) : (c.finishOff around).destination = c.destination :=
    congrArg Bearing.destination (bearing_finishOff c around)
  have hentered (c : Controller) (delay : Nat) :
      ((c.enter during).arm .handshake delay).destination = c.destination :=
    congrArg Bearing.destination
      ((bearing_arm (c.enter during) .handshake delay).trans (bearing_enter c during))
  unfold startActivation
  split
  · -- no server can be used, and yet the destination is taken over
    exact .inr (hoff { c with destination := some d })
  · split
    · -- no tunnel can be made to the server
      exact .inl (hoff c)
    · dsimp only
      split
      · -- the link does not take the request
        exact .inl (hoff c.cancelTimers)
      · exact .inr (hentered _ _)

/-- A preference that holds only for this once is taken back, however the attempt went. -/
theorem destination_restoreExit {pinned : Destination} (hd : c.destination = some d)
    (hrestored : { pinned with exit := d.exit } = d) :
    ((c.startActivation around pinned .connecting).2.restoreExit d.exit).destination = some d := by
  rw [restoreExit]
  rcases destination_startActivation c around pinned .connecting with hkept | htaken
  · rw [hkept, hd]
    rfl
  · rw [htaken, Option.map_some, hrestored]

theorem destination_reconnect (c : Controller) (around : Surroundings) :
    (c.reconnect around).destination = c.destination := by
  unfold reconnect
  split
  · exact congrArg Bearing.destination (bearing_finishOff c around)
  · next d hd =>
    rw [hd]
    cases c.server with
    | none => exact destination_restoreExit hd rfl
    | some s => exact destination_restoreExit hd rfl

/-- What brings a connection back lets it reconnect with the means it has, to where it
    was. -/
theorem handle_of_comesBack (around : Surroundings) (hi : c.ComesBackOn i)
    (hn : c.awaited = .disconnection → c.nextStep = .nothing) :
    ∃ m : Controller, c.handle around i = m.reconnect around ∧ m.destination = c.destination ∧
      m.sent = c.sent ∧ m.comeback? around = c.comeback? around := by
  obtain ⟨hp, ⟨rfl, ha⟩ | ⟨ha, hends, hgone, -⟩⟩ := hi
  · exact ⟨{ c with portalSeen := false }, if_pos ⟨hp, ha⟩, rfl, rfl, rfl⟩
  · -- if the link is lost with the tunnel, what was on the link is let go first
    have hcomplete := handle_of_endsWait around ha (.inr hp) hends
    have houtlook : (c.takenIn i).outlook = c.outlook := takenIn_keeps (outlook_cutOff c) i
    have hbearing : (c.takenIn i).bearing = c.bearing := takenIn_keeps (bearing_cutOff c) i
    have hsent : (c.takenIn i).sent = c.sent :=
      takenIn_keeps (congrArg Stance.sent (stance_cutOff (c := c)) :) i
    have hcomeback : (c.takenIn i).comeback? around = c.comeback? around :=
      takenIn_keeps (f := fun d => d.comeback? around) comeback?_cutOff i
    generalize c.takenIn i = m at hcomplete houtlook hbearing hsent hcomeback
    have hdown := completeDisconnect_of_portal (c := m) around
      ((congrArg Outlook.phase houtlook).trans hp)
      ((congrArg Outlook.nextStep houtlook).trans (hn ha))
    have hseen : m.portalSeen = false := (congrArg Outlook.portalSeen houtlook).trans hgone
    rw [if_neg (by simp [hseen])] at hdown
    have hstill := bearing_stopHealth ({ m.cancelTimers with awaited := .nothing } : Controller)
      around
    exact ⟨m.stoodDown around, hcomplete.trans hdown,
      (congrArg Bearing.destination hstill).trans (congrArg Bearing.destination hbearing),
      (congrArg Stance.sent stance_stoodDown).trans hsent, comeback?_stoodDown.trans hcomeback⟩

/-! ## On every run -/

/-- On every run, where a connection comes back from a portal, its destination is the same
    afterwards, its preference for a server included, and a tunnel to the next server is
    asked for; if there is none, or no tunnel can be made to it, or the link does not take
    the request, nothing is asked for and the connection is off. The next server is the
    last one if the destination has it and it can be used. Otherwise it is drawn from the
    servers that can be used, whichever the destination prefers; if it prefers none that
    can be used, or there was no last server, it is the one that the destination
    chooses. -/
theorem comeback_keeps_destination (tuning : ControlTuning) (device : Device)
    (registry : Registry) (before : List Happening) (around : Surroundings) (i : Input)
    (d : Destination) :
    let c := (initial tuning device registry).run before
    let c' := c.handle around i
    let next := c.next? around d
    let config := next.bind (c.tunnelVia? around)
    c.ComesBackOn i → c.destination = some d →
      c'.destination = some d ∧
      c'.phase = (if config.isSome then .connecting else .off) ∧
      c'.sent = c.sent ++ config.toList.map .activate ∧
      (∀ asked ∈ config, ∃ s, next = some s ∧ asked.serverKey = s.publicKey) ∧
      (∀ s t, c.server = some s → d.server? s.publicKey = some t →
        c.registry.isCooling around.clock t.publicKey = false →
          next = some t ∧ t.publicKey = s.publicKey) ∧
      (∀ s, c.server = some s →
        (∀ t, d.server? s.publicKey = some t →
          c.registry.isCooling around.clock t.publicKey = true) →
            next = draw? (d.available c.registry around.clock) around.dice ∧
            (d.usableExit? c.registry around.clock = none →
              next = d.choose? c.registry around.clock around.dice)) ∧
      (c.server = none → next = d.choose? c.registry around.clock around.dice) := by
  intro c c' next config hi hd
  have hn : c.awaited = .disconnection → c.nextStep = .nothing := by
    intro ha
    -- a wait at a portal began while the tunnel was up, with nothing planned for its end
    obtain ⟨pre, around₀, since, hbefore, hsince⟩ :=
      run_waits (initial_matched tuning device registry) nofun before ⟨hi.1, ha⟩
    have hplanned : c.nextStep = .nothing ∨ c.nextStep = .quit := by
      rw [show c = _ from congrArg (initial tuning device registry).run hbefore]
      exact hsince.planned
    obtain ⟨-, ⟨-, hdown⟩ | ⟨-, -, -, hquit⟩⟩ := hi
    · exact absurd ha hdown
    · exact hplanned.resolve_right hquit
  obtain ⟨m, hhandle, hdestination, hsent, hcomeback⟩ := handle_of_comesBack around hi hn
  have hconfig : m.comeback? around = config := hcomeback.trans (comeback?_eq_bind hd)
  obtain ⟨hphase, hasked⟩ := reconnect_comes_back m around
  rw [hconfig, ← hhandle] at hphase hasked
  refine ⟨?_, hphase, hsent ▸ hasked, ?_, ?_, ?_, ?_⟩
  · rw [show c' = _ from hhandle, destination_reconnect, hdestination, hd]
  · intro asked hmem
    obtain ⟨s, hs, hvia⟩ := Option.bind_eq_some_iff.mp hmem
    exact ⟨s, hs, serverKey_of_tunnelVia? hvia⟩
  · intro s t hs ht husable
    exact ⟨next?_of_usable hs ht husable, Destination.publicKey_of_server? ht⟩
  · intro s hs hunusable
    have hdrawn : next = draw? (d.available c.registry around.clock) around.dice :=
      next?_of_unusable hs hunusable
    exact ⟨hdrawn, fun hexit => hdrawn.trans (Destination.choose?_of_unusable hexit).symm⟩
  · intro hs
    show c.next? around d = _
    rw [next?, hs]

/-- The tunnel is down, and then the portal goes: the connection comes back to the north. -/
theorem comeback_keeps_destination_north :
    let c := (initial {} sampleDevice southCooling).run
      (northPortal ++ [.input {} (.link (.message .disconnected))])
    let c' := c.handle {} (.portal false)
    (c.ComesBackOn (.portal false) ∧ c.destination = some twinCity) ∧
      c'.destination = some twinCity ∧ c.next? {} twinCity = some northServer ∧
      c'.phase = .connecting := by
  intro c c'
  have hready : (c.phase = .captivePortal ∧ c.awaited ≠ .disconnection) ∧
      c.destination = some twinCity ∧ c.server = some northServer ∧
      c.registry.isCooling 0 northServer.publicKey = false ∧
      (((c.next? {} twinCity).bind (c.tunnelVia? {})).isSome = true) := by
    decide +kernel
  obtain ⟨⟨hp, ha⟩, hd, hserver, husable, hmade⟩ := hready
  have hi : c.ComesBackOn (.portal false) := ⟨hp, .inl ⟨rfl, ha⟩⟩
  obtain ⟨hkept, hphase, -, -, hlast, -⟩ :=
    comeback_keeps_destination {} sampleDevice southCooling _ {} _ twinCity hi hd
  refine ⟨⟨hi, hd⟩, hkept, (hlast northServer northServer hserver rfl husable).1, ?_⟩
  rw [show c'.phase = _ from hphase, if_pos hmade]

/-- A server that is not drawn as long as there are others. -/
def spareServer : Server := { southServer with hostname := "spare", weight := 0 }

/-- A city that prefers it. -/
def spareCity : Destination :=
  ⟨"fr", "Paris", [westServer, spareServer], some spareServer.publicKey⟩

/-- While the portal is there, this city is selected. The server that it prefers can be used,
    so that it is the only one that the city chooses; and yet a tunnel to the other one is
    asked for when the portal is gone. -/
theorem comeback_passes_over_preferred :
    let c := (initial {} sampleDevice {}).run (northPortal ++
      [.input {} (.link (.message .disconnected)), .input {} (.changeServer spareCity false)])
    let c' := c.handle {} (.portal false)
    (c.phase = .captivePortal ∧ c.awaited ≠ .disconnection ∧ c.destination = some spareCity) ∧
      (∀ s ∈ c.server, spareCity.server? s.publicKey = none) ∧
      (∀ dice, spareCity.choose? c.registry 0 dice = some spareServer) ∧
      c'.destination = some spareCity ∧
      (c'.asked.drop c.asked.length).map (·.serverKey) = [westServer.publicKey] := by
  intro c c'
  have hfinal : (c.phase = .captivePortal ∧ c.awaited ≠ .disconnection ∧
        c.destination = some spareCity) ∧
      (∀ s ∈ c.server, spareCity.server? s.publicKey = none) ∧
      spareCity.usableExit? c.registry 0 = some spareServer ∧
      c'.destination = some spareCity ∧
      (c'.asked.drop c.asked.length).map (·.serverKey) = [westServer.publicKey] := by
    decide +kernel
  obtain ⟨hready, hgone, husable, hkept, hasked⟩ := hfinal
  refine ⟨hready, hgone, fun dice => ?_, hkept, hasked⟩
  rw [Destination.choose?, husable]

end Controller

end TunnelSession
