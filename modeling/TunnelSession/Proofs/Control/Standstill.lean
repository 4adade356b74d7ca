/-
  TunnelSession.Proofs.Control.Standstill

  While the end of a tunnel is waited for, the daemon gets no order. The order to take
  the tunnel down is the last one of its input, and from then on nothing but the end of
  the wait is followed by another.

  Whatever is asked for in between is put off: a tunnel to bring up is held, and a
  change of the server is written down for later. But behind a portal a request to
  bring a tunnel up is refused, and nothing is written down: one is only taken in
  phases from which the attempt can start, or in which it can be held.
-/
import TunnelSession.Proofs.Control.Portal
import TunnelSession.Proofs.Control.Quitting

namespace TunnelSession

open Controller (Input)

/-! ## The order to take a tunnel down -/

/-- A move gives the order to take the tunnel down and begins to wait for that, or it
    does not give it. -/
theorem Move.deactivates {i : Input} {s s' : Stance} (h : Move i s s') :
    (∃ more, s'.sent = s.sent ++ more ∧ .deactivate ∉ more) ∨
      i.endsWait = false ∧ s'.awaited = .disconnection ∧ s'.sent = s.sent ++ [.deactivate] := by
  cases h with
  | ask r hr =>
      refine .inl ⟨[r], rfl, fun hmem => ?_⟩
      rw [← List.mem_singleton.mp hmem] at hr
      cases hr
  | mark | plan | divert | learn | adopt | rest | confirm =>
      exact .inl ⟨[], (List.append_nil _).symm, nofun⟩
  | launch p g server config => exact .inl ⟨[.activate config], rfl, by simp⟩
  | shake => exact .inl ⟨[.status], rfl, by simp⟩
  | takeDown p g next hp hactive hstep hi => exact .inr ⟨hi, rfl, rfl⟩

/-- `Halts s₀ s`: since `s₀` the tunnel was ordered down, once, and no other order was
    given after that. -/
def Stance.Halts (s₀ s : Stance) : Prop :=
  ∃ (s₁ : Stance) (earlier : List Request),
    s₁.sent = s₀.sent ++ (earlier ++ [.deactivate]) ∧ .deactivate ∉ earlier ∧
    s₁.Abides s

/-- What is done with one input gives the order at most once, and if it does, it waits
    with the timers that were armed then. -/
theorem Moves.deactivates {i : Input} {s₀ s : Stance} (h : Moves i s₀ s) (hm : s₀.Matched) :
    (∃ more, s.sent = s₀.sent ++ more ∧ .deactivate ∉ more) ∨
      i.endsWait = false ∧ s₀.Halts s := by
  induction h with
  | refl => exact .inl ⟨[], (List.append_nil _).symm, nofun⟩
  | @tail s s' hmoves hmove ih =>
      have hm' : s'.Matched := Moves.matched (hmoves.tail hmove) hm
      rcases ih with ⟨more, hsent, hnone⟩ | ⟨hi, s₁, earlier, hsent, hnone, habides⟩
      · rcases hmove.deactivates with ⟨more', hsent', hnone'⟩ | ⟨hi, ha, hsent'⟩
        · refine .inl ⟨more ++ more', ?_, ?_⟩
          · rw [hsent', hsent, List.append_assoc]
          · exact fun hmem => (List.mem_append.mp hmem).elim hnone hnone'
        · -- the order is given here, and the wait begins
          refine .inr ⟨hi, s', more, ?_, hnone, .refl hm' ha⟩
          rw [hsent', hsent, List.append_assoc]
      · exact .inr ⟨hi, s₁, earlier, hsent, hnone, hmove.abides hi habides⟩

/-- The order and what came before and after it with the same input. -/
theorem Stance.Halts.split {s₀ s : Stance} (h : s₀.Halts s) {new : List Request}
    (hnew : s.sent = s₀.sent ++ new) :
    ∃ earlier later, new = earlier ++ .deactivate :: later ∧ .deactivate ∉ earlier ∧
      ∀ r ∈ later, r.isOrder = false := by
  obtain ⟨s₁, earlier, hsent, hnone, habides⟩ := h
  obtain ⟨later, hlater, hquiet⟩ := habides.sent
  have hsame : s₀.sent ++ new = s₀.sent ++ (earlier ++ .deactivate :: later) :=
    calc s₀.sent ++ new = s₁.sent ++ later := hnew ▸ hlater
      _ = s₀.sent ++ (earlier ++ .deactivate :: later) := by
        rw [hsent, List.append_assoc, List.append_assoc]
        rfl
  exact ⟨earlier, later, List.append_cancel_left hsame, hnone, hquiet⟩

namespace Controller

variable {c : Controller} {i : Input}

/-! ## What is asked for in between -/

theorem phase_of_waiting (hm : c.stance.Matched) (ha : c.awaited = .disconnection) :
    c.phase = .disconnecting ∨ c.phase = .captivePortal :=
  hm.phase_of_disconnection ha

/-- A tunnel that is asked for is held, or behind a portal refused. -/
theorem activate_of_waiting (hm : c.stance.Matched) (ha : c.awaited = .disconnection)
    (around : Surroundings) (d : Destination) :
    c.activate around d =
      if c.phase = .disconnecting then (.ok (), { c with held := some d })
      else (.error (.wrongPhase .captivePortal), c) := by
  unfold activate
  rcases phase_of_waiting hm ha with hp | hp
  · rw [hp]
    rfl
  · rw [hp]
    rfl

/-- A change of the server is written down. It changes what is held, if something is. -/
theorem changeServer_of_waiting (hm : c.stance.Matched) (ha : c.awaited = .disconnection)
    (around : Surroundings) (d : Destination) (silent : Bool) :
    c.changeServer around d silent =
      (.ok (), if c.phase = .disconnecting ∧ c.held.isSome then { c with held := some d }
        else { c with destination := some d }) := by
  unfold changeServer
  rcases phase_of_waiting hm ha with hp | hp
  · rw [hp]
    cases c.held <;> rfl
  · rw [hp]
    rfl

theorem silentSwitch_of_waiting (hm : c.stance.Matched) (ha : c.awaited = .disconnection)
    (around : Surroundings) : c.silentSwitch around = (false, c) := by
  unfold silentSwitch
  rcases phase_of_waiting hm ha with hp | hp <;> rw [hp]

/-! ## On every run -/

/-- While no input ends the wait, it goes on, and no order is given. -/
theorem run_abides (hm : c.stance.Matched) (ha : c.awaited = .disconnection)
    {later : List Happening}
    (hlater : ∀ around i, .input around i ∈ later → c.endsDisconnect i = false) :
    c.stance.Abides (c.run later).stance := by
  refine run_keeps_of_mem (P := fun d => c.stance.Abides d.stance) ?_ (.refl hm ha)
  intro d x hx hd
  cases x with
  | measured registry => exact hd
  | input around i =>
      exact handle_abides around hd
        ((endsDisconnect_congr hd.generation i).trans (hlater around i hx))

/-- What can end the wait does end it. -/
theorem awaited_of_endsDisconnect (around : Surroundings) (hm : c.stance.Matched)
    (ha : c.awaited = .disconnection) (he : c.endsDisconnect i = true) :
    (c.handle around i).awaited ≠ .disconnection := by
  rw [handle_of_endsWait around ha (hm.phase_of_disconnection ha) he]
  apply awaited_completeDisconnect
  have hphase : (c.takenIn i).phase = c.phase := takenIn_keeps phase_cutOff i
  rw [hphase]
  exact hm.phase_ne_initializing (by rw [stance_awaited, ha]; nofun)

/-- No order is given while the end of a tunnel is waited for. On every run, an input with
    which the tunnel is ordered down gives this order once and none after it. From then
    on, as long as none of the inputs comes that end the wait (the news that the tunnel
    is down, the loss of the link, or the timer that was armed for the wait), no order
    is given. A request to bring a tunnel up is held, or refused behind a portal, and
    then it changes nothing; a change of the server is written down; a silent switch is
    refused. Each of the inputs that end the wait does so. -/
theorem orders_wait_for_the_end (tuning : ControlTuning) (device : Device)
    (registry : Registry) (before : List Happening) (around : Surroundings) (i : Input)
    (new : List Request) :
    let c := (initial tuning device registry).run before
    let asked := c.handle around i
    asked.sent = c.sent ++ new → .deactivate ∈ new →
      (∃ earlier later, new = earlier ++ .deactivate :: later ∧ .deactivate ∉ earlier ∧
        ∀ r ∈ later, r.isOrder = false) ∧
      ∀ meanwhile : List Happening,
        (∀ around j, .input around j ∈ meanwhile → asked.endsDisconnect j = false) →
          let waiting := asked.run meanwhile
          (∃ more, waiting.sent = asked.sent ++ more ∧ ∀ r ∈ more, r.isOrder = false) ∧
          (waiting.awaited = .disconnection ∧
            waiting.armed.filter (fun t => t.generation = waiting.generation) =
              [⟨.disconnect, asked.generation⟩]) ∧
          (∀ around d, waiting.activate around d =
            if waiting.phase = .disconnecting then (.ok (), { waiting with held := some d })
            else (.error (.wrongPhase .captivePortal), waiting)) ∧
          (∀ around d silent, waiting.changeServer around d silent =
            (.ok (), if waiting.phase = .disconnecting ∧ waiting.held.isSome
              then { waiting with held := some d }
              else { waiting with destination := some d })) ∧
          (∀ around, waiting.silentSwitch around = (false, waiting)) ∧
          ∀ around j, asked.endsDisconnect j = true →
            (waiting.handle around j).awaited ≠ .disconnection := by
  intro c asked hnew hmem
  have hm : c.stance.Matched := run_matched (initial_matched tuning device registry) before
  have ht : c.stance.Timed := run_timed (initial_matched tuning device registry)
    (initial_timed tuning device registry) before
  have hmoves : Moves i c.stance asked.stance := handle_moves around hm i
  obtain ⟨more, hsent, hnone⟩ | ⟨-, hhalts⟩ := hmoves.deactivates hm
  · -- then it was not given at all
    exact absurd (List.append_cancel_left (hnew.symm.trans hsent) ▸ hmem) hnone
  · have hasked : asked.stance.Matched := hmoves.matched hm
    have ha : asked.awaited = .disconnection := by
      obtain ⟨s₁, -, -, -, habides⟩ := hhalts
      exact habides.awaited
    refine ⟨hhalts.split hnew, fun meanwhile hmeanwhile => ?_⟩
    have habides := run_abides hasked ha hmeanwhile
    intro waiting
    have hw : waiting.stance.Matched := habides.matched
    have hwa : waiting.awaited = .disconnection := habides.awaited
    refine ⟨habides.sent, ⟨hwa, ?_⟩, ?_, ?_, ?_, ?_⟩
    · have harmed : waiting.armed = asked.armed := habides.armed
      have hgeneration : waiting.generation = asked.generation := habides.generation
      have hlive := (hmoves.timed ht).live
      rw [stance_awaited, ha] at hlive
      rw [harmed, hgeneration]
      exact hlive
    · exact activate_of_waiting hw hwa
    · exact changeServer_of_waiting hw hwa
    · exact silentSwitch_of_waiting hw hwa
    · intro around j hj
      exact awaited_of_endsDisconnect around hw hwa
        ((endsDisconnect_congr habides.generation j).trans hj)

/-- The user takes the tunnel down, asks for another city, changes the mind about it, and
    a portal is reported, while the daemon is late. -/
theorem orders_wait_for_the_end_of_north :
    let c := (initial {} sampleDevice southCooling).run northTunnel
    let asked := c.handle {} .deactivate
    let meanwhile : List Happening := [.input {} (.activate westCity),
      .input {} (.changeServer twinCity false), .input {} .silentSwitch, .input {} (.portal true),
      .input {} .deactivate, .input {} (.timer ⟨.handshake, 1⟩),
      .input {} (.link (.message (.connected northServer.publicKey)))]
    let waiting := asked.run meanwhile
    (asked.sent = c.sent ++ [.deactivate] ∧
        ∀ around j, .input around j ∈ meanwhile → asked.endsDisconnect j = false) ∧
      (∃ more, waiting.sent = asked.sent ++ more ∧ ∀ r ∈ more, r.isOrder = false) ∧
      (waiting.activate {} westCity).2.held = some westCity ∧
      (waiting.handle {} (.timer ⟨.disconnect, asked.generation⟩)).awaited ≠ .disconnection := by
  intro c asked meanwhile waiting
  have hsent : asked.sent = c.sent ++ [.deactivate] := by decide +kernel
  have hmeanwhile : ∀ around j, .input around j ∈ meanwhile → asked.endsDisconnect j = false := by
    intro around j hmem
    simp only [meanwhile, List.mem_cons, List.not_mem_nil, or_false, Happening.input.injEq] at hmem
    rcases hmem with h | h | h | h | h | h | h <;> rw [h.2] <;> rfl
  obtain ⟨-, hwait⟩ := orders_wait_for_the_end {} sampleDevice southCooling northTunnel {}
    .deactivate [.deactivate] hsent (List.mem_singleton_self _)
  obtain ⟨hquiet, -, hactivate, -, -, hend⟩ := hwait meanwhile hmeanwhile
  have hlive : asked.endsDisconnect (.timer ⟨.disconnect, asked.generation⟩) = true := by
    simp [endsDisconnect]
  refine ⟨⟨hsent, hmeanwhile⟩, hquiet, ?_, hend {} _ hlive⟩
  have hp : waiting.phase = .disconnecting := by decide +kernel
  rw [hactivate, if_pos hp]

/-- Behind a portal, while the end of the tunnel is waited for, a request to bring a tunnel
    up is refused, and nothing is written down. A silent switch is refused as well. -/
theorem portal_refuses_activation :
    let c := (initial {} sampleDevice southCooling).run northTunnel
    let asked := c.handle {} (.portal true)
    (asked.sent = c.sent ++ [.deactivate] ∧ asked.awaited = .disconnection) ∧
      (asked.activate {} westCity).1 = .error (.wrongPhase .captivePortal) ∧
      (asked.activate {} westCity).2.held = none ∧
      (asked.activate {} westCity).2.destination = some twinCity ∧
      (asked.silentSwitch {}).1 = false ∧ (asked.silentSwitch {}).2.held = none := by
  decide +kernel

end Controller

end TunnelSession
