/-
  TunnelSession.Proofs.Control.Stranded

  When a destination is held. It is put aside for something to come, the first
  status or the end of a tunnel, and when that has come it is activated or let go
  of. Two inputs leave it behind instead, in a phase in which nothing waits for it;
  from there the end of some later tunnel activates it.
-/
import TunnelSession.Proofs.Control.Inheritance

namespace TunnelSession

open Controller (Input)

/-- Before the first status, no move is made without the link. -/
theorem Move.idles {i : Input} {s s' : Stance} (h : Move i s s') (hi : i.isLink = false)
    (hs : s.phase = .initializing ∧ s.awaited = .nothing) :
    s'.phase = .initializing ∧ s'.awaited = .nothing := by
  obtain ⟨hp, ha⟩ := hs
  cases h with
  | ask | mark => exact ⟨hp, ha⟩
  | plan next hd | divert hd => exact absurd (ha.symm.trans hd) nofun
  | learn hlink => exact absurd (hlink.symm.trans hi) nofun
  | adopt r hlink => rw [hlink] at hi; cases hi
  | rest p new g hrest hnew hg hw hfailure => rw [hfailure hp] at hi; cases hi
  | launch p g server config hlaunch hstep =>
      rw [hp] at hstep
      rcases hlaunch with rfl | rfl | rfl <;> exact absurd (hstep nofun) nofun
  | shake key g hlink | confirm r key g hlink => rw [hlink] at hi; cases hi
  | takeDown p g next hdown hactive => rw [hp] at hactive; cases hactive

theorem Moves.idles {i : Input} {s s' : Stance} (h : Moves i s s') (hi : i.isLink = false)
    (hs : s.phase = .initializing ∧ s.awaited = .nothing) :
    s'.phase = .initializing ∧ s'.awaited = .nothing :=
  h.keeps (P := fun t => t.phase = .initializing ∧ t.awaited = .nothing)
    (fun _ _ hmove ht => hmove.idles hi ht) hs

namespace Controller

variable {c : Controller} {around : Surroundings} {i : Input}

/-! ## Held in time, and left behind -/

/-- A connection that holds a destination only before the first status, or while it
    waits for the end of a tunnel. -/
def HoldsInTime (c : Controller) : Prop :=
  c.held.isSome = true → c.phase = .initializing ∨ c.phase = .disconnecting

/-- An input that leaves the held destination behind: the daemon's machinery fails
    before the first status, or a tunnel is down that was taken down because no
    server of the city could be used. -/
def Strands (c : Controller) (i : Input) : Prop :=
  c.held.isSome = true ∧
    (c.phase = .initializing ∧ i = .link (.message .backendFailure) ∨
      c.phase = .disconnecting ∧ c.nextStep = .serverUnavailable ∧ c.endsDisconnect i = true)

theorem holdsInTime_of_none (h : c.held = none) : c.HoldsInTime :=
  fun hsome => by rw [h] at hsome; cases hsome

/-- Where nothing is held that was not before, it is in time if the phase is. -/
theorem HoldsInTime.of_held {c' : Controller} (h : c'.held = none ∨ c'.held = c.held)
    (hp : c.held.isSome = true → c'.phase = .initializing ∨ c'.phase = .disconnecting) :
    c'.HoldsInTime := by
  rcases h with hnone | hsame
  · exact holdsInTime_of_none hnone
  · exact fun hsome => hp (hsame ▸ hsome)

/-! ## Before the first status -/

theorem held_onLost_of_initializing (hp : c.phase = .initializing) :
    (c.onLost around).held = none := by
  have hphase : c.cutOff.phase = .initializing := phase_cutOff.trans hp
  unfold onLost
  rw [← cutOff]
  dsimp only
  rw [hphase]
  dsimp only
  split
  · rfl
  · next hnone => exact Option.not_isSome_iff_eq_none.mp hnone

/-- What comes over the link ends the wait for the first status by letting go of the
    held destination or activating it, unless the machinery fails. -/
theorem onLink_of_initializing (around : Surroundings) (hm : c.stance.Matched)
    (hp : c.phase = .initializing) {e : LinkEvent} (he : e ≠ .message .backendFailure) :
    (c.onLink around e).held = none ∨ (c.onLink around e).phase = .initializing := by
  have ha : c.awaited = .nothing := hm.awaited_of_initializing hp
  cases e with
  | ready => exact .inr (phase_onReady.trans hp)
  | lost => exact .inl (held_onLost_of_initializing hp)
  | message r =>
      cases r with
      | connected key =>
          refine .inr ?_
          change (c.onConnected around key).phase = _
          rw [onConnected, if_neg (by simp [ha])]
          exact hp
      | disconnected =>
          refine .inr ?_
          change (c.onDisconnected around).phase = _
          rw [onDisconnected, ha, hp]
          exact hp
      | status s =>
          change (c.onStatus around s).held = none ∨ (c.onStatus around s).phase = _
          unfold onStatus
          split
          · have hmark : Inherits True ({ c with awaitingFirstStatus := false } : Controller)
                { c with awaitingFirstStatus := false } := .refl _
            exact .inl (hmark.onFirstStatus (fun _ => trivial) s).2
          · rw [ha]
            exact .inr hp
      | logs text => exact .inr ((phase_onLogs text).trans hp)
      | backendFailure => exact absurd rfl he

/-- The failure leaves what is held where nothing waits for it. -/
theorem onBackendFailure_of_initializing (around : Surroundings) (hm : c.stance.Matched)
    (hp : c.phase = .initializing) :
    (c.onBackendFailure around).held = c.held ∧ (c.onBackendFailure around).phase = .off := by
  have ha : c.awaited = .nothing := hm.awaited_of_initializing hp
  unfold onBackendFailure
  rw [if_neg (by simp [ha])]
  refine ⟨?_, phase_finishOff c around⟩
  change (c.finishOff around).held = c.held
  unfold finishOff
  rw [held_enter]
  exact held_stopHealth { c.cancelTimers with awaited := .nothing } around

/-! ## One input -/

theorem handle_holdsInTime_of_initializing (hm : c.stance.Matched) (hp : c.phase = .initializing)
    (hi : c.putsAside i = false) (hq : i ≠ .quit) (hs : ¬ c.Strands i) :
    (c.handle around i).HoldsInTime := by
  have hheld := (handle_inherits around hi hq).held
  cases hlink : i.isLink with
  | false =>
      have hidle := (handle_moves around hm i).idles hlink ⟨hp, hm.awaited_of_initializing hp⟩
      exact .of_held hheld fun _ => .inl hidle.1
  | true =>
      cases i with
      | link e =>
          by_cases he : e = .message .backendFailure
          · -- it leaves nothing behind, so nothing was held
            have hnone : c.held = none := by
              by_contra hsome
              exact hs ⟨Option.isSome_iff_ne_none.mpr hsome, .inl ⟨hp, congrArg _ he⟩⟩
            exact .of_held hheld fun hsome => by rw [hnone] at hsome; cases hsome
          · rcases onLink_of_initializing around hm hp he with hnone | hphase
            · exact holdsInTime_of_none hnone
            · exact fun _ => .inl hphase
      | _ => cases hlink

theorem handle_holdsInTime_of_disconnecting (hm : c.stance.Matched)
    (hp : c.phase = .disconnecting) (hi : c.putsAside i = false) (hq : i ≠ .quit)
    (hn : c.nextStep ≠ .quit) (hs : ¬ c.Strands i) : (c.handle around i).HoldsInTime := by
  rcases (handle_inherits around hi hq).held with hnone | hsame
  · exact holdsInTime_of_none hnone
  cases he : c.endsDisconnect i with
  | false => exact fun _ => .inr ((phase_handle_of_disconnecting hm hp).mpr he)
  | true =>
      cases hd : c.held with
      | none => exact holdsInTime_of_none (hsame.trans hd)
      | some d =>
          have hplan : c.nextStep ≠ .serverUnavailable := fun h =>
            hs ⟨by rw [hd]; rfl, .inr ⟨hp, h, he⟩⟩
          obtain ⟨hoff, hnone, hnext⟩ := handle_of_endsDisconnect around hm hp he hd hn
          rw [if_neg hplan] at hnext
          -- what is activated is no longer held
          rw [hnext]
          exact holdsInTime_of_none
            (((Inherits.refl _).activate_of_off trivial hoff d).held_none hnone)

/-- An input leaves the held destination behind in these two cases and no others. -/
theorem handle_holdsInTime_iff (hm : c.stance.Matched) (hc : c.HoldsInTime) (hq : i ≠ .quit)
    (hn : c.nextStep ≠ .quit) : (c.handle around i).HoldsInTime ↔ ¬ c.Strands i := by
  constructor
  · -- in both cases the destination is still held once the phase is off
    rintro hin ⟨hsome, ⟨hp, rfl⟩ | ⟨hp, hplan, he⟩⟩
    · obtain ⟨hheld, hoff⟩ := onBackendFailure_of_initializing around hm hp
      have hphase := hin (show (c.onBackendFailure around).held.isSome = true by rwa [hheld])
      rw [show (c.handle around (.link (.message .backendFailure))).phase = .off from hoff] at hphase
      exact hphase.elim nofun nofun
    · obtain ⟨d, hd⟩ := Option.isSome_iff_exists.mp hsome
      obtain ⟨hoff, -, hnext⟩ := handle_of_endsDisconnect around hm hp he hd hn
      rw [if_pos hplan] at hnext
      rw [hnext] at hin
      have hphase := hin rfl
      rw [phase_hold, hoff] at hphase
      exact hphase.elim nofun nofun
  · intro hs
    cases hi : c.putsAside i with
    | true =>
        obtain ⟨d, hd⟩ := handle_of_putsAside around hi
        rw [hd]
        exact fun _ => phase_of_putsAside (c := c) hi
    | false =>
        by_cases hsome : c.held.isSome = true
        · rcases hc hsome with hp | hp
          · exact handle_holdsInTime_of_initializing hm hp hi hq hs
          · exact handle_holdsInTime_of_disconnecting hm hp hi hq hn hs
        · exact .of_held (handle_inherits around hi hq).held fun h => absurd h hsome

/-! ## On every run -/

theorem run_nextStep_ne_quit (hn : c.nextStep ≠ .quit) {happenings : List Happening}
    (hq : ∀ around, .input around .quit ∉ happenings) :
    (c.run happenings).nextStep ≠ .quit := by
  induction happenings generalizing c with
  | nil => exact hn
  | cons x happenings ih =>
      refine ih (c := c.meet x) ?_ fun around h => hq around (.tail _ h)
      cases x with
      | input around i =>
          refine nextStep_handle_ne_quit hn fun h => hq around ?_
          rw [h]
          exact .head _
      | measured registry => exact hn

/-- On a run on which nobody quits, the destination is held in time for as long as no
    input leaves it behind. -/
theorem run_holdsInTime_iff (hm : c.stance.Matched) (hc : c.HoldsInTime) (hn : c.nextStep ≠ .quit)
    {happenings : List Happening} (hq : ∀ around, .input around .quit ∉ happenings) :
    (∀ before, before <+: happenings → (c.run before).HoldsInTime) ↔
      ∀ before around i, before ++ [.input around i] <+: happenings →
        ¬ (c.run before).Strands i := by
  -- what one more input does at the end of a run that is in time
  have hstep : ∀ before around i, before ++ [.input around i] <+: happenings →
      (c.run before).HoldsInTime →
        ((c.run (before ++ [.input around i])).HoldsInTime ↔ ¬ (c.run before).Strands i) := by
    intro before around i hpre hin
    have hi : i ≠ .quit := fun h =>
      hq around (hpre.subset (List.mem_append_right _ (by rw [h]; exact .head _)))
    have hquit : (c.run before).nextStep ≠ .quit :=
      run_nextStep_ne_quit hn fun around h => hq around (hpre.subset (List.mem_append_left _ h))
    rw [run_append]
    exact handle_holdsInTime_iff (run_matched hm before) hin hi hquit
  constructor
  · intro hin before around i hpre
    exact (hstep before around i hpre (hin before ((List.prefix_append _ _).trans hpre))).mp
      (hin _ hpre)
  · -- by induction on the run from its end; measurements change nothing of it
    intro hstrands before
    induction before using List.reverseRecOn with
    | nil => exact fun _ => hc
    | append_singleton before x ih =>
        intro hpre
        have hin := ih ((List.prefix_append _ _).trans hpre)
        cases x with
        | input around i => exact (hstep before around i hpre hin).mpr (hstrands before around i hpre)
        | measured registry =>
            rw [run_append]
            exact hin

/-- A destination is held in time. On every run on which nobody quits, it is held only
    before the first status and while the end of a tunnel is waited for, up to the
    input that leaves it behind, if there is one. And as long as it is held in time,
    neither the daemon nor the link nor a timer starts a tunnel anywhere else than to
    a destination that waits for its turn, or off a portal. -/
theorem held_in_time (tuning : ControlTuning) (device : Device) (registry : Registry)
    (happenings : List Happening) (hq : ∀ around, .input around .quit ∉ happenings) :
    ((∀ before, before <+: happenings →
        ((initial tuning device registry).run before).HoldsInTime) ↔
      ∀ before around i, before ++ [.input around i] <+: happenings →
        ¬ ((initial tuning device registry).run before).Strands i) ∧
      let c := (initial tuning device registry).run happenings
      c.HoldsInTime → ∀ around i, i.comesUnasked = true →
        ∃ new, (c.handle around i).sent = c.sent ++ new ∧
          ((∃ config, .activate config ∈ new) → c.phase = .captivePortal ∨
            c.held.isSome = true ∧ (c.phase = .initializing ∨ c.phase = .disconnecting)) := by
  refine ⟨run_holdsInTime_iff (initial_matched tuning device registry) nofun nofun hq, ?_⟩
  intro c hin around i hi
  obtain ⟨new, hsent, hstarted⟩ := (handle_inherits_of_comesUnasked around hi).sent
  refine ⟨new, hsent, ?_⟩
  rintro ⟨config, hmem⟩
  rcases hstarted with (hsome | hportal) | hnone
  · exact .inr ⟨hsome, hin hsome⟩
  · exact .inl hportal
  · exact absurd hmem (hnone config)

theorem held_in_time_after_deactivate :
    let happenings := northTunnel ++ [.input {} .deactivate, .input {} (.activate westCity)]
    let c := (initial {} sampleDevice southCooling).run happenings
    let i : Input := .link (.message .disconnected)
    ((∀ around, .input around .quit ∉ happenings) ∧ c.HoldsInTime ∧ i.comesUnasked = true) ∧
      ∃ new, (c.handle {} i).sent = c.sent ++ new ∧
        ((∃ config, .activate config ∈ new) → c.phase = .captivePortal ∨
          c.held.isSome = true ∧ (c.phase = .initializing ∨ c.phase = .disconnecting)) := by
  intro happenings c i
  have hq : ∀ around, .input around .quit ∉ happenings := by
    intro around hmem
    simp [happenings, northTunnel, firstLink] at hmem
  have hin : c.HoldsInTime := fun _ => .inr (by decide +kernel)
  exact ⟨⟨hq, hin, rfl⟩,
    (held_in_time {} sampleDevice southCooling happenings hq).2 hin {} i rfl⟩

/-- Both inputs leave a destination behind, in the phase off, though nobody quits; and
    the end of a later tunnel, which failed for a reason of its own, activates it. -/
theorem stranded_city_resurfaces :
    let unusable := northTunnel ++ [.input {} .silentSwitch, .input {} (.activate westCity),
      .input {} (.link (.message .disconnected))]
    let failed : List Happening := [.input {} (.activate westCity),
      .input {} (.link (.message .backendFailure))]
    let retried : List Happening := [.input { clock := 1000 } (.activate twinCity),
      .input {} (.link (.message (.connected northServer.publicKey))),
      .input {} (.link (.message (.status {}))), .input {} (.link (.message .disconnected))]
    ∀ left, left = unusable ∨ left = failed →
      let c := (initial {} sampleDevice southCooling).run left
      (∀ around, .input around .quit ∉ left ++ retried) ∧
        c.phase = .off ∧ c.held = some westCity ∧
          (wanted (c.run retried).sent).map (·.serverKey) = some westServer.publicKey := by
  rintro unusable failed retried left (rfl | rfl)
  · refine ⟨fun around hmem => ?_, ?_⟩
    · simp [unusable, retried, northTunnel, firstLink] at hmem
    · decide +kernel
  · refine ⟨fun around hmem => ?_, ?_⟩
    · simp [failed, retried] at hmem
    · decide +kernel

end Controller

end TunnelSession
