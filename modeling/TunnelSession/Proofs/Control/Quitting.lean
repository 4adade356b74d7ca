/-
  TunnelSession.Proofs.Control.Quitting

  The request to quit always gets through. Where no tunnel is up it is granted at
  once; where one is, the connection waits for its end with a live timer, and
  nothing in that wait makes it forget: inputs that do not end the wait leave the
  plan alone and ask for no tunnel, and the first one that does end it leads to the
  phase off, with one farewell.
-/
import TunnelSession.Proofs.Control.Held
import TunnelSession.Proofs.Control.Waits

namespace TunnelSession

open Controller (Input)

/-! ## Waiting for the end of a tunnel -/

/-- `Abides s₀ s`: the end of a tunnel is still waited for with the timers of `s₀`, and
    no order was given since. -/
structure Stance.Abides (s₀ s : Stance) : Prop where
  matched : s.Matched
  awaited : s.awaited = .disconnection
  generation : s.generation = s₀.generation
  armed : s.armed = s₀.armed
  sent : ∃ new, s.sent = s₀.sent ++ new ∧ ∀ r ∈ new, r.isOrder = false

namespace Stance.Abides

variable {s₀ s : Stance}

theorem refl (hm : s.Matched) (ha : s.awaited = .disconnection) : Abides s s :=
  ⟨hm, ha, rfl, rfl, [], (List.append_nil _).symm, nofun⟩

/-- More requests that leave the tunnel alone do not matter. -/
theorem ask (h : Abides s₀ s) {r : Request} (hr : r.isOrder = false) :
    ∃ new, s.sent ++ [r] = s₀.sent ++ new ∧ ∀ q ∈ new, q.isOrder = false := by
  obtain ⟨new, hsent, hquiet⟩ := h.sent
  refine ⟨new ++ [r], ?_, ?_⟩
  · rw [hsent, List.append_assoc]
  · exact List.forall_mem_append.mpr ⟨hquiet, List.forall_mem_singleton.mpr hr⟩

end Stance.Abides

/-- A move goes on waiting for the end of a tunnel, unless the input can end the wait. -/
theorem Move.abides {i : Input} {s₀ s s' : Stance} (h : Move i s s') (hi : i.endsWait = false)
    (hs : s₀.Abides s) : s₀.Abides s' := by
  have hm : s'.Matched := h.matched hs.matched
  have ha : s.awaited = .disconnection := hs.awaited
  cases h with
  | ask r hr => exact ⟨hm, ha, hs.generation, hs.armed, hs.ask hr⟩
  | mark | plan | divert | learn | adopt => exact ⟨hm, ha, hs.generation, hs.armed, hs.sent⟩
  -- the other moves end a wait or begin one, and this wait is neither over nor new
  | rest p new g hp hnew hg hw => exact absurd ((hw ha).symm.trans hi) nofun
  | launch p g server config hp hstep hne => exact absurd ha hne
  | shake key g hlink hk => exact absurd (ha.symm.trans hk) nofun
  | confirm r key g hlink hr hk => exact absurd (ha.symm.trans hk) nofun
  | takeDown p g next hp hactive => exact absurd ha (hs.matched.awaited_ne_of_isActive hactive)

theorem Moves.abides {i : Input} {s₀ s s' : Stance} (h : Moves i s s') (hi : i.endsWait = false)
    (hs : s₀.Abides s) : s₀.Abides s' :=
  h.keeps (fun _ _ hmove ht => hmove.abides hi ht) hs

namespace Controller

variable {c : Controller} {around : Surroundings} {i : Input}

/-! ## Farewells -/

/-- How often everyone was told that the connection is done for good. -/
def farewells (c : Controller) : Nat := c.outbox.count (.emit .readyToQuit)

/-- What the connection plans, and what it has told of its end. -/
def resolve (c : Controller) : NextStep × Nat × Bool := (c.nextStep, c.farewells, c.finished)

theorem resolve_perform (c : Controller) (e : Effect) (he : e ≠ .emit .readyToQuit) :
    (c.perform e).resolve = c.resolve := by
  have hcount : (c.perform e).farewells = c.farewells := by
    show (c.outbox ++ [e]).count _ = _
    rw [List.count_append, List.count_singleton, if_neg (by simpa using he)]
    rfl
  show (c.nextStep, (c.perform e).farewells, c.finished) = _
  rw [hcount]
  rfl

theorem resolve_emit (c : Controller) (e : SessionEvent) (he : e ≠ .readyToQuit) :
    (c.emit e).resolve = c.resolve :=
  resolve_perform c (.emit e) fun h => he (Effect.emit.inj h)

theorem resolve_enter (c : Controller) (p : Phase) : (c.enter p).resolve = c.resolve := by
  unfold enter
  split
  · rfl
  · exact resolve_emit { c with phase := p } (.phaseChanged p) nofun

theorem resolve_emitStability (c : Controller) (s : Option Stability) :
    (c.emitStability s).resolve = c.resolve := by
  cases s with
  | none => rfl
  | some s => exact resolve_emit c (.stabilityChanged s) nofun

theorem resolve_stopHealth (c : Controller) (around : Surroundings) :
    (c.stopHealth around).resolve = c.resolve :=
  resolve_emitStability { c with health := (c.health.stop around.now).2 } _

theorem resolve_cutOff (c : Controller) : c.cutOff.resolve = c.resolve :=
  dropLogFetches_keeps { c with awaitingFirstStatus := false } rfl
    fun d ticket => resolve_perform d (.giveLogs ticket "") (by simp)

theorem farewells_eq {c c' : Controller} (h : c'.resolve = c.resolve) :
    c'.farewells = c.farewells :=
  congrArg (fun r => r.2.1) h

theorem farewells_finish (c : Controller) : c.finish.farewells = c.farewells + 1 := by
  show (c.outbox ++ [Effect.emit .readyToQuit]).count _ = _
  rw [List.count_append, List.count_singleton_self]
  rfl

theorem farewells_idle (c : Controller) (around : Surroundings) :
    (({ c.cancelTimers with awaited := .nothing } : Controller).stopHealth around).farewells =
      c.farewells :=
  farewells_eq (resolve_stopHealth { c.cancelTimers with awaited := .nothing } around)

theorem farewells_wentDown (c : Controller) (around : Surroundings) :
    (c.wentDown around).farewells = c.farewells := by
  unfold wentDown
  rw [farewells_eq (resolve_enter _ .off)]
  exact farewells_idle c around

theorem farewells_finishOff (c : Controller) (around : Surroundings) :
    (c.finishOff around).farewells = c.farewells := by
  unfold finishOff
  rw [farewells_eq (resolve_enter _ .off)]
  exact farewells_idle c around

/-! ## The plan to quit -/

/-- A connection that quits once its tunnel is down: it waits for that, and one timer is
    live, which limits the wait. -/
structure Quitting (c : Controller) : Prop where
  awaited : c.awaited = .disconnection
  planned : c.nextStep = .quit
  timed : c.armed.filter (fun t => t.generation = c.generation) = [⟨.disconnect, c.generation⟩]

theorem Quitting.of_timed (ht : c.stance.Timed) (ha : c.awaited = .disconnection)
    (hn : c.nextStep = .quit) : c.Quitting := by
  have hlive := ht.live
  rw [stance_awaited, ha] at hlive
  exact ⟨ha, hn, hlive⟩

theorem completeDisconnect_of_quit (hn : c.nextStep = .quit) :
    c.completeDisconnect around = (c.wentDown around).finish := by
  unfold completeDisconnect
  rw [hn]
  rfl

/-- To take the tunnel down for the sake of quitting either begins the wait or, if the
    daemon cannot be asked, is the end. -/
theorem beginDisconnect_of_quit (hn : c.nextStep = .quit) (during : Phase) :
    let q := c.beginDisconnect around during
    q.awaited = .disconnection ∧ q.nextStep = .quit ∧ q.farewells = c.farewells ∨
      q.finished = true ∧ q.farewells = c.farewells + 1 := by
  have hstopped : ((c.cancelTimers.stopHealth around).enter during).resolve = c.resolve :=
    (resolve_enter _ during).trans (resolve_stopHealth c.cancelTimers around)
  have hnext : ((c.cancelTimers.stopHealth around).enter during).nextStep = .quit :=
    (congrArg Prod.fst hstopped).trans hn
  intro q
  unfold q beginDisconnect
  dsimp only
  generalize (c.cancelTimers.stopHealth around).enter during = stopped at hstopped hnext
  split
  · -- the daemon is asked, and the wait for its answer is limited
    have hasked : ({ stopped.perform (.send .deactivate) with awaited := .disconnection } :
        Controller).resolve = stopped.resolve :=
      resolve_perform stopped (.send .deactivate) nofun
    have harmed := resolve_perform ({ stopped.perform (.send .deactivate) with
      awaited := .disconnection } : Controller)
      (.arm ⟨.disconnect, stopped.generation⟩ stopped.tuning.disconnectTimeout) nofun
    exact .inl ⟨rfl, hnext, farewells_eq ((harmed.trans hasked).trans hstopped)⟩
  · -- it cannot be asked, so the tunnel counts as down
    rw [completeDisconnect_of_quit hnext]
    refine .inr ⟨rfl, ?_⟩
    rw [farewells_finish, farewells_wentDown, farewells_eq hstopped]

/-- The request to quit is granted at once, or the wait for it begins. -/
theorem quit_outcome (around : Surroundings) (hm : c.stance.Matched) (ht : c.stance.Timed) :
    let q := c.quit around
    q.finished = true ∧ q.farewells = c.farewells + 1 ∨
      q.Quitting ∧ q.farewells = c.farewells := by
  intro q
  have hqt : q.stance.Timed := (quit_moves (i := .quit) hm rfl).timed ht
  suffices h : q.awaited = .disconnection ∧ q.nextStep = .quit ∧ q.farewells = c.farewells ∨
      q.finished = true ∧ q.farewells = c.farewells + 1 by
    rcases h with ⟨ha, hn, hf⟩ | hdone
    · exact .inr ⟨.of_timed hqt ha hn, hf⟩
    · exact .inl hdone
  unfold q quit
  dsimp only
  split
  · exact .inr ⟨rfl, farewells_finish _⟩
  · exact .inr ⟨rfl, farewells_finish _⟩
  · next hp => exact .inl ⟨hm.awaited_of_disconnecting hp, rfl, rfl⟩
  · split
    · next ha => exact .inl ⟨ha, rfl, rfl⟩
    · refine .inr ⟨rfl, ?_⟩
      rw [farewells_finish, farewells_finishOff]
      rfl
  · exact beginDisconnect_of_quit (c := { c with held := none, nextStep := .quit }) rfl _

/-! ## Inputs that do not end the wait -/

section Waiting

variable (hm : c.stance.Matched) (hq : c.Quitting)

include hm hq

theorem Quitting.phase : c.phase = .disconnecting ∨ c.phase = .captivePortal :=
  hm.phase_of_disconnection hq.awaited

theorem Quitting.phase_ne {p : Phase} (hd : p ≠ .disconnecting) (hc : p ≠ .captivePortal) :
    c.phase ≠ p := by
  rintro rfl
  exact (hq.phase hm).elim hd hc

theorem Quitting.phase_ne_initializing : c.phase ≠ .initializing :=
  hq.phase_ne hm (by decide) (by decide)

theorem Quitting.phase_ne_off : c.phase ≠ .off :=
  hq.phase_ne hm (by decide) (by decide)

theorem Quitting.phase_ne_on : c.phase ≠ .on :=
  hq.phase_ne hm (by decide) (by decide)

/-- The requests to bring a tunnel up, down or elsewhere, or to quit. -/
theorem Quitting.resolve_redirected (hi : i.redirects = true) :
    (c.handle around i).resolve = c.resolve := by
  cases i with
  | activate d =>
      show (c.activate around d).2.resolve = _
      unfold activate
      -- the destination is held, or refused while a portal is in the way
      rcases hq.phase hm with hp | hp
      · rw [hp]
        rfl
      · rw [hp]
  | deactivate =>
      show (c.deactivate around).2.resolve = _
      unfold deactivate
      dsimp only
      split
      · rfl
      · rfl
      · rfl
      · -- behind a portal the wait becomes that for a tunnel that nobody wants any more
        rw [if_pos hq.awaited]
        exact resolve_enter { c with held := none } .disconnecting
      · next hdis hportal => exact ((hq.phase hm).elim hdis hportal).elim
  | changeServer d silent =>
      show (c.changeServer around d silent).2.resolve = _
      unfold changeServer
      split
      · rfl
      · rfl
      · rfl
      · split <;> rfl
      · next hportal hdis => exact ((hq.phase hm).elim hdis hportal).elim
  | quit =>
      -- the plan is made once more
      have hplan : ({ c with held := none, nextStep := .quit } : Controller).resolve =
          c.resolve := by
        unfold resolve
        rw [hq.planned]
        rfl
      show (c.quit around).resolve = _
      unfold quit
      dsimp only
      split
      · next hp => exact absurd hp (hq.phase_ne_off hm)
      · next hp => exact absurd hp (hq.phase_ne_initializing hm)
      · exact hplan
      · rw [if_pos hq.awaited]
        exact hplan
      · next hdis hportal => exact ((hq.phase hm).elim hdis hportal).elim
  | _ => cases hi

/-- The messages of the daemon. -/
theorem Quitting.resolve_message (r : Reply) (hr : r ≠ .disconnected) :
    (c.onLink around (.message r)).resolve = c.resolve := by
  have ha : c.awaited = .disconnection := hq.awaited
  cases r with
  | connected key =>
      show (c.onConnected around key).resolve = _
      rw [onConnected, if_neg (by simp [ha])]
  | disconnected => exact absurd rfl hr
  | status s =>
      show (c.onStatus around s).resolve = _
      unfold onStatus
      split
      · -- the first status of a new link only lets go of what is held
        have hinit : c.phase ≠ .initializing := hq.phase_ne_initializing hm
        have hoff : c.phase ≠ .off := hq.phase_ne_off hm
        have hon : c.phase ≠ .on := hq.phase_ne_on hm
        rw [onFirstStatus_of_ne (c := { c with awaitingFirstStatus := false }) hinit hoff hon s]
        rfl
      · rw [ha]
        exact resolve_emit c (.statusUpdated s.txBytes s.rxBytes) (by simp)
  | logs text =>
      show (c.onLogs text).resolve = _
      unfold onLogs
      split
      · next ticket rest _ =>
        exact resolve_perform { c with logFetches := rest } (.giveLogs ticket text) (by simp)
      · rfl
  | backendFailure =>
      show (c.onBackendFailure around).resolve = _
      rw [onBackendFailure, if_pos ha]
      exact resolve_emit c .backendFailure (by simp)

/-- What does not end the wait neither undoes the plan nor says farewell. -/
theorem Quitting.resolve_handle (he : c.endsDisconnect i = false) :
    (c.handle around i).resolve = c.resolve := by
  have hon : c.phase ≠ .on := hq.phase_ne_on hm
  cases i with
  | activate d => exact hq.resolve_redirected hm rfl
  | deactivate => exact hq.resolve_redirected hm rfl
  | changeServer d silent => exact hq.resolve_redirected hm rfl
  | quit => exact hq.resolve_redirected hm rfl
  | silentSwitch =>
      show (c.silentSwitch around).2.resolve = _
      unfold silentSwitch
      split
      · next hup _ _ => exact absurd hup hon
      · rfl
  | portal present =>
      cases present with
      | true =>
          show (c.portalDetected around).resolve = _
          unfold portalDetected
          rcases hq.phase hm with hp | hp <;> rw [hp]
      | false =>
          show (c.portalGone around).resolve = _
          unfold portalGone
          dsimp only
          -- the tunnel is still on its way down, so there is no return to it yet
          rw [if_neg fun h => h.2 hq.awaited]
          rfl
  | fetchLogs ticket =>
      show (c.fetchLogs around ticket).resolve = _
      unfold fetchLogs
      split
      · exact resolve_perform c (.send .logs) (by simp)
      · exact resolve_perform c (.giveLogs ticket "") (by simp)
  | cleanLogs =>
      show (c.trySend around .cleanLogs).resolve = _
      unfold trySend
      split
      · exact resolve_perform c (.send .cleanLogs) (by simp)
      · rfl
  | requestStatus =>
      show (c.requestStatus around).resolve = _
      rw [requestStatus, if_neg fun h => hon h.1]
  | link event =>
      cases event with
      | ready =>
          show (c.onReady around).resolve = _
          unfold onReady
          split
          · exact resolve_perform c (.send .status) (by simp)
          · rfl
      | lost => cases he
      | message r =>
          refine hq.resolve_message hm r ?_
          rintro rfl
          cases he
  | timer token =>
      show (c.onTimer around token).resolve = _
      rw [onTimer_of_stale hq.awaited he]
  | probeTick =>
      show (c.probeTick around).resolve = _
      rw [probeTick, if_neg hon]
  | probeReply r =>
      show (c.onProbeReply r).resolve = _
      unfold onProbeReply
      split
      · split <;> rfl
      · rfl
  | checkup =>
      show (c.checkup around).resolve = _
      unfold checkup
      dsimp only
      rw [if_neg (by simp [hon])]
      exact resolve_emitStability { c with health := (c.health.checkup around.now).2 } _

end Waiting

/-! ## Inputs that end it -/

/-- What ends the wait is the end of the connection, in the phase off, and nothing is
    sent any more. -/
theorem Quitting.ends (around : Surroundings) (hm : c.stance.Matched) (hq : c.Quitting)
    (he : c.endsDisconnect i = true) :
    let done := c.handle around i
    done.phase = .off ∧ done.finished = true ∧ done.farewells = c.farewells + 1 ∧
      done.sent = c.sent := by
  have ha : c.awaited = .disconnection := hq.awaited
  have hdone : c.handle around i = (c.takenIn i).completeDisconnect around :=
    handle_of_endsWait around ha (hq.phase hm) he
  have hresolve : (c.takenIn i).resolve = c.resolve := takenIn_keeps (resolve_cutOff c) i
  have hsent : (c.takenIn i).sent = c.sent :=
    takenIn_keeps (congrArg Stance.sent (stance_cutOff (c := c)) :) i
  generalize c.takenIn i = m at hdone hresolve hsent
  have hplan : m.nextStep = .quit := (congrArg Prod.fst hresolve).trans hq.planned
  intro done
  have heq : done = (m.wentDown around).finish := hdone.trans (completeDisconnect_of_quit hplan)
  refine ⟨?_, ?_, ?_, ?_⟩
  · rw [heq]
    exact phase_wentDown (c := m)
  · rw [heq]
    rfl
  · rw [heq, farewells_finish, farewells_wentDown, farewells_eq hresolve]
  · rw [heq, ← hsent]
    show (((m.wentDown around).finish).stance).sent = m.sent
    rw [stance_finish, stance_wentDown]
    rfl

/-! ## On every run -/

theorem endsDisconnect_congr {c' : Controller} (h : c'.generation = c.generation) (i : Input) :
    c'.endsDisconnect i = c.endsDisconnect i := by
  unfold endsDisconnect
  rw [h]

/-- An input that does not end the wait does not give an order either. -/
theorem handle_abides {s₀ : Stance} (around : Surroundings) (hc : s₀.Abides c.stance)
    (he : c.endsDisconnect i = false) : s₀.Abides (c.handle around i).stance := by
  by_cases hw : i.endsWait = true
  · -- of the inputs that could end a wait, only an old timer does not end this one
    obtain ⟨token, rfl⟩ := timer_of_endsWait hw he
    show s₀.Abides (c.onTimer around token).stance
    rw [onTimer_of_stale hc.awaited he]
    exact hc
  · exact (handle_moves around hc.matched i).abides (Bool.eq_false_iff.mpr hw) hc

theorem Quitting.of_abides {d : Controller} (hq : c.Quitting) (hd : c.stance.Abides d.stance)
    (hresolve : d.resolve = c.resolve) : d.Quitting := by
  have harmed : d.armed = c.armed := hd.armed
  have hgeneration : d.generation = c.generation := hd.generation
  refine ⟨hd.awaited, (congrArg Prod.fst hresolve).trans hq.planned, ?_⟩
  rw [harmed, hgeneration]
  exact hq.timed

/-- As long as no input ends the wait, the connection goes on waiting to quit. -/
theorem Quitting.run (hm : c.stance.Matched) (hq : c.Quitting) {later : List Happening}
    (hlater : ∀ around i, .input around i ∈ later → c.endsDisconnect i = false) :
    c.stance.Abides (c.run later).stance ∧ (c.run later).resolve = c.resolve := by
  refine run_keeps_of_mem (P := fun d => c.stance.Abides d.stance ∧ d.resolve = c.resolve) ?_
    ⟨.refl hm hq.awaited, rfl⟩
  rintro d x hx ⟨hd, hresolve⟩
  cases x with
  | measured registry => exact ⟨hd, hresolve⟩
  | input around i =>
      have hdq : d.Quitting := hq.of_abides hd hresolve
      have he : d.endsDisconnect i = false :=
        (endsDisconnect_congr hd.generation i).trans (hlater around i hx)
      exact ⟨handle_abides around hd he, (hdq.resolve_handle hd.matched he).trans hresolve⟩

/-- The request to quit gets through. After it the connection is done, and has said
    farewell, or it waits with a live timer for its tunnel to go down and quits then. On
    every run from there it goes on waiting, whatever is asked of it, and asks for no
    tunnel, until the first input that ends the wait: the news that the tunnel is down,
    the loss of the link, or the live timer. With that it is off and done, and has said
    farewell just once. -/
theorem quitting_gets_through (tuning : ControlTuning) (device : Device) (registry : Registry)
    (happenings : List Happening) (around : Surroundings) :
    let c := (initial tuning device registry).run happenings
    let q := c.quit around
    (q.finished = true ∧ q.farewells = c.farewells + 1 ∨
        q.Quitting ∧ q.farewells = c.farewells) ∧
      (q.Quitting → ∀ later : List Happening,
        (∀ around i, .input around i ∈ later → q.endsDisconnect i = false) →
          let waiting := q.run later
          waiting.Quitting ∧ waiting.generation = q.generation ∧
            waiting.farewells = q.farewells ∧ waiting.finished = q.finished ∧
            (∃ new, waiting.sent = q.sent ++ new ∧ ∀ config, .activate config ∉ new) ∧
            ∀ around i, q.endsDisconnect i = true →
              let done := waiting.handle around i
              done.phase = .off ∧ done.finished = true ∧ done.farewells = q.farewells + 1 ∧
                done.sent = waiting.sent) := by
  intro c q
  have hm : c.stance.Matched := run_matched (initial_matched tuning device registry) happenings
  have ht : c.stance.Timed := run_timed (initial_matched tuning device registry)
    (initial_timed tuning device registry) happenings
  refine ⟨quit_outcome around hm ht, fun hq later hlater => ?_⟩
  have hqm : q.stance.Matched := (quit_moves (i := .quit) hm rfl).matched hm
  obtain ⟨habides, hresolve⟩ := hq.run hqm hlater
  intro waiting
  have hwaiting : waiting.Quitting := hq.of_abides habides hresolve
  obtain ⟨new, hsent, hquiet⟩ := habides.sent
  -- what was sent since the request to quit gives no order, so it asks for no tunnel
  refine ⟨hwaiting, habides.generation, farewells_eq hresolve,
    congrArg (fun r => r.2.2) hresolve, ⟨new, hsent, fun config hmem => ?_⟩, fun around i he => ?_⟩
  · exact absurd (hquiet _ hmem) nofun
  · have hend : waiting.endsDisconnect i = true :=
      (endsDisconnect_congr habides.generation i).trans he
    have hdone := hwaiting.ends around habides.matched hend
    rw [farewells_eq hresolve] at hdone
    exact hdone

/-- A user who goes on asking after the request to quit, and a daemon that is late. -/
theorem quitting_gets_through_persistent_user :
    let c := (initial {} sampleDevice southCooling).run northTunnel
    let q := c.quit {}
    let later : List Happening := [.input {} (.activate westCity),
      .input {} (.changeServer twinCity false), .input {} (.portal true),
      .input {} (.link (.message .backendFailure)), .input {} (.link (.message (.status {}))),
      .input {} (.timer ⟨.handshake, 0⟩), .input {} .deactivate, .input {} .quit,
      .input {} (.activate westCity)]
    let i : Input := .link (.message .disconnected)
    (q.Quitting ∧ (∀ around i, .input around i ∈ later → q.endsDisconnect i = false) ∧
        q.endsDisconnect i = true) ∧
      let waiting := q.run later
      waiting.Quitting ∧ (∃ new, waiting.sent = q.sent ++ new ∧ ∀ config, .activate config ∉ new) ∧
        (waiting.handle {} i).phase = .off ∧ (waiting.handle {} i).finished = true ∧
        (waiting.handle {} i).farewells = q.farewells + 1 := by
  intro c q later i
  have hthrough := (quitting_gets_through {} sampleDevice southCooling northTunnel {}).2
  have hq : q.Quitting := by
    have hwaits : q.awaited = .disconnection ∧ q.nextStep = .quit ∧
        q.armed.filter (fun t => t.generation = q.generation) = [⟨.disconnect, q.generation⟩] := by
      decide +kernel
    exact ⟨hwaits.1, hwaits.2.1, hwaits.2.2⟩
  have hlater : ∀ around i, .input around i ∈ later → q.endsDisconnect i = false := by
    intro around i hmem
    simp only [later, List.mem_cons, List.not_mem_nil, or_false, Happening.input.injEq] at hmem
    rcases hmem with h | h | h | h | h | h | h | h | h <;> rw [h.2] <;> rfl
  obtain ⟨hwaiting, -, -, -, hsent, hend⟩ := hthrough hq later hlater
  obtain ⟨hoff, hfinished, hfarewells, -⟩ := hend {} i rfl
  exact ⟨⟨hq, hlater, rfl⟩, hwaiting, hsent, hoff, hfinished, hfarewells⟩

end Controller

end TunnelSession
