/-
  TunnelSession.Proofs.Control.Held

  The destination that is held while the end of a tunnel is waited for. It has no
  part in taking the tunnel down: the moves that do so are the same whatever is
  held. When the tunnel is down, the held destination is the next one, unless no
  server of the city could be used; and until then it stays held, unless the
  first status of a link comes in between.
-/
import TunnelSession.Proofs.Control.Orders

namespace TunnelSession

open Controller (Input)

/-! ## Kinds of inputs -/

/-- Whether an input is a request of the user that says where to go next, or that
    there is nowhere to go. -/
@[simp] def Controller.Input.redirects : Input → Bool
  | .activate _ | .deactivate | .changeServer _ _ | .quit => true
  | _ => false

namespace Controller

/-- Whether an input ends the wait for the end of a tunnel: the news that it is down,
    the live timer, or the loss of the link. -/
def endsDisconnect (c : Controller) : Input → Bool
  | .link (.message .disconnected) | .link .lost => true
  | .timer token => token = ⟨.disconnect, c.generation⟩
  | _ => false

/-- Whether an input is the first status on a link. -/
def meetsFirstStatus (c : Controller) : Input → Bool
  | .link (.message (.status _)) => c.awaitingFirstStatus
  | _ => false

end Controller

/-- A move goes on waiting for the end of a tunnel, unless the input ends the wait. -/
theorem Move.waits {i : Input} {s s' : Stance} (h : Move i s s') (hi : i.endsWait = false)
    (hs : s.phase = .disconnecting ∧ s.awaited = .disconnection) :
    s'.phase = .disconnecting ∧ s'.awaited = .disconnection := by
  obtain ⟨hp, ha⟩ := hs
  cases h with
  | ask | mark | plan => exact ⟨hp, ha⟩
  | divert _ hportal => exact absurd (hp.symm.trans hportal) nofun
  | learn _ _ hinit => exact absurd (hp.symm.trans hinit) nofun
  | adopt r _ _ _ hup => rw [hp] at hup; exact absurd hup nofun
  | rest p new g hrest hnew hg hw => exact absurd ((hw ha).symm.trans hi) nofun
  | launch p g server config hlaunch hstep hne => exact absurd ha hne
  | shake key g _ hk => exact absurd (ha.symm.trans hk) nofun
  | confirm r key g _ _ hk => exact absurd (ha.symm.trans hk) nofun
  | takeDown p g next hdown hactive => rw [hp] at hactive; cases hactive

theorem Moves.waits {i : Input} {s s' : Stance} (h : Moves i s s') (hi : i.endsWait = false)
    (hs : s.phase = .disconnecting ∧ s.awaited = .disconnection) :
    s'.phase = .disconnecting ∧ s'.awaited = .disconnection :=
  h.keeps (P := fun t => t.phase = .disconnecting ∧ t.awaited = .disconnection)
    (fun _ _ hmove ht => hmove.waits hi ht) hs

namespace Controller

/-! ## Holding a destination -/

/-- The same connection, with this destination held or none. -/
def hold (c : Controller) (h : Option Destination) : Controller := { c with held := h }

section Hold

variable (c : Controller) (h : Option Destination) (around : Surroundings)

@[simp] theorem phase_hold : (c.hold h).phase = c.phase := rfl

theorem perform_hold (e : Effect) : (c.hold h).perform e = (c.perform e).hold h := rfl

theorem enter_hold (p : Phase) : (c.hold h).enter p = (c.enter p).hold h := by
  unfold enter
  by_cases hp : c.phase = p
  · rw [if_pos hp, if_pos (show (c.hold h).phase = p from hp)]
  · rw [if_neg hp, if_neg (show ¬ (c.hold h).phase = p from hp)]
    rfl

theorem emitStability_hold (s : Option Stability) :
    (c.hold h).emitStability s = (c.emitStability s).hold h := by
  cases s <;> rfl

theorem stopHealth_hold : (c.hold h).stopHealth around = (c.stopHealth around).hold h :=
  emitStability_hold { c with health := (c.health.stop around.now).2 } h _

theorem dropLogFetches_hold : (c.hold h).dropLogFetches = c.dropLogFetches.hold h := by
  suffices hall : ∀ (l : List Nat) (c : Controller),
      l.foldl (fun c ticket => c.perform (.giveLogs ticket "")) (c.hold h) =
        (l.foldl (fun c ticket => c.perform (.giveLogs ticket "")) c).hold h from
    hall c.logFetches { c with logFetches := [] }
  intro l c
  exact List.foldl_hom (hold · h) fun d ticket => perform_hold d h (.giveLogs ticket "")

theorem health_enter (p : Phase) : (c.enter p).health = c.health := by
  unfold enter
  split <;> rfl

/-! What is the same whatever is held leaves alone what is held. -/

@[simp] theorem held_enter (p : Phase) : (c.enter p).held = c.held :=
  (congrArg held (enter_hold c c.held p) :)

@[simp] theorem held_emitStability (s : Option Stability) : (c.emitStability s).held = c.held :=
  (congrArg held (emitStability_hold c c.held s) :)

@[simp] theorem held_stopHealth : (c.stopHealth around).held = c.held :=
  (congrArg held (stopHealth_hold c c.held around) :)

@[simp] theorem held_dropLogFetches : c.dropLogFetches.held = c.held :=
  (congrArg held (dropLogFetches_hold c c.held) :)

end Hold

/-! ## Once the tunnel is down -/

/-- The connection once its tunnel is down and nothing is waited for, before the
    planned step and the held destination have their turn. -/
def wentDown (c : Controller) (around : Surroundings) : Controller :=
  { { c.cancelTimers with awaited := .nothing }.stopHealth around with
    connectedSince := none
    nextStep := .nothing }.enter .off

section Down

variable {c : Controller} {around : Surroundings} {i : Input} {d : Destination}

theorem wentDown_hold (c : Controller) (around : Surroundings) (h : Option Destination) :
    (c.hold h).wentDown around = (c.wentDown around).hold h := by
  have hstopped := stopHealth_hold { c.cancelTimers with awaited := .nothing } h around
  have hentered := enter_hold { ({ c.cancelTimers with awaited := .nothing } :
    Controller).stopHealth around with connectedSince := none, nextStep := .nothing } h .off
  exact (congrArg (fun c : Controller =>
    { c with connectedSince := none, nextStep := .nothing }.enter .off) hstopped).trans hentered

theorem stance_wentDown : (c.wentDown around).stance = { c.stance.enter .off with
    awaited := .nothing, nextStep := .nothing, generation := c.generation + 1 } := by
  have hstopped := stance_stopHealth ({ c.cancelTimers with awaited := .nothing } : Controller)
    around
  unfold wentDown
  rw [stance_enter]
  exact congrArg (fun s : Stance => { s with nextStep := .nothing }.enter .off) hstopped

theorem phase_wentDown : (c.wentDown around).phase = .off :=
  congrArg Stance.phase stance_wentDown

/-- Once the tunnel is down, the planned step comes first, and the held destination
    only if nothing else is planned. -/
theorem completeDisconnect_eq (around : Surroundings) (hp : c.phase = .disconnecting) :
    c.completeDisconnect around = match c.nextStep with
      | .quit => (c.wentDown around).finish
      | .serverUnavailable => (c.wentDown around).emit
          (.serverUnavailable (c.wentDown around).health.answered)
      | .nothing => (c.wentDown around).activateHeld around := by
  have hhealth : (c.wentDown around).health =
      (({ c.cancelTimers with awaited := .nothing } : Controller).stopHealth around).health :=
    health_enter _ .off
  unfold completeDisconnect
  cases c.nextStep with
  | quit => rfl
  | serverUnavailable =>
      rw [hhealth]
      rfl
  | nothing =>
      dsimp only
      rw [if_neg (by simp [cancelTimers, hp])]
      rfl

theorem completeDisconnect_hold (hp : c.phase = .disconnecting) (h : Option Destination) :
    (c.hold h).completeDisconnect around = match c.nextStep with
      | .quit => ((c.wentDown around).hold h).finish
      | .serverUnavailable => ((c.wentDown around).hold h).emit
          (.serverUnavailable (c.wentDown around).health.answered)
      | .nothing => ((c.wentDown around).hold h).activateHeld around := by
  have heq := completeDisconnect_eq around (c := c.hold h) hp
  rw [wentDown_hold] at heq
  exact heq

/-! ## The inputs that end the wait -/

theorem onDisconnected_of_waiting (ha : c.awaited = .disconnection) :
    c.onDisconnected around = c.completeDisconnect around := by
  rw [onDisconnected, ha]

theorem onTimer_of_waiting (ha : c.awaited = .disconnection) :
    c.onTimer around ⟨.disconnect, c.generation⟩ = c.completeDisconnect around := by
  unfold onTimer
  rw [if_pos rfl, ha]

/-- The connection once the link is lost, before the wait ends. -/
def cutOff (c : Controller) : Controller :=
  { c with awaitingFirstStatus := false }.dropLogFetches

theorem stance_cutOff : c.cutOff.stance = { c.stance with awaitingFirst := false } :=
  stance_dropLogFetches _

theorem phase_cutOff : c.cutOff.phase = c.phase :=
  congrArg Stance.phase stance_cutOff

theorem cutOff_hold (h : Option Destination) : (c.hold h).cutOff = c.cutOff.hold h :=
  dropLogFetches_hold { c with awaitingFirstStatus := false } h

theorem onLost_of_waiting (ha : c.awaited = .disconnection)
    (hp : c.phase = .disconnecting ∨ c.phase = .captivePortal) :
    c.onLost around = c.cutOff.completeDisconnect around := by
  have hphase : c.cutOff.phase = c.phase := phase_cutOff
  have hwait : c.cutOff.awaited = .disconnection :=
    (congrArg Stance.awaited stance_cutOff).trans ha
  unfold onLost
  rw [← cutOff]
  dsimp only
  rw [hphase]
  rcases hp with hp | hp <;> rw [hp] <;> exact if_pos hwait

/-- The connection as an input that ends the wait leaves it to be completed: the loss of the
    link is taken in first. -/
def takenIn (c : Controller) : Input → Controller
  | .link .lost => c.cutOff
  | _ => c

/-- What the loss of the link leaves alone is the same at the end of the wait. -/
theorem takenIn_keeps {α : Type} {f : Controller → α} (h : f c.cutOff = f c) (i : Input) :
    f (c.takenIn i) = f c := by
  unfold takenIn
  split
  · exact h
  · rfl

theorem takenIn_hold (h : Option Destination) (i : Input) :
    (c.hold h).takenIn i = (c.takenIn i).hold h := by
  unfold takenIn
  split
  · exact cutOff_hold h
  · rfl

/-- What ends the wait for the end of a tunnel completes it. -/
theorem handle_of_endsWait (around : Surroundings) (ha : c.awaited = .disconnection)
    (hp : c.phase = .disconnecting ∨ c.phase = .captivePortal)
    (hi : c.endsDisconnect i = true) :
    c.handle around i = (c.takenIn i).completeDisconnect around := by
  cases i with
  | link event =>
      cases event with
      | message reply =>
          cases reply with
          | disconnected => exact onDisconnected_of_waiting ha
          | connected | status | logs | backendFailure => cases hi
      | lost => exact onLost_of_waiting ha hp
      | ready => cases hi
  | timer token =>
      have htoken : token = ⟨.disconnect, c.generation⟩ := of_decide_eq_true hi
      subst htoken
      exact onTimer_of_waiting ha
  | _ => cases hi

/-- It does so whatever is held. -/
theorem handle_hold_of_endsDisconnect (around : Surroundings) (hm : c.stance.Matched)
    (hp : c.phase = .disconnecting) (hi : c.endsDisconnect i = true) :
    ∃ m : Controller, m.phase = .disconnecting ∧ m.nextStep = c.nextStep ∧
      ∀ h, (c.hold h).handle around i = (m.hold h).completeDisconnect around := by
  have ha : c.awaited = .disconnection := hm.awaited_of_disconnecting hp
  refine ⟨c.takenIn i, (takenIn_keeps phase_cutOff i).trans hp,
    takenIn_keeps (congrArg Stance.nextStep stance_cutOff) i, fun h => ?_⟩
  rw [← takenIn_hold]
  exact handle_of_endsWait (c := c.hold h) around ha (.inl hp) hi

/-- When the wait is over, the tunnel counts as down, and the held destination is
    activated from there, or stays behind if no server of the city could be used. -/
theorem handle_of_endsDisconnect (around : Surroundings) (hm : c.stance.Matched)
    (hp : c.phase = .disconnecting) (hi : c.endsDisconnect i = true) (hd : c.held = some d)
    (hn : c.nextStep ≠ .quit) :
    let down := (c.hold none).handle around i
    down.phase = .off ∧ down.held = none ∧
      c.handle around i = if c.nextStep = .serverUnavailable then down.hold (some d)
        else (down.activate around d).2 := by
  -- the wait is completed in the same way with the destination and without it
  obtain ⟨m, hmp, hmn, hcomplete⟩ := handle_hold_of_endsDisconnect around hm hp hi
  have hself : c.handle around i = (m.hold (some d)).completeDisconnect around := by
    rw [← hcomplete, ← hd]
    rfl
  have hoff : ((m.wentDown around).hold none).phase = .off := phase_wentDown
  intro down
  have hdown : down = (m.hold none).completeDisconnect around := hcomplete none
  rw [hdown, hself, completeDisconnect_hold hmp, completeDisconnect_hold hmp, hmn]
  cases hnext : c.nextStep with
  | quit => exact absurd hnext hn
  | serverUnavailable => exact ⟨hoff, rfl, rfl⟩
  | nothing => exact ⟨hoff, rfl, rfl⟩

/-! ## The inputs that do not -/

theorem onTimer_of_stale (ha : c.awaited = .disconnection) {token : TimerToken}
    (he : c.endsDisconnect (.timer token) = false) : c.onTimer around token = c := by
  refine onTimer_eq_self fun hg hk => ?_
  rw [ha] at hk
  have hkind : token.kind = .disconnect := (Option.some.inj hk).symm
  have htoken : token = ⟨.disconnect, c.generation⟩ := by rw [← hg, ← hkind]
  exact absurd htoken (of_decide_eq_false he)

theorem settled_of_ne (hinit : c.phase ≠ .initializing) (hoff : c.phase ≠ .off)
    (s : StatusReport) : c.settled around s = c := by
  unfold settled
  rw [if_neg fun h => h.2.elim hinit hoff, if_neg hinit]

/-- The first status on a link finds a tunnel on its way up or down, or a portal in the
    way, and lets go of what is held without bringing it up. -/
theorem onFirstStatus_of_ne (hinit : c.phase ≠ .initializing) (hoff : c.phase ≠ .off)
    (hon : c.phase ≠ .on) (s : StatusReport) : c.onFirstStatus around s = c.hold none := by
  rw [onFirstStatus_eq, settled_of_ne hinit hoff s]
  cases hd : c.held with
  | none => exact congrArg c.hold hd
  | some d =>
      dsimp only
      split
      · next hisOff => exact absurd hisOff hoff
      · next hisOn => exact absurd hisOn hon
      · rfl

theorem held_onStatus_of_disconnecting (hp : c.phase = .disconnecting)
    (ha : c.awaited = .disconnection) (s : StatusReport) :
    (c.onStatus around s).held = if c.awaitingFirstStatus then none else c.held := by
  unfold onStatus
  split
  · exact congrArg held (onFirstStatus_of_ne (c := { c with awaitingFirstStatus := false })
      (by simp [hp]) (by simp [hp]) (by simp [hp]) s)
  · rw [ha]
    rfl

/-- What does not end the wait, and is no request to go elsewhere, changes what is
    held only if it is the first status on a link. -/
theorem held_handle_of_disconnecting (hm : c.stance.Matched) (hp : c.phase = .disconnecting)
    (he : c.endsDisconnect i = false) (hi : i.redirects = false) :
    (c.handle around i).held = if c.meetsFirstStatus i then none else c.held := by
  have ha : c.awaited = .disconnection := hm.awaited_of_disconnecting hp
  cases i with
  | activate | deactivate | changeServer | quit => cases hi
  | silentSwitch => simp [handle, silentSwitch, hp, meetsFirstStatus]
  | portal present =>
      cases present with
      | true => simp [handle, portalDetected, hp, meetsFirstStatus]
      | false => simp [handle, portalGone, hp, meetsFirstStatus]
  | fetchLogs ticket =>
      change (c.fetchLogs around ticket).held = c.held
      unfold fetchLogs
      split <;> rfl
  | cleanLogs =>
      change (c.trySend around .cleanLogs).held = c.held
      unfold trySend
      split <;> rfl
  | requestStatus => simp [handle, requestStatus, hp, meetsFirstStatus]
  | link event =>
      cases event with
      | ready =>
          change (c.onReady around).held = c.held
          unfold onReady
          split <;> rfl
      | lost => cases he
      | message reply =>
          cases reply with
          | connected key => simp [handle, onLink, onConnected, ha, meetsFirstStatus]
          | disconnected => cases he
          | status s => exact held_onStatus_of_disconnecting hp ha s
          | logs text =>
              change (c.onLogs text).held = c.held
              unfold onLogs
              split <;> rfl
          | backendFailure =>
              change (c.onBackendFailure around).held = c.held
              unfold onBackendFailure
              rw [if_pos ha]
              rfl
  | timer token =>
      change (c.onTimer around token).held = c.held
      rw [onTimer_of_stale ha he]
  | probeTick => simp [handle, probeTick, hp, meetsFirstStatus]
  | probeReply r =>
      change (c.onProbeReply r).held = c.held
      unfold onProbeReply
      split
      · split <;> rfl
      · rfl
  | checkup =>
      change (c.checkup around).held = c.held
      unfold checkup
      dsimp only
      rw [if_neg (by simp [hp])]
      exact held_emitStability _ _

theorem endsWait_of_endsDisconnect (he : c.endsDisconnect i = true) : i.endsWait = true := by
  cases i with
  | link event =>
      cases event with
      | message reply =>
          cases reply with
          | disconnected => rfl
          | connected | status | logs | backendFailure => cases he
      | lost => rfl
      | ready => cases he
  | timer token =>
      have htoken : token = ⟨.disconnect, c.generation⟩ := of_decide_eq_true he
      rw [htoken]
      rfl
  | _ => cases he

/-- Of the inputs that can end a wait, only the timers of earlier ones do not. -/
theorem timer_of_endsWait (hw : i.endsWait = true) (he : c.endsDisconnect i = false) :
    ∃ token, i = .timer token := by
  cases i with
  | link event =>
      cases event with
      | message reply =>
          cases reply with
          | disconnected => cases he
          | connected | status | logs | backendFailure => cases hw
      | lost => cases he
      | ready => cases hw
  | timer token => exact ⟨token, rfl⟩
  | _ => cases hw

/-- The connection goes on waiting for the end of a tunnel until an input ends it. -/
theorem phase_handle_of_disconnecting (hm : c.stance.Matched) (hp : c.phase = .disconnecting) :
    (c.handle around i).phase = .disconnecting ↔ c.endsDisconnect i = false := by
  have ha : c.awaited = .disconnection := hm.awaited_of_disconnecting hp
  constructor
  · intro hstill
    by_contra hend
    have he : c.endsDisconnect i = true := Bool.not_eq_false _ ▸ hend
    obtain ⟨m, hmp, -, hcomplete⟩ := handle_hold_of_endsDisconnect around hm hp he
    have hdone : c.handle around i = (m.hold c.held).completeDisconnect around :=
      hcomplete c.held
    have hends : Ends i (m.hold c.held).stance
        ((m.hold c.held).completeDisconnect around).stance :=
      completeDisconnect_ends (.refl _) (fun _ => endsWait_of_endsDisconnect he)
        fun hinit => absurd (hmp.symm.trans hinit) nofun
    -- the wait is over, but the phase is one in which it goes on
    have hover : (c.handle around i).awaited ≠ .disconnection :=
      hdone ▸ hends.awaited_ne (endsWait_of_endsDisconnect he)
    exact hover ((handle_matched hm i).awaited_of_disconnecting hstill)
  · intro he
    by_cases hw : i.endsWait = true
    · obtain ⟨token, rfl⟩ := timer_of_endsWait hw he
      change (c.onTimer around token).phase = _
      rw [onTimer_of_stale ha he]
      exact hp
    · exact ((handle_moves around hm i).waits (Bool.eq_false_iff.mpr hw) ⟨hp, ha⟩).1

end Down

/-! ## Two cities -/

def northServer : Server where
  hostname := "north"
  publicKey := "AAAAAAAAAAAAAAAAAAAAAAAAAAAAAAAAAAAAAAAAAAA="
  endpointV4 := "185.65.135.1"
  gatewayV4 := "10.64.0.1"

def southServer : Server :=
  { northServer with
    hostname := "south", publicKey := "AQEBAQEBAQEBAQEBAQEBAQEBAQEBAQEBAQEBAQEBAQE=" }

def westServer : Server :=
  { northServer with
    hostname := "west", publicKey := "AgICAgICAgICAgICAgICAgICAgICAgICAgICAgICAgI=" }

/-- A city with two servers. -/
def twinCity : Destination := ⟨"de", "Berlin", [northServer, southServer], none⟩

/-- Another city, with one. -/
def westCity : Destination := ⟨"fr", "Paris", [westServer], none⟩

/-- All that is known is that one server of the first city failed. -/
def southCooling : Registry := ({} : Registry).setCooldown 0 southServer.publicKey 600

def sampleDevice : Device where
  privateKey := ⟨⟨List.replicate 32 1, rfl⟩⟩
  addressV4 := "10.64.12.7/32"

/-- The daemon has no tunnel. -/
def firstLink : List Happening :=
  [.input {} (.link .ready), .input {} (.link (.message (.status {})))]

/-- A tunnel to the server that is left of the first city comes up. -/
def northTunnel : List Happening :=
  firstLink ++ [.input {} (.activate twinCity),
    .input {} (.link (.message (.connected northServer.publicKey))),
    .input {} (.link (.message (.status { connected := true })))]

/-! ## On every run -/

/-- The held destination comes next. On every run, an input that ends the wait for the
    end of a tunnel does so as if nothing were held, and from there the held
    destination is activated, whyever the tunnel was taken down. Only if it was
    because no server of the city could be used, the destination stays behind. -/
theorem held_comes_next (tuning : ControlTuning) (device : Device) (registry : Registry)
    (happenings : List Happening) (around : Surroundings) (i : Input) (d : Destination) :
    let c := (initial tuning device registry).run happenings
    c.phase = .disconnecting → c.held = some d → c.nextStep ≠ .quit →
      (c.endsDisconnect i = true ↔ (c.handle around i).phase ≠ .disconnecting) ∧
        (c.endsDisconnect i = true →
          let down := (c.hold none).handle around i
          down.phase = .off ∧ down.held = none ∧
            c.handle around i = if c.nextStep = .serverUnavailable then down.hold (some d)
              else (down.activate around d).2) := by
  intro c hp hd hn
  have hm : c.stance.Matched := run_matched (initial_matched tuning device registry) happenings
  refine ⟨?_, fun hi => handle_of_endsDisconnect around hm hp hi hd hn⟩
  rw [Ne, phase_handle_of_disconnecting hm hp, Bool.not_eq_false]

theorem held_comes_next_after_deactivate :
    let c := (initial {} sampleDevice southCooling).run
      (northTunnel ++ [.input {} .deactivate, .input {} (.activate westCity)])
    let i : Input := .link (.message .disconnected)
    (c.phase = .disconnecting ∧ c.held = some westCity ∧ c.nextStep ≠ .quit ∧
        c.endsDisconnect i = true) ∧
      let down := (c.hold none).handle {} i
      down.phase = .off ∧ down.held = none ∧
        c.handle {} i = if c.nextStep = .serverUnavailable then down.hold (some westCity)
          else (down.activate {} westCity).2 := by
  have hnext := held_comes_next {} sampleDevice southCooling
    (northTunnel ++ [.input {} .deactivate, .input {} (.activate westCity)]) {}
    (.link (.message .disconnected)) westCity
  generalize hc : (initial {} sampleDevice southCooling).run
    (northTunnel ++ [.input {} .deactivate, .input {} (.activate westCity)]) = c at hnext ⊢
  have hready : c.phase = .disconnecting ∧ c.held = some westCity ∧ c.nextStep ≠ .quit ∧
      c.endsDisconnect (.link (.message .disconnected)) = true := by
    rw [← hc]
    decide +kernel
  obtain ⟨hp, hd, hn, hi⟩ := hready
  exact ⟨⟨hp, hd, hn, hi⟩, (hnext hp hd hn).2 hi⟩

/-- The held destination is not activated if the tunnel was taken down because no
    server of the city could be used. -/
theorem held_stays_behind_unusable_city :
    let c := (initial {} sampleDevice southCooling).run
      (northTunnel ++ [.input {} .silentSwitch, .input {} (.activate westCity)])
    let i : Input := .link (.message .disconnected)
    (c.phase = .disconnecting ∧ c.held = some westCity ∧ c.nextStep ≠ .quit ∧
        c.endsDisconnect i = true) ∧
      (((c.hold none).handle {} i).activate {} westCity).2.phase = .connecting ∧
      (c.handle {} i).phase = .off ∧ (c.handle {} i).held = some westCity := by
  decide +kernel

/-- The held destination stays held. On every run, while the end of a tunnel is waited
    for, an input that is no request to go elsewhere leaves it alone; but the first
    status on a link lets go of it. -/
theorem held_lasts (tuning : ControlTuning) (device : Device) (registry : Registry)
    (happenings : List Happening) (around : Surroundings) (i : Input) (d : Destination) :
    let c := (initial tuning device registry).run happenings
    c.phase = .disconnecting → c.held = some d → i.redirects = false →
      (c.handle around i).phase = .disconnecting →
        (c.handle around i).held = if c.meetsFirstStatus i then none else some d := by
  intro c hp hd hi hstill
  have hm : c.stance.Matched := run_matched (initial_matched tuning device registry) happenings
  rw [held_handle_of_disconnecting hm hp ((phase_handle_of_disconnecting hm hp).mp hstill) hi, hd]

theorem held_lasts_over_backend_failure :
    let c := (initial {} sampleDevice southCooling).run
      (northTunnel ++ [.input {} .deactivate, .input {} (.activate westCity)])
    let i : Input := .link (.message .backendFailure)
    (c.phase = .disconnecting ∧ c.held = some westCity ∧ i.redirects = false ∧
        (c.handle {} i).phase = .disconnecting) ∧
      (c.handle {} i).held = if c.meetsFirstStatus i then none else some westCity := by
  have hlasts := held_lasts {} sampleDevice southCooling
    (northTunnel ++ [.input {} .deactivate, .input {} (.activate westCity)]) {}
    (.link (.message .backendFailure)) westCity
  generalize hc : (initial {} sampleDevice southCooling).run
    (northTunnel ++ [.input {} .deactivate, .input {} (.activate westCity)]) = c at hlasts ⊢
  have hready : c.phase = .disconnecting ∧ c.held = some westCity ∧
      (c.handle {} (.link (.message .backendFailure))).phase = .disconnecting := by
    rw [← hc]
    decide +kernel
  obtain ⟨hp, hd, hstill⟩ := hready
  exact ⟨⟨hp, hd, rfl, hstill⟩, hlasts hp hd rfl hstill⟩

/-- The first status on a link lets go of the held destination, though the end of the
    tunnel is still waited for. -/
theorem first_status_lets_go :
    let c := (initial {} sampleDevice southCooling).run
      [.input {} (.link .lost), .input {} (.link .ready), .input {} (.activate twinCity),
        .input {} .deactivate, .input {} (.activate westCity)]
    let i : Input := .link (.message (.status {}))
    (c.phase = .disconnecting ∧ c.held = some westCity ∧ i.redirects = false) ∧
      (c.handle {} i).phase = .disconnecting ∧ (c.handle {} i).held = none := by
  decide +kernel

end Controller

end TunnelSession
