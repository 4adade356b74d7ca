/-
  TunnelSession.Proofs.Control.Handlers

  Every handler of the connection is a chain of moves. One lemma for each
  function, from the small ones up; the handlers cite them and never look inside.
-/
import TunnelSession.Proofs.Control.Moves

namespace TunnelSession

open Controller (Input)
open Phase (IsPath)

/-! ## On the way to a rest -/

/-- `Towards s₀ s`: on the way from `s₀` to `s` the phases followed the arrows, and
    nothing was armed or sent. What is waited for is in between, and need not go
    with the phase. -/
structure Towards (s₀ s : Stance) : Prop where
  follows : s.Follows s₀
  generation : s₀.generation ≤ s.generation
  server : s.server = s₀.server
  first : s.awaitingFirst = s₀.awaitingFirst
  armed : s.armed = s₀.armed
  sent : s.sent = s₀.sent

namespace Towards

variable {i : Input} {s₀ s : Stance}

theorem refl (s : Stance) : Towards s s :=
  ⟨.refl s, Nat.le_refl _, rfl, rfl, rfl, rfl⟩

/-- Waits, plans and newer generations do not matter on the way. -/
theorem wait (h : Towards s₀ s) (a : Awaited) (n : NextStep) {g : Nat} (hg : s.generation ≤ g) :
    Towards s₀ { s with awaited := a, nextStep := n, generation := g } :=
  ⟨h.follows, Nat.le_trans h.generation hg, h.server, h.first, h.armed, h.sent⟩

theorem enter (h : Towards s₀ s) {p : Phase} (hp : s.phase ≠ p → s.phase.leadsTo p = true) :
    Towards s₀ (s.enter p) :=
  ⟨h.follows.enter hp, h.generation, h.server, h.first, h.armed, h.sent⟩

/-- A way that ends in a phase without a tunnel, with nothing to wait for and
    all timers worthless, is one move. -/
theorem rest (h : Towards s₀ s) (hp : s.phase = .off ∨ s.phase = .captivePortal)
    (ha : s.awaited = .nothing) (hn : s.nextStep = .nothing) (hg : s₀.generation < s.generation)
    (hw : s₀.awaited = .disconnection → i.endsWait = true)
    (hi : s₀.phase = .initializing → i = .link (.message .backendFailure)) : Move i s₀ s := by
  obtain ⟨new, htold, hpath⟩ := h.follows
  have hmove := Move.rest (i := i) s.phase new s.generation hp hpath hg hw hi
  rw [← htold, ← ha, ← hn, ← h.server, ← h.first, ← h.armed, ← h.sent] at hmove
  exact hmove

end Towards

namespace Controller

variable {i : Input} {around : Surroundings} {c : Controller} {s₀ : Stance}

theorem finishOff_move (h : Towards s₀ c.stance) (hn : c.nextStep = .nothing)
    (hw : s₀.awaited = .disconnection → i.endsWait = true)
    (hi : s₀.phase = .initializing → i = .link (.message .backendFailure)) :
    Move i s₀ (c.finishOff around).stance := by
  rw [stance_finishOff]
  have hto : Towards s₀ { c.stance.enter .off with
      awaited := .nothing, nextStep := c.nextStep, generation := c.generation + 1 } :=
    (h.enter Phase.leadsTo_off).wait _ _ (Nat.le_succ _)
  exact hto.rest (.inl rfl) rfl hn (Nat.lt_succ_of_le h.generation) hw hi

/-- A handler that leaves the stance alone makes no move. -/
theorem moves_of_stance_eq {s s' : Stance} (h : s' = s) : Moves i s s' :=
  h ▸ .refl

/-! ## Bringing a tunnel up -/

/-- A config that its own check lets through is that config, and valid. -/
theorem eq_of_validated {config checked : TunnelConfig}
    (h : checked.validate.map (fun _ => checked) = .ok config) :
    config = checked ∧ config.validate = .ok () := by
  cases hv : checked.validate with
  | error e =>
      rw [hv] at h
      cases h
  | ok u =>
      rw [hv] at h
      cases h
      exact ⟨rfl, hv⟩

/-- A tunnel to a server names the key of the server, and is valid. -/
theorem tunnelTo_ok {server : Server} {config : TunnelConfig}
    (h : c.tunnelTo server = .ok config) :
    config.serverKey = server.publicKey ∧ config.validate = .ok () := by
  unfold tunnelTo at h
  split at h
  · cases h
  · obtain ⟨heq, hvalid⟩ := eq_of_validated h
    exact ⟨congrArg TunnelConfig.serverKey heq, hvalid⟩

/-- An attempt to bring a tunnel up either asks the daemon for it or comes to
    rest. -/
theorem startActivation_move (d : Destination) {during : Phase}
    (hp : during = .connecting ∨ during = .switching ∨ during = .silentSwitching)
    (hstep : c.phase ≠ during → c.phase.leadsTo during = true) (hi : c.phase ≠ .initializing)
    (ha : c.awaited ≠ .disconnection) (hn : c.nextStep = .nothing) :
    Move i c.stance (c.startActivation around d during).2.stance := by
  have hw : c.stance.awaited = .disconnection → i.endsWait = true := fun h => absurd h ha
  have hi' : c.stance.phase = .initializing → i = .link (.message .backendFailure) :=
    fun h => absurd h hi
  unfold startActivation
  split
  · -- no server can be used
    rw [stance_emit _ _ rfl]
    exact finishOff_move (c := { c with destination := some d }) (.refl _) hn hw hi'
  · next server _ =>
    split
    · -- no tunnel can be made to the server
      exact finishOff_move (.refl _) hn hw hi'
    · next config hconfig =>
      obtain ⟨hkey, hvalid⟩ := tunnelTo_ok hconfig
      dsimp only
      split
      · -- the daemon cannot be asked
        rw [stance_emit _ _ rfl]
        have hto : Towards c.stance c.cancelTimers.stance :=
          (Towards.refl c.stance).wait c.awaited c.nextStep (Nat.le_succ _)
        exact finishOff_move hto hn hw hi'
      · have hsent : ({ c.cancelTimers.perform (.send (.activate config)) with
            awaited := .handshake server.publicKey, destination := some d,
            server := some server } : Controller).stance = { c.stance with
            awaited := .handshake server.publicKey, generation := c.generation + 1
            server := some server, sent := c.sent ++ [.activate config] } :=
          congrArg (fun s : Stance => { s with
            awaited := .handshake server.publicKey, server := some server })
            (stance_send c.cancelTimers (.activate config))
        rw [stance_arm, stance_enter, hsent]
        exact Move.launch during (c.generation + 1) server config hp hstep ha
          (Nat.lt_succ_self _) hkey hvalid

/-- Off a portal, the last tunnel is asked for again or given up. -/
theorem reconnect_move (hp : c.phase = .captivePortal) (ha : c.awaited = .nothing)
    (hn : c.nextStep = .nothing) : Move i c.stance (c.reconnect around).stance := by
  unfold reconnect
  split
  · -- there was no tunnel before the portal
    have hw : c.stance.awaited = .disconnection → i.endsWait = true := by simp [ha]
    have hi : c.stance.phase = .initializing → i = .link (.message .backendFailure) := by
      simp [hp]
    exact finishOff_move (.refl _) hn hw hi
  · dsimp only
    rw [stance_restoreExit]
    refine startActivation_move _ (.inl rfl) (fun _ => ?_) (by simp [hp]) (by simp [ha]) hn
    rw [hp]
    rfl

theorem activate_moves (h : c.stance.Matched) (d : Destination) :
    Moves i c.stance (c.activate around d).2.stance := by
  unfold activate
  split
  · next hp =>
    have ha : c.awaited = .nothing := h.awaited_of_off hp
    split
    · -- a portal was seen, which is only told
      rw [stance_emit _ _ rfl]
      exact .refl
    · refine (startActivation_move d (.inl rfl) (fun _ => ?_) (by simp [hp]) (by simp [ha])
        (h.nextStep_eq (by simp [ha]))).moves
      rw [hp]
      rfl
  · exact .refl
  · exact .refl
  · exact .refl

theorem activateHeld_moves (h : c.stance.Matched) :
    Moves i c.stance (c.activateHeld around).stance := by
  unfold activateHeld
  split
  · next d _ => exact activate_moves (c := { c with held := none }) h d
  · exact .refl

/-! ## Taking a tunnel down -/

/-- `Ends i s₀ s`: the input ends what was waited for, and may go on from there. -/
def Ends (i : Input) (s₀ s : Stance) : Prop :=
  ∃ s₁, Move i s₀ s₁ ∧ s₁.awaited = .nothing ∧ s₀.generation < s₁.generation ∧ Moves i s₁ s

theorem Ends.moves {s : Stance} (h : Ends i s₀ s) : Moves i s₀ s := by
  obtain ⟨s₁, hfirst, -, -, hlater⟩ := h
  exact .head hfirst hlater

theorem Ends.generation_lt {s : Stance} (h : Ends i s₀ s) : s₀.generation < s.generation := by
  obtain ⟨s₁, -, -, hg, hlater⟩ := h
  exact Nat.lt_of_lt_of_le hg hlater.generation_le

theorem completeDisconnect_ends (h : Towards s₀ c.stance)
    (hw : s₀.awaited = .disconnection → i.endsWait = true)
    (hi : s₀.phase = .initializing → i = .link (.message .backendFailure)) :
    Ends i s₀ (c.completeDisconnect around).stance := by
  unfold completeDisconnect
  generalize hdown : ({ { c.cancelTimers with awaited := .nothing }.stopHealth around with
    connectedSince := none, nextStep := .nothing } : Controller) = down
  have hs : down.stance = { c.stance with
      awaited := .nothing, nextStep := .nothing, generation := c.generation + 1 } := by
    rw [← hdown]
    exact congrArg (fun s : Stance => { s with nextStep := .nothing })
      (stance_stopHealth { c.cancelTimers with awaited := .nothing } around)
  have hto : Towards s₀ down.stance := hs ▸ h.wait .nothing .nothing (Nat.le_succ _)
  have hg : s₀.generation < down.generation := by
    have hgen : down.generation = c.generation + 1 := congrArg Stance.generation hs
    rw [hgen]
    exact Nat.lt_succ_of_le h.generation
  have ha : down.awaited = .nothing := congrArg Stance.awaited hs
  have hn : down.nextStep = .nothing := congrArg Stance.nextStep hs
  -- whatever comes next, the tunnel counts as down first
  have hoff : Move i s₀ (down.stance.enter .off) :=
    (hto.enter Phase.leadsTo_off).rest (.inl rfl) ha hn hg hw hi
  dsimp only
  split
  · refine ⟨_, hoff, ha, hg, moves_of_stance_eq ?_⟩
    rw [stance_finish, stance_enter]
  · refine ⟨_, hoff, ha, hg, moves_of_stance_eq ?_⟩
    rw [stance_emit _ _ rfl, stance_enter]
  · split
    · next hportal =>
      have hrest : Move i s₀ down.stance := hto.rest (.inr hportal) ha hn hg hw hi
      refine ⟨_, hrest, ha, hg, ?_⟩
      split
      · exact .refl
      · exact (reconnect_move hportal ha hn).moves
    · refine ⟨_, hoff, ha, hg, ?_⟩
      rw [← stance_enter]
      refine activateHeld_moves ⟨?_, fun h => absurd ?_ h⟩
      · simp [ha, Phase.admits]
      · simpa using hn

/-- Whether or not the daemon can be asked, the timers that were armed before are
    worthless afterwards. -/
theorem beginDisconnect_moves {during : Phase} (h : c.stance = { s₀ with nextStep := c.nextStep })
    (hm : s₀.Matched) (hs : s₀.phase.isActive = true) (hi : i.endsWait = false)
    (hp : during = .disconnecting ∨ during = .captivePortal)
    (hstep : s₀.phase.leadsTo during = true) :
    Moves i s₀ (c.beginDisconnect around during).stance ∧
      s₀.generation < (c.beginDisconnect around during).generation := by
  unfold beginDisconnect
  generalize hstopped : (c.cancelTimers.stopHealth around).enter during = stopped
  have hstance : stopped.stance =
      { s₀.enter during with nextStep := c.nextStep, generation := s₀.generation + 1 } := by
    have hcancel : c.cancelTimers.stance =
        { s₀ with nextStep := c.nextStep, generation := s₀.generation + 1 } := by
      have hg : c.generation = s₀.generation := congrArg Stance.generation h
      rw [← hg]
      exact congrArg (fun s : Stance => { s with generation := c.generation + 1 }) h
    rw [← hstopped, stance_enter, stance_stopHealth, hcancel]
    rfl
  dsimp only
  split
  · -- the daemon is asked, and its answer is waited for
    have hsent : ({ stopped.perform (.send .deactivate) with
        awaited := .disconnection } : Controller).stance = { s₀.enter during with
        awaited := .disconnection, nextStep := c.nextStep, generation := s₀.generation + 1
        sent := s₀.sent ++ [.deactivate] } := by
      have hsend := stance_send stopped .deactivate
      rw [hstance] at hsend
      exact congrArg (fun s : Stance => { s with awaited := .disconnection }) hsend
    have harm := stance_arm ({ stopped.perform (.send .deactivate) with
        awaited := .disconnection } : Controller) .disconnect stopped.tuning.disconnectTimeout
    rw [hsent] at harm
    refine ⟨?_, ?_⟩
    · rw [harm]
      exact (Move.takeDown during (s₀.generation + 1) c.nextStep hp hs hstep hi
        (Nat.lt_succ_self _)).moves
    · rw [← stance_generation, harm]
      exact Nat.lt_succ_self _
  · -- the daemon cannot be asked, so the tunnel counts as down at once
    have hto : Towards s₀ stopped.stance := by
      rw [hstance]
      exact ((Towards.refl s₀).enter fun _ => hstep).wait _ _ (Nat.le_succ _)
    have hends : Ends i s₀ (stopped.completeDisconnect around).stance :=
      completeDisconnect_ends hto (fun h => absurd h (hm.awaited_ne_of_isActive hs))
        (fun h => by rw [h] at hs; exact absurd hs (by decide))
    exact ⟨hends.moves, hends.generation_lt⟩

/-- The same, for a tunnel that is given up. -/
theorem beginDisconnecting_moves (h : c.stance = { s₀ with nextStep := c.nextStep })
    (hm : s₀.Matched) (hs : s₀.phase.isActive = true) (hi : i.endsWait = false) :
    Moves i s₀ (c.beginDisconnect around .disconnecting).stance ∧
      s₀.generation < (c.beginDisconnect around .disconnecting).generation :=
  beginDisconnect_moves h hm hs hi (.inl rfl) (Phase.leadsTo_disconnecting hs)

theorem giveUpServer_moves (h : c.stance.Matched) (hp : c.phase.isActive = true)
    (hi : i.endsWait = false) (key : String) :
    Moves i c.stance (c.giveUpServer around key).stance ∧
      c.generation < (c.giveUpServer around key).generation := by
  refine beginDisconnecting_moves ?_ h hp hi
  exact stance_emit (c.coolDown around key) (.handshakeFailed key) rfl

theorem giveUpCity_moves (h : c.stance.Matched) (hp : c.phase.isActive = true)
    (hi : i.endsWait = false) : Moves i c.stance (c.giveUpCity around).stance :=
  (beginDisconnecting_moves (c := { c with nextStep := .serverUnavailable }) rfl h hp hi).1

/-! ## Requests of the user -/

theorem deactivate_moves (h : c.stance.Matched) (hi : i.endsWait = false) :
    Moves i c.stance (c.deactivate around).2.stance := by
  unfold deactivate
  dsimp only
  split
  · exact .refl
  · exact .refl
  · exact .refl
  · next hp =>
    split
    · next ha =>
      rw [stance_enter]
      exact (Move.divert ha hp).moves
    · next ha =>
      exact (finishOff_move (c := { c with held := none }) (.refl _) (h.nextStep_eq ha)
        (fun h => absurd h ha) (by simp [hp])).moves
  · next hoff hinit hdis hportal =>
    have hp : c.phase.isActive = true := Phase.isActive_of_ne hoff hinit hdis hportal
    exact (beginDisconnecting_moves (c := { c with held := none }) rfl h hp hi).1

theorem changeServer_moves (h : c.stance.Matched) (d : Destination) (silent : Bool) :
    Moves i c.stance (c.changeServer around d silent).2.stance := by
  unfold changeServer
  split
  · exact .refl
  · exact .refl
  · exact .refl
  · split <;> exact .refl
  · next hoff hinit hportal hdis =>
    have hp : c.phase.isActive = true := Phase.isActive_of_ne hoff hinit hdis hportal
    have ha : c.awaited ≠ .disconnection := h.awaited_ne_of_isActive hp
    have hstance : (c.stopHealth around).stance = c.stance := stance_stopHealth c around
    have hphase : (c.stopHealth around).phase = c.phase := congrArg Stance.phase hstance
    rw [← hstance]
    refine (startActivation_move d ?_ ?_ ?_ ?_ ?_).moves
    · cases silent <;> simp
    · rw [hphase]
      intro hne
      cases silent
      · exact Phase.leadsTo_switching hp hne
      · exact Phase.leadsTo_silentSwitching hp hne
    · rw [hphase]
      exact hinit
    · rw [← stance_awaited, hstance]
      exact ha
    · rw [← stance_nextStep, hstance]
      exact h.nextStep_eq ha

theorem silentSwitch_moves (h : c.stance.Matched) (hi : i.endsWait = false) :
    Moves i c.stance (c.silentSwitch around).2.stance := by
  unfold silentSwitch
  split
  · next d s hp _ _ =>
    split
    · exact .refl
    · dsimp only
      split
      · exact giveUpCity_moves (c := c.coolDown around s.publicKey) h (congrArg Phase.isActive hp)
          hi
      · exact changeServer_moves (c := c.coolDown around s.publicKey) h d true
  · exact .refl

theorem quit_moves (h : c.stance.Matched) (hi : i.endsWait = false) :
    Moves i c.stance (c.quit around).stance := by
  unfold quit
  dsimp only
  split
  · exact moves_of_stance_eq (stance_finish _)
  · exact moves_of_stance_eq (stance_finish _)
  · next hp => exact (Move.plan .quit (h.awaited_of_disconnecting hp)).moves
  · next hp =>
    split
    · next ha => exact (Move.plan .quit ha).moves
    · next ha =>
      rw [stance_finish]
      exact (finishOff_move (c := { c with held := none }) (.refl _) (h.nextStep_eq ha)
        (fun h => absurd h ha) (by simp [hp])).moves
  · next hoff hinit hdis hportal =>
    have hp : c.phase.isActive = true := Phase.isActive_of_ne hoff hinit hdis hportal
    exact (beginDisconnecting_moves (c := { c with held := none, nextStep := .quit }) rfl h hp
      hi).1

theorem portalDetected_moves (h : c.stance.Matched) (hi : i.endsWait = false) :
    Moves i c.stance (c.portalDetected around).stance := by
  unfold portalDetected
  split
  · next hp =>
    exact (beginDisconnect_moves (c := { c with portalSeen := true }) rfl h
      (congrArg Phase.isActive hp) hi (.inr rfl)
      (congrArg (Phase.leadsTo · .captivePortal) hp)).1
  · exact .refl
  · exact .refl

theorem portalGone_moves (h : c.stance.Matched) :
    Moves i c.stance (c.portalGone around).stance := by
  unfold portalGone
  dsimp only
  split
  · next hp =>
    exact (reconnect_move (c := { c with portalSeen := false }) hp.1
      (h.awaited_of_portal hp.1 hp.2) (h.nextStep_eq hp.2)).moves
  · exact .refl

theorem trySend_moves {r : Request} (hr : r.isOrder = false) :
    Moves i c.stance (c.trySend around r).stance := by
  unfold trySend
  split
  · rw [stance_send]
    exact (Move.ask r hr).moves
  · exact .refl

@[simp] theorem phase_trySend (r : Request) : (c.trySend around r).phase = c.phase := by
  unfold trySend
  split <;> rfl

theorem fetchLogs_moves (ticket : Nat) : Moves i c.stance (c.fetchLogs around ticket).stance := by
  unfold fetchLogs
  split
  · have hmove := Move.ask (i := i) (s := c.stance) .logs rfl
    rw [← stance_send] at hmove
    exact hmove.moves
  · refine moves_of_stance_eq ?_
    rw [stance_perform]
    simp [stance]

@[simp] theorem phase_fetchLogs (ticket : Nat) : (c.fetchLogs around ticket).phase = c.phase := by
  unfold fetchLogs
  split <;> rfl

theorem requestStatus_moves : Moves i c.stance (c.requestStatus around).stance := by
  unfold requestStatus
  split
  · exact trySend_moves rfl
  · exact .refl

@[simp] theorem phase_requestStatus : (c.requestStatus around).phase = c.phase := by
  unfold requestStatus
  split
  · exact phase_trySend _
  · rfl

/-! ## The link to the daemon -/

theorem onReady_moves : Moves (.link .ready) c.stance (c.onReady around).stance := by
  unfold onReady
  split
  · have hask := Move.ask (i := .link .ready) (s := c.stance) .status rfl
    rw [← stance_send] at hask
    exact .tail hask.moves (Move.mark true fun _ => rfl)
  · exact (Move.mark false fun h => absurd h Bool.false_ne_true).moves

@[simp] theorem phase_onReady : (c.onReady around).phase = c.phase := by
  unfold onReady
  split <;> rfl

theorem onLost_moves (h : c.stance.Matched) :
    Moves (.link .lost) c.stance (c.onLost around).stance := by
  unfold onLost
  generalize hcut : ({ c with awaitingFirstStatus := false } : Controller).dropLogFetches = cut
  have hmark : Moves (.link .lost) c.stance cut.stance := by
    rw [← hcut, stance_dropLogFetches]
    exact (Move.mark false fun h => absurd h Bool.false_ne_true).moves
  have hfirst : cut.awaitingFirstStatus = false := by
    rw [← stance_awaitingFirst, ← hcut, stance_dropLogFetches]
    rfl
  have hm : cut.stance.Matched := hmark.matched h
  refine hmark.trans ?_
  dsimp only
  split
  · next hp =>
    have hlearn : Move (.link .lost) cut.stance (cut.enter .off).stance := by
      rw [stance_enter]
      exact .learn rfl hfirst hp
    split
    · rw [stance_emit _ _ rfl]
      exact hlearn.moves
    · exact hlearn.moves
  · exact .refl
  · next hinit _ =>
    -- past the first phase only a wait or a tunnel can be cut off
    have hi : cut.stance.phase = .initializing →
        Input.link .lost = .link (.message .backendFailure) := fun h => absurd h hinit
    split
    · exact (completeDisconnect_ends (.refl _) (fun _ => rfl) hi).moves
    · next ha =>
      rw [stance_emit _ _ rfl]
      exact (finishOff_move (.refl _) (hm.nextStep_eq ha) (fun _ => rfl) hi).moves

/-- The connection once it has heard of the handshake, before it asks the daemon. -/
def heard (c : Controller) (key : String) : Controller :=
  let c := { c.cancelTimers with awaited := .confirmation key }
  if c.phase = .connecting then c.enter .confirming else c

theorem onConnected_eq {key : String} (ha : c.awaited = .handshake key) :
    c.onConnected around key = match around.accepts .status with
      | .ok () => ((c.heard key).perform (.send .status)).arm .confirm
          (c.heard key).tuning.confirmTimeout
      | .error _ => ((c.heard key).finishOff around).emit .backendFailure := by
  rw [onConnected, if_pos ha]
  rfl

theorem stance_heard (key : String) : (c.heard key).stance =
    { c.stance.enter (if c.phase = .connecting then .confirming else c.phase) with
      awaited := .confirmation key, generation := c.generation + 1 } := by
  unfold heard
  dsimp only
  split
  · next hp =>
    have hp' : c.phase = .connecting := hp
    rw [if_pos hp', stance_enter]
    rfl
  · next hp =>
    have hp' : ¬ c.phase = .connecting := hp
    rw [if_neg hp', Stance.enter, stance_phase, Phase.stepTo_self, List.append_nil]
    rfl

theorem onConnected_moves (h : c.stance.Matched) (key : String) :
    Moves (.link (.message (.connected key))) c.stance (c.onConnected around key).stance := by
  by_cases ha : c.awaited = .handshake key
  · rw [onConnected_eq ha]
    split
    · rw [stance_arm, stance_send, stance_heard]
      exact (Move.shake key (c.generation + 1) rfl ha (Nat.lt_succ_self _)).moves
    · -- the daemon cannot be asked: the new wait is over before it has begun
      have hto : Towards c.stance (c.heard key).stance := by
        rw [stance_heard]
        refine (Towards.enter (.refl c.stance) ?_).wait _ _ (Nat.le_succ _)
        intro hne
        by_cases hp : c.phase = .connecting
        · simp [hp, Phase.leadsTo]
        · simp [hp] at hne
      have hn : (c.heard key).nextStep = .nothing := by
        rw [← stance_nextStep, stance_heard]
        exact h.nextStep_eq (by simp [ha])
      rw [stance_emit _ _ rfl]
      refine (finishOff_move hto hn (by simp [ha]) fun hp => ?_).moves
      exact absurd hp (h.phase_ne_initializing (by simp [ha]))
  · rw [onConnected, if_neg ha]

/-- A wait for the end of the tunnel ends; any other attempt is given up. -/
theorem onDisconnected_moves (h : c.stance.Matched) :
    Moves (.link (.message .disconnected)) c.stance (c.onDisconnected around).stance := by
  have hoff : c.awaited ≠ .disconnection → c.phase ≠ .initializing →
      Moves (.link (.message .disconnected)) c.stance (c.finishOff around).stance := fun ha hp =>
    (finishOff_move (.refl _) (h.nextStep_eq ha) (fun _ => rfl) fun h => absurd h hp).moves
  have hinit : c.awaited ≠ .nothing → c.phase ≠ .initializing := h.phase_ne_initializing
  unfold onDisconnected
  split
  · next ha =>
    exact (completeDisconnect_ends (.refl _) (fun _ => rfl)
      fun hp => absurd hp (hinit (by simp [ha]))).moves
  · next ha => exact hoff (by simp [ha]) (hinit (by simp [ha]))
  · next ha => exact hoff (by simp [ha]) (hinit (by simp [ha]))
  · next ha =>
    split
    · exact .refl
    · exact .refl
    · exact .refl
    · next hp _ => exact hoff (by simp [ha]) hp

/-- A tunnel that was up is given up. -/
theorem onDisconnected_of_on (around : Surroundings) (h : c.stance.Matched) (hp : c.phase = .on) :
    (c.onDisconnected around).phase = .off := by
  have ha : c.awaited = .nothing := h.awaited_of_on hp
  rw [onDisconnected, ha, hp]
  exact phase_finishOff c around

/-- A tunnel that was up is given up without the daemon. -/
theorem onLost_of_on (around : Surroundings) (h : c.stance.Matched) (hp : c.phase = .on) :
    (c.onLost around).phase = .off := by
  have ha : c.awaited = .nothing := h.awaited_of_on hp
  unfold onLost
  generalize hcut : ({ c with awaitingFirstStatus := false } : Controller).dropLogFetches = cut
  have hstance : cut.stance = { c.stance with awaitingFirst := false } := by
    rw [← hcut, stance_dropLogFetches]
    rfl
  have hphase : cut.phase = .on := (congrArg Stance.phase hstance).trans hp
  have hawaited : cut.awaited = .nothing := (congrArg Stance.awaited hstance).trans ha
  simp only [hphase, hawaited, reduceCtorEq, if_false]
  exact phase_finishOff cut around

/-- The connection once the first status has settled whether a tunnel is up. -/
def settled (c : Controller) (around : Surroundings) (s : StatusReport) : Controller :=
  if s.connected ∧ (c.phase = .initializing ∨ c.phase = .off) then
    { { c with connectedSince := some s.date.toNat }.startHealth around
        (Net.Address.read? s.gatewayV4) with lastStatus := some s }.enter .on
  else if c.phase = .initializing then c.enter .off
  else c

theorem onFirstStatus_eq (s : StatusReport) : c.onFirstStatus around s =
    match (c.settled around s).held with
    | none => c.settled around s
    | some d => match (c.settled around s).phase with
      | .off => (({ c.settled around s with held := none } : Controller).activate around d).2
      | .on =>
        (({ c.settled around s with held := none } : Controller).changeServer around d false).2
      | _ => { c.settled around s with held := none } := rfl

theorem settled_moves (around : Surroundings) (hf : c.awaitingFirstStatus = true)
    (s : StatusReport) :
    Moves (.link (.message (.status s))) c.stance
      (({ c with awaitingFirstStatus := false } : Controller).settled around s).stance := by
  have hmark : Moves (.link (.message (.status s))) c.stance
      ({ c with awaitingFirstStatus := false } : Controller).stance :=
    (Move.mark false fun h => absurd h Bool.false_ne_true).moves
  unfold settled
  split
  · next hup =>
    have hadopt := Move.adopt (s := c.stance) s rfl hup.1 hf hup.2
    have hstart := stance_startHealth ({ c with
      awaitingFirstStatus := false, connectedSince := some s.date.toNat } : Controller) around
      (Net.Address.read? s.gatewayV4)
    rw [stance_enter]
    refine Move.moves ?_
    convert hadopt using 1
    exact congrArg (Stance.enter · .on) hstart
  · split
    · next hp =>
      rw [stance_enter]
      exact hmark.tail (Move.learn rfl rfl hp)
    · exact hmark

theorem onFirstStatus_moves (h : c.stance.Matched) (hf : c.awaitingFirstStatus = true)
    (s : StatusReport) :
    Moves (.link (.message (.status s))) c.stance
      (({ c with awaitingFirstStatus := false } : Controller).onFirstStatus around s).stance := by
  have hfirst := settled_moves around hf s
  have hm := hfirst.matched h
  -- the held destination comes after the status, from the phase that it led to
  refine hfirst.trans ?_
  rw [onFirstStatus_eq]
  generalize ({ c with awaitingFirstStatus := false } : Controller).settled around s = mid at hm ⊢
  split
  · exact .refl
  · next d _ =>
    split
    · exact activate_moves (c := { mid with held := none }) hm d
    · exact changeServer_moves (c := { mid with held := none }) hm d false
    · exact .refl

theorem stance_confirm (s : StatusReport) : (c.confirm around s).stance =
    { c.stance.enter .on with awaited := .nothing, generation := c.generation + 1 } := by
  unfold confirm
  dsimp only
  rw [stance_enter]
  exact congrArg (Stance.enter · .on) (stance_startHealth _ _ _)

theorem onStatus_moves (h : c.stance.Matched) (s : StatusReport) :
    Moves (.link (.message (.status s))) c.stance (c.onStatus around s).stance := by
  unfold onStatus
  split
  · next hf => exact onFirstStatus_moves h hf s
  · split
    · next key ha =>
      have hactive : c.phase.isActive = true := h.isActive_of_confirmation ha
      split
      · next hup =>
        have hon : c.phase.leadsTo .on = true := by
          rcases h.phase_of_confirmation ha with hp | hp | hp <;> rw [stance_phase] at hp <;>
            rw [hp] <;> rfl
        rw [stance_confirm]
        exact (Move.confirm s key _ rfl hup ha hon (Nat.lt_succ_self _)).moves
      · exact (giveUpServer_moves h hactive rfl key).1
    · refine moves_of_stance_eq ?_
      exact stance_emit c (.statusUpdated s.txBytes s.rxBytes) rfl

theorem onLogs_moves (text : String) : Moves i c.stance (c.onLogs text).stance := by
  unfold onLogs
  split
  · next ticket rest _ =>
    refine moves_of_stance_eq ?_
    rw [stance_perform]
    simp [stance, told, armed, sent]
  · exact .refl

@[simp] theorem phase_onLogs (text : String) : (c.onLogs text).phase = c.phase := by
  unfold onLogs
  split <;> rfl

theorem onBackendFailure_moves (h : c.stance.Matched) :
    Moves (.link (.message .backendFailure)) c.stance (c.onBackendFailure around).stance := by
  unfold onBackendFailure
  rw [stance_emit _ _ rfl]
  split
  · exact .refl
  · next ha =>
    exact (finishOff_move (.refl _) (h.nextStep_eq ha) (fun h => absurd h ha)
      (fun _ => rfl)).moves

theorem onLink_moves (h : c.stance.Matched) (e : LinkEvent) :
    Moves (.link e) c.stance (c.onLink around e).stance := by
  cases e with
  | ready => exact onReady_moves
  | lost => exact onLost_moves h
  | message r =>
      cases r with
      | connected key => exact onConnected_moves h key
      | disconnected => exact onDisconnected_moves h
      | status s => exact onStatus_moves h s
      | logs text => exact onLogs_moves text
      | backendFailure => exact onBackendFailure_moves h

/-! ## Timers and probes -/

/-- A timer of the current generation ends the wait that it limits. -/
theorem onTimer_advances (h : c.stance.Matched) {token : TimerToken}
    (hg : token.generation = c.generation) (hk : c.awaited.timer? = some token.kind) :
    Moves (.timer token) c.stance (c.onTimer around token).stance ∧
      c.generation < (c.onTimer around token).generation := by
  obtain ⟨kind, generation⟩ := token
  unfold onTimer
  rw [if_pos hg]
  cases ha : c.awaited with
  | nothing =>
      rw [ha] at hk
      cases hk
  | handshake key =>
      rw [ha] at hk
      cases hk
      exact giveUpServer_moves h (h.isActive_of_handshake ha) rfl key
  | confirmation key =>
      rw [ha] at hk
      cases hk
      exact giveUpServer_moves h (h.isActive_of_confirmation ha) rfl key
  | disconnection =>
      rw [ha] at hk
      cases hk
      have hends : Ends (.timer ⟨.disconnect, generation⟩) c.stance
          (c.completeDisconnect around).stance :=
        completeDisconnect_ends (.refl _) (fun _ => rfl)
          fun hp => absurd hp (h.phase_ne_initializing (by simp [ha]))
      exact ⟨hends.moves, hends.generation_lt⟩

/-- Any other timer does nothing. -/
theorem onTimer_eq_self {token : TimerToken}
    (h : token.generation = c.generation → c.awaited.timer? ≠ some token.kind) :
    c.onTimer around token = c := by
  unfold onTimer
  split
  · next hg =>
    have hk := h hg
    split <;> simp_all [Awaited.timer?]
  · rfl

theorem onTimer_moves (h : c.stance.Matched) (token : TimerToken) :
    Moves (.timer token) c.stance (c.onTimer around token).stance := by
  by_cases hlive : token.generation = c.generation ∧ c.awaited.timer? = some token.kind
  · exact (onTimer_advances h hlive.1 hlive.2).1
  · rw [onTimer_eq_self fun hg hk => hlive ⟨hg, hk⟩]

theorem probeTick_moves : Moves i c.stance (c.probeTick around).stance := by
  unfold probeTick
  split
  · split
    · split
      · refine moves_of_stance_eq ?_
        rw [stance_perform]
        simp [stance, told, armed, sent]
      · exact .refl
    · exact .refl
  · exact .refl

@[simp] theorem phase_probeTick : (c.probeTick around).phase = c.phase := by
  unfold probeTick
  split
  · split
    · split <;> rfl
    · rfl
  · rfl

theorem onProbeReply_moves (r : ProbeReply) : Moves i c.stance (c.onProbeReply r).stance := by
  unfold onProbeReply
  split
  · split <;> exact .refl
  · exact .refl

@[simp] theorem phase_onProbeReply (r : ProbeReply) : (c.onProbeReply r).phase = c.phase := by
  unfold onProbeReply
  split
  · split <;> rfl
  · rfl

theorem checkup_moves (h : c.stance.Matched) (hi : i.endsWait = false) :
    Moves i c.stance (c.checkup around).stance := by
  have hstance := stance_emitStability { c with health := (c.health.checkup around.now).2 }
    (c.health.checkup around.now).1
  unfold checkup
  dsimp only
  generalize ({ c with health := (c.health.checkup around.now).2 } : Controller).emitStability
    (c.health.checkup around.now).1 = checked at hstance ⊢
  have heq : checked.stance = c.stance := hstance
  split
  · rw [← heq]
    exact silentSwitch_moves (heq ▸ h) hi
  · exact moves_of_stance_eq heq

/-! ## Every input -/

/-- What an input does is a chain of moves. -/
theorem handle_moves (around : Surroundings) (h : c.stance.Matched) (i : Input) :
    Moves i c.stance (c.handle around i).stance := by
  cases i with
  | activate d => exact activate_moves h d
  | deactivate => exact deactivate_moves h rfl
  | changeServer d silent => exact changeServer_moves h d silent
  | silentSwitch => exact silentSwitch_moves h rfl
  | quit => exact quit_moves h rfl
  | portal present =>
      cases present with
      | true => exact portalDetected_moves h rfl
      | false => exact portalGone_moves h
  | fetchLogs ticket => exact fetchLogs_moves ticket
  | cleanLogs => exact trySend_moves rfl
  | requestStatus => exact requestStatus_moves
  | link e => exact onLink_moves h e
  | timer token => exact onTimer_moves h token
  | probeTick => exact probeTick_moves
  | probeReply r => exact onProbeReply_moves r
  | checkup => exact checkup_moves h rfl

theorem handle_matched (h : c.stance.Matched) (i : Input) :
    (c.handle around i).stance.Matched :=
  (handle_moves around h i).matched h

end Controller

end TunnelSession
