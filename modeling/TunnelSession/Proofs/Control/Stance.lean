/-
  TunnelSession.Proofs.Control.Stance

  What the laws of the connection speak about: its stance. The stance keeps, of
  the whole state, the phase, what is waited for and what is done next, and of
  the outbox the phases that were told, the timers that were armed and the
  requests that were sent. The health of the tunnel, the registry and the texts
  play no part in it, and the small moves below show as record updates.
-/
import TunnelSession.Control.Inputs
import TunnelSession.Proofs.Control.Diagram
import TunnelSession.Proofs.Wire.Requests

namespace TunnelSession

/-! ## What an effect shows -/

namespace Effect

/-- The phase that an effect tells of. -/
@[simp] def phase? : Effect → Option Phase
  | emit (.phaseChanged p) => some p
  | _ => none

/-- The timer that an effect arms. -/
@[simp] def token? : Effect → Option TimerToken
  | arm t _ => some t
  | _ => none

/-- The request that an effect sends. -/
@[simp] def request? : Effect → Option Request
  | send r => some r
  | _ => none

end Effect

/-! ## Stances -/

/-- What the laws of the connection speak about. -/
structure Stance where
  phase : Phase
  awaited : Awaited
  generation : Nat
  nextStep : NextStep
  server : Option Server
  awaitingFirst : Bool
  /-- The phases that were told, the latest last. -/
  told : List Phase
  /-- The timers that were armed, the latest last. -/
  armed : List TimerToken
  /-- The requests that were sent, the latest last. -/
  sent : List Request

/-- Enters a phase, and tells so if it is another one. -/
@[simp] def Stance.enter (s : Stance) (p : Phase) : Stance :=
  { s with phase := p, told := s.told ++ s.phase.stepTo p }

/-- `s.Follows s₀`: what was told since `s₀` is a path from its phase to that of `s`. -/
def Stance.Follows (s s₀ : Stance) : Prop :=
  ∃ new, s.told = s₀.told ++ new ∧ Phase.IsPath s₀.phase new s.phase

namespace Stance.Follows

variable {s₀ s s' : Stance}

theorem refl (s : Stance) : s.Follows s :=
  ⟨[], (List.append_nil _).symm, rfl⟩

theorem trans (h : s.Follows s₀) (h' : s'.Follows s) : s'.Follows s₀ := by
  obtain ⟨new, htold, hpath⟩ := h
  obtain ⟨new', htold', hpath'⟩ := h'
  refine ⟨new ++ new', ?_, hpath.append hpath'⟩
  rw [htold', htold, List.append_assoc]

theorem enter (h : s.Follows s₀) {p : Phase} (hp : s.phase ≠ p → s.phase.leadsTo p = true) :
    (s.enter p).Follows s₀ :=
  h.trans ⟨s.phase.stepTo p, rfl, Phase.isPath_stepTo hp⟩

end Stance.Follows

namespace Controller

variable (c : Controller) (around : Surroundings)

/-- The phases that were told, the latest last. -/
def told : List Phase := c.outbox.filterMap Effect.phase?

/-- The timers that were armed, the latest last. -/
def armed : List TimerToken := c.outbox.filterMap Effect.token?

/-- The requests that were sent, the latest last. -/
def sent : List Request := c.outbox.filterMap Effect.request?

/-- The stance of the connection. -/
def stance : Stance where
  phase := c.phase
  awaited := c.awaited
  generation := c.generation
  nextStep := c.nextStep
  server := c.server
  awaitingFirst := c.awaitingFirstStatus
  told := c.told
  armed := c.armed
  sent := c.sent

@[simp] theorem stance_phase : c.stance.phase = c.phase := rfl
@[simp] theorem stance_awaited : c.stance.awaited = c.awaited := rfl
@[simp] theorem stance_generation : c.stance.generation = c.generation := rfl
@[simp] theorem stance_nextStep : c.stance.nextStep = c.nextStep := rfl
@[simp] theorem stance_awaitingFirst : c.stance.awaitingFirst = c.awaitingFirstStatus := rfl
@[simp] theorem stance_sent : c.stance.sent = c.sent := rfl

/-! ## What the small moves do to the stance -/

@[simp] theorem stance_perform (e : Effect) : (c.perform e).stance =
    { c.stance with
      told := c.told ++ e.phase?.toList
      armed := c.armed ++ e.token?.toList
      sent := c.sent ++ e.request?.toList } := by
  cases e with
  | emit e => cases e <;> simp [perform, stance, told, armed, sent]
  | _ => simp [perform, stance, told, armed, sent]

theorem stance_send (r : Request) :
    (c.perform (.send r)).stance = { c.stance with sent := c.stance.sent ++ [r] } := by
  rw [stance_perform]
  simp [stance]

theorem stance_arm (kind : TimerKind) (delay : Nat) : (c.arm kind delay).stance =
    { c.stance with armed := c.stance.armed ++ [⟨kind, c.stance.generation⟩] } := by
  rw [arm, stance_perform]
  simp [stance]

/-- News that tell of no phase leave the stance as it is. -/
@[simp] theorem stance_emit (e : SessionEvent) (h : (Effect.emit e).phase? = none) :
    (c.emit e).stance = c.stance := by
  rw [emit, stance_perform, h]
  simp [stance]

@[simp] theorem stance_enter (p : Phase) : (c.enter p).stance = c.stance.enter p := by
  unfold enter Stance.enter Phase.stepTo
  split
  · next h => simp [stance, h]
  · next h =>
    rw [emit, stance_perform]
    simp [stance, told, armed, sent, h]

@[simp] theorem stance_emitStability (s : Option Stability) :
    (c.emitStability s).stance = c.stance := by
  cases s with
  | none => rfl
  | some s => exact stance_emit c (.stabilityChanged s) rfl

@[simp] theorem stance_stopHealth : (c.stopHealth around).stance = c.stance :=
  stance_emitStability { c with health := (c.health.stop around.now).2 } _

@[simp] theorem stance_startHealth (target : Option Net.Address) :
    (c.startHealth around target).stance = c.stance := by
  cases target <;> rfl

@[simp] theorem stance_restoreExit (exit : Option String) :
    (c.restoreExit exit).stance = c.stance := rfl

@[simp] theorem stance_finish : c.finish.stance = c.stance :=
  stance_emit { c with finished := true } .readyToQuit rfl

/-- To answer all fetches of the log changes nothing that one answer leaves alone. -/
theorem dropLogFetches_keeps {α : Type} {f : Controller → α}
    (hlet : f { c with logFetches := [] } = f c)
    (hanswer : ∀ d ticket, f (d.perform (.giveLogs ticket "")) = f d) :
    f c.dropLogFetches = f c := by
  refine List.foldlRecOn (motive := fun d => f d = f c) c.logFetches _ hlet ?_
  intro d hd ticket _
  exact (hanswer d ticket).trans hd

@[simp] theorem stance_dropLogFetches : c.dropLogFetches.stance = c.stance := by
  apply dropLogFetches_keeps c rfl
  intro d ticket
  rw [stance_perform]
  simp [stance]

theorem stance_finishOff : (c.finishOff around).stance =
    { c.stance.enter .off with awaited := .nothing, generation := c.generation + 1 } := by
  have h : ∀ d : Controller, d.stance = { c.stance with
      awaited := .nothing, generation := c.generation + 1 } →
      ({ d with connectedSince := none }.enter .off).stance =
        { c.stance.enter .off with awaited := .nothing, generation := c.generation + 1 } := by
    intro d hd
    rw [stance_enter]
    exact congrArg (Stance.enter · .off) hd
  exact h _ (stance_stopHealth _ _)

/-! ### Phases and requests alone -/

@[simp] theorem phase_enter (p : Phase) : (c.enter p).phase = p :=
  congrArg Stance.phase (stance_enter c p)

@[simp] theorem sent_enter (p : Phase) : (c.enter p).sent = c.sent :=
  congrArg Stance.sent (stance_enter c p)

@[simp] theorem sent_emit (e : SessionEvent) : (c.emit e).sent = c.sent :=
  (congrArg Stance.sent (stance_perform c (.emit e))).trans (List.append_nil _)

@[simp] theorem phase_emitStability (s : Option Stability) :
    (c.emitStability s).phase = c.phase :=
  congrArg Stance.phase (stance_emitStability c s)

@[simp] theorem phase_stopHealth : (c.stopHealth around).phase = c.phase :=
  congrArg Stance.phase (stance_stopHealth c around)

@[simp] theorem sent_stopHealth : (c.stopHealth around).sent = c.sent :=
  congrArg Stance.sent (stance_stopHealth c around)

@[simp] theorem sent_startHealth (target : Option Net.Address) :
    (c.startHealth around target).sent = c.sent :=
  congrArg Stance.sent (stance_startHealth c around target)

@[simp] theorem phase_finishOff : (c.finishOff around).phase = .off :=
  congrArg Stance.phase (stance_finishOff c around)

@[simp] theorem sent_finishOff : (c.finishOff around).sent = c.sent :=
  congrArg Stance.sent (stance_finishOff c around)

end Controller

end TunnelSession
