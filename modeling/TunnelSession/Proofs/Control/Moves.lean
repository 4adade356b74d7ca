/-
  TunnelSession.Proofs.Control.Moves

  What one input can do to the stance of the connection. Every handler is a chain
  of moves: most inputs make none or one, and an input that ends a wait may first
  come to rest and then go on to the next attempt.

  The moves say all there is to say about a step; the laws about the phases, the
  timers and the requests are read off them, move by move.
-/
import TunnelSession.Proofs.Control.Stance
import Mathlib.Logic.Relation

namespace TunnelSession

open Controller (Input)
open Phase (IsPath)

/-! ## Kinds of inputs -/

/-- Whether an input comes from the link. -/
@[simp] def Controller.Input.isLink : Input → Bool
  | .link _ => true
  | _ => false

/-- Whether an input can end the wait for the end of a tunnel. -/
@[simp] def Controller.Input.endsWait : Input → Bool
  | .link .lost | .link (.message .disconnected) => true
  | .timer token => token.kind == .disconnect
  | _ => false

/-! ## Moves -/

/-- What one input can do to a stance. -/
inductive Move (i : Input) (s : Stance) : Stance → Prop
  /-- Sends a request that leaves the tunnel alone. -/
  | ask (r : Request) (hr : r.isOrder = false) : Move i s { s with sent := s.sent ++ [r] }
  /-- Starts or stops to count the next status as the first one. -/
  | mark (first : Bool) (hi : first = true → i = .link .ready) :
      Move i s { s with awaitingFirst := first }
  /-- Decides what happens once the tunnel is down. -/
  | plan (next : NextStep) (ha : s.awaited = .disconnection) : Move i s { s with nextStep := next }
  /-- No longer takes the tunnel down for the sake of a portal. -/
  | divert (ha : s.awaited = .disconnection) (hp : s.phase = .captivePortal) :
      Move i s (s.enter .disconnecting)
  /-- Learns that no tunnel is up. -/
  | learn (hi : i.isLink = true) (hf : s.awaitingFirst = false) (hp : s.phase = .initializing) :
      Move i s (s.enter .off)
  /-- Takes a tunnel over that is already up. -/
  | adopt (r : StatusReport) (hi : i = .link (.message (.status r))) (hr : r.connected = true)
      (hf : s.awaitingFirst = true) (hp : s.phase = .initializing ∨ s.phase = .off) :
      Move i s { s.enter .on with awaitingFirst := false }
  /-- Comes to rest, with nothing left to wait for. -/
  | rest (p : Phase) (new : List Phase) (g : Nat) (hp : p = .off ∨ p = .captivePortal)
      (hnew : IsPath s.phase new p) (hg : s.generation < g)
      (hw : s.awaited = .disconnection → i.endsWait = true)
      (hi : s.phase = .initializing → i = .link (.message .backendFailure)) :
      Move i s { s with
        phase := p, awaited := .nothing, nextStep := .nothing, generation := g
        told := s.told ++ new }
  /-- Asks for a tunnel. -/
  | launch (p : Phase) (g : Nat) (server : Server) (config : TunnelConfig)
      (hp : p = .connecting ∨ p = .switching ∨ p = .silentSwitching)
      (hstep : s.phase ≠ p → s.phase.leadsTo p = true) (ha : s.awaited ≠ .disconnection)
      (hg : s.generation < g) (hkey : config.serverKey = server.publicKey)
      (hvalid : config.validate = .ok ()) :
      Move i s { s.enter p with
        awaited := .handshake server.publicKey, generation := g, server := some server
        armed := s.armed ++ [⟨.handshake, g⟩], sent := s.sent ++ [.activate config] }
  /-- Hears of the handshake, and asks whether the tunnel is up. -/
  | shake (key : String) (g : Nat) (hi : i = .link (.message (.connected key)))
      (ha : s.awaited = .handshake key) (hg : s.generation < g) :
      Move i s { s.enter (if s.phase = .connecting then .confirming else s.phase) with
        awaited := .confirmation key, generation := g
        armed := s.armed ++ [⟨.confirm, g⟩], sent := s.sent ++ [.status] }
  /-- Hears that the tunnel is up. -/
  | confirm (r : StatusReport) (key : String) (g : Nat) (hi : i = .link (.message (.status r)))
      (hr : r.connected = true) (ha : s.awaited = .confirmation key)
      (hp : s.phase.leadsTo .on = true) (hg : s.generation < g) :
      Move i s { s.enter .on with awaited := .nothing, generation := g }
  /-- Asks for the end of the tunnel. -/
  | takeDown (p : Phase) (g : Nat) (next : NextStep) (hp : p = .disconnecting ∨ p = .captivePortal)
      (hs : s.phase.isActive = true) (hstep : s.phase.leadsTo p = true)
      (hi : i.endsWait = false) (hg : s.generation < g) :
      Move i s { s.enter p with
        awaited := .disconnection, nextStep := next, generation := g
        armed := s.armed ++ [⟨.disconnect, g⟩], sent := s.sent ++ [.deactivate] }

/-- What one input can do to a stance in several moves. -/
abbrev Moves (i : Input) : Stance → Stance → Prop := Relation.ReflTransGen (Move i)

theorem Move.moves {i : Input} {s s' : Stance} (h : Move i s s') : Moves i s s' :=
  .single h

/-- What every move keeps, several moves keep. -/
theorem Moves.keeps {i : Input} {s s' : Stance} {P : Stance → Prop}
    (hstep : ∀ s s', Move i s s' → P s → P s') (h : Moves i s s') (hs : P s) : P s' := by
  induction h with
  | refl => exact hs
  | tail _ hmove ih => exact hstep _ _ hmove ih

/-! ## Phases and what is waited for -/

/-- What may be waited for in a phase. -/
def Phase.admits : Phase → Awaited → Bool
  | initializing, .nothing | off, .nothing | on, .nothing => true
  | connecting, .handshake _ => true
  | confirming, .confirmation _ => true
  | switching, .handshake _ | switching, .confirmation _ => true
  | silentSwitching, .handshake _ | silentSwitching, .confirmation _ => true
  | disconnecting, .disconnection => true
  | captivePortal, .disconnection | captivePortal, .nothing => true
  | _, _ => false

/-- The timer that limits a wait. -/
def Awaited.timer? : Awaited → Option TimerKind
  | nothing => none
  | handshake _ => some .handshake
  | confirmation _ => some .confirm
  | disconnection => some .disconnect

/-- A stance whose phase, wait and next step go together. -/
structure Stance.Matched (s : Stance) : Prop where
  admits : s.phase.admits s.awaited = true
  planned : s.nextStep ≠ .nothing → s.awaited = .disconnection

namespace Stance.Matched

variable {s : Stance} {key : String}

theorem nextStep_eq (h : s.Matched) (ha : s.awaited ≠ .disconnection) : s.nextStep = .nothing :=
  Decidable.not_not.mp fun hn => ha (h.planned hn)

/-- What is waited for, and the phases in which it is. -/
theorem cases (h : s.Matched) :
    s.awaited = .nothing ∧ (s.phase = .initializing ∨ s.phase = .off ∨ s.phase = .on ∨
      s.phase = .captivePortal) ∨
    (∃ key, s.awaited = .handshake key) ∧ (s.phase = .connecting ∨ s.phase = .switching ∨
      s.phase = .silentSwitching) ∨
    (∃ key, s.awaited = .confirmation key) ∧ (s.phase = .confirming ∨ s.phase = .switching ∨
      s.phase = .silentSwitching) ∨
    s.awaited = .disconnection ∧ (s.phase = .disconnecting ∨ s.phase = .captivePortal) := by
  have hadm := h.admits
  cases ha : s.awaited <;> cases hp : s.phase <;> rw [ha, hp] at hadm <;> simp_all [Phase.admits]

theorem awaited_of_initializing (h : s.Matched) (hp : s.phase = .initializing) :
    s.awaited = .nothing := by
  simpa [hp] using h.cases

theorem awaited_of_off (h : s.Matched) (hp : s.phase = .off) : s.awaited = .nothing := by
  simpa [hp] using h.cases

theorem awaited_of_on (h : s.Matched) (hp : s.phase = .on) : s.awaited = .nothing := by
  simpa [hp] using h.cases

theorem awaited_of_disconnecting (h : s.Matched) (hp : s.phase = .disconnecting) :
    s.awaited = .disconnection := by
  simpa [hp] using h.cases

theorem awaited_of_portal (h : s.Matched) (hp : s.phase = .captivePortal)
    (hne : s.awaited ≠ .disconnection) : s.awaited = .nothing := by
  simpa [hp, hne] using h.cases

theorem phase_of_handshake (h : s.Matched) (ha : s.awaited = .handshake key) :
    s.phase = .connecting ∨ s.phase = .switching ∨ s.phase = .silentSwitching := by
  simpa [ha] using h.cases

theorem phase_of_confirmation (h : s.Matched) (ha : s.awaited = .confirmation key) :
    s.phase = .confirming ∨ s.phase = .switching ∨ s.phase = .silentSwitching := by
  simpa [ha] using h.cases

theorem phase_of_disconnection (h : s.Matched) (ha : s.awaited = .disconnection) :
    s.phase = .disconnecting ∨ s.phase = .captivePortal := by
  simpa [ha] using h.cases

/-- Nothing is waited for before the first status. -/
theorem phase_ne_initializing (h : s.Matched) (ha : s.awaited ≠ .nothing) :
    s.phase ≠ .initializing :=
  fun hp => ha (h.awaited_of_initializing hp)

/-- While a tunnel is up or on its way up, its end is not waited for. -/
theorem awaited_ne_of_isActive (h : s.Matched) (hp : s.phase.isActive = true) :
    s.awaited ≠ .disconnection := by
  intro ha
  rcases h.phase_of_disconnection ha with hd | hd <;> rw [hd] at hp <;> exact absurd hp (by decide)

theorem isActive_of_handshake (h : s.Matched) (ha : s.awaited = .handshake key) :
    s.phase.isActive = true := by
  rcases h.phase_of_handshake ha with hp | hp | hp <;> rw [hp] <;> rfl

theorem isActive_of_confirmation (h : s.Matched) (ha : s.awaited = .confirmation key) :
    s.phase.isActive = true := by
  rcases h.phase_of_confirmation ha with hp | hp | hp <;> rw [hp] <;> rfl

end Stance.Matched

/-- A move keeps phase, wait and next step together. -/
theorem Move.matched {i : Input} {s s' : Stance} (h : Move i s s') (hs : s.Matched) :
    s'.Matched := by
  cases h with
  | ask | mark => exact ⟨hs.admits, hs.planned⟩
  | plan next ha => exact ⟨hs.admits, fun _ => ha⟩
  | divert ha hp => exact ⟨by simp [ha, Phase.admits], hs.planned⟩
  | learn hi hf hp =>
      have ha : s.awaited = .nothing := hs.awaited_of_initializing hp
      exact ⟨by simp [ha, Phase.admits], hs.planned⟩
  | adopt r hi hr hf hp =>
      have ha : s.awaited = .nothing :=
        hp.elim hs.awaited_of_initializing hs.awaited_of_off
      exact ⟨by simp [ha, Phase.admits], hs.planned⟩
  | rest p new g hp =>
      refine ⟨?_, fun hn => absurd rfl hn⟩
      rcases hp with rfl | rfl <;> rfl
  | launch p g server config hp hstep ha =>
      refine ⟨?_, fun hn => absurd (hs.nextStep_eq ha) hn⟩
      rcases hp with rfl | rfl | rfl <;> rfl
  | shake key g hi ha =>
      have hn : s.nextStep = .nothing := hs.nextStep_eq (by simp [ha])
      refine ⟨?_, fun h => absurd hn h⟩
      rcases hs.phase_of_handshake ha with hp | hp | hp <;> simp [hp, Phase.admits]
  | confirm r key g hi hr ha =>
      have hn : s.nextStep = .nothing := hs.nextStep_eq (by simp [ha])
      exact ⟨rfl, fun h => absurd hn h⟩
  | takeDown p g next hp =>
      refine ⟨?_, fun _ => rfl⟩
      rcases hp with rfl | rfl <;> rfl

theorem Moves.matched {i : Input} {s s' : Stance} (h : Moves i s s') (hs : s.Matched) :
    s'.Matched :=
  h.keeps (fun _ _ hmove => hmove.matched) hs

/-- Generations only grow. -/
theorem Move.generation_le {i : Input} {s s' : Stance} (h : Move i s s') :
    s.generation ≤ s'.generation := by
  cases h with
  | ask | mark | plan | divert | learn | adopt => exact Nat.le_refl _
  | rest | launch | shake | confirm | takeDown => exact Nat.le_of_lt ‹_›

theorem Moves.generation_le {i : Input} {s s' : Stance} (h : Moves i s s') :
    s.generation ≤ s'.generation :=
  h.keeps (P := fun t => s.generation ≤ t.generation)
    (fun _ _ hmove ih => Nat.le_trans ih hmove.generation_le) (Nat.le_refl _)

end TunnelSession
