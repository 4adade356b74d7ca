/-
  TunnelSession.Proofs.Control.Waits

  The connection never waits for the daemon without a timer. Each wait has one
  live timer, the one that was armed for it; a timer of an earlier wait no longer
  counts, and the live one always ends the wait.
-/
import TunnelSession.Proofs.Control.Runs

namespace TunnelSession

open Controller (Input)

/-- A stance whose live timers are those that its wait calls for. -/
structure Stance.Timed (s : Stance) : Prop where
  /-- No timer is ahead of its time. -/
  old : ∀ t ∈ s.armed, t.generation ≤ s.generation
  live : s.armed.filter (fun t => t.generation = s.generation) =
    (s.awaited.timer?.map (fun kind => ⟨kind, s.generation⟩)).toList

namespace Stance.Timed

variable {s : Stance} {g : Nat}

/-- A new generation leaves all timers behind. -/
theorem filter_newer (h : s.Timed) (hg : s.generation < g) :
    s.armed.filter (fun t => t.generation = g) = [] := by
  refine List.filter_eq_nil_iff.mpr fun t ht heq => ?_
  have hle := h.old t ht
  have hgen : t.generation = g := of_decide_eq_true heq
  omega

theorem old_newer (h : s.Timed) (hg : s.generation < g) : ∀ t ∈ s.armed, t.generation ≤ g :=
  fun t ht => Nat.le_trans (h.old t ht) (Nat.le_of_lt hg)

/-- A wait that ends leaves no live timer. -/
theorem cancel (h : s.Timed) (hg : s.generation < g) (p : Phase) (n : NextStep) (l : List Phase) :
    ({ s with phase := p, awaited := .nothing, nextStep := n, generation := g, told := l } :
      Stance).Timed :=
  ⟨h.old_newer hg, h.filter_newer hg⟩

/-- The timer of a new wait is the only live one. -/
theorem old_arm (h : s.Timed) (hg : s.generation < g) (kind : TimerKind) :
    ∀ t ∈ s.armed ++ [(⟨kind, g⟩ : TimerToken)], t.generation ≤ g := by
  intro t ht
  rcases List.mem_append.mp ht with hold | hnew
  · exact h.old_newer hg t hold
  · rw [List.mem_singleton.mp hnew]

theorem live_arm (h : s.Timed) (hg : s.generation < g) (kind : TimerKind) :
    (s.armed ++ [(⟨kind, g⟩ : TimerToken)]).filter (fun t => t.generation = g) = [⟨kind, g⟩] := by
  rw [List.filter_append, h.filter_newer hg]
  simp

end Stance.Timed

/-- Every move keeps the timers in step with what is waited for. -/
theorem Move.timed {i : Input} {s s' : Stance} (h : Move i s s') (hs : s.Timed) : s'.Timed := by
  cases h with
  | ask | mark | plan | divert | learn | adopt => exact ⟨hs.old, hs.live⟩
  | rest p new g hp hnew hg => exact hs.cancel hg p _ _
  | confirm r key g hi hr ha hp hg => exact hs.cancel hg _ _ _
  | launch p g server config hp hstep ha hg =>
      exact ⟨hs.old_arm hg .handshake, hs.live_arm hg .handshake⟩
  | shake key g hi ha hg => exact ⟨hs.old_arm hg .confirm, hs.live_arm hg .confirm⟩
  | takeDown p g next hp hactive hstep hi hg =>
      exact ⟨hs.old_arm hg .disconnect, hs.live_arm hg .disconnect⟩

theorem Moves.timed {i : Input} {s s' : Stance} (h : Moves i s s') (hs : s.Timed) :
    s'.Timed :=
  h.keeps (fun _ _ hmove => hmove.timed) hs

namespace Controller

theorem initial_timed (tuning : ControlTuning) (device : Device) (registry : Registry) :
    (initial tuning device registry).stance.Timed :=
  ⟨fun _ ht => absurd ht List.not_mem_nil, rfl⟩

theorem run_timed {c : Controller} (hm : c.stance.Matched) (ht : c.stance.Timed)
    (happenings : List Happening) : (c.run happenings).stance.Timed := by
  refine (run_keeps (P := fun c => c.stance.Matched ∧ c.stance.Timed) ?_ ⟨hm, ht⟩ happenings).2
  rintro c x ⟨hm, ht⟩
  refine ⟨meet_matched hm x, ?_⟩
  cases x with
  | input around i => exact (handle_moves around hm i).timed ht
  | measured registry => exact ht

/-- On every run the wait goes with the phase, and a next step is planned only
    while the end of a tunnel is waited for. Of all timers that were ever armed, the
    one of the current wait, and no other, is of the current generation. A timer of
    another generation does nothing, and that of the current one ends the wait. -/
theorem waits_are_timed (tuning : ControlTuning) (device : Device) (registry : Registry)
    (happenings : List Happening) :
    let c := (initial tuning device registry).run happenings
    c.phase.admits c.awaited = true ∧
      c.armed.filter (fun t => t.generation = c.generation) =
        (c.awaited.timer?.map (fun kind => ⟨kind, c.generation⟩)).toList ∧
      (c.nextStep ≠ .nothing → c.awaited = .disconnection) ∧
      (∀ around token, token.generation ≠ c.generation → c.onTimer around token = c) ∧
      ∀ around, ∀ token ∈ c.armed, token.generation = c.generation →
        c.generation < (c.onTimer around token).generation := by
  intro c
  have hm : c.stance.Matched := run_matched (initial_matched tuning device registry) happenings
  have ht : c.stance.Timed := run_timed (initial_matched tuning device registry)
    (initial_timed tuning device registry) happenings
  refine ⟨hm.admits, ht.live, hm.planned, ?_, ?_⟩
  · intro around token hne
    exact onTimer_eq_self fun hg => absurd hg hne
  · intro around token hmem hg
    have hlive : token ∈ c.armed.filter (fun t => t.generation = c.generation) :=
      List.mem_filter.mpr ⟨hmem, decide_eq_true hg⟩
    -- a live timer is the one that the wait calls for
    have hk : c.awaited.timer? = some token.kind := by
      have hmem' := ht.live ▸ hlive
      obtain ⟨kind, hkind, rfl⟩ := Option.map_eq_some_iff.mp (Option.mem_toList.mp hmem')
      exact hkind
    exact (onTimer_advances hm hg hk).2

end Controller

end TunnelSession
