/-
  TunnelSession.Proofs.Control.Runs

  The runs of the connection, and the laws of its phases. A run is any sequence of
  inputs, each with a world of its own around it: links that take requests or do
  not, clocks, and throws of the dice. Between two inputs the measurements of the
  sweep may change what is known about the servers.
-/
import TunnelSession.Proofs.Control.Handlers

namespace TunnelSession

open Controller (Input)
open Phase (IsPath)

namespace Controller

/-- Something that happens to the connection. -/
inductive Happening
  /-- An input, with the world around it. -/
  | input (around : Surroundings) (i : Input)
  /-- Servers were measured. -/
  | measured (registry : Registry)

/-- What becomes of the connection when something happens. -/
def meet (c : Controller) : Happening → Controller
  | .input around i => c.handle around i
  | .measured registry => { c with registry := registry }

/-- What becomes of the connection when things happen in turn. -/
def run (c : Controller) (happenings : List Happening) : Controller :=
  happenings.foldl meet c

variable {c : Controller}

theorem run_append (before after : List Happening) :
    c.run (before ++ after) = (c.run before).run after :=
  List.foldl_append

/-- What each happening of a run keeps, the run keeps. -/
theorem run_keeps_of_mem {P : Controller → Prop} {happenings : List Happening}
    (h : ∀ c, ∀ x ∈ happenings, P c → P (c.meet x)) (hc : P c) : P (c.run happenings) := by
  induction happenings generalizing c with
  | nil => exact hc
  | cons x happenings ih =>
      exact ih (fun c y hy => h c y (.tail _ hy)) (h c x (.head _) hc)

/-- What one happening keeps, a run keeps. -/
theorem run_keeps {P : Controller → Prop} (h : ∀ c x, P c → P (c.meet x)) (hc : P c)
    (happenings : List Happening) : P (c.run happenings) :=
  run_keeps_of_mem (fun c x _ => h c x) hc

theorem initial_matched (tuning : ControlTuning) (device : Device) (registry : Registry) :
    (initial tuning device registry).stance.Matched :=
  ⟨rfl, fun h => absurd rfl h⟩

theorem meet_matched (h : c.stance.Matched) (x : Happening) : (c.meet x).stance.Matched := by
  cases x with
  | input around i => exact handle_matched h i
  | measured registry => exact h

theorem run_matched (h : c.stance.Matched) (happenings : List Happening) :
    (c.run happenings).stance.Matched :=
  run_keeps (P := fun c => c.stance.Matched) (fun _ x h => meet_matched h x) h happenings

end Controller

/-! ## Phases -/

/-- Every move follows the arrows of the diagram, and tells of each. -/
theorem Move.follows {i : Input} {s s' : Stance} (h : Move i s s') : s'.Follows s := by
  cases h with
  | ask | mark | plan => exact .refl s
  | divert ha hp => exact Stance.Follows.enter (.refl s) fun _ => by rw [hp]; rfl
  | learn hi hf hp => exact Stance.Follows.enter (.refl s) fun _ => by rw [hp]; rfl
  | adopt r hi hr hf hp =>
      refine Stance.Follows.enter (.refl s) fun _ => ?_
      rcases hp with hp | hp <;> rw [hp] <;> rfl
  | rest p new g hp hnew => exact ⟨new, rfl, hnew⟩
  | launch p g server config hp hstep => exact Stance.Follows.enter (.refl s) hstep
  | shake key g =>
      refine Stance.Follows.enter (.refl s) fun hne => ?_
      by_cases hp : s.phase = .connecting
      · rw [if_pos hp, hp]
        rfl
      · rw [if_neg hp] at hne
        exact absurd rfl hne
  | confirm r key g hi hr ha hp => exact Stance.Follows.enter (.refl s) fun _ => hp
  | takeDown p g next hp hs hstep => exact Stance.Follows.enter (.refl s) fun _ => hstep

theorem Moves.follows {i : Input} {s s' : Stance} (h : Moves i s s') : s'.Follows s := by
  induction h with
  | refl => exact .refl s
  | tail _ hmove ih => exact ih.trans hmove.follows

namespace Controller

theorem run_follows {c : Controller} (h : c.stance.Matched) (happenings : List Happening) :
    (c.run happenings).stance.Follows c.stance := by
  induction happenings generalizing c with
  | nil => exact .refl _
  | cons x happenings ih =>
      -- measurements tell nothing, and the stance does not show them
      have hx : (c.meet x).stance.Follows c.stance := by
        cases x with
        | input around i => exact (handle_moves around h i).follows
        | measured registry => exact .refl c.stance
      exact hx.trans (ih (meet_matched h x))

/-- The phases that are told are the ones that are entered: on every run they form
    a path of the diagram from the first phase to the present one, on which no two
    neighbours are equal, and what is told between any two moments leads from the
    phase at the one to the phase at the other. -/
theorem told_phases_are_path (tuning : ControlTuning) (device : Device) (registry : Registry)
    (before after : List Happening) :
    let c := (initial tuning device registry).run before
    let c' := c.run after
    IsPath .initializing c'.told c'.phase ∧
      (Phase.initializing :: c'.told).IsChain (· ≠ ·) ∧
      ∃ new, c'.told = c.told ++ new ∧ IsPath c.phase new c'.phase := by
  intro c c'
  have hinit := initial_matched tuning device registry
  have hpath : IsPath .initializing c'.told c'.phase := by
    obtain ⟨new, htold, hnew⟩ := run_follows hinit (before ++ after)
    rw [run_append] at htold hnew
    have htold' : c'.told = new := htold
    rw [htold']
    exact hnew
  exact ⟨hpath, hpath.isChain_ne, run_follows (run_matched hinit before) after⟩

end Controller

end TunnelSession
