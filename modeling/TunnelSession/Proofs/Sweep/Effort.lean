/-
  TunnelSession.Proofs.Sweep.Effort

  How much a sweep can do. The loop of filling takes targets from the queue and puts those
  back whose probe failed, so it is the tries that are left and not the length of the queue
  that bound its rounds. From the start of a sweep to the next start each target has its
  share of the probes that were tried, and no share is larger than it may be.

  A sweep without answers comes to its end. When it goes on after the timeout, all probes in
  flight are lost, so there is room for one more; either there is a target that waits for
  it, and a probe is tried, or the sweep is over. It can therefore not go on more often than
  there are probes to try, and once more.
-/
import Mathlib.Data.List.Chain
import Mathlib.Data.List.Forall2
import Mathlib.Data.List.TakeWhile
import TunnelSession.Proofs.Sweep.Fates

namespace TunnelSession

namespace Sweep

variable {s s' : Sweep} {reaches : Nat → Net.Address → Bool} {now n : Nat}

/-! ## One pump -/

/-- What each round keeps, all rounds of a loop keep. -/
theorem Loops.all {P : Sweep → Prop}
    (hround : ∀ s : Sweep, s.IsOpen → P s → P (s.round reaches now))
    (h : Loops reaches now s n s') (hs : P s) :
    P s' ∧ ∀ k ≤ n, P ((Sweep.round reaches now)^[k] s) := by
  induction h with
  | stop _ =>
      refine ⟨hs, fun k hk => ?_⟩
      rw [Nat.le_zero.mp hk]
      exact hs
  | round hopen _ ih =>
      obtain ⟨hlast, hall⟩ := ih (hround _ hopen hs)
      refine ⟨hlast, fun k hk => ?_⟩
      cases k with
      | zero => exact hs
      | succ k => exact hall k (Nat.le_of_succ_le_succ hk)

theorem Loops.length_tries (h : Loops reaches now s n s') :
    (trail reaches now n s).tries.length = n := by
  induction h with
  | stop _ => rfl
  | @round s _ n hopen _ ih =>
      have hone : (s.roundNote reaches).tries.length = 1 := by
        unfold roundNote
        cases hqueue : s.queue with
        | nil => exact absurd hqueue hopen.2
        | cons t rest =>
            dsimp only
            split
            · rw [tries_launchNote]
              rfl
            · rw [tries_refuseNote]
              rfl
      rw [trail, Journal.tries_append, List.length_append, hone, ih]
      omega

/-- `Narrow tuning s`: no more probes are in flight than may be. -/
def Narrow (tuning : SweepTuning) (s : Sweep) : Prop :=
  s.tuning = tuning ∧ s.inFlight.length ≤ tuning.maxParallel

theorem narrow_kept (tuning : SweepTuning) : Kept fun s _ => Narrow tuning s where
  launch {s j t rest} now _ hroom h := by
    refine ⟨h.1, ?_⟩
    show (launch s.inFlight ⟨UInt16.ofNat s.tried, t, now⟩).length ≤ tuning.maxParallel
    rw [Sweep.launch, List.length_append, List.length_singleton, ← h.1]
    exact (Nat.succ_le_succ (List.length_filter_le _ _)).trans hroom
  refuse _ h := h
  expire now h := ⟨h.1, (List.length_filter_le _ _).trans h.2⟩
  settle now h := by
    unfold Sweep.settle
    split
    · exact h
    · exact h
  answer _ h := ⟨h.1, (List.length_filter_le _ _).trans h.2⟩
  arrange order hperm h := ⟨h.1, hperm.length_eq ▸ h.2⟩

/-- A running sweep goes on in a loop that stops. -/
theorem pump_stops {tuning : SweepTuning} (reaches : Nat → Net.Address → Bool) (now : Nat)
    (hnarrow : Narrow tuning s) (hrunning : s.running = true) :
    ∃ n filled, n ≤ triesLeft tuning.maxRetries (s.expire now).queue ∧
      Loops reaches now (s.expire now) n filled ∧ (s.pump reaches now).2 = filled.settle now ∧
      ∀ k ≤ n, ((round reaches now)^[k] (s.expire now)).inFlight.length ≤ tuning.maxParallel := by
  obtain ⟨filled, hloops, hrounds, hpump⟩ := pump_of_running reaches now hrunning
  rw [hnarrow.1] at hrounds
  have hkept := narrow_kept tuning
  have hexpired : Narrow tuning (s.expire now) := hkept.expire (j := []) now hnarrow
  have hall := hloops.all (fun s hopen hs => hkept.round (j := []) hopen hs reaches now) hexpired
  exact ⟨_, filled, hrounds, hloops, by rw [hpump], fun k hk => (hall.2 k hk).2⟩

/-- When the time of all probes in flight is over, the sweep goes on with another probe, or
    it is over. -/
theorem pump_overdue (reaches : Nat → Net.Address → Bool) (hparallel : 0 < s.tuning.maxParallel)
    (hrunning : s.running = true)
    (hoverdue : ∀ p ∈ s.inFlight, p.sentAt + s.tuning.probeTimeout ≤ now) :
    (∀ p ∈ (s.pump reaches now).2.inFlight, p.sentAt = now) ∧
      ((s.pump reaches now).2.running = false ∨ 1 ≤ (s.pumpNote reaches now).tries.length) := by
  obtain ⟨filled, hloops, -, hpump⟩ := pump_of_running reaches now hrunning
  have hflight : (s.expire now).inFlight = [] := by
    refine List.filter_eq_nil_iff.mpr fun p hp => ?_
    have hlate := hoverdue p hp
    have hlost : s.tuning.probeTimeout ≤ now - p.sentAt := by omega
    simp [hlost]
  have hround : ∀ s : Sweep, s.IsOpen → (∀ p ∈ s.inFlight, p.sentAt = now) →
      ∀ p ∈ (s.round reaches now).inFlight, p.sentAt = now := by
    intro s _ h p hp
    unfold round at hp
    split at hp
    · exact h p hp
    · split at hp
      · rcases List.mem_append.mp hp with hp | hp
        · exact h p (List.mem_filter.mp hp).1
        · rw [List.mem_singleton.mp hp]
      · exact h p hp
  have hsent := (hloops.all hround (by rw [hflight]; exact nofun)).1
  have hnote : s.pumpNote reaches now =
      s.expireNote now ++ trail reaches now (s.rounds reaches now) (s.expire now) := if_pos hrunning
  rw [hpump]
  dsimp only
  unfold settle
  split
  · exact ⟨hsent, .inl rfl⟩
  · next hbusy =>
    refine ⟨hsent, .inr ?_⟩
    rw [hnote, Journal.tries_append, List.length_append, hloops.length_tries]
    -- without a round the sweep would be over: there is room, so that nothing waits
    cases hrounds : s.rounds reaches now with
    | zero =>
        rw [hrounds] at hloops
        cases hloops with
        | stop hclosed =>
            have hqueue : (s.expire now).queue = [] := by
              by_contra hwaits
              refine hclosed ⟨?_, hwaits⟩
              rw [hflight]
              exact hparallel
            exact absurd (by simp [hqueue, hflight]) hbusy
    | succ n => omega

end Sweep

namespace Survey

open Sweep (Journal Narrow)

/-! ## From a start to the next -/

def Event.isStart : Event → Bool
  | .start _ => true
  | .cancel | .pump _ _ | .reply _ | .arrange _ => false

/-- However a sweep is driven, it never has too many probes in flight. -/
theorem run_narrow {tuning : SweepTuning} {v : Survey} (h : Narrow tuning v.sweep)
    (events : List Event) : Narrow tuning (v.run events).sweep := by
  induction events generalizing v with
  | nil => exact h
  | cons e events ih =>
      refine ih (v := v.meet e) ?_
      cases e with
      | start targets => exact ⟨h.1, Nat.zero_le _⟩
      | cancel => exact ⟨h.1, Nat.zero_le _⟩
      | pump reaches now => exact meet_kept (j := []) (Sweep.narrow_kept tuning) rfl h
      | reply r => exact meet_kept (j := []) (Sweep.narrow_kept tuning) rfl h
      | arrange order => exact meet_kept (j := []) (Sweep.narrow_kept tuning) rfl h

/-- A sweep that is given up does nothing until the next start. -/
theorem journal_of_idle {v : Survey} {events : List Event} (hover : v.sweep.running = false)
    (hflight : v.sweep.inFlight = []) (hstart : ∀ e ∈ events, e.isStart = false) :
    v.journal events = [] := by
  induction events generalizing v with
  | nil => rfl
  | cons e events ih =>
      have hrest := fun e' he' => hstart e' (List.mem_cons_of_mem e he')
      have hnote : v.note e = [] := by
        cases e with
        | pump reaches now => exact if_neg (by simp [hover])
        | reply r =>
            show (Option.map _ (v.sweep.replied? r)).toList = []
            simp [Sweep.replied?, hflight]
        | start targets => rfl
        | cancel => rfl
        | arrange order => rfl
      have hmeet : (v.meet e).sweep.running = false ∧ (v.meet e).sweep.inFlight = [] := by
        cases e with
        | start targets => cases hstart _ List.mem_cons_self
        | cancel => exact ⟨rfl, rfl⟩
        | pump reaches now =>
            show (v.sweep.pump reaches now).2.running = false ∧
              (v.sweep.pump reaches now).2.inFlight = []
            rw [Sweep.pump_of_over reaches now hover]
            exact ⟨hover, hflight⟩
        | reply r => simp [meet, Sweep.reply?_eq, Sweep.replied?, hflight, hover]
        | arrange order =>
            obtain ⟨flight, hperm, hmeet⟩ := meet_arrange v order
            rw [hmeet]
            exact ⟨hover, (hflight ▸ hperm).eq_nil⟩
      rw [journal, hnote, List.nil_append]
      exact ih hmeet.1 hmeet.2 hrest

/-- What is noted until the next start is noted while the sweep goes on. -/
theorem journal_takeWhile {v : Survey} {events : List Event}
    (hstart : ∀ e ∈ events, e.isStart = false) :
    v.journal events = v.journal (events.takeWhile Event.goesOn) := by
  induction events generalizing v with
  | nil => rfl
  | cons e events ih =>
      have hrest := fun e' he' => hstart e' (List.mem_cons_of_mem e he')
      rw [List.takeWhile_cons]
      by_cases hgoes : e.goesOn = true
      · rw [if_pos hgoes, journal, journal, ih hrest]
      · rw [if_neg hgoes]
        cases e with
        | start targets => cases hstart _ List.mem_cons_self
        | cancel => exact journal_of_idle (v := v.meet .cancel) rfl rfl hrest
        | pump reaches now => exact absurd rfl hgoes
        | reply r => exact absurd rfl hgoes
        | arrange order => exact absurd rfl hgoes

/-- Each target has its share of the probes that were tried: the first ones for it. -/
theorem exists_shares (v : Survey) (targets : List SweepTarget) {events : List Event}
    (hstart : ∀ e ∈ events, e.isStart = false) :
    ∃ shares : List (List SweepTry),
      List.Forall₂ (fun target share =>
        ∃ n ≤ v.sweep.tuning.maxRetries + 1, share = Sweep.firstTries target n) targets shares ∧
      ((v.meet (.start targets)).journal events).tries.Perm shares.flatten := by
  have hgoes : ∀ e ∈ events.takeWhile Event.goesOn, e.goesOn = true := fun e he =>
    List.mem_takeWhile_imp he
  have hbalanced := (run_sound v targets hgoes).balanced
  rw [← journal_takeWhile hstart] at hbalanced
  obtain ⟨courses, hperm, htargets⟩ := Sweep.exists_perm_map_eq hbalanced.targets
  refine ⟨courses.map Sweep.Course.tries, ?_, ?_⟩
  · rw [← htargets, List.forall₂_map_left_iff, List.forall₂_map_right_iff, List.forall₂_same]
    intro c hc
    exact (hbalanced.lawful c (hperm.mem_iff.mp hc)).tries_eq
  · rw [← List.flatMap_def]
    exact hbalanced.tries.trans (hperm.symm.flatMap_right _)

/-! ## Sweeps without answers -/

/-- Whether something happens that is no answer and leaves the sweep in progress. -/
def Event.isSilent : Event → Bool
  | .pump _ _ | .arrange _ => true
  | .start _ | .cancel | .reply _ => false

theorem goesOn_of_isSilent {e : Event} (h : e.isSilent = true) : e.goesOn = true := by
  cases e with
  | start targets => cases h
  | cancel => cases h
  | pump reaches now => rfl
  | reply r => cases h
  | arrange order => rfl

/-- When the sweep goes on. -/
def Event.time? : Event → Option Nat
  | .pump _ now => some now
  | .start _ | .cancel | .reply _ | .arrange _ => none

/-- The times at which a sweep goes on. -/
def times (events : List Event) : List Nat := events.filterMap Event.time?

theorem run_of_over {v : Survey} {events : List Event} (hover : v.sweep.running = false)
    (hsilent : ∀ e ∈ events, e.isSilent = true) :
    (v.run events).sweep.running = false ∧
      (v.run events).sweep.lastFinished = v.sweep.lastFinished := by
  induction events generalizing v with
  | nil => exact ⟨hover, rfl⟩
  | cons e events ih =>
      have hrest := fun e' he' => hsilent e' (List.mem_cons_of_mem e he')
      have hmeet : (v.meet e).sweep.running = false ∧
          (v.meet e).sweep.lastFinished = v.sweep.lastFinished := by
        cases e with
        | start targets => cases hsilent _ List.mem_cons_self
        | cancel => cases hsilent _ List.mem_cons_self
        | reply r => cases hsilent _ List.mem_cons_self
        | pump reaches now =>
            show (v.sweep.pump reaches now).2.running = false ∧
              (v.sweep.pump reaches now).2.lastFinished = v.sweep.lastFinished
            rw [Sweep.pump_of_over reaches now hover]
            exact ⟨hover, rfl⟩
        | arrange order =>
            obtain ⟨flight, -, hmeet⟩ := meet_arrange v order
            rw [hmeet]
            exact ⟨hover, rfl⟩
      obtain ⟨hrunning, hfinished⟩ := ih hmeet.1 hrest
      exact ⟨hrunning, hfinished.trans hmeet.2⟩

/-- A sweep that goes on each time after the timeout has tried a probe each time, or it is
    over. -/
theorem run_silent {tuning : SweepTuning} {v : Survey} {events : List Event}
    (hparallel : 0 < tuning.maxParallel) (hsilent : ∀ e ∈ events, e.isSilent = true)
    (hspaced : (times events).IsChain fun t t' => t + tuning.probeTimeout ≤ t')
    (htuning : v.sweep.tuning = tuning) (hrunning : v.sweep.running = true)
    (hoverdue : ∀ t ∈ (times events).head?, ∀ p ∈ v.sweep.inFlight,
      p.sentAt + tuning.probeTimeout ≤ t) :
    (times events).length ≤ (v.journal events).tries.length ∨
      (v.run events).sweep.running = false ∧
        ∃ t ∈ times events, (v.run events).sweep.lastFinished = some t := by
  induction events generalizing v with
  | nil => exact .inl (Nat.le_refl 0)
  | cons e events ih =>
      have hrest := fun e' he' => hsilent e' (List.mem_cons_of_mem e he')
      cases e with
      | start targets => cases hsilent _ List.mem_cons_self
      | cancel => cases hsilent _ List.mem_cons_self
      | reply r => cases hsilent _ List.mem_cons_self
      | arrange order =>
          obtain ⟨flight, hperm, hmeet⟩ := meet_arrange v order
          rw [run_cons, journal, hmeet]
          exact ih hrest hspaced htuning hrunning fun t ht p hp =>
            hoverdue t ht p (hperm.mem_iff.mp hp)
      | pump reaches now =>
          have htimes : times (.pump reaches now :: events) = now :: times events := rfl
          rw [htimes] at hspaced hoverdue ⊢
          subst htuning
          obtain ⟨hsent, hprogress⟩ := Sweep.pump_overdue reaches hparallel hrunning
            (hoverdue now rfl)
          obtain ⟨htuning, hcases⟩ := Sweep.pump_cases reaches now hrunning
          rcases hcases with ⟨hgoing, -⟩ | ⟨hover, hfinished⟩
          · obtain ⟨hnext, hspaced⟩ := List.isChain_cons.mp hspaced
            -- whatever was sent now is overdue when the sweep goes on the next time
            have hstep := ih (v := v.meet (.pump reaches now)) hrest hspaced htuning hgoing
              fun t ht p hp => by
                rw [hsent p hp]
                exact hnext t ht
            rcases hstep with hmore | ⟨hover, t, ht, hfinished⟩
            · have htried := hprogress.resolve_left (by simp [hgoing])
              refine .inl ?_
              show _ ≤ (v.sweep.pumpNote reaches now ++ _).tries.length
              rw [Journal.tries_append, List.length_append, List.length_cons]
              omega
            · exact .inr ⟨hover, t, List.mem_cons_of_mem now ht, hfinished⟩
          · obtain ⟨hstill, hsame⟩ := run_of_over (v := v.meet (.pump reaches now)) hover hrest
            exact .inr ⟨hstill, now, List.mem_cons_self, hsame.trans hfinished⟩

/-! ## Bounds -/

/-- However a new sweep was driven so far: no more probes are in flight than may be. Going on
    stops after no more rounds than there are tries left, and in none of them too many probes
    are in flight. From a start to the next each target has a share of the probes that were
    tried, its first ones, and no more of them than it may have. And without an answer the
    sweep is over once it has gone on, each time after the timeout, once more than there are
    probes to try. -/
theorem effort_bounds (tuning : SweepTuning) (r : Registry) (before : List Event)
    (hparallel : 0 < tuning.maxParallel) :
    let v := (⟨{ tuning := tuning }, r⟩ : Survey).run before
    v.sweep.inFlight.length ≤ tuning.maxParallel ∧
      (∀ reaches now, v.sweep.running = true →
        ∃ n filled, n ≤ Sweep.triesLeft tuning.maxRetries (v.sweep.expire now).queue ∧
          Sweep.Loops reaches now (v.sweep.expire now) n filled ∧
          (v.sweep.pump reaches now).2 = filled.settle now ∧
          ∀ k ≤ n, ((Sweep.round reaches now)^[k] (v.sweep.expire now)).inFlight.length ≤
            tuning.maxParallel) ∧
      ∀ targets events,
        let started := v.meet (.start targets)
        ((∀ e ∈ events, e.isStart = false) →
          started.told events = (started.journal events).probes ∧
            ∃ shares : List (List SweepTry),
              List.Forall₂ (fun target share =>
                ∃ n ≤ tuning.maxRetries + 1, share = Sweep.firstTries target n) targets shares ∧
              (started.journal events).tries.Perm shares.flatten) ∧
        ((∀ e ∈ events, e.isSilent = true) →
          (times events).IsChain (fun t t' => t + tuning.probeTimeout ≤ t') →
          targets.length * (tuning.maxRetries + 1) + 1 ≤ (times events).length →
            (started.run events).sweep.running = false ∧
              ∃ t ∈ times events, (started.run events).sweep.lastFinished = some t) := by
  intro v
  have hnarrow : Narrow tuning v.sweep := run_narrow ⟨rfl, Nat.zero_le _⟩ before
  refine ⟨hnarrow.2, fun reaches now hrunning => Sweep.pump_stops reaches now hnarrow hrunning, ?_⟩
  intro targets events started
  refine ⟨fun hstart => ⟨told_eq started events, ?_⟩, fun hsilent hspaced hlong => ?_⟩
  · have hshares := exists_shares v targets hstart
    rw [hnarrow.1] at hshares
    exact hshares
  · have hcases := run_silent (v := started) hparallel hsilent hspaced hnarrow.1 rfl nofun
    rcases hcases with hmore | hover
    · -- more probes were tried than there are
      have hfew := (run_sound v targets fun e he =>
        goesOn_of_isSilent (hsilent e he)).balanced.length_tries_le
      rw [hnarrow.1] at hfew
      exact absurd (hlong.trans (hmore.trans hfew)) (Nat.not_succ_le_self _)
    · exact hover

/-- A sweep over two servers, to one of which nothing can be sent, is given up with a probe in
    flight for the next one, which an answer or a cancel ends; without any, it is over when it
    has gone on for the fifth time. -/
theorem effort_bounds_north_south :
    let north : SweepTarget := ⟨"north", .v4 0xC0000201#32⟩
    let south : SweepTarget := ⟨"south", .v4 0xC0000202#32⟩
    let tuning : SweepTuning := { maxParallel := 1, maxRetries := 1 }
    let reaches (_ : Nat) (a : Net.Address) : Bool := a = north.address
    let before : List Event := [.start [south, north], .pump reaches 0]
    let v := (⟨{ tuning := tuning }, {}⟩ : Survey).run before
    let started := v.meet (.start [north, south])
    let answered : List Event := [.pump reaches 0, .reply ⟨.sweep, 2, north.address, 20000⟩,
      .cancel, .pump reaches 5000000]
    let silent : List Event := [.pump reaches 0, .pump reaches 5000000, .pump reaches 10000000,
      .pump reaches 15000000, .pump reaches 20000000]
    0 < tuning.maxParallel ∧ v.sweep.inFlight.length ≤ 1 ∧ v.sweep.running = true ∧
      (∃ n filled, Sweep.Loops reaches 5000000 (v.sweep.expire 5000000) n filled ∧ n ≤ 2) ∧
      (∀ e ∈ answered, e.isStart = false) ∧
      (∃ shares : List (List SweepTry),
        List.Forall₂ (fun target share => ∃ n ≤ 2, share = Sweep.firstTries target n)
          [north, south] shares ∧
        (started.journal answered).tries.Perm shares.flatten) ∧
      (∀ e ∈ silent, e.isSilent = true) ∧
      (times silent).IsChain (fun t t' => t + tuning.probeTimeout ≤ t') ∧
      (started.run silent).sweep.running = false := by
  intro north south tuning reaches before v started answered silent
  have hparallel : 0 < tuning.maxParallel := by decide
  have hrunning : v.sweep.running = true := by decide +kernel
  have hanswered : ∀ e ∈ answered, e.isStart = false := by simp [answered, Event.isStart]
  have hsilent : ∀ e ∈ silent, e.isSilent = true := by simp [silent, Event.isSilent]
  have hspaced : (times silent).IsChain (fun t t' => t + tuning.probeTimeout ≤ t') := by decide
  obtain ⟨hflight, hstops, hsweeps⟩ := effort_bounds tuning {} before hparallel
  obtain ⟨n, filled, hrounds, hloops, -, -⟩ := hstops reaches 5000000 hrunning
  have hleft : Sweep.triesLeft tuning.maxRetries (v.sweep.expire 5000000).queue = 2 := by
    decide +kernel
  obtain ⟨hshares, hends⟩ := hsweeps [north, south] answered
  obtain ⟨-, hends⟩ := hsweeps [north, south] silent
  exact ⟨hparallel, hflight, hrunning, ⟨n, filled, hloops, hleft ▸ hrounds⟩, hanswered,
    (hshares hanswered).2, hsilent, hspaced, (hends hsilent hspaced (by decide)).1⟩

end Survey

end TunnelSession
