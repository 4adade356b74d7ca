/-
  TunnelSession.Proofs.Health.Estimate

  What the smoothed latency is made of. It is smoothed from the answers that the journal
  has, and from no others, but not from all of them: arming drops what was known before,
  unless the monitor is still armed with the same target.

  To be armed again with the target of the last time is not enough. Disarming forgets the
  target, and then every target is another one, so the estimate is kept over an arming
  only if no disarming came before it.
-/
import TunnelSession.Proofs.Health.Journal

namespace TunnelSession.HealthMonitor

/-! ## Samples -/

namespace Journal

/-- The target of the latest arming, whether or not the monitor was disarmed since. -/
def lastTarget? : Journal → Option Net.Address
  | [] => none
  | .armed target :: _ => some target
  | _ :: j => lastTarget? j

/-- The latencies of the answers, the earliest first, since the latest arming with a target
    that was not the known one. -/
def samples (known : Journal → Option Net.Address) : Journal → List Nat
  | [] => []
  | .armed target :: j => if known j = some target then samples known j else []
  | .answered at_ :: j => samples known j ++ ((latest? j).map fun p => at_ - p.2).toList
  | .disarmed :: j | .probed _ _ :: j => samples known j

/-- Whoever is armed with the target of the arming before is still armed with it. -/
def IsUninterrupted (j : Journal) : Prop :=
  ∀ target older, (.armed target :: older) <:+ j →
    lastTarget? older = some target → target? older = some target

theorem IsUninterrupted.tail {entry : Entry} {j : Journal} (h : IsUninterrupted (entry :: j)) :
    IsUninterrupted j :=
  fun target older hsuffix => h target older (hsuffix.trans (List.suffix_cons entry j))

/-- A target that is still known is the one of the latest arming. -/
theorem lastTarget?_of_target? {j : Journal} {target : Net.Address}
    (h : j.target? = some target) : j.lastTarget? = some target := by
  induction j with
  | nil => cases h
  | cons entry j ih =>
      cases entry with
      | armed _ => exact h
      | disarmed => cases h
      | probed _ _ => exact ih h
      | answered _ => exact ih h

/-- While no disarming comes before an arming with the same target, it does not matter
    whether disarming forgets the target. -/
theorem IsUninterrupted.samples_eq {j : Journal} (h : j.IsUninterrupted) :
    j.samples lastTarget? = j.samples target? := by
  induction j with
  | nil => rfl
  | cons entry j ih =>
      have htail := ih h.tail
      cases entry with
      | armed target =>
          have hknown : lastTarget? j = some target ↔ target? j = some target :=
            ⟨h target j (List.suffix_refl _), lastTarget?_of_target?⟩
          simp only [samples, hknown, htail]
      | disarmed => exact htail
      | probed _ _ => exact htail
      | answered at_ => exact congrArg (· ++ _) htail

end Journal

/-- What some latencies, the earliest first, are smoothed to. -/
def estimate (divisor : Nat) (latencies : List Nat) : Option Float :=
  latencies.foldl (fun e latency => some (smooth divisor e (milliseconds latency))) none

theorem estimate_concat (divisor : Nat) (latencies : List Nat) (latency : Nat) :
    estimate divisor (latencies ++ [latency]) =
      some (smooth divisor (estimate divisor latencies) (milliseconds latency)) := by
  rw [estimate, List.foldl_append]
  rfl

/-! ## The smoothed latency over a run -/

variable {m m' : HealthMonitor} {j j' : Journal} {divisor : Nat}

/-- Entering a state has nothing to do with the estimate. -/
theorem smoothed_enter (m : HealthMonitor) (s : Stability) (now : Nat) :
    (m.enter s now).2.tuning = m.tuning ∧ (m.enter s now).2.smoothed = m.smoothed := by
  unfold enter
  split <;> exact ⟨rfl, rfl⟩

theorem smoothed_stop (m : HealthMonitor) (now : Nat) :
    (m.stop now).2.tuning = m.tuning ∧ (m.stop now).2.smoothed = m.smoothed := by
  unfold stop
  split
  · exact smoothed_enter _ _ now
  · exact ⟨rfl, rfl⟩

/-- The smoothed latency comes from the samples of the journal. -/
structure Estimates (m : HealthMonitor) (divisor : Nat) (j : Journal) : Prop where
  knows : m.Knows j
  weight : m.tuning.divisor = divisor
  smoothed : m.smoothed = estimate divisor (j.samples Journal.target?)

theorem Estimates.same (h : m.Estimates divisor j) (hknows : m'.Knows j')
    (hsamples : j'.samples Journal.target? = j.samples Journal.target?)
    (hsame : m'.tuning = m.tuning ∧ m'.smoothed = m.smoothed) : m'.Estimates divisor j' where
  knows := hknows
  weight := by
    rw [hsame.1]
    exact h.weight
  smoothed := by
    rw [hsame.2, hsamples]
    exact h.smoothed

theorem Estimates.start (h : m.Estimates divisor j) (target : Net.Address) (now : Nat) :
    (m.start target now).Estimates divisor (.armed target :: j) where
  knows := h.knows.start target now
  weight := h.weight
  smoothed := by
    show (if m.target = some target then m.smoothed else none) = estimate divisor
      (if j.target? = some target then j.samples Journal.target? else [])
    rw [h.knows.target, h.smoothed]
    split <;> rfl

theorem Estimates.answer (h : m.Estimates divisor j) (sequence : UInt16) (at_ : Nat) :
    (m.meet (.answer sequence at_)).Estimates divisor (m.note (.answer sequence at_) ++ j) := by
  have hknows := h.knows.answer sequence at_
  cases htaken : m.answer? sequence at_ with
  | none =>
      simp only [meet, note, htaken] at hknows ⊢
      exact h
  | some m' =>
      simp only [meet, note, htaken] at hknows ⊢
      obtain ⟨newest, older, hwindow, hawaited, -, -, rfl⟩ := answer?_eq_some_iff.mp htaken
      obtain ⟨sentAt, hlatest⟩ := h.knows.latest? hawaited
      obtain ⟨_, _, hwindow', -⟩ := h.knows.newest hlatest
      obtain ⟨rfl, -⟩ := List.cons.inj (hwindow.symm.trans hwindow')
      refine ⟨hknows, h.weight, ?_⟩
      -- the latency is the sample that the journal has for this answer
      have hsample : Journal.samples Journal.target? (.answered at_ :: j) =
          j.samples Journal.target? ++ [at_ - sentAt] := by
        rw [Journal.samples, hlatest]
        rfl
      show some (smooth m.tuning.divisor m.smoothed _) =
        estimate divisor (Journal.samples _ (.answered at_ :: j))
      rw [hsample, estimate_concat, h.weight, h.smoothed]

theorem Estimates.probe (h : m.Estimates divisor j) (now : Nat) :
    (m.meet (.probe now)).Estimates divisor (m.note (.probe now) ++ j) := by
  have hknows := h.knows.probe now
  cases hprobe : m.nextProbe? now with
  | none =>
      simp only [meet, note, hprobe] at hknows ⊢
      exact h
  | some p =>
      simp only [meet, note, hprobe] at hknows ⊢
      obtain ⟨target, -, rfl⟩ := Option.map_eq_some_iff.mp hprobe
      exact h.same hknows rfl ⟨rfl, rfl⟩

/-- Whatever happens, the smoothed latency comes from the samples. -/
theorem Estimates.meet (h : m.Estimates divisor j) (e : Event) :
    (m.meet e).Estimates divisor (m.note e ++ j) := by
  have hknows := h.knows.meet e
  cases e with
  | start target now => exact h.start target now
  | stop now => exact h.same hknows rfl (smoothed_stop m now)
  | probe now => exact h.probe now
  | answer sequence at_ => exact h.answer sequence at_
  | sendFailure => exact h.same hknows rfl ⟨rfl, rfl⟩
  | checkup now => exact h.same hknows rfl (smoothed_enter { m with sendFailed := false } _ now)

theorem Estimates.run (h : m.Estimates divisor j) (events : List Event) :
    (m.run events).Estimates divisor (m.journal events ++ j) := by
  induction events generalizing m j with
  | nil => exact h
  | cons e events ih =>
      rw [journal, List.append_assoc]
      exact ih (h.meet e)

/-- The smoothed latency is what the latencies of the answers are smoothed to that were taken
    since the monitor was last armed without being armed with the same target already. Where
    no disarming comes before an arming with the same target, these are the answers since it
    was last armed with a target other than the time before. Disarming itself keeps the
    estimate, and so does arming with the target that the monitor is armed with, but to be
    disarmed and then armed drops it, whatever the target is. -/
theorem smoothed_from_samples (tuning : HealthTuning) (createdAt : Nat) (events : List Event) :
    let m := (fresh tuning createdAt).run events
    let j := (fresh tuning createdAt).journal events
    m.smoothed = estimate tuning.divisor (j.samples Journal.target?) ∧
    (j.IsUninterrupted →
      m.smoothed = estimate tuning.divisor (j.samples Journal.lastTarget?)) ∧
    (∀ now, (m.meet (.stop now)).smoothed = m.smoothed) ∧
    (∀ target now, j.target? = some target →
      (m.meet (.start target now)).smoothed = m.smoothed) ∧
    ∀ now target later, ((m.meet (.stop now)).meet (.start target later)).smoothed = none := by
  intro m j
  have hfresh : (fresh tuning createdAt).Estimates tuning.divisor [] :=
    ⟨fresh_knows tuning createdAt, rfl, rfl⟩
  have h : m.Estimates tuning.divisor j := by
    have hrun := hfresh.run events
    rwa [List.append_nil] at hrun
  refine ⟨h.smoothed, fun huninterrupted => ?_, fun now => (smoothed_stop m now).2,
    fun target now htarget => ?_, fun now target later => ?_⟩
  · rw [huninterrupted.samples_eq]
    exact h.smoothed
  · have hsame : m.target = some target := h.knows.target.trans htarget
    exact if_pos hsame
  · have hstopped : (m.stop now).2.target = none := (h.knows.stop now).target
    have hother : (m.stop now).2.target ≠ some target := by
      rw [hstopped]
      exact nofun
    exact if_neg hother

/-- To arm the monitor again with the target of the arming before is not to keep its estimate:
    one answer of 42 ms was taken, and nothing is left of it. -/
theorem estimate_is_dropped_on_return :
    let gateway : Net.Address := .v4 0x0a400001#32
    let events : List Event :=
      [.start gateway 0, .probe 0, .answer 0 42000, .stop 42000, .start gateway 42000]
    let m := (fresh {} 0).run events
    let j := (fresh {} 0).journal events
    m.target = some gateway ∧ j.samples Journal.lastTarget? = [42000] ∧
      m.smoothed ≠ estimate 8 (j.samples Journal.lastTarget?) := by
  intro gateway events m j
  have hsamples : j.samples Journal.lastTarget? = [42000] := by decide +kernel
  have hdropped : m.smoothed = none := rfl
  refine ⟨by decide +kernel, hsamples, ?_⟩
  rw [hdropped, hsamples]
  exact nofun

end TunnelSession.HealthMonitor
