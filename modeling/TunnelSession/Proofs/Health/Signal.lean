/-
  TunnelSession.Proofs.Health.Signal

  The stability that a monitor reports, and whether it is armed. A monitor without a
  target has no signal, whatever it saw before, and every change of its stability is told
  when it is made: what was told last is what the monitor goes by.
-/
import TunnelSession.Health.Monitor

namespace TunnelSession.HealthMonitor

variable {m m' : HealthMonitor} {now : Nat} {next : Stability}

/-- Without a target there is no signal. -/
def Quiet (m : HealthMonitor) : Prop := m.isArmed = false → m.stability = .noSignal

theorem Quiet.congr (h : m.Quiet) (ha : m'.isArmed = m.isArmed) (hs : m'.stability = m.stability) :
    m'.Quiet :=
  fun hidle => hs.trans (h (ha.symm.trans hidle))

/-! ## Changes of the stability -/

theorem stability_enter (m : HealthMonitor) (next : Stability) (now : Nat) :
    (m.enter next now).2.stability = next := by
  unfold enter
  split
  · next h => exact h.symm
  · rfl

theorem isArmed_enter (m : HealthMonitor) (next : Stability) (now : Nat) :
    (m.enter next now).2.isArmed = m.isArmed := by
  unfold enter
  split <;> rfl

/-- What is told is the stability from then on; nothing is told if it stays the same. -/
theorem getD_enter (m : HealthMonitor) (next : Stability) (now : Nat) :
    (m.enter next now).1.getD m.stability = next := by
  unfold enter
  split
  · next h => exact h.symm
  · rfl

/-! ## Disarming -/

theorem isArmed_stop (m : HealthMonitor) (now : Nat) : (m.stop now).2.isArmed = false := by
  unfold stop
  split
  · exact isArmed_enter _ _ now
  · next h => exact Bool.eq_false_iff.mpr h

/-- A monitor that is stopped has no signal, and says so unless it had none. -/
theorem Quiet.stop (h : m.Quiet) (now : Nat) :
    (m.stop now).2.stability = .noSignal ∧ (m.stop now).1.getD m.stability = .noSignal := by
  unfold HealthMonitor.stop
  split
  · exact ⟨stability_enter _ _ now, getD_enter { m with armed := none, awaited := none } _ now⟩
  · next hidle =>
    have hnone : m.stability = .noSignal := h (Bool.eq_false_iff.mpr hidle)
    exact ⟨hnone, hnone⟩

/-! ## Probes and checkups -/

theorem nextProbe?_keeps {p : (Net.Address × UInt16) × HealthMonitor}
    (h : m.nextProbe? now = some p) : p.2.isArmed = m.isArmed ∧ p.2.stability = m.stability := by
  obtain ⟨target, -, rfl⟩ := Option.map_eq_some_iff.mp h
  exact ⟨rfl, rfl⟩

theorem answer?_keeps {sequence : UInt16} {at_ : Nat} (h : m.answer? sequence at_ = some m') :
    m'.isArmed = m.isArmed ∧ m'.stability = m.stability := by
  unfold answer? at h
  split at h
  · split at h
    · cases h
      exact ⟨rfl, rfl⟩
    · cases h
  · cases h

theorem isArmed_checkup (m : HealthMonitor) (now : Nat) :
    (m.checkup now).2.isArmed = m.isArmed :=
  isArmed_enter _ _ now

/-- What a checkup tells is the stability from then on. -/
theorem getD_checkup (m : HealthMonitor) (now : Nat) :
    (m.checkup now).1.getD m.stability = (m.checkup now).2.stability :=
  (getD_enter { m with sendFailed := false } _ now).trans (stability_enter _ _ now).symm

/-- A checkup finds no signal where there is no target. -/
theorem quiet_checkup (m : HealthMonitor) (now : Nat) : (m.checkup now).2.Quiet := by
  intro hidle
  have hnotArmed : m.isArmed = false := (isArmed_checkup m now).symm.trans hidle
  have htarget : m.armed = none := Option.isSome_eq_false_iff.mp hnotArmed |> Option.isNone_iff_eq_none.mp
  have hclass : m.classify now = .noSignal := by
    rw [classify, htarget]
  exact (stability_enter _ _ now).trans hclass

end TunnelSession.HealthMonitor
