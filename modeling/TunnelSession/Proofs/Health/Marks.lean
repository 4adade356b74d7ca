/-
  TunnelSession.Proofs.Health.Marks

  The mark of a probe that could not be sent. The mark hides what the monitor has seen
  until the next checkup or the next answer, and has no other part in what the monitor
  does: two monitors that have seen the same go on seeing the same, whichever of them is
  marked. What is not undone is the number that the probe was given.
-/
import TunnelSession.Health.Monitor

namespace TunnelSession.HealthMonitor

variable {m m' : HealthMonitor} {now at_ : Nat} {sequence : UInt16}

/-! ## What a monitor has seen -/

/-- The monitor without the mark, and without what its checkups have made of what it has
    seen. -/
def seen (m : HealthMonitor) : HealthMonitor :=
  { m with sendFailed := false, stability := .noSignal, enteredAt := 0, tally := {} }

/-! What can happen to a monitor does the same to what it has seen. -/

theorem nextProbe?_seen (m : HealthMonitor) (now : Nat) :
    m.seen.nextProbe? now = (m.nextProbe? now).map fun p => (p.1, p.2.seen) := by
  show m.target.map _ = (m.target.map _).map _
  rw [Option.map_map]
  rfl

theorem answer?_seen (m : HealthMonitor) (sequence : UInt16) (at_ : Nat) :
    m.seen.answer? sequence at_ = (m.answer? sequence at_).map seen := by
  unfold answer?
  cases hwindow : m.window with
  | nil => simp [seen, hwindow]
  | cons newest older =>
      by_cases hnew : m.awaited = some sequence ∧ newest.sequence = sequence ∧ newest.latency = none
      · simp [seen, hwindow, hnew]
      · simp [seen, hwindow, hnew]

theorem seen_enter (m : HealthMonitor) (s : Stability) (now : Nat) :
    (m.enter s now).2.seen = m.seen := by
  unfold enter
  split <;> rfl

theorem seen_checkup (m : HealthMonitor) (now : Nat) : (m.checkup now).2.seen = m.seen :=
  seen_enter { m with sendFailed := false } _ now

theorem sendFailed_checkup (m : HealthMonitor) (now : Nat) :
    (m.checkup now).2.sendFailed = false := by
  unfold checkup enter
  split <;> rfl

theorem sendFailed_answer? (h : m.answer? sequence at_ = some m') : m'.sendFailed = false := by
  unfold answer? at h
  split at h
  · split at h
    · cases h
      rfl
    · cases h
  · cases h

theorem sendFailed_nextProbe? {p : (Net.Address × UInt16) × HealthMonitor}
    (h : m.nextProbe? now = some p) : p.2.sendFailed = m.sendFailed := by
  obtain ⟨target, -, rfl⟩ := Option.map_eq_some_iff.mp h
  rfl

/-- A marked monitor has no signal; any other goes by what it has seen. -/
theorem classify_eq (m : HealthMonitor) (now : Nat) :
    m.classify now = if m.sendFailed then .noSignal else m.seen.classify now := by
  unfold classify
  cases harmed : m.armed with
  | none => simp [seen, harmed]
  | some armed =>
      cases m.sendFailed with
      | true => rfl
      | false => simp [seen, harmed, lossRatio, settled, lost]

/-! ## What happens to a monitor -/

/-- A probe is due: it is numbered, and noted if it cannot be sent. -/
def tick (m : HealthMonitor) (now : Nat) (reaches : Net.Address → Bool) : HealthMonitor :=
  match m.nextProbe? now with
  | some ((target, _), numbered) =>
    if reaches target then numbered else numbered.noteSendFailure
  | none => m

/-- An answer came from an address, and is taken if it counts. -/
def hear (m : HealthMonitor) (source : Net.Address) (sequence : UInt16) (at_ : Nat) :
    HealthMonitor :=
  if m.target = some source then (m.answer? sequence at_).getD m else m

/-- `m.Shades m'`: the monitor `m` has seen the same as `m'`, and is marked if `m'` is. -/
structure Shades (m m' : HealthMonitor) : Prop where
  seen : m.seen = m'.seen
  mark : m'.sendFailed = true → m.sendFailed = true

namespace Shades

/-- A checkup takes the mark off, whichever of the two was marked. -/
theorem checkup_of_seen (h : m.seen = m'.seen) (now : Nat) :
    (m.checkup now).2.Shades (m'.checkup now).2 := by
  refine ⟨by rw [seen_checkup, seen_checkup, h], fun hmark => ?_⟩
  rw [sendFailed_checkup] at hmark
  cases hmark

theorem target_eq (h : m.Shades m') : m.target = m'.target := by
  show m.seen.target = m'.seen.target
  rw [h.seen]

/-- A mark can only turn what is found into no signal. -/
theorem classify (h : m.Shades m') (now : Nat) :
    m.classify now = m'.classify now ∨ m.classify now = .noSignal := by
  rw [classify_eq m, classify_eq m', h.seen]
  cases hmark : m'.sendFailed with
  | true =>
      rw [h.mark hmark]
      exact .inl rfl
  | false =>
      cases m.sendFailed with
      | true => exact .inr rfl
      | false => exact .inl rfl

/-- Monitors that are marked alike find the same. -/
theorem classify_eq (h : m.Shades m') (h' : m'.Shades m) (now : Nat) :
    m.classify now = m'.classify now := by
  have hmark : m.sendFailed = m'.sendFailed := Bool.eq_iff_iff.mpr ⟨h'.mark, h.mark⟩
  rw [HealthMonitor.classify_eq m, HealthMonitor.classify_eq m', h.seen, hmark]

theorem tick (h : m.Shades m') (now : Nat) (reaches : Net.Address → Bool) :
    (m.tick now reaches).Shades (m'.tick now reaches) := by
  have hnext := nextProbe?_seen m now
  rw [h.seen, nextProbe?_seen m' now] at hnext
  unfold HealthMonitor.tick
  cases hp : m.nextProbe? now with
  | none =>
      rw [hp, Option.map_none, Option.map_eq_none_iff] at hnext
      rw [hnext]
      exact h
  | some p =>
      -- both number a probe to the same target, and have seen the same after it
      rw [hp, Option.map_some] at hnext
      obtain ⟨p', hp', hsame⟩ := Option.map_eq_some_iff.mp hnext
      obtain ⟨⟨target, sequence⟩, numbered⟩ := p
      obtain ⟨⟨target', sequence'⟩, numbered'⟩ := p'
      simp only [Prod.mk.injEq] at hsame
      obtain ⟨⟨rfl, rfl⟩, hseen⟩ := hsame
      have hnumbered : numbered.Shades numbered' := by
        refine ⟨hseen.symm, fun hmark => ?_⟩
        rw [sendFailed_nextProbe? hp'] at hmark
        exact (sendFailed_nextProbe? hp).trans (h.mark hmark)
      rw [hp']
      dsimp only
      split
      · exact hnumbered
      · exact ⟨hnumbered.seen, fun _ => rfl⟩

theorem hear (h : m.Shades m') (source : Net.Address) (sequence : UInt16) (at_ : Nat) :
    (m.hear source sequence at_).Shades (m'.hear source sequence at_) := by
  have hanswer := answer?_seen m sequence at_
  rw [h.seen, answer?_seen m' sequence at_] at hanswer
  unfold HealthMonitor.hear
  rw [h.target_eq]
  split
  · cases ha : m.answer? sequence at_ with
    | none =>
        rw [ha, Option.map_none, Option.map_eq_none_iff] at hanswer
        rw [hanswer]
        exact h
    | some answered =>
        rw [ha, Option.map_some] at hanswer
        obtain ⟨answered', ha', hseen⟩ := Option.map_eq_some_iff.mp hanswer
        rw [ha']
        refine ⟨hseen.symm, fun hmark => ?_⟩
        rw [Option.getD_some, sendFailed_answer? ha'] at hmark
        cases hmark
  · exact h

theorem checkup (h : m.Shades m') (now : Nat) :
    (m.checkup now).2.Shades (m'.checkup now).2 :=
  checkup_of_seen h.seen now

theorem checkup_symm (h : m.Shades m') (now : Nat) :
    (m'.checkup now).2.Shades (m.checkup now).2 :=
  checkup_of_seen h.seen.symm now

end Shades

/-! ## A probe that could not be sent -/

section Unsent

variable {target : Net.Address} {reaches : Net.Address → Bool}

/-- The probe is numbered and put into the window before it is sent. -/
theorem tick_eq (h : m.target = some target) : m.tick now reaches =
    { m with
      nextSequence := m.nextSequence + 1
      window := (⟨m.nextSequence, now, none⟩ :: m.window).take probeWindow
      awaited := some m.nextSequence
      sendFailed := m.sendFailed || !reaches target } := by
  unfold tick nextProbe?
  rw [h, Option.map_some]
  dsimp only
  split
  · next hreached => rw [hreached, Bool.not_true, Bool.or_false]
  · next hunreached =>
    rw [Bool.eq_false_iff.mpr hunreached, Bool.not_false, Bool.or_true]
    rfl

/-- Whether or not it can be sent makes no other difference than the mark. -/
theorem tick_shades_sent (h : m.target = some target) (now : Nat) (reaches : Net.Address → Bool) :
    (m.tick now reaches).Shades (m.tick now fun _ => true) := by
  rw [tick_eq h, tick_eq h]
  refine ⟨rfl, fun hmark => ?_⟩
  have hmarked : (m.sendFailed || !true) = true := hmark
  rw [Bool.not_true, Bool.or_false] at hmarked
  show (m.sendFailed || _) = true
  rw [hmarked]
  rfl

/-- From then on only an answer with its number counts. -/
theorem answer?_tick (h : m.target = some target) (hne : sequence ≠ m.nextSequence) :
    (m.tick now reaches).answer? sequence at_ = none := by
  rw [tick_eq h]
  unfold answer?
  dsimp only
  split
  · rw [if_neg fun hall => hne (Option.some.inj hall.1).symm]
  · rfl

/-- Once the next probe is numbered, it is one of those that are lost. -/
theorem mem_lost_tick_tick (h : m.target = some target) (later : Nat)
    (reaches' : Net.Address → Bool) :
    ⟨m.nextSequence, now, none⟩ ∈ ((m.tick now reaches).tick later reaches').lost := by
  have h' : (m.tick now reaches).target = some target := by
    rw [tick_eq h]
    exact h
  rw [tick_eq h', tick_eq h, lost, settled, List.mem_filter]
  exact ⟨.head _, rfl⟩

end Unsent

end TunnelSession.HealthMonitor
