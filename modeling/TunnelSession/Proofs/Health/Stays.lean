/-
  TunnelSession.Proofs.Health.Stays

  What the tally of a monitor says about its past: how often each state was entered, and
  how long the connection was in it. The stability never changes without the change being
  told, and each change is counted once, for the state that it leads to, by a counter of
  32 bits that wraps around at its end. The time in a state is counted when the state is
  left, so that the tally reaches up to the latest change and leaves out the stay that is
  not over.

  The time is measured against the instants themselves. Of those between the creation of
  the monitor and its latest change, the tally has as many for each state as there are in
  which the connection was in that state. This needs a clock that never goes back; when an
  answer is received has no part in it.
-/
import Mathlib.Algebra.BigOperators.Intervals
import TunnelSession.Proofs.Health.Journal
import TunnelSession.Proofs.Health.Signal

namespace TunnelSession

/-! ## Tallies -/

namespace StayTally

/-- Adds up one number of the stays over all states. -/
def total (t : StayTally) (f : Stay → Nat) : Nat := f t.stable + f t.unstable + f t.noSignal

theorem get_modify (t : StayTally) (s other : Stability) (f : Stay → Stay) :
    (t.modify s f).get other = if other = s then f (t.get other) else t.get other := by
  cases s <;> cases other <;> rfl

variable (t : StayTally) (left entered s : Stability) (spent : Nat)

theorem entries_change : ((t.change left entered spent).get s).entries =
    (t.get s).entries + if s = entered then 1 else 0 := by
  unfold change
  rw [get_modify, get_modify]
  by_cases hs : s = entered
  · rw [if_pos hs, if_pos hs]
    split <;> rfl
  · rw [if_neg hs, if_neg hs, UInt32.add_zero]
    split <;> rfl

theorem time_change : ((t.change left entered spent).get s).time =
    (t.get s).time + if s = left then spent else 0 := by
  unfold change
  rw [get_modify, get_modify]
  split <;> split <;> rfl

theorem total_time_change :
    (t.change left entered spent).total (·.time) = t.total (·.time) + spent := by
  cases left <;> cases entered <;> simp only [change, modify, total] <;> omega

end StayTally

/-- Every member of a list of states is one of the three. -/
theorem Stability.count_add_count (l : List Stability) :
    l.count .stable + l.count .unstable + l.count .noSignal = l.length := by
  induction l with
  | nil => rfl
  | cons s l ih => cases s <;> simp only [List.count_cons, List.length_cons] <;> grind

namespace HealthMonitor

variable {m m' : HealthMonitor} {createdAt now : Nat} {next : Stability}

/-! ## Changes of the stability -/

/-- The instant at which something happens, where the monitor is told. -/
def Event.now? : Event → Option Nat
  | .start _ now | .stop now | .probe now | .checkup now => some now
  | .answer _ _ | .sendFailure => none

/-- What the monitor tells when something happens. -/
def told (m : HealthMonitor) : Event → Option Stability
  | .stop now => (m.stop now).1
  | .checkup now => (m.checkup now).1
  | .start _ _ | .probe _ | .answer _ _ | .sendFailure => none

/-- A change of the stability. -/
structure Change where
  entered : Stability
  at_ : Nat

/-- The change that something makes, if the stability is another one afterwards. -/
def change? (m : HealthMonitor) (e : Event) : Option Change :=
  if (m.meet e).stability = m.stability then none
  else e.now?.map (⟨(m.meet e).stability, ·⟩)

/-- The changes that are made in turn, the latest first. -/
def changes (m : HealthMonitor) : List Event → List Change
  | [] => []
  | e :: events => (m.meet e).changes events ++ (m.change? e).toList

/-- The instant of the latest change, or of the creation if there was none. -/
def lastChange (createdAt : Nat) (cs : List Change) : Nat :=
  (cs.head?.map (·.at_)).getD createdAt

/-- The stability at an instant: the one that was entered last. -/
def stabilityAt (cs : List Change) (t : Nat) : Stability :=
  ((cs.find? (·.at_ ≤ t)).map (·.entered)).getD .noSignal

/-- The instants up to the latest change at which the connection was in a state. -/
def instantsIn (createdAt : Nat) (cs : List Change) (s : Stability) : Finset Nat :=
  (Finset.Ico createdAt (lastChange createdAt cs)).filter (stabilityAt cs · = s)

/-- What is known about the stay that is not over, and about those that are, is the same. -/
structure Remains (m m' : HealthMonitor) : Prop where
  stability : m'.stability = m.stability
  since : m'.enteredAt = m.enteredAt
  tally : m'.tally = m.tally

/-- What happens leaves the stays alone and is not told, or it is that a state is entered. -/
theorem meet_cases (m : HealthMonitor) (e : Event) :
    (m.told e = none ∧ m.Remains (m.meet e)) ∨
      ∃ base next now, e.now? = some now ∧ m.Remains base ∧
        m.told e = (base.enter next now).1 ∧ m.meet e = (base.enter next now).2 := by
  cases e with
  | start target now => exact .inl ⟨rfl, rfl, rfl, rfl⟩
  | sendFailure => exact .inl ⟨rfl, rfl, rfl, rfl⟩
  | checkup now =>
      exact .inr ⟨{ m with sendFailed := false }, m.classify now, now, rfl, ⟨rfl, rfl, rfl⟩, rfl,
        rfl⟩
  | stop now =>
      show ((m.stop now).1 = none ∧ m.Remains (m.stop now).2) ∨ _
      by_cases harmed : m.isArmed
      · have hstop : m.stop now =
            { m with armed := none, awaited := none }.enter .noSignal now := if_pos harmed
        refine .inr ⟨{ m with armed := none, awaited := none }, .noSignal, now, rfl,
          ⟨rfl, rfl, rfl⟩, ?_, ?_⟩
        · exact congrArg Prod.fst hstop
        · exact congrArg Prod.snd hstop
      · have hstop : m.stop now = (none, m) := if_neg harmed
        rw [hstop]
        exact .inl ⟨rfl, rfl, rfl, rfl⟩
  | probe now =>
      refine .inl ⟨rfl, ?_⟩
      show m.Remains (((m.nextProbe? now).map (·.2)).getD m)
      cases hprobe : m.nextProbe? now with
      | none => exact ⟨rfl, rfl, rfl⟩
      | some p =>
          obtain ⟨target, -, rfl⟩ := Option.map_eq_some_iff.mp hprobe
          exact ⟨rfl, rfl, rfl⟩
  | answer sequence at_ =>
      refine .inl ⟨rfl, ?_⟩
      show m.Remains ((m.answer? sequence at_).getD m)
      cases htaken : m.answer? sequence at_ with
      | none => exact ⟨rfl, rfl, rfl⟩
      | some m' =>
          obtain ⟨newest, older, -, -, -, -, rfl⟩ := answer?_eq_some_iff.mp htaken
          exact ⟨rfl, rfl, rfl⟩

theorem enter_eq_some_iff {s : Stability} : (m.enter next now).1 = some s ↔
    (m.enter next now).2.stability = s ∧ s ≠ m.stability := by
  rw [stability_enter]
  unfold enter
  split
  · next hsame =>
    simp only [reduceCtorEq, false_iff, not_and, not_not]
    intro hs
    exact hs.symm.trans hsame
  · next hother =>
    simp only [Option.some.injEq]
    constructor
    · intro hs
      exact ⟨hs, fun h => hother (hs.trans h)⟩
    · exact And.left

/-- A change is told just if there is one. -/
theorem told_eq_some_iff (m : HealthMonitor) (e : Event) (s : Stability) :
    m.told e = some s ↔ (m.meet e).stability = s ∧ s ≠ m.stability := by
  rcases m.meet_cases e with ⟨htold, hremains⟩ | ⟨base, next, now, -, hremains, htold, hmeet⟩
  · rw [htold, hremains.stability]
    simp only [reduceCtorEq, false_iff, not_and, not_not]
    exact Eq.symm
  · rw [htold, hmeet, ← hremains.stability]
    exact enter_eq_some_iff

/-- A stay begins when something happens, or has begun before. -/
theorem enteredAt_meet (m : HealthMonitor) (e : Event) :
    (m.meet e).enteredAt = m.enteredAt ∨ e.now? = some (m.meet e).enteredAt := by
  rcases m.meet_cases e with ⟨-, hremains⟩ | ⟨base, next, now, hclock, hremains, -, hmeet⟩
  · exact .inl hremains.since
  · rw [hmeet, hclock]
    unfold enter
    split
    · exact .inl hremains.since
    · exact .inr rfl

/-- A change makes no difference to the instants before it. -/
theorem stabilityAt_cons_of_lt {cs : List Change} {t : Nat} (h : t < now) :
    stabilityAt (⟨next, now⟩ :: cs) t = stabilityAt cs t := by
  have hlate : ¬ now ≤ t := by omega
  simp [stabilityAt, hlate]

/-! ## What the tally says -/

/-- `m.Tallies createdAt cs`: the tally says what the changes of a monitor say. -/
structure Tallies (m : HealthMonitor) (createdAt : Nat) (cs : List Change) : Prop where
  stability : m.stability = (cs.head?.map (·.entered)).getD .noSignal
  since : m.enteredAt = lastChange createdAt cs
  forward : createdAt ≤ m.enteredAt
  differ : (cs.map Change.entered ++ [Stability.noSignal]).IsChain (· ≠ ·)
  entries : ∀ s, (m.tally.get s).entries = UInt32.ofNat ((cs.map Change.entered).count s)
  time : ∀ s, (m.tally.get s).time = (instantsIn createdAt cs s).card
  spent : createdAt + m.tally.total (·.time) = m.enteredAt

theorem fresh_tallies (tuning : HealthTuning) (createdAt : Nat) :
    (fresh tuning createdAt).Tallies createdAt [] where
  stability := rfl
  since := rfl
  forward := le_rfl
  differ := List.isChain_singleton _
  entries s := by cases s <;> rfl
  time s := by
    have hempty : instantsIn createdAt [] s = ∅ := by simp [instantsIn, lastChange]
    rw [hempty]
    cases s <;> rfl
  spent := rfl

namespace Tallies

variable {cs : List Change} {e : Event}

theorem same (h : m.Tallies createdAt cs) (hremains : m.Remains m') : m'.Tallies createdAt cs where
  stability := hremains.stability.trans h.stability
  since := hremains.since.trans h.since
  forward := hremains.since ▸ h.forward
  differ := h.differ
  entries := hremains.tally ▸ h.entries
  time := hremains.tally ▸ h.time
  spent := by
    rw [hremains.tally, hremains.since]
    exact h.spent

/-- From the latest change on, the stability is the present one. -/
theorem stabilityAt_eq (h : m.Tallies createdAt cs) {t : Nat} (ht : m.enteredAt ≤ t) :
    stabilityAt cs t = m.stability := by
  rw [h.since] at ht
  rw [h.stability]
  cases cs with
  | nil => rfl
  | cons c cs =>
      have hat : c.at_ ≤ t := ht
      simp [stabilityAt, hat]

/-- The instants since the latest change are all spent in the present state. -/
theorem card_instantsIn (h : m.Tallies createdAt cs) (hnow : m.enteredAt ≤ now)
    (next s : Stability) :
    (instantsIn createdAt (⟨next, now⟩ :: cs) s).card =
      (instantsIn createdAt cs s).card + if s = m.stability then now - m.enteredAt else 0 := by
  have hbefore : ∀ t ∈ Finset.Ico createdAt m.enteredAt,
      (if stabilityAt (⟨next, now⟩ :: cs) t = s then 1 else 0 : Nat) =
        if stabilityAt cs t = s then 1 else 0 := by
    intro t ht
    have hlt := (Finset.mem_Ico.mp ht).2
    rw [stabilityAt_cons_of_lt (by omega)]
  have hsince : ∀ t ∈ Finset.Ico m.enteredAt now,
      (if stabilityAt (⟨next, now⟩ :: cs) t = s then 1 else 0 : Nat) =
        if s = m.stability then 1 else 0 := by
    intro t ht
    obtain ⟨hfrom, hlt⟩ := Finset.mem_Ico.mp ht
    rw [stabilityAt_cons_of_lt hlt, h.stabilityAt_eq hfrom]
    simp only [eq_comm]
  unfold instantsIn
  rw [Finset.card_filter, Finset.card_filter]
  show ∑ t ∈ Finset.Ico createdAt now, _ = _
  -- the stay that ends now is the part of the instants that is new
  rw [← Finset.sum_Ico_consecutive _ h.forward hnow, Finset.sum_congr rfl hbefore,
    Finset.sum_const_nat hsince, ← h.since, Nat.card_Ico]
  split <;> omega

/-- Entering another state is one more change. -/
theorem change (h : m.Tallies createdAt cs) (hnow : m.enteredAt ≤ now)
    (hother : next ≠ m.stability) :
    Tallies { m with
      stability := next
      enteredAt := now
      tally := m.tally.change m.stability next (now - m.enteredAt) }
      createdAt (⟨next, now⟩ :: cs) where
  stability := rfl
  since := rfl
  forward := h.forward.trans hnow
  differ := by
    show (next :: (cs.map Change.entered ++ [Stability.noSignal])).IsChain (· ≠ ·)
    refine List.isChain_cons.mpr ⟨fun s hs => ?_, h.differ⟩
    have hlatest : s = m.stability := by
      rw [h.stability]
      cases cs with
      | nil => simpa [eq_comm] using hs
      | cons c cs => simpa [eq_comm] using hs
    rwa [hlatest]
  entries s := by
    show ((m.tally.change m.stability next _).get s).entries =
      UInt32.ofNat ((next :: cs.map _).count s)
    rw [StayTally.entries_change, h.entries, List.count_cons, UInt32.ofNat_add]
    by_cases hs : s = next
    · rw [if_pos hs, if_pos (beq_iff_eq.mpr hs.symm)]
      rfl
    · rw [if_neg hs, if_neg (fun h => hs (beq_iff_eq.mp h).symm)]
      rfl
  time s := by
    show ((m.tally.change m.stability next _).get s).time = _
    rw [StayTally.time_change, h.time, h.card_instantsIn hnow]
  spent := by
    show createdAt + (m.tally.change m.stability next _).total _ = now
    rw [StayTally.total_time_change]
    have hspent := h.spent
    omega

/-- Whatever happens, the tally says what the changes say. -/
theorem meet (h : m.Tallies createdAt cs) (hnow : ∀ t ∈ e.now?, m.enteredAt ≤ t) :
    (m.meet e).Tallies createdAt ((m.change? e).toList ++ cs) := by
  unfold change?
  rcases m.meet_cases e with ⟨-, hremains⟩ | ⟨base, next, now, hclock, hremains, -, hmeet⟩
  · rw [if_pos hremains.stability]
    exact h.same hremains
  · rw [hmeet, stability_enter, hclock, ← hremains.stability]
    have hbase : base.Tallies createdAt cs := h.same hremains
    have hforward : base.enteredAt ≤ now := hremains.since ▸ hnow now hclock
    unfold HealthMonitor.enter
    split
    · exact hbase
    · next hother => exact hbase.change hforward hother

/-- As long as no counter has come to its end, the counters are how often the states were
    entered. -/
theorem counted (h : m.Tallies createdAt cs)
    (hroom : ∀ s, (cs.map Change.entered).count s < UInt32.size) :
    (∀ s, (m.tally.get s).entries.toNat = (cs.map Change.entered).count s) ∧
      m.tally.total (·.entries.toNat) = cs.length := by
  have hexact (s : Stability) :
      (m.tally.get s).entries.toNat = (cs.map Change.entered).count s := by
    rw [h.entries]
    exact UInt32.toNat_ofNat_of_lt' (hroom s)
  refine ⟨hexact, ?_⟩
  calc m.tally.total (·.entries.toNat)
      = (cs.map Change.entered).count .stable + (cs.map Change.entered).count .unstable +
          (cs.map Change.entered).count .noSignal := by
        rw [← hexact .stable, ← hexact .unstable, ← hexact .noSignal]
        rfl
    _ = cs.length := by rw [Stability.count_add_count, List.length_map]

theorem run (h : m.Tallies createdAt cs) {events : List Event}
    (hclock : (m.enteredAt :: events.filterMap Event.now?).Pairwise (· ≤ ·)) :
    (m.run events).Tallies createdAt (m.changes events ++ cs) := by
  induction events generalizing m cs with
  | nil => exact h
  | cons e events ih =>
      obtain ⟨hfrom, hrest⟩ := List.pairwise_cons.mp hclock
      have hnow : ∀ t ∈ e.now?, m.enteredAt ≤ t := by
        intro t ht
        exact hfrom t (List.mem_filterMap.mpr ⟨e, List.mem_cons_self, ht⟩)
      have hlater : (events.filterMap Event.now?).Sublist ((e :: events).filterMap Event.now?) :=
        (List.sublist_cons_self e events).filterMap _
      have hafter : ∀ t ∈ events.filterMap Event.now?, (m.meet e).enteredAt ≤ t := by
        intro t ht
        rcases m.enteredAt_meet e with hsame | hchanged
        · rw [hsame]
          exact hfrom t (hlater.subset ht)
        · rw [List.filterMap_cons, hchanged] at hrest
          exact (List.pairwise_cons.mp hrest).1 t ht
      rw [changes, List.append_assoc]
      exact ih (h.meet hnow) (List.pairwise_cons.mpr ⟨hafter, hrest.sublist hlater⟩)

end Tallies

/-- On every run in which the clock never goes back, a change of the stability is told when it
    is made, and nothing else is. Each change leads to another state than the one before, and
    is counted once, for the state that it leads to: the counters are how often their states
    were entered, as numbers of 32 bits, and so together how many changes there were. As long
    as no state was entered more often than its counter can tell, these are the numbers
    themselves. The time in a state is that of the instants between the creation of the
    monitor and the latest change at which the connection was in it, and together these are
    all instants between the two. -/
theorem stays_are_tallied (tuning : HealthTuning) (createdAt : Nat) (events : List Event)
    (hclock : (createdAt :: events.filterMap Event.now?).Pairwise (· ≤ ·)) :
    let m := (fresh tuning createdAt).run events
    let cs := (fresh tuning createdAt).changes events
    (∀ e s, m.told e = some s ↔ (m.meet e).stability = s ∧ s ≠ m.stability) ∧
    (cs.map Change.entered ++ [Stability.noSignal]).IsChain (· ≠ ·) ∧
    (∀ s, (m.tally.get s).entries = UInt32.ofNat ((cs.map Change.entered).count s)) ∧
    m.tally.stable.entries + m.tally.unstable.entries + m.tally.noSignal.entries =
      UInt32.ofNat cs.length ∧
    ((∀ s, (cs.map Change.entered).count s < UInt32.size) →
      (∀ s, (m.tally.get s).entries.toNat = (cs.map Change.entered).count s) ∧
        m.tally.total (·.entries.toNat) = cs.length) ∧
    (∀ s, (m.tally.get s).time = (instantsIn createdAt cs s).card) ∧
    createdAt + m.tally.total (·.time) = lastChange createdAt cs := by
  intro m cs
  have h : m.Tallies createdAt cs := by
    have hrun := (fresh_tallies tuning createdAt).run hclock
    rwa [List.append_nil] at hrun
  refine ⟨m.told_eq_some_iff, h.differ, h.entries, ?_, h.counted, h.time, h.spent.trans h.since⟩
  have hlength : cs.length = (cs.map Change.entered).count .stable +
      (cs.map Change.entered).count .unstable + (cs.map Change.entered).count .noSignal := by
    rw [Stability.count_add_count, List.length_map]
  rw [hlength, UInt32.ofNat_add, UInt32.ofNat_add, ← h.entries, ← h.entries, ← h.entries]
  rfl

/-- A tunnel without answers: it is found unstable, then without a signal once because a probe
    could not be sent, then unstable again until the monitor is stopped. -/
def silence : List Event :=
  [.start (.v4 0x0a400001#32) 0, .checkup 5000000, .checkup 6000000, .sendFailure,
    .checkup 7000000, .checkup 8000000, .stop 10000000]

theorem changes_silence : (fresh {} 0).changes silence =
    [⟨.noSignal, 10000000⟩, ⟨.unstable, 8000000⟩, ⟨.noSignal, 7000000⟩, ⟨.unstable, 5000000⟩] := by
  -- without an answer for too long it does not matter what share of the probes is lost
  simp [silence, changes, change?, meet, fresh, start, checkup, classify, noteSendFailure, enter,
    stop, isArmed, Event.now?]

/-- Each stay is counted once, however many checkups it lasts. -/
theorem silence_is_tallied :
    (0 :: silence.filterMap Event.now?).Pairwise (· ≤ ·) ∧
      let m := (fresh {} 0).run silence
      (m.tally.get .unstable).entries = 2 ∧ (m.tally.get .noSignal).entries = 2 ∧
        m.tally.total (·.entries.toNat) = 4 ∧ m.tally.total (·.time) = 10000000 := by
  have hclock : (0 :: silence.filterMap Event.now?).Pairwise (· ≤ ·) := by decide
  obtain ⟨-, -, hentries, -, hcounted, -, hspent⟩ := stays_are_tallied {} 0 silence hclock
  rw [changes_silence] at hentries hcounted hspent
  have hroom (s : Stability) :
      ([.noSignal, .unstable, .noSignal, .unstable] : List Stability).count s < UInt32.size := by
    cases s <;> decide
  refine ⟨hclock, hentries .unstable, hentries .noSignal, (hcounted hroom).2, ?_⟩
  rw [Nat.zero_add] at hspent
  exact hspent

end HealthMonitor

end TunnelSession
