/-
  TunnelSession.Proofs.Health.Journal

  The runs of a monitor, and the journal that they leave: when the monitor was armed and
  disarmed, which probes it numbered, and which answers it took. The journal goes back to
  the beginning and forgets nothing.

  The monitor itself has no journal. It has a window of the latest probes, a number that
  wraps around, and the number of the probe that it awaits. They tell as much as the
  journal does about which answer counts and how many probes were lost: arming clears the
  window and the marker, disarming the marker alone, and only the newest probe of the
  window is ever answered.
-/
import Mathlib.Data.List.Chain
import TunnelSession.Health.Monitor

namespace TunnelSession.HealthMonitor

/-! ## Runs -/

/-- Everything that can happen to a monitor. -/
inductive Event
  | start (target : Net.Address) (now : Nat)
  | stop (now : Nat)
  | probe (now : Nat)
  | answer (sequence : UInt16) (at_ : Nat)
  | sendFailure
  | checkup (now : Nat)

/-- A monitor to which nothing has happened. -/
def fresh (tuning : HealthTuning) (createdAt : Nat) : HealthMonitor where
  tuning := tuning
  enteredAt := createdAt

/-- What becomes of a monitor when something happens. -/
def meet (m : HealthMonitor) : Event → HealthMonitor
  | .start target now => m.start target now
  | .stop now => (m.stop now).2
  | .probe now => ((m.nextProbe? now).map (·.2)).getD m
  | .answer sequence at_ => (m.answer? sequence at_).getD m
  | .sendFailure => m.noteSendFailure
  | .checkup now => (m.checkup now).2

/-- What becomes of a monitor when things happen in turn. -/
def run (m : HealthMonitor) (events : List Event) : HealthMonitor :=
  events.foldl meet m

/-! ## Journals -/

/-- An entry of the journal. -/
inductive Entry
  | armed (target : Net.Address)
  | disarmed
  | probed (sequence : UInt16) (sentAt : Nat)
  | answered (at_ : Nat)

/-- What was noted, the latest first. -/
abbrev Journal := List Entry

/-- What is noted when something happens. A probe is noted if it was numbered, and an
    answer if it was taken. -/
def note (m : HealthMonitor) : Event → Journal
  | .start target _ => [.armed target]
  | .stop _ => [.disarmed]
  | .probe now => (m.nextProbe? now).toList.map fun p => .probed p.1.2 now
  | .answer sequence at_ => (m.answer? sequence at_).toList.map fun _ => .answered at_
  | .sendFailure | .checkup _ => []

/-- The journal of what happens in turn. -/
def journal (m : HealthMonitor) : List Event → Journal
  | [] => []
  | e :: events => (m.meet e).journal events ++ m.note e

namespace Journal

/-- Where probes go: the latest target, unless the monitor was disarmed since. -/
def target? : Journal → Option Net.Address
  | .armed target :: _ => some target
  | .disarmed :: _ | [] => none
  | _ :: j => target? j

/-- The number of the latest probe and when it was sent, if the monitor was neither armed
    nor disarmed since. -/
def latest? : Journal → Option (UInt16 × Nat)
  | .probed sequence sentAt :: _ => some (sequence, sentAt)
  | .armed _ :: _ | .disarmed :: _ | [] => none
  | .answered _ :: j => latest? j

/-- Whether an answer was taken since the latest probe. -/
def isAnswered : Journal → Bool
  | .answered _ :: _ => true
  | .probed _ _ :: _ | [] => false
  | _ :: j => isAnswered j

/-- All probes since the monitor was armed, the latest first. -/
def probes : Journal → List SentProbe
  | .armed _ :: _ | [] => []
  | .disarmed :: j => probes j
  | .probed sequence sentAt :: j => ⟨sequence, sentAt, none⟩ :: probes j
  | .answered at_ :: j =>
    (probes j).modifyHead fun p => { p with latency := some (at_ - p.sentAt) }

/-- The probes that the loss is computed from: the latest ones, of which the newest may still
    be answered. -/
def settled (j : Journal) : List SentProbe := (j.probes.take probeWindow).tail

/-- How many probes were numbered from the beginning on. -/
def numbered : Journal → Nat
  | [] => 0
  | .probed _ _ :: j => numbered j + 1
  | _ :: j => numbered j

/-- The latest probe is the first of them, with an answer if one was taken. -/
theorem probes_of_latest? {j : Journal} {sequence : UInt16} {sentAt : Nat}
    (h : j.latest? = some (sequence, sentAt)) :
    ∃ latency older, j.probes = ⟨sequence, sentAt, latency⟩ :: older ∧
      latency.isSome = j.isAnswered := by
  induction j with
  | nil => cases h
  | cons entry j ih =>
      cases entry with
      | armed target => cases h
      | disarmed => cases h
      | probed sequence' sentAt' =>
          cases h
          exact ⟨none, probes j, rfl, rfl⟩
      | answered at_ =>
          obtain ⟨latency, older, hprobes, -⟩ := ih h
          refine ⟨some (at_ - sentAt), older, ?_, rfl⟩
          show (probes j).modifyHead _ = _
          rw [hprobes]
          rfl

end Journal

/-! ## What a monitor knows of its journal -/

variable {m m' : HealthMonitor} {j : Journal} {sequence : UInt16} {at_ now sentAt : Nat}

/-- `m.Knows j`: the monitor knows of the journal what it needs. -/
structure Knows (m : HealthMonitor) (j : Journal) : Prop where
  target : m.target = j.target?
  window : m.window = j.probes.take probeWindow
  awaited : m.awaited = j.latest?.map (·.1)
  idle : m.armed = none → m.awaited = none
  next : m.nextSequence = UInt16.ofNat j.numbered
  /-- From the next number on, the numbers run down without a gap. -/
  consecutive : (m.nextSequence :: m.window.map (·.sequence)).IsChain
    fun newer older => newer = older + 1

/-- What else changes about a monitor makes no difference. -/
theorem Knows.same (h : m.Knows j) (harmed : m'.armed = m.armed) (hwindow : m'.window = m.window)
    (hnext : m'.nextSequence = m.nextSequence) (hawaited : m'.awaited = m.awaited) :
    m'.Knows j where
  target := by
    rw [HealthMonitor.target, harmed]
    exact h.target
  window := hwindow.trans h.window
  awaited := hawaited.trans h.awaited
  idle hidle := hawaited.trans (h.idle (harmed.symm.trans hidle))
  next := hnext.trans h.next
  consecutive := by
    rw [hnext, hwindow]
    exact h.consecutive

theorem fresh_knows (tuning : HealthTuning) (createdAt : Nat) :
    (fresh tuning createdAt).Knows [] where
  target := rfl
  window := rfl
  awaited := rfl
  idle _ := rfl
  next := rfl
  consecutive := List.isChain_singleton _

theorem Knows.enter (h : m.Knows j) (s : Stability) (now : Nat) : (m.enter s now).2.Knows j := by
  unfold HealthMonitor.enter
  split
  · exact h
  · exact h.same rfl rfl rfl rfl

theorem Knows.checkup (h : m.Knows j) (now : Nat) : (m.checkup now).2.Knows j := by
  have hlooked : Knows { m with sendFailed := false } j := h.same rfl rfl rfl rfl
  exact hlooked.enter _ now

/-! ## Arming and disarming -/

theorem Knows.start (h : m.Knows j) (target : Net.Address) (now : Nat) :
    (m.start target now).Knows (.armed target :: j) where
  target := rfl
  window := rfl
  awaited := rfl
  idle := nofun
  next := h.next
  consecutive := List.isChain_singleton _

/-- Disarming takes the target and the marker, and leaves the window as it is. -/
theorem Knows.stop (h : m.Knows j) (now : Nat) : (m.stop now).2.Knows (.disarmed :: j) := by
  have hdisarmed : Knows { m with armed := none, awaited := none } (.disarmed :: j) :=
    ⟨rfl, h.window, rfl, fun _ => rfl, h.next, h.consecutive⟩
  unfold HealthMonitor.stop
  split
  · exact hdisarmed.enter _ now
  · next hidle =>
    -- a monitor that is not armed has neither of them
    have harmed : m.armed = none := by simpa [isArmed] using hidle
    exact hdisarmed.same harmed rfl rfl (h.idle harmed)

/-! ## Probes -/

/-- What is left of the window with one more probe in front is what is left of the journal. -/
theorem Knows.probe (h : m.Knows j) (now : Nat) :
    (m.meet (.probe now)).Knows (m.note (.probe now) ++ j) := by
  cases hprobe : m.nextProbe? now with
  | none =>
      simp only [HealthMonitor.meet, note, hprobe]
      exact h
  | some p =>
      simp only [HealthMonitor.meet, note, hprobe]
      obtain ⟨target, htarget, rfl⟩ := Option.map_eq_some_iff.mp hprobe
      exact {
        target := h.target
        window := by
          -- what the window lost before, it would lose now
          show (_ :: m.window).take probeWindow = (_ :: Journal.probes j).take probeWindow
          rw [h.window, probeWindow, List.take_succ_cons, List.take_succ_cons, List.take_take]
          rfl
        awaited := rfl
        idle := fun hidle => by
          have hunarmed : m.armed = none := hidle
          rw [HealthMonitor.target, hunarmed] at htarget
          cases htarget
        next := by
          show m.nextSequence + 1 = UInt16.ofNat (Journal.numbered j + 1)
          rw [h.next, UInt16.ofNat_add]
          rfl
        consecutive := by
          have hchain : ((m.nextSequence + 1) :: m.nextSequence :: m.window.map
              (·.sequence)).IsChain fun newer older => newer = older + 1 :=
            List.isChain_cons_cons.mpr ⟨rfl, h.consecutive⟩
          have hshorter := hchain.take (probeWindow + 1)
          rw [List.take_succ_cons] at hshorter
          show (_ :: ((_ :: m.window).take probeWindow).map _).IsChain _
          rw [List.map_take]
          exact hshorter }

/-! ## Answers -/

theorem answer?_eq_some_iff : m.answer? sequence at_ = some m' ↔
    ∃ newest older, m.window = newest :: older ∧ m.awaited = some sequence ∧
      newest.sequence = sequence ∧ newest.latency = none ∧
      m' = { m with
        window := { newest with latency := some (at_ - newest.sentAt) } :: older
        latest := some (at_ - newest.sentAt)
        lastAnswerAt := some at_
        sendFailed := false
        smoothed := some (smooth m.tuning.divisor m.smoothed
          (milliseconds (at_ - newest.sentAt))) } := by
  unfold answer?
  constructor
  · intro h
    split at h
    · next newest older hwindow =>
      split at h
      · next hcounts =>
        cases h
        exact ⟨newest, older, hwindow, hcounts.1, hcounts.2.1, hcounts.2.2, rfl⟩
      · cases h
    · cases h
  · rintro ⟨newest, older, hwindow, hawaited, hsequence, hlatency, rfl⟩
    rw [hwindow]
    exact if_pos ⟨hawaited, hsequence, hlatency⟩

/-- The newest probe of the window is the latest of the journal. -/
theorem Knows.newest (h : m.Knows j) (hlatest : j.latest? = some (sequence, sentAt)) :
    ∃ latency older, m.window = ⟨sequence, sentAt, latency⟩ :: older ∧
      latency.isSome = j.isAnswered := by
  obtain ⟨latency, older, hprobes, hanswered⟩ := Journal.probes_of_latest? hlatest
  refine ⟨latency, older.take 31, ?_, hanswered⟩
  rw [h.window, hprobes]
  rfl

theorem Knows.latest? (h : m.Knows j) (hawaited : m.awaited = some sequence) :
    ∃ sentAt, j.latest? = some (sequence, sentAt) := by
  rw [h.awaited, Option.map_eq_some_iff] at hawaited
  obtain ⟨⟨_, sentAt⟩, hlatest, rfl⟩ := hawaited
  exact ⟨sentAt, hlatest⟩

/-- An answer is taken if it is to the latest probe and that one has none. -/
theorem Knows.answer?_isSome_iff (h : m.Knows j) :
    (m.answer? sequence at_).isSome = true ↔
      (∃ sentAt, j.latest? = some (sequence, sentAt)) ∧ j.isAnswered = false := by
  rw [Option.isSome_iff_exists]
  constructor
  · rintro ⟨m', htaken⟩
    obtain ⟨newest, older, hwindow, hawaited, -, hlatency, -⟩ := answer?_eq_some_iff.mp htaken
    obtain ⟨sentAt, hlatest⟩ := h.latest? hawaited
    obtain ⟨latency, older', hwindow', hanswered⟩ := h.newest hlatest
    obtain ⟨rfl, -⟩ := List.cons.inj (hwindow.symm.trans hwindow')
    refine ⟨⟨sentAt, hlatest⟩, ?_⟩
    rw [← hanswered, show latency = none from hlatency]
    rfl
  · rintro ⟨⟨sentAt, hlatest⟩, hunanswered⟩
    obtain ⟨latency, older, hwindow, hanswered⟩ := h.newest hlatest
    have hlatency : latency = none := by
      rw [← Option.isNone_iff_eq_none, ← Option.not_isSome, hanswered, hunanswered]
      rfl
    have hawaited : m.awaited = some sequence := by rw [h.awaited, hlatest]; rfl
    exact ⟨_, answer?_eq_some_iff.mpr ⟨_, older, hwindow, hawaited, rfl, hlatency, rfl⟩⟩

theorem Knows.answer (h : m.Knows j) (sequence : UInt16) (at_ : Nat) :
    (m.meet (.answer sequence at_)).Knows (m.note (.answer sequence at_) ++ j) := by
  cases htaken : m.answer? sequence at_ with
  | none =>
      simp only [HealthMonitor.meet, note, htaken]
      exact h
  | some m' =>
      simp only [HealthMonitor.meet, note, htaken]
      obtain ⟨newest, older, hwindow, -, -, -, rfl⟩ := answer?_eq_some_iff.mp htaken
      have hprobes := hwindow.symm.trans h.window
      have hconsecutive := h.consecutive
      rw [hwindow] at hconsecutive
      exact {
        target := h.target
        window := by
          show _ = ((Journal.probes j).modifyHead _).take probeWindow
          -- the window is not empty, and so the journal has a probe, too
          cases hj : j.probes with
          | nil => rw [hj] at hprobes; cases hprobes
          | cons latest earlier =>
              rw [hj, probeWindow, List.take_succ_cons] at hprobes
              obtain ⟨rfl, rfl⟩ := List.cons.inj hprobes
              rfl
        awaited := h.awaited
        idle := h.idle
        next := h.next
        consecutive := hconsecutive }

/-! ## Runs and their journals -/

/-- Whatever happens, the monitor knows of it what it needs. -/
theorem Knows.meet (h : m.Knows j) (e : Event) : (m.meet e).Knows (m.note e ++ j) := by
  cases e with
  | start target now => exact h.start target now
  | stop now => exact h.stop now
  | probe now => exact h.probe now
  | answer sequence at_ => exact h.answer sequence at_
  | sendFailure => exact h.same rfl rfl rfl rfl
  | checkup now => exact h.checkup now

theorem Knows.run (h : m.Knows j) (events : List Event) :
    (m.run events).Knows (m.journal events ++ j) := by
  induction events generalizing m j with
  | nil => exact h
  | cons e events ih =>
      rw [journal, List.append_assoc]
      exact ih (h.meet e)

/-- There is something to compute the loss from once there are two probes. -/
theorem Knows.lossRatio (h : m.Knows j) : m.lossRatio =
    if j.probes.length < 2 then 0
    else (j.settled.countP (·.latency.isNone)).toFloat / j.settled.length.toFloat := by
  have hsettled : m.settled = j.settled := congrArg List.tail h.window
  have hfew : j.settled.isEmpty = true ↔ j.probes.length < 2 := by
    rw [List.isEmpty_iff_length_eq_zero, Journal.settled, List.length_tail, List.length_take,
      probeWindow]
    omega
  rw [HealthMonitor.lossRatio, lost, hsettled, List.countP_eq_length_filter]
  simp only [hfew]

/-- A monitor takes an answer just if it is to the latest probe since the monitor was armed or
    disarmed, and no answer to it was taken before; any other answer leaves the monitor as it
    is. Its window has the latest probes since it was armed, with their answers, and never more
    than fit in. Numbers follow one another, over the wrap and over every arming, and the loss
    is the share of these probes that have no answer, the newest left out. -/
theorem only_latest_is_answered (tuning : HealthTuning) (createdAt : Nat) (events : List Event) :
    let m := (fresh tuning createdAt).run events
    let j := (fresh tuning createdAt).journal events
    (∀ sequence at_,
      ((m.answer? sequence at_).isSome = true ↔
        (∃ sentAt, j.latest? = some (sequence, sentAt)) ∧ j.isAnswered = false) ∧
      ((m.answer? sequence at_).isSome = false → m.meet (.answer sequence at_) = m)) ∧
    m.window = j.probes.take probeWindow ∧
    m.window.length ≤ probeWindow ∧
    m.nextSequence = UInt16.ofNat j.numbered ∧
    (m.nextSequence :: m.window.map (·.sequence)).IsChain (fun newer older => newer = older + 1) ∧
    m.lossRatio =
      if j.probes.length < 2 then 0
      else (j.settled.countP (·.latency.isNone)).toFloat / j.settled.length.toFloat := by
  intro m j
  have h : m.Knows j := by
    have hrun := (fresh_knows tuning createdAt).run events
    rwa [List.append_nil] at hrun
  refine ⟨fun sequence at_ => ⟨h.answer?_isSome_iff, fun hrefused => ?_⟩, h.window, ?_, h.next,
    h.consecutive, h.lossRatio⟩
  · have hnone : m.answer? sequence at_ = none := by
      rwa [Option.isSome_eq_false_iff, Option.isNone_iff_eq_none] at hrefused
    show (m.answer? sequence at_).getD m = m
    rw [hnone]
    rfl
  · rw [h.window]
    exact List.length_take_le _ _

-- an answer to an older probe, the answer to the latest one, and the same again
example (gateway : Net.Address) :
    (fresh {} 0).journal [.start gateway 0, .probe 0, .probe 1000000, .answer 0 1042000,
      .answer 1 1042000, .answer 1 1043000] =
    [.answered 1042000, .probed 1 1000000, .probed 0 0, .armed gateway] := rfl

end TunnelSession.HealthMonitor
