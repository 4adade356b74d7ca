/-
  TunnelSession.Proofs.Sweep.Rounds

  What a sweep does, one probe at a time, and the journal that it leaves. Filling is a
  loop, and each of its rounds tries one probe, for the first target that waits. The
  journal has every probe that was tried, with its number before it was cut to 16 bits, and
  the end that each target came to: it was measured, or given up after its last probe, or
  its probe in flight was displaced by a later one with the same number.

  The probes in flight stand in a list, and those that are lost together go back into the
  queue in the order of that list. Nothing is to hang on this order, and so a run may put
  the list in another order at any time.
-/
import TunnelSession.Sweep.Basic

namespace TunnelSession

namespace Sweep

/-! ## Journals -/

/-- How the measuring of a target ends. -/
inductive Outcome
  /-- With an answer, after so many milliseconds. -/
  | measured (latency : Nat)
  /-- With the loss of the last probe. -/
  | givenUp
  /-- With a later probe that took the number of the one in flight. -/
  | displaced
  deriving DecidableEq

/-- What became of a target: the last probe that was tried for it, and how it ended. -/
structure Fate where
  attempt : SweepTry
  outcome : Outcome
  deriving DecidableEq

/-- An entry of the journal. -/
inductive Entry
  /-- The probe with a number was tried, and went out or did not. -/
  | tried (attempt : SweepTry) (number : Nat) (sent : Bool)
  | ended (fate : Fate)
  deriving DecidableEq

def Entry.try? : Entry → Option SweepTry
  | .tried attempt _ _ => some attempt
  | .ended _ => none

def Entry.fate? : Entry → Option Fate
  | .tried _ _ _ => none
  | .ended fate => some fate

/-- The probe that went out. -/
def Entry.probe? : Entry → Option SweepProbe
  | .tried attempt number true => some ⟨attempt.target.address, UInt16.ofNat number⟩
  | .tried _ _ false | .ended _ => none

/-- What was noted, the earliest first. -/
abbrev Journal := List Entry

namespace Journal

/-- The probes that were tried. -/
def tries (j : Journal) : List SweepTry := j.filterMap Entry.try?

/-- The ends that targets came to. -/
def fates (j : Journal) : List Fate := j.filterMap Entry.fate?

/-- The probes that went out. -/
def probes (j : Journal) : List SweepProbe := j.filterMap Entry.probe?

theorem tries_append (j j' : Journal) : tries (j ++ j') = tries j ++ tries j' :=
  List.filterMap_append

theorem fates_append (j j' : Journal) : fates (j ++ j') = fates j ++ fates j' :=
  List.filterMap_append

theorem probes_append (j j' : Journal) : probes (j ++ j') = probes j ++ probes j' :=
  List.filterMap_append

theorem mem_fates {j : Journal} {fate : Fate} : fate ∈ j.fates ↔ .ended fate ∈ j := by
  refine List.mem_filterMap.trans ⟨?_, fun h => ⟨.ended fate, h, rfl⟩⟩
  rintro ⟨e, he, hfate⟩
  cases e with
  | tried t n sent => cases hfate
  | ended other =>
      cases hfate
      exact he

end Journal

/-- What is noted of a lost probe: its target is given up if that was the last one. -/
def giveUp (maxRetries : Nat) (t : SweepTry) : Journal :=
  if t.retries < maxRetries then [] else [.ended ⟨t, .givenUp⟩]

variable {s s' : Sweep} {reaches : Nat → Net.Address → Bool} {now n : Nat}

/-! ## Rounds -/

/-- Another probe is tried: there is room in flight, and a target waits for one. -/
def IsOpen (s : Sweep) : Prop := s.inFlight.length < s.tuning.maxParallel ∧ s.queue ≠ []

/-- The sweep once a probe for the first target that waits is in flight. -/
def launched (s : Sweep) (t : SweepTry) (rest : List SweepTry) (now : Nat) : Sweep :=
  { s with
    queue := rest
    inFlight := launch s.inFlight ⟨UInt16.ofNat s.tried, t, now⟩
    tried := s.tried + 1 }

/-- The sweep once a probe for the first target that waits could not be sent. -/
def refused (s : Sweep) (t : SweepTry) (rest : List SweepTry) : Sweep :=
  { s with
    queue := rest ++ retry s.tuning.maxRetries t
    tried := s.tried + 1 }

/-- The probes in flight that have the next number. -/
def clashing (s : Sweep) : List InFlight :=
  s.inFlight.filter (·.sequence == UInt16.ofNat s.tried)

/-- A probe that goes out displaces those that have its number. -/
def launchNote (s : Sweep) (t : SweepTry) : Journal :=
  .tried t s.tried true :: s.clashing.map (.ended ⟨·.attempt, .displaced⟩)

def refuseNote (s : Sweep) (t : SweepTry) : Journal :=
  .tried t s.tried false :: giveUp s.tuning.maxRetries t

/-- Tries one probe, for the first in the queue. -/
def round (reaches : Nat → Net.Address → Bool) (now : Nat) (s : Sweep) : Sweep :=
  match s.queue with
  | [] => s
  | t :: rest =>
    if reaches s.tried t.target.address then s.launched t rest now else s.refused t rest

def roundNote (reaches : Nat → Net.Address → Bool) (s : Sweep) : Journal :=
  match s.queue with
  | [] => []
  | t :: _ => if reaches s.tried t.target.address then s.launchNote t else s.refuseNote t

theorem round_launched (now : Nat) {t : SweepTry} {rest : List SweepTry}
    (hqueue : s.queue = t :: rest) (hreached : reaches s.tried t.target.address = true) :
    s.round reaches now = s.launched t rest now ∧ s.roundNote reaches = s.launchNote t := by
  unfold round roundNote
  rw [hqueue]
  exact ⟨if_pos hreached, if_pos hreached⟩

theorem round_refused (now : Nat) {t : SweepTry} {rest : List SweepTry}
    (hqueue : s.queue = t :: rest) (hunreached : ¬ reaches s.tried t.target.address = true) :
    s.round reaches now = s.refused t rest ∧ s.roundNote reaches = s.refuseNote t := by
  unfold round roundNote
  rw [hqueue]
  exact ⟨if_neg hunreached, if_neg hunreached⟩

/-- What is noted of some rounds. -/
def trail (reaches : Nat → Net.Address → Bool) (now : Nat) : Nat → Sweep → Journal
  | 0, _ => []
  | n + 1, s => s.roundNote reaches ++ trail reaches now n (s.round reaches now)

theorem probes_giveUp (maxRetries : Nat) (t : SweepTry) : (giveUp maxRetries t).probes = [] := by
  unfold giveUp
  split <;> rfl

theorem probes_launchNote (s : Sweep) (t : SweepTry) :
    (s.launchNote t).probes = [⟨t.target.address, UInt16.ofNat s.tried⟩] := by
  simp [launchNote, Journal.probes, Entry.probe?]

theorem probes_refuseNote (s : Sweep) (t : SweepTry) : (s.refuseNote t).probes = [] :=
  probes_giveUp s.tuning.maxRetries t

theorem tried_round (h : s.queue ≠ []) : (s.round reaches now).tried = s.tried + 1 := by
  unfold round
  cases hqueue : s.queue with
  | nil => exact absurd hqueue h
  | cons t rest =>
      dsimp only
      split <;> rfl

/-- `Loops reaches now s n s'`: from `s`, the loop of filling goes round `n` times, each time
    because it is open, and stops at `s'`, because that is not. -/
inductive Loops (reaches : Nat → Net.Address → Bool) (now : Nat) : Sweep → Nat → Sweep → Prop
  | stop {s : Sweep} (hclosed : ¬ s.IsOpen) : Loops reaches now s 0 s
  | round {s s' : Sweep} {n : Nat} (hopen : s.IsOpen)
      (h : Loops reaches now (s.round reaches now) n s') : Loops reaches now s (n + 1) s'

/-- In each round a probe is tried. -/
theorem Loops.tried (h : Loops reaches now s n s') : s'.tried = s.tried + n := by
  induction h with
  | stop _ => rfl
  | round hopen _ ih =>
      rw [tried_round hopen.2] at ih
      omega

/-- Filling does not start or end a sweep. -/
theorem Loops.frame (h : Loops reaches now s n s') :
    s'.tuning = s.tuning ∧ s'.running = s.running ∧ s'.lastFinished = s.lastFinished := by
  induction h with
  | stop _ => exact ⟨rfl, rfl, rfl⟩
  | @round s s' n _ _ ih =>
      have hround : (s.round reaches now).tuning = s.tuning ∧
          (s.round reaches now).running = s.running ∧
          (s.round reaches now).lastFinished = s.lastFinished := by
        unfold Sweep.round
        split
        · exact ⟨rfl, rfl, rfl⟩
        · split <;> exact ⟨rfl, rfl, rfl⟩
      exact ⟨ih.1.trans hround.1, ih.2.1.trans hround.2.1, ih.2.2.trans hround.2.2⟩

/-- The loop of filling stops, after no more rounds than there are tries left, and tells the
    probes that went out in them. -/
theorem fill_loops (reaches : Nat → Net.Address → Bool) (now : Nat) (s : Sweep) :
    ∃ n ≤ triesLeft s.tuning.maxRetries s.queue,
      Loops reaches now s n (fill reaches now s).2 ∧
        (fill reaches now s).1 = (trail reaches now n s).probes := by
  fun_induction fill reaches now s with
  | case1 s hroom hempty => exact ⟨0, Nat.zero_le _, .stop fun h => h.2 hempty, rfl⟩
  | case2 s hroom t rest hqueue sequence hreached next ih =>
      obtain ⟨n, hn, hloops, htold⟩ := ih
      have hopen : s.IsOpen := ⟨hroom, by simp [hqueue]⟩
      obtain ⟨hround, hnote⟩ := round_launched now hqueue hreached
      refine ⟨n + 1, ?_, .round hopen (hround ▸ hloops), ?_⟩
      · rw [hqueue, triesLeft]
        dsimp only at hn
        omega
      · rw [trail, Journal.probes_append, hround, hnote, probes_launchNote]
        exact congrArg _ htold
  | case3 s hroom t rest hqueue hunreached ih =>
      obtain ⟨n, hn, hloops, htold⟩ := ih
      have hopen : s.IsOpen := ⟨hroom, by simp [hqueue]⟩
      obtain ⟨hround, hnote⟩ := round_refused now hqueue hunreached
      refine ⟨n + 1, ?_, .round hopen (hround ▸ hloops), ?_⟩
      · have hless := triesLeft_append_retry s.tuning.maxRetries t rest
        rw [hqueue]
        dsimp only at hn
        omega
      · rw [trail, Journal.probes_append, hround, hnote, probes_refuseNote]
        exact htold
  | case4 s hfull => exact ⟨0, Nat.zero_le _, .stop fun h => hfull h.1, rfl⟩

/-! ## Pumps and answers -/

/-- What is noted when the probes whose time is over are lost. -/
def expireNote (s : Sweep) (now : Nat) : Journal :=
  (s.inFlight.filter fun p => s.tuning.probeTimeout ≤ now - p.sentAt).flatMap fun p =>
    giveUp s.tuning.maxRetries p.attempt

/-- How many probes are tried when the sweep goes on. -/
def rounds (reaches : Nat → Net.Address → Bool) (now : Nat) (s : Sweep) : Nat :=
  (s.pump reaches now).2.tried - s.tried

/-- What is noted when the sweep goes on. -/
def pumpNote (reaches : Nat → Net.Address → Bool) (now : Nat) (s : Sweep) : Journal :=
  if s.running then s.expireNote now ++ trail reaches now (s.rounds reaches now) (s.expire now)
  else []

/-- A running sweep gives up on lost probes, fills, and notes whether it is over. -/
theorem pump_of_running (reaches : Nat → Net.Address → Bool) (now : Nat) (h : s.running = true) :
    ∃ filled, Loops reaches now (s.expire now) (s.rounds reaches now) filled ∧
      s.rounds reaches now ≤ triesLeft s.tuning.maxRetries (s.expire now).queue ∧
      s.pump reaches now =
        ((trail reaches now (s.rounds reaches now) (s.expire now)).probes, filled.settle now) := by
  have hpump : s.pump reaches now =
      ((fill reaches now (s.expire now)).1, (fill reaches now (s.expire now)).2.settle now) :=
    if_pos h
  obtain ⟨n, hn, hloops, htold⟩ := fill_loops reaches now (s.expire now)
  have hrounds : s.rounds reaches now = n := by
    have hsettled : (s.pump reaches now).2.tried = (fill reaches now (s.expire now)).2.tried := by
      rw [hpump]
      unfold settle
      dsimp only
      split <;> rfl
    have htried := hloops.tried
    have hsame : (s.expire now).tried = s.tried := rfl
    unfold rounds
    omega
  rw [hrounds, hpump, htold]
  exact ⟨_, hloops, hn, rfl⟩

/-- A running sweep that goes on keeps running, or is over from then on. -/
theorem pump_cases (reaches : Nat → Net.Address → Bool) (now : Nat) (h : s.running = true) :
    (s.pump reaches now).2.tuning = s.tuning ∧
      ((s.pump reaches now).2.running = true ∧
          (s.pump reaches now).2.lastFinished = s.lastFinished ∨
        (s.pump reaches now).2.running = false ∧
          (s.pump reaches now).2.lastFinished = some now) := by
  obtain ⟨filled, hloops, -, hpump⟩ := pump_of_running reaches now h
  obtain ⟨htuning, hrunning, hfinished⟩ := hloops.frame
  rw [hpump]
  dsimp only
  unfold settle
  split
  · exact ⟨htuning, .inr ⟨rfl, rfl⟩⟩
  · exact ⟨htuning, .inl ⟨hrunning.trans h, hfinished⟩⟩

theorem pump_of_over (reaches : Nat → Net.Address → Bool) (now : Nat) (h : s.running = false) :
    s.pump reaches now = ([], s) :=
  if_neg (by simp [h])

/-- The probe in flight that an answer is to: the one with its number, if it went to where the
    answer comes from. -/
def replied? (s : Sweep) (reply : ProbeReply) : Option InFlight :=
  (s.inFlight.find? (·.sequence == reply.sequence)).filter (·.attempt.target.address = reply.source)

/-- The latency that an answer shows, in whole milliseconds. -/
def latencyOf (p : InFlight) (reply : ProbeReply) : Nat :=
  min (max ((reply.receivedAt - p.sentAt) / 1000) 1) maxLatency

theorem reply?_eq (s : Sweep) (r : Registry) (reply : ProbeReply) :
    s.reply? r reply = (s.replied? reply).map fun p =>
      ({ s with inFlight := s.inFlight.filter (·.sequence != reply.sequence) },
        r.setLatency p.attempt.target.publicKey (latencyOf p reply)) := by
  unfold reply? replied?
  cases s.inFlight.find? (·.sequence == reply.sequence) with
  | none => rfl
  | some p =>
      by_cases hsource : p.attempt.target.address = reply.source
      · simp [Option.filter, hsource, latencyOf]
      · simp [Option.filter, hsource]

end Sweep

/-! ## Runs -/

deriving instance DecidableEq for Sweep

deriving instance DecidableEq for Registry

/-- A sweep, and what is known about the servers. -/
structure Survey where
  sweep : Sweep
  registry : Registry
  deriving DecidableEq

namespace Survey

open Sweep (Journal)

/-- Something that happens to a sweep. -/
inductive Event
  | start (targets : List SweepTarget)
  | cancel
  | pump (reaches : Nat → Net.Address → Bool) (now : Nat)
  | reply (r : ProbeReply)
  /-- The probes in flight are put in another order. -/
  | arrange (order : List InFlight)

/-- Whether the sweep in progress goes on. -/
def Event.goesOn : Event → Bool
  | .start _ | .cancel => false
  | .pump _ _ | .reply _ | .arrange _ => true

/-- What becomes of a sweep when something happens. -/
def meet (v : Survey) : Event → Survey
  | .start targets => { v with sweep := v.sweep.start targets }
  | .cancel => { v with sweep := v.sweep.cancel }
  | .pump reaches now => { v with sweep := (v.sweep.pump reaches now).2 }
  | .reply r =>
    match v.sweep.reply? v.registry r with
    | some (sweep, registry) => ⟨sweep, registry⟩
    | none => v
  | .arrange order =>
    if order.Perm v.sweep.inFlight then { v with sweep := { v.sweep with inFlight := order } }
    else v

/-- What becomes of a sweep when things happen in turn. -/
def run (v : Survey) (events : List Event) : Survey :=
  events.foldl meet v

theorem run_cons (v : Survey) (e : Event) (events : List Event) :
    v.run (e :: events) = (v.meet e).run events := rfl

/-- What is noted when something happens. -/
def note (v : Survey) : Event → Journal
  | .pump reaches now => v.sweep.pumpNote reaches now
  | .reply r =>
    ((v.sweep.replied? r).map fun p =>
      .ended ⟨p.attempt, .measured (Sweep.latencyOf p r)⟩).toList
  | .start _ | .cancel | .arrange _ => []

/-- The journal of what happens in turn. -/
def journal (v : Survey) : List Event → Journal
  | [] => []
  | e :: events => v.note e ++ (v.meet e).journal events

/-- The probes that are told when something happens. -/
def tells (v : Survey) : Event → List Sweep.SweepProbe
  | .pump reaches now => (v.sweep.pump reaches now).1
  | .start _ | .cancel | .reply _ | .arrange _ => []

/-- The probes that are told in turn. -/
def told (v : Survey) : List Event → List Sweep.SweepProbe
  | [] => []
  | e :: events => v.tells e ++ (v.meet e).told events

end Survey

/-! ## What a run keeps -/

namespace Sweep

/-- `Kept P`: going on with a sweep keeps `P`, whichever way it goes on. -/
structure Kept (P : Sweep → Journal → Prop) : Prop where
  launch : ∀ {s j t rest} now, s.queue = t :: rest → s.inFlight.length < s.tuning.maxParallel →
    P s j → P (s.launched t rest now) (j ++ s.launchNote t)
  refuse : ∀ {s j t rest}, s.queue = t :: rest → P s j → P (s.refused t rest) (j ++ s.refuseNote t)
  expire : ∀ {s j} now, P s j → P (s.expire now) (j ++ s.expireNote now)
  settle : ∀ {s j} now, P s j → P (s.settle now) j
  answer : ∀ {s j p} {reply : ProbeReply}, s.replied? reply = some p → P s j →
    P { s with inFlight := s.inFlight.filter (·.sequence != reply.sequence) }
      (j ++ [.ended ⟨p.attempt, .measured (latencyOf p reply)⟩])
  arrange : ∀ {s j} order, order.Perm s.inFlight → P s j → P { s with inFlight := order } j

namespace Kept

variable {P : Sweep → Journal → Prop} {s : Sweep} {j : Journal}

theorem round (h : Kept P) (hopen : s.IsOpen) (hs : P s j) (reaches : Nat → Net.Address → Bool)
    (now : Nat) : P (s.round reaches now) (j ++ s.roundNote reaches) := by
  unfold Sweep.round roundNote
  cases hqueue : s.queue with
  | nil => exact absurd hqueue hopen.2
  | cons t rest =>
      dsimp only
      split
      · exact h.launch now hqueue hopen.1 hs
      · exact h.refuse hqueue hs

/-- A loop is one round after the other. -/
theorem loops (h : Kept P) {reaches : Nat → Net.Address → Bool} {now n : Nat} {s' : Sweep}
    (hloops : Loops reaches now s n s') (hs : P s j) : P s' (j ++ trail reaches now n s) := by
  induction hloops generalizing j with
  | stop _ =>
      rw [trail, List.append_nil]
      exact hs
  | round hopen _ ih =>
      rw [trail, ← List.append_assoc]
      exact ih (h.round hopen hs reaches now)

theorem pump (h : Kept P) (hs : P s j) (reaches : Nat → Net.Address → Bool) (now : Nat) :
    P (s.pump reaches now).2 (j ++ s.pumpNote reaches now) := by
  unfold pumpNote
  by_cases hrunning : s.running = true
  · obtain ⟨filled, hloops, -, hpump⟩ := pump_of_running reaches now hrunning
    rw [if_pos hrunning, hpump, ← List.append_assoc]
    exact h.settle now (h.loops hloops (h.expire now hs))
  · rw [if_neg hrunning, List.append_nil, Sweep.pump, if_neg hrunning]
    exact hs

end Kept

end Sweep

namespace Survey

open Sweep (Kept Journal)

theorem meet_arrange (v : Survey) (order : List InFlight) :
    ∃ flight, flight.Perm v.sweep.inFlight ∧
      v.meet (.arrange order) = { v with sweep := { v.sweep with inFlight := flight } } := by
  by_cases hperm : order.Perm v.sweep.inFlight
  · exact ⟨order, hperm, if_pos hperm⟩
  · exact ⟨v.sweep.inFlight, .refl _, if_neg hperm⟩

theorem meet_kept {P : Sweep → Journal → Prop} (h : Kept P) {v : Survey} {j : Journal} {e : Event}
    (hgoes : e.goesOn = true) (hv : P v.sweep j) : P (v.meet e).sweep (j ++ v.note e) := by
  cases e with
  | start targets => cases hgoes
  | cancel => cases hgoes
  | pump reaches now => exact h.pump hv reaches now
  | reply r =>
      show P (v.meet (.reply r)).sweep (j ++ (Option.map _ (v.sweep.replied? r)).toList)
      unfold meet
      dsimp only
      rw [Sweep.reply?_eq]
      cases hreplied : v.sweep.replied? r with
      | none =>
          rw [Option.map_none, Option.map_none, Option.toList_none, List.append_nil]
          exact hv
      | some p => exact h.answer hreplied hv
  | arrange order =>
      obtain ⟨flight, hperm, hmeet⟩ := meet_arrange v order
      show P (v.meet (.arrange order)).sweep (j ++ [])
      rw [hmeet, List.append_nil]
      exact h.arrange flight hperm hv

/-- What every way of going on keeps, a run keeps in which the sweep goes on. -/
theorem run_kept {P : Sweep → Journal → Prop} (h : Kept P) {v : Survey} {j : Journal}
    {events : List Event} (hgoes : ∀ e ∈ events, e.goesOn = true) (hv : P v.sweep j) :
    P (v.run events).sweep (j ++ v.journal events) := by
  induction events generalizing v j with
  | nil =>
      rw [journal, List.append_nil]
      exact hv
  | cons e events ih =>
      rw [journal, ← List.append_assoc]
      have hstep := meet_kept h (hgoes e List.mem_cons_self) hv
      exact ih (fun e he => hgoes e (List.mem_cons_of_mem _ he)) hstep

end Survey

end TunnelSession
