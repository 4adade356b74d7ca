/-
  TunnelSession.Proofs.Sweep.Courses

  What becomes of the targets of a sweep. Each of them waits for a probe, or has one in
  flight, or has come to its end, and it is in one of these places only, however often its
  key or its address is in the list. Whatever the sweep does takes one target after the
  other from one place to another, and the probes that were tried for a target can be read
  off the place where it is.

  A target comes to a good end with an answer or with the loss of its last probe. There is a
  third one, which nobody meant. Numbers have 16 bits and are not looked up before they are
  used again: a probe that goes out displaces the one in flight that has its number, and
  nothing is ever heard of that one again.
-/
import Mathlib.Algebra.Order.BigOperators.Group.List
import Mathlib.Algebra.Order.Ring.Nat
import Mathlib.Data.List.Perm.Basic
import Mathlib.Data.List.Nodup
import TunnelSession.Proofs.Sweep.Rounds

namespace TunnelSession

namespace Sweep

/-! ## The course of one target -/

/-- The first so many probes for a target. -/
def firstTries (target : SweepTarget) (n : Nat) : List SweepTry :=
  (List.range n).map (⟨target, ·⟩)

theorem firstTries_succ (target : SweepTarget) (n : Nat) :
    firstTries target (n + 1) = firstTries target n ++ [⟨target, n⟩] := by
  rw [firstTries, List.range_succ, List.map_append]
  rfl

/-- The probes that were tried for a target that came to its end. -/
def Fate.tries (f : Fate) : List SweepTry := firstTries f.attempt.target (f.attempt.retries + 1)

/-- How far the measuring of a target has come. -/
inductive Course
  | waiting (t : SweepTry)
  | underway (t : SweepTry)
  | ended (fate : Fate)
  deriving DecidableEq

namespace Course

def attempt : Course → SweepTry
  | .waiting t | .underway t => t
  | .ended fate => fate.attempt

/-- The probes that were tried so far. -/
def tries : Course → List SweepTry
  | .waiting t => firstTries t.target t.retries
  | .underway t => firstTries t.target (t.retries + 1)
  | .ended fate => fate.tries

/-- No probe is tried too often, and none is given up too early. -/
structure Lawful (maxRetries : Nat) (c : Course) : Prop where
  retries_le : c.attempt.retries ≤ maxRetries
  givenUp : ∀ t, c = .ended ⟨t, .givenUp⟩ → t.retries = maxRetries

/-- The course of a target whose probe is lost. -/
def lost (maxRetries : Nat) (t : SweepTry) : Course :=
  if t.retries < maxRetries then .waiting ⟨t.target, t.retries + 1⟩ else .ended ⟨t, .givenUp⟩

/-- `c.Leads maxRetries more c'`: a target can go on from `c` to `c'`, with these more probes
    tried for it. -/
structure Leads (maxRetries : Nat) (c : Course) (more : List SweepTry) (c' : Course) : Prop where
  target : c'.attempt.target = c.attempt.target
  tries : c'.tries = c.tries ++ more
  lawful : c.Lawful maxRetries → c'.Lawful maxRetries

variable {maxRetries : Nat} {c : Course}

/-- The probes for a target are the first ones that it may have. -/
theorem Lawful.tries_eq (h : c.Lawful maxRetries) :
    ∃ n ≤ maxRetries + 1, c.tries = firstTries c.attempt.target n := by
  have hle := h.retries_le
  cases c with
  | waiting t => exact ⟨t.retries, hle.trans (Nat.le_succ _), rfl⟩
  | underway t => exact ⟨t.retries + 1, Nat.succ_le_succ hle, rfl⟩
  | ended fate => exact ⟨fate.attempt.retries + 1, Nat.succ_le_succ hle, rfl⟩

theorem Lawful.length_tries_le (h : c.Lawful maxRetries) : c.tries.length ≤ maxRetries + 1 := by
  obtain ⟨n, hn, htries⟩ := h.tries_eq
  rw [htries, firstTries, List.length_map, List.length_range]
  exact hn

theorem lost_leads {more : List SweepTry} (maxRetries : Nat)
    (htries : firstTries c.attempt.target (c.attempt.retries + 1) = c.tries ++ more) :
    c.Leads maxRetries more (lost maxRetries c.attempt) := by
  unfold lost
  split
  · next hmore => exact ⟨rfl, htries, fun _ => ⟨hmore, nofun⟩⟩
  · next hlast =>
    refine ⟨rfl, htries, fun h => ⟨h.retries_le, ?_⟩⟩
    intro t ht
    cases ht
    have hle := h.retries_le
    omega

theorem launch_leads (t : SweepTry) : (waiting t).Leads maxRetries [t] (.underway t) :=
  ⟨rfl, firstTries_succ t.target t.retries, fun h => ⟨h.retries_le, nofun⟩⟩

theorem refuse_leads (t : SweepTry) : (waiting t).Leads maxRetries [t] (lost maxRetries t) :=
  lost_leads maxRetries (firstTries_succ t.target t.retries)

theorem lose_leads (t : SweepTry) : (underway t).Leads maxRetries [] (lost maxRetries t) :=
  lost_leads maxRetries (List.append_nil _).symm

theorem end_leads (t : SweepTry) {outcome : Outcome} (h : outcome ≠ .givenUp) :
    (underway t).Leads maxRetries [] (.ended ⟨t, outcome⟩) := by
  refine ⟨rfl, (List.append_nil _).symm, fun hlawful => ⟨hlawful.retries_le, ?_⟩⟩
  intro t' ht
  cases ht
  exact absurd rfl h

end Course

/-! ## All courses together -/

/-- The courses are those of the targets, and the probes that were tried are theirs. -/
structure Balanced (targets : List SweepTarget) (maxRetries : Nat) (tries : List SweepTry)
    (cs : List Course) : Prop where
  targets : (cs.map (·.attempt.target)).Perm targets
  tries : tries.Perm (cs.flatMap Course.tries)
  lawful : ∀ c ∈ cs, c.Lawful maxRetries

namespace Balanced

variable {targets : List SweepTarget} {maxRetries : Nat} {tries more : List SweepTry}
  {c c' : Course} {cs cs' : List Course}

theorem perm (h : Balanced targets maxRetries tries cs) (hperm : cs.Perm cs') :
    Balanced targets maxRetries tries cs' where
  targets := (hperm.map _).symm.trans h.targets
  tries := h.tries.trans (hperm.flatMap_right _)
  lawful c hc := h.lawful c (hperm.mem_iff.mpr hc)

/-- One target goes on. -/
theorem leads (h : Balanced targets maxRetries tries (c :: cs))
    (hleads : c.Leads maxRetries more c') :
    Balanced targets maxRetries (tries ++ more) (c' :: cs) where
  targets := by
    have htargets := h.targets
    rw [List.map_cons, ← hleads.target] at htargets
    exact htargets
  tries := by
    have htries := h.tries
    rw [List.flatMap_cons] at htries ⊢
    rw [hleads.tries]
    calc
      (tries ++ more).Perm ((c.tries ++ cs.flatMap Course.tries) ++ more) :=
        htries.append_right more
      _ = c.tries ++ (cs.flatMap Course.tries ++ more) := List.append_assoc _ _ _
      List.Perm _ (c.tries ++ (more ++ cs.flatMap Course.tries)) :=
        List.perm_append_comm.append_left c.tries
      _ = (c.tries ++ more) ++ cs.flatMap Course.tries := (List.append_assoc _ _ _).symm
  lawful d hd := by
    rcases List.mem_cons.mp hd with rfl | hd
    · exact hleads.lawful (h.lawful c List.mem_cons_self)
    · exact h.lawful d (List.mem_cons_of_mem c hd)

/-- Some targets go on, without a probe. -/
theorem leads_all {α : Type} {f g : α → Course} (hleads : ∀ x, (f x).Leads maxRetries [] (g x))
    (xs : List α) (h : Balanced targets maxRetries tries (xs.map f ++ cs)) :
    Balanced targets maxRetries tries (xs.map g ++ cs) := by
  induction xs generalizing cs with
  | nil => exact h
  | cons x xs ih =>
      have hfirst : Balanced targets maxRetries tries (xs.map f ++ g x :: cs) := by
        have hx := h.leads (hleads x)
        rw [List.append_nil] at hx
        exact hx.perm List.perm_middle.symm
      exact (ih hfirst).perm List.perm_middle

/-- No target has more probes than it may have. -/
theorem length_tries_le (h : Balanced targets maxRetries tries cs) :
    tries.length ≤ targets.length * (maxRetries + 1) := by
  have hcourses : cs.length = targets.length := by
    rw [← h.targets.length_eq, List.length_map]
  have hbound : ∀ n ∈ cs.map (·.tries.length), n ≤ maxRetries + 1 := by
    intro n hn
    obtain ⟨c, hc, rfl⟩ := List.mem_map.mp hn
    exact (h.lawful c hc).length_tries_le
  have hsum := List.sum_le_card_nsmul _ _ hbound
  rw [List.length_map, hcourses] at hsum
  rw [h.tries.length_eq, List.length_flatMap]
  exact hsum

end Balanced

/-- The courses of the targets of a sweep: they are in the queue, in flight, or in the journal. -/
def courses (s : Sweep) (j : Journal) : List Course :=
  s.queue.map .waiting ++ s.inFlight.map (.underway ·.attempt) ++ j.fates.map .ended

/-- What is put back into the queue and what is given up are together what was lost. -/
theorem perm_lost (maxRetries : Nat) (ts : List SweepTry) :
    ((ts.flatMap (retry maxRetries)).map Course.waiting ++
      (Journal.fates (ts.flatMap (giveUp maxRetries))).map Course.ended).Perm
        (ts.map (Course.lost maxRetries)) := by
  rw [List.perm_iff_count]
  intro c
  induction ts with
  | nil => rfl
  | cons t ts ih =>
      rw [List.count_append] at ih
      rw [List.flatMap_cons, List.flatMap_cons, Journal.fates_append, List.map_append,
        List.map_append, List.map_cons, List.count_cons, ← ih]
      -- the first one is put back or given up, and not both
      simp only [List.count_append, retry, giveUp, Course.lost]
      split
      · simp [Journal.fates, List.count_cons]
        omega
      · simp [Journal.fates, List.count_cons, Entry.fate?]
        omega

/-- The probes in flight are those that something is true of and the others. -/
theorem perm_underway (ps : List InFlight) (f : InFlight → Bool) :
    (ps.map (Course.underway ·.attempt)).Perm
      ((ps.filter f).map (Course.underway ·.attempt) ++
        (ps.filter (!f ·)).map (Course.underway ·.attempt)) := by
  rw [← List.map_append]
  exact (List.filter_append_perm f ps).symm.map _

theorem tries_launchNote (s : Sweep) (t : SweepTry) : (s.launchNote t).tries = [t] := by
  simp [launchNote, Journal.tries, Entry.try?]

theorem fates_launchNote (s : Sweep) (t : SweepTry) :
    (s.launchNote t).fates = s.clashing.map (⟨·.attempt, .displaced⟩) := by
  show List.filterMap Entry.fate? (s.clashing.map _) = _
  rw [List.filterMap_map]
  exact congrFun List.filterMap_eq_map _

theorem tries_giveUp (maxRetries : Nat) (t : SweepTry) : (giveUp maxRetries t).tries = [] := by
  unfold giveUp
  split <;> rfl

theorem tries_refuseNote (s : Sweep) (t : SweepTry) : (s.refuseNote t).tries = [t] :=
  congrArg (t :: ·) (tries_giveUp s.tuning.maxRetries t)

theorem tries_expireNote (s : Sweep) (now : Nat) : (s.expireNote now).tries = [] := by
  simp only [expireNote, Journal.tries, List.filterMap_flatMap]
  exact List.flatMap_eq_nil_iff.mpr fun p _ => tries_giveUp _ _

section Steps

variable {targets : List SweepTarget} {s : Sweep} {j : Journal} {t : SweepTry} {p : InFlight}
  {rest : List SweepTry}

/-- `Accords targets s j`: the targets are all there, in the sweep or in the journal. -/
def Accords (targets : List SweepTarget) (s : Sweep) (j : Journal) : Prop :=
  Balanced targets s.tuning.maxRetries j.tries (courses s j)

/-- At the start all targets wait for their first probe. -/
theorem start_accords (s : Sweep) (targets : List SweepTarget) :
    Accords targets (s.start targets) [] := by
  have hcourses : courses (s.start targets) [] = targets.map fun t => .waiting ⟨t, 0⟩ := by
    simp [courses, start, Journal.fates, Function.comp_def]
  refine ⟨?_, ?_, ?_⟩
  · rw [hcourses, List.map_map]
    exact .of_eq (List.map_id targets)
  · rw [hcourses, List.flatMap_map]
    exact .of_eq (List.flatMap_eq_nil_iff.mpr fun t _ => rfl).symm
  · intro c hc
    rw [hcourses] at hc
    obtain ⟨t, -, rfl⟩ := List.mem_map.mp hc
    exact ⟨Nat.zero_le _, nofun⟩

namespace Accords

/-- A probe that goes out ends the course of those that it displaces. -/
theorem launch (h : Accords targets s j) (hqueue : s.queue = t :: rest) (now : Nat) :
    Accords targets (s.launched t rest now) (j ++ s.launchNote t) := by
  have hsplit := perm_underway s.inFlight (·.sequence == UInt16.ofNat s.tried)
  let others := rest.map Course.waiting ++
    (s.inFlight.filter (·.sequence != UInt16.ofNat s.tried)).map (Course.underway ·.attempt) ++
      j.fates.map Course.ended
  have hbefore : (courses s j).Perm
      (s.clashing.map (Course.underway ·.attempt) ++ Course.waiting t :: others) := by
    rw [List.perm_iff_count]
    intro c
    have hcount := hsplit.count_eq c
    simp only [courses, hqueue, clashing, others, bne, List.map_cons, List.count_append,
      List.count_cons] at hcount ⊢
    omega
  have hafter : (Course.underway t ::
      (s.clashing.map (fun p => Course.ended ⟨p.attempt, .displaced⟩) ++ others)).Perm
        (courses (s.launched t rest now) (j ++ s.launchNote t)) := by
    rw [List.perm_iff_count]
    intro c
    simp only [courses, launched, Sweep.launch, others, Journal.fates_append, fates_launchNote,
      List.map_append, List.map_map, Function.comp_def, List.map_cons, List.map_nil,
      List.count_append, List.count_cons, List.count_nil]
    omega
  -- first the displaced ones come to their end, then the probe goes out
  have hdisplaced := (h.perm hbefore).leads_all
    (fun p => Course.end_leads p.attempt (by simp : Outcome.displaced ≠ .givenUp)) s.clashing
  have hlaunched := (hdisplaced.perm List.perm_middle).leads (Course.launch_leads t)
  unfold Accords
  rw [Journal.tries_append, tries_launchNote]
  exact hlaunched.perm hafter

/-- A probe that cannot be sent is lost at once. -/
theorem refuse (h : Accords targets s j) (hqueue : s.queue = t :: rest) :
    Accords targets (s.refused t rest) (j ++ s.refuseNote t) := by
  let others := rest.map Course.waiting ++ s.inFlight.map (Course.underway ·.attempt) ++
    j.fates.map Course.ended
  have hbefore : (courses s j).Perm (Course.waiting t :: others) := by
    simp only [courses, hqueue, others, List.map_cons, List.cons_append]
    exact .refl _
  have hfates : (s.refuseNote t).fates = (giveUp s.tuning.maxRetries t).fates := rfl
  have hafter : (Course.lost s.tuning.maxRetries t :: others).Perm
      (courses (s.refused t rest) (j ++ s.refuseNote t)) := by
    have hlost := perm_lost s.tuning.maxRetries [t]
    rw [List.flatMap_singleton, List.flatMap_singleton] at hlost
    rw [List.perm_iff_count]
    intro c
    have hcount := hlost.count_eq c
    simp only [courses, refused, others, Journal.fates_append, hfates, List.map_append,
      List.map_cons, List.map_nil, List.count_append, List.count_cons, List.count_nil] at hcount ⊢
    omega
  have hrefused := (h.perm hbefore).leads (Course.refuse_leads t)
  unfold Accords
  rw [Journal.tries_append, tries_refuseNote]
  exact hrefused.perm hafter

/-- The probes whose time is over are lost together. -/
theorem expire (h : Accords targets s j) (now : Nat) :
    Accords targets (s.expire now) (j ++ s.expireNote now) := by
  let isLost (p : InFlight) : Bool := s.tuning.probeTimeout ≤ now - p.sentAt
  have hsplit := perm_underway s.inFlight isLost
  let others := s.queue.map Course.waiting ++
    (s.inFlight.filter (!isLost ·)).map (Course.underway ·.attempt) ++ j.fates.map Course.ended
  have hbefore : (courses s j).Perm
      ((s.inFlight.filter isLost).map (Course.underway ·.attempt) ++ others) := by
    rw [List.perm_iff_count]
    intro c
    have hcount := hsplit.count_eq c
    simp only [courses, others, List.count_append] at hcount ⊢
    omega
  have hafter :
      ((s.inFlight.filter isLost).map (fun p => Course.lost s.tuning.maxRetries p.attempt) ++
        others).Perm (courses (s.expire now) (j ++ s.expireNote now)) := by
    have hlost := perm_lost s.tuning.maxRetries ((s.inFlight.filter isLost).map (·.attempt))
    rw [List.flatMap_map, List.flatMap_map, List.map_map] at hlost
    rw [List.perm_iff_count]
    intro c
    have hcount := hlost.count_eq c
    simp only [courses, Sweep.expire, expireNote, others, isLost, Journal.fates_append,
      List.map_append, List.count_append, Function.comp_def] at hcount ⊢
    omega
  have hlost := (h.perm hbefore).leads_all (fun p => Course.lose_leads p.attempt)
    (s.inFlight.filter isLost)
  unfold Accords
  rw [Journal.tries_append, tries_expireNote, List.append_nil]
  exact hlost.perm hafter

theorem settle (h : Accords targets s j) (now : Nat) : Accords targets (s.settle now) j := by
  unfold Sweep.settle
  split
  · exact h
  · exact h

/-- An answer ends the course of the one probe that it is to. -/
theorem answer (h : Accords targets s j) {kept : List InFlight}
    (hperm : s.inFlight.Perm (p :: kept)) (latency : Nat) :
    Accords targets { s with inFlight := kept } (j ++ [.ended ⟨p.attempt, .measured latency⟩]) := by
  let others := s.queue.map Course.waiting ++ kept.map (Course.underway ·.attempt) ++
    j.fates.map Course.ended
  have hbefore : (courses s j).Perm (Course.underway p.attempt :: others) := by
    rw [List.perm_iff_count]
    intro c
    have hcount := (hperm.map (Course.underway ·.attempt)).count_eq c
    simp only [courses, others, List.map_cons, List.count_append, List.count_cons] at hcount ⊢
    omega
  have hafter : (Course.ended ⟨p.attempt, .measured latency⟩ :: others).Perm
      (courses { s with inFlight := kept } (j ++ [.ended ⟨p.attempt, .measured latency⟩])) := by
    have hfates : Journal.fates (j ++ [.ended ⟨p.attempt, .measured latency⟩]) =
        j.fates ++ [⟨p.attempt, .measured latency⟩] := Journal.fates_append j _
    rw [List.perm_iff_count]
    intro c
    simp only [courses, others, hfates, List.map_append, List.map_cons, List.map_nil,
      List.count_append, List.count_cons, List.count_nil]
    omega
  have hanswered := (h.perm hbefore).leads
    (Course.end_leads p.attempt (by simp : Outcome.measured latency ≠ .givenUp))
  unfold Accords
  rw [Journal.tries_append]
  exact hanswered.perm hafter

theorem arrange (h : Accords targets s j) {order : List InFlight} (hperm : order.Perm s.inFlight) :
    Accords targets { s with inFlight := order } j :=
  h.perm (((hperm.symm.map _).append_left _).append_right _)

end Accords

end Steps

/-! ## Runs -/

theorem of_replied? {s : Sweep} {reply : ProbeReply} {p : InFlight}
    (h : s.replied? reply = some p) :
    p ∈ s.inFlight ∧ p.sequence = reply.sequence ∧ p.attempt.target.address = reply.source := by
  obtain ⟨hfind, hsource⟩ := Option.filter_eq_some_iff.mp h
  have hsequence := List.find?_some (p := fun q : InFlight => q.sequence == reply.sequence) hfind
  exact ⟨List.mem_of_find?_eq_some hfind, beq_iff_eq.mp hsequence, of_decide_eq_true hsource⟩

/-- Of probes with numbers of their own, only one has a given number. -/
theorem perm_cons_others {ps : List InFlight} {p : InFlight} (hnodup : (ps.map (·.sequence)).Nodup)
    (hp : p ∈ ps) : ps.Perm (p :: ps.filter (·.sequence != p.sequence)) := by
  induction ps with
  | nil => cases hp
  | cons q ps ih =>
      obtain ⟨hfresh, hrest⟩ := List.nodup_cons.mp hnodup
      rcases List.mem_cons.mp hp with rfl | hp
      · -- none of the others has the number
        have hothers : ps.filter (·.sequence != p.sequence) = ps := by
          refine List.filter_eq_self.mpr fun q hq => bne_iff_ne.mpr fun hsame => hfresh ?_
          exact List.mem_map.mpr ⟨q, hq, hsame⟩
        simp [hothers]
      · have hne : q.sequence ≠ p.sequence := by
          intro hsame
          exact hfresh (List.mem_map.mpr ⟨p, hp, hsame.symm⟩)
        rw [List.filter_cons, if_pos (bne_iff_ne.mpr hne)]
        exact ((ih hrest hp).cons q).trans (List.Perm.swap p q _)

/-- `Sound tuning targets s j`: the sweep is one over the targets, goes about it as it should,
    and has nothing left to do once it is over. -/
structure Sound (tuning : SweepTuning) (targets : List SweepTarget) (s : Sweep) (j : Journal) :
    Prop where
  tuning : s.tuning = tuning
  accords : Accords targets s j
  distinct : (s.inFlight.map (·.sequence)).Nodup
  idle : s.running = false → s.queue = [] ∧ s.inFlight = []

theorem Sound.balanced {tuning : SweepTuning} {targets : List SweepTarget} {s : Sweep}
    {j : Journal} (h : Sound tuning targets s j) :
    Balanced targets tuning.maxRetries j.tries (courses s j) :=
  h.tuning ▸ h.accords

theorem start_sound (s : Sweep) (targets : List SweepTarget) :
    Sound s.tuning targets (s.start targets) [] :=
  ⟨rfl, start_accords s targets, List.nodup_nil, nofun⟩

theorem sound_kept (tuning : SweepTuning) (targets : List SweepTarget) :
    Kept (Sound tuning targets) where
  launch {s j t rest} now hqueue _ h := by
    refine ⟨h.tuning, h.accords.launch hqueue now, ?_, fun hover => ?_⟩
    · show ((launch s.inFlight _).map (·.sequence)).Nodup
      rw [Sweep.launch, List.map_append, List.map_singleton]
      refine List.nodup_append.mpr ⟨?_, List.nodup_singleton _, ?_⟩
      · exact (List.filter_sublist.map _).nodup h.distinct
      · intro n hn m hm
        obtain ⟨p, hp, rfl⟩ := List.mem_map.mp hn
        rw [List.mem_singleton] at hm
        exact hm ▸ bne_iff_ne.mp (List.mem_filter.mp hp).2
    · have hempty := (h.idle hover).1
      rw [hqueue] at hempty
      cases hempty
  refuse {s j t rest} hqueue h := by
    refine ⟨h.tuning, h.accords.refuse hqueue, h.distinct, fun hover => ?_⟩
    have hempty := (h.idle hover).1
    rw [hqueue] at hempty
    cases hempty
  expire {s j} now h := by
    refine ⟨h.tuning, h.accords.expire now, (List.filter_sublist.map _).nodup h.distinct,
      fun hover => ?_⟩
    obtain ⟨hqueue, hflight⟩ := h.idle hover
    simp [Sweep.expire, hqueue, hflight]
  settle {s j} now h := by
    have haccords := h.accords.settle now
    unfold settle at haccords ⊢
    split at haccords
    · next hempty =>
      rw [if_pos hempty]
      simp only [Bool.and_eq_true, List.isEmpty_iff] at hempty
      exact ⟨h.tuning, haccords, h.distinct, fun _ => hempty⟩
    · next hbusy =>
      rw [if_neg hbusy]
      exact h
  answer {s j p reply} hreplied h := by
    obtain ⟨hp, hsequence, -⟩ := of_replied? hreplied
    rw [← hsequence]
    refine ⟨h.tuning, h.accords.answer (perm_cons_others h.distinct hp) _,
      (List.filter_sublist.map _).nodup h.distinct, fun hover => ?_⟩
    obtain ⟨hqueue, hflight⟩ := h.idle hover
    simp [hqueue, hflight]
  arrange {s j} order hperm h := by
    refine ⟨h.tuning, h.accords.arrange hperm, (hperm.map _).nodup_iff.mpr h.distinct,
      fun hover => ?_⟩
    obtain ⟨hqueue, hflight⟩ := h.idle hover
    exact ⟨hqueue, (hflight ▸ hperm).eq_nil⟩

/-- What is a rearrangement of the images of a list is the images of one. -/
theorem exists_perm_map_eq {α β : Type} {f : α → β} {xs : List α} {ys : List β}
    (h : (xs.map f).Perm ys) : ∃ zs : List α, zs.Perm xs ∧ zs.map f = ys := by
  have hcomp : Relation.Comp (fun ys zs => ys = List.map f zs) List.Perm ys xs := by
    rw [List.eq_map_comp_perm]
    exact h.symm
  obtain ⟨zs, hzs, hperm⟩ := hcomp
  exact ⟨zs, hperm, hzs.symm⟩

end Sweep

namespace Survey

/-- A sweep that was started stays sound as long as it goes on. -/
theorem run_sound (v : Survey) (targets : List SweepTarget) {events : List Event}
    (hgoes : ∀ e ∈ events, e.goesOn = true) :
    Sweep.Sound v.sweep.tuning targets ((v.meet (.start targets)).run events).sweep
      ((v.meet (.start targets)).journal events) :=
  run_kept (v := v.meet (.start targets)) (j := []) (Sweep.sound_kept v.sweep.tuning targets)
    hgoes (Sweep.start_sound v.sweep targets)

end Survey

end TunnelSession
