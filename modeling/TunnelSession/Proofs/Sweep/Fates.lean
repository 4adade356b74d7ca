/-
  TunnelSession.Proofs.Sweep.Fates

  The ends that the targets of a sweep come to. When a sweep is over, each of its targets
  has come to one end: it was measured by one answer, or given up after as many probes as
  it may have, or its probe was displaced by another one with the same number. The last is
  a loss: the target has no latency, and no further probe is tried for it.

  A probe is displaced only by one that comes 65536 numbers later, or a multiple of that,
  while it is in flight. Failing probes take numbers as well, so it is not the size of the
  window that keeps a sweep from this. What does is that all its probes together have
  numbers of their own.
-/
import TunnelSession.Proofs.Sweep.Courses

namespace TunnelSession

namespace Sweep

variable {s : Sweep} {j : Journal} {t : SweepTry} {first : Nat}

/-! ## Numbers -/

/-- The number of a probe that went out is taken again, in 16 bits, by a later one. -/
def Journal.Reuses (j : Journal) (t : SweepTry) : Prop :=
  ∃ n later taker, n < later ∧ later % 65536 = n % 65536 ∧
    .tried t n true ∈ j ∧ .tried taker later true ∈ j

theorem Journal.Reuses.append (h : j.Reuses t) (more : Journal) : Journal.Reuses (j ++ more) t := by
  obtain ⟨n, later, taker, hlt, hsame, hn, hlater⟩ := h
  exact ⟨n, later, taker, hlt, hsame, List.mem_append_left _ hn, List.mem_append_left _ hlater⟩

/-- `Numbered first s j`: probes are numbered one after the other, from `first` on. -/
structure Numbered (first : Nat) (s : Sweep) (j : Journal) : Prop where
  counted : s.tried = first + j.tries.length
  numbers : ∀ t n sent, .tried t n sent ∈ j → first ≤ n ∧ n < s.tried
  flying : ∀ p ∈ s.inFlight, ∃ n, .tried p.attempt n true ∈ j ∧ p.sequence = UInt16.ofNat n
  displaced : ∀ t, .ended ⟨t, .displaced⟩ ∈ j → j.Reuses t

namespace Numbered

theorem start (s : Sweep) (targets : List SweepTarget) :
    Numbered s.tried (s.start targets) [] :=
  ⟨rfl, nofun, nofun, nofun⟩

/-- Targets come to their ends, those that are displaced by the number of their probe. -/
theorem ended (h : Numbered first s j) (s' : Sweep) (more : Journal) (htried : s'.tried = s.tried)
    (hflying : ∀ p ∈ s'.inFlight, p ∈ s.inFlight)
    (hmore : ∀ e ∈ more, ∃ fate : Fate, e = .ended fate ∧
      (fate.outcome = .displaced → j.Reuses fate.attempt)) :
    Numbered first s' (j ++ more) where
  counted := by
    have hnone : more.tries = [] := by
      refine List.filterMap_eq_nil_iff.mpr fun e he => ?_
      obtain ⟨fate, rfl, -⟩ := hmore e he
      rfl
    rw [Journal.tries_append, hnone, List.append_nil, htried]
    exact h.counted
  numbers t n sent he := by
    rcases List.mem_append.mp he with he | he
    · exact htried ▸ h.numbers t n sent he
    · obtain ⟨fate, hfate, -⟩ := hmore _ he
      cases hfate
  flying p hp := by
    obtain ⟨n, hn, hsequence⟩ := h.flying p (hflying p hp)
    exact ⟨n, List.mem_append_left _ hn, hsequence⟩
  displaced t he := by
    rcases List.mem_append.mp he with he | he
    · exact (h.displaced t he).append more
    · obtain ⟨fate, hfate, hreused⟩ := hmore _ he
      cases hfate
      exact (hreused rfl).append more

/-- A probe is tried, with the next number. -/
theorem tried (h : Numbered first s j) (s' : Sweep) (t : SweepTry) (sent : Bool)
    (htried : s'.tried = s.tried + 1)
    (hflying : ∀ p ∈ s'.inFlight,
      p ∈ s.inFlight ∨ sent = true ∧ p.attempt = t ∧ p.sequence = UInt16.ofNat s.tried) :
    Numbered first s' (j ++ [.tried t s.tried sent]) where
  counted := by
    have hone : Journal.tries [.tried t s.tried sent] = [t] := rfl
    rw [Journal.tries_append, hone, List.length_append, List.length_singleton, htried, h.counted]
    rfl
  numbers t' n sent' he := by
    rcases List.mem_append.mp he with he | he
    · have hold := h.numbers t' n sent' he
      omega
    · cases List.mem_singleton.mp he
      have hfirst := h.counted
      omega
  flying p hp := by
    rcases hflying p hp with hold | ⟨rfl, rfl, hsequence⟩
    · obtain ⟨n, hn, hsequence⟩ := h.flying p hold
      exact ⟨n, List.mem_append_left _ hn, hsequence⟩
    · exact ⟨s.tried, List.mem_append_right _ (List.mem_singleton_self _), hsequence⟩
  displaced t' he := by
    rcases List.mem_append.mp he with he | he
    · exact (h.displaced t' he).append _
    · cases List.mem_singleton.mp he

/-- The next number is one of a later probe for whatever is displaced by it. -/
theorem reuses (h : Numbered first s j) (t : SweepTry) {p : InFlight} (hp : p ∈ s.clashing) :
    Journal.Reuses (j ++ [.tried t s.tried true]) p.attempt := by
  obtain ⟨hflying, hsequence⟩ := List.mem_filter.mp hp
  obtain ⟨n, hn, hnumber⟩ := h.flying p hflying
  have hlt := (h.numbers _ n true hn).2
  refine ⟨n, s.tried, t, hlt, ?_, List.mem_append_left _ hn,
    List.mem_append_right _ (List.mem_singleton_self _)⟩
  have hsame : (UInt16.ofNat s.tried).toNat = (UInt16.ofNat n).toNat := by
    rw [← hnumber, beq_iff_eq.mp hsequence]
  rwa [UInt16.toNat_ofNat', UInt16.toNat_ofNat'] at hsame

end Numbered

theorem mem_giveUp {maxRetries : Nat} {e : Entry} (h : e ∈ giveUp maxRetries t) :
    e = .ended ⟨t, .givenUp⟩ := by
  unfold giveUp at h
  split at h
  · cases h
  · exact List.mem_singleton.mp h

theorem numbered_kept (first : Nat) : Kept (Numbered first) where
  launch {s j t rest} now hqueue _ h := by
    have htried : Numbered first (s.launched t rest now) (j ++ [.tried t s.tried true]) := by
      refine h.tried _ t true rfl fun p hp => ?_
      rcases List.mem_append.mp hp with hp | hp
      · exact .inl (List.mem_filter.mp hp).1
      · rw [List.mem_singleton.mp hp]
        exact .inr ⟨rfl, rfl, rfl⟩
    have hended : Numbered first (s.launched t rest now)
        ((j ++ [.tried t s.tried true]) ++ s.clashing.map (.ended ⟨·.attempt, .displaced⟩)) := by
      refine htried.ended _ _ rfl (fun _ hp => hp) fun e he => ?_
      obtain ⟨p, hp, rfl⟩ := List.mem_map.mp he
      exact ⟨_, rfl, fun _ => h.reuses t hp⟩
    rw [List.append_assoc] at hended
    exact hended
  refuse {s j t rest} hqueue h := by
    have htried : Numbered first (s.refused t rest) (j ++ [.tried t s.tried false]) :=
      h.tried _ t false rfl fun _ hp => .inl hp
    have hended : Numbered first (s.refused t rest)
        ((j ++ [.tried t s.tried false]) ++ giveUp s.tuning.maxRetries t) := by
      refine htried.ended _ _ rfl (fun _ hp => hp) fun e he => ?_
      exact ⟨_, mem_giveUp he, nofun⟩
    rw [List.append_assoc] at hended
    exact hended
  expire {s j} now h := by
    refine h.ended _ _ rfl (fun _ hp => (List.mem_filter.mp hp).1) fun e he => ?_
    obtain ⟨p, -, he⟩ := List.mem_flatMap.mp he
    exact ⟨_, mem_giveUp he, nofun⟩
  settle {s j} now h := by
    have hsame : (s.settle now).tried = s.tried ∧ (s.settle now).inFlight = s.inFlight := by
      unfold settle
      split <;> exact ⟨rfl, rfl⟩
    have hended := h.ended _ [] hsame.1 (fun _ hp => hsame.2 ▸ hp) nofun
    rwa [List.append_nil] at hended
  answer {s j p reply} _ h := by
    refine h.ended _ _ rfl (fun _ hp => (List.mem_filter.mp hp).1) fun e he => ?_
    exact ⟨_, List.mem_singleton.mp he, nofun⟩
  arrange {s j} order hperm h := by
    have hended := h.ended { s with inFlight := order } [] rfl
      (fun _ hp => hperm.mem_iff.mp hp) nofun
    rwa [List.append_nil] at hended

/-- A sweep with few probes has a number of its own for each of them. -/
theorem Numbered.not_reuses (h : Numbered first s j) (hfew : j.tries.length ≤ 65536) :
    ¬ j.Reuses t := by
  rintro ⟨n, later, taker, hlt, hsame, hn, hlater⟩
  have hfrom := (h.numbers _ n true hn).1
  have hto := (h.numbers _ later true hlater).2
  have hcounted := h.counted
  omega

/-! ## What is told and what is recorded -/

/-- What an end leaves in the registry. -/
def Fate.record (r : Registry) (f : Fate) : Registry :=
  match f.outcome with
  | .measured latency => r.setLatency f.attempt.target.publicKey latency
  | .givenUp | .displaced => r

theorem mem_trail {reaches : Nat → Net.Address → Bool} {now n : Nat} {fate : Fate}
    (h : .ended fate ∈ trail reaches now n s) :
    fate.outcome = .givenUp ∨ fate.outcome = .displaced := by
  induction n generalizing s with
  | zero => cases h
  | succ n ih =>
      rcases List.mem_append.mp h with h | h
      · unfold roundNote at h
        split at h
        · cases h
        · split at h
          · rcases List.mem_cons.mp h with h | h
            · cases h
            · obtain ⟨p, -, hp⟩ := List.mem_map.mp h
              cases hp
              exact .inr rfl
          · rcases List.mem_cons.mp h with h | h
            · cases h
            · cases mem_giveUp h
              exact .inl rfl
      · exact ih h

/-- No target is measured while the sweep goes on by itself. -/
theorem record_pumpNote {reaches : Nat → Net.Address → Bool} {now : Nat} (s : Sweep)
    (r : Registry) : (s.pumpNote reaches now).fates.foldl Fate.record r = r := by
  have hnone : ∀ f ∈ (s.pumpNote reaches now).fates, f.record r = r := by
    intro f hf
    have he := Journal.mem_fates.mp hf
    have houtcome : f.outcome = .givenUp ∨ f.outcome = .displaced := by
      unfold pumpNote at he
      split at he
      · rcases List.mem_append.mp he with he | he
        · obtain ⟨p, -, he⟩ := List.mem_flatMap.mp he
          cases mem_giveUp he
          exact .inl rfl
        · exact mem_trail he
      · cases he
    unfold Fate.record
    rcases houtcome with houtcome | houtcome <;> rw [houtcome]
  generalize (s.pumpNote reaches now).fates = fates at hnone
  induction fates with
  | nil => rfl
  | cons f fates ih =>
      rw [List.foldl_cons, hnone f List.mem_cons_self]
      exact ih fun g hg => hnone g (List.mem_cons_of_mem f hg)

end Sweep

namespace Survey

open Sweep (Fate Journal)

theorem tells_eq (v : Survey) (e : Event) : v.tells e = (v.note e).probes := by
  cases e with
  | pump reaches now =>
      show (v.sweep.pump reaches now).1 = (v.sweep.pumpNote reaches now).probes
      unfold Sweep.pumpNote
      by_cases hrunning : v.sweep.running = true
      · obtain ⟨filled, -, -, hpump⟩ :=
          Sweep.pump_of_running reaches now hrunning
        have hexpired : (v.sweep.expireNote now).probes = [] := by
          simp only [Sweep.expireNote, Journal.probes, List.filterMap_flatMap]
          exact List.flatMap_eq_nil_iff.mpr fun p _ => Sweep.probes_giveUp _ _
        rw [if_pos hrunning, hpump, Journal.probes_append, hexpired, List.nil_append]
      · rw [if_neg hrunning, Sweep.pump, if_neg hrunning]
        rfl
  | reply r =>
      show [] = Journal.probes (Option.map _ (v.sweep.replied? r)).toList
      cases v.sweep.replied? r <;> rfl
  | start targets => rfl
  | cancel => rfl
  | arrange order => rfl

theorem meet_registry (v : Survey) (e : Event) :
    (v.meet e).registry = (v.note e).fates.foldl Fate.record v.registry := by
  cases e with
  | pump reaches now => exact (Sweep.record_pumpNote v.sweep v.registry).symm
  | reply r =>
      show _ = (Journal.fates (Option.map _ (v.sweep.replied? r)).toList).foldl Fate.record
        v.registry
      unfold meet
      dsimp only
      rw [Sweep.reply?_eq]
      cases v.sweep.replied? r <;> rfl
  | start targets => rfl
  | cancel => rfl
  | arrange order =>
      obtain ⟨flight, -, hmeet⟩ := meet_arrange v order
      rw [hmeet]
      rfl

/-- The journal has all probes that were told, in turn. -/
theorem told_eq (v : Survey) (events : List Event) : v.told events = (v.journal events).probes := by
  induction events generalizing v with
  | nil => rfl
  | cons e events ih => rw [told, journal, Journal.probes_append, tells_eq, ih]

/-- What is known about the servers is what the ends in the journal leave. -/
theorem run_registry (v : Survey) (events : List Event) :
    (v.run events).registry = (v.journal events).fates.foldl Fate.record v.registry := by
  induction events generalizing v with
  | nil => rfl
  | cons e events ih =>
      have hrest := ih (v.meet e)
      rw [meet_registry] at hrest
      rw [journal, Journal.fates_append, List.foldl_append]
      exact hrest

/-! ## Ends -/

/-- A sweep that is over has brought each of its targets to one end, however often a key or an
    address is in the list. The probes that were tried are those for these ends, and the
    latencies that were recorded are theirs. A target was measured, or all its probes were
    tried, unless a probe for it was displaced by a later one with its number in 16 bits; and
    this does not happen in a sweep that cannot try more probes than there are numbers. -/
theorem each_target_has_its_end (v : Survey) (targets : List SweepTarget) (events : List Event)
    (hgoes : ∀ e ∈ events, e.goesOn = true)
    (hover : ((v.meet (.start targets)).run events).sweep.running = false) :
    let started := v.meet (.start targets)
    let j := started.journal events
    let maxRetries := v.sweep.tuning.maxRetries
    started.told events = j.probes ∧
      (started.run events).registry = j.fates.foldl Fate.record v.registry ∧
      ∃ fates : List Fate,
        fates.map (·.attempt.target) = targets ∧ fates.Perm j.fates ∧
        j.tries.Perm (fates.flatMap Fate.tries) ∧
        ∀ f ∈ fates, f.attempt.retries ≤ maxRetries ∧
          (f.outcome = .givenUp → f.attempt.retries = maxRetries) ∧
          (f.outcome = .displaced →
            j.Reuses f.attempt ∧ 65536 < targets.length * (maxRetries + 1)) := by
  intro started j maxRetries
  have hsound := run_sound v targets hgoes
  have hnumbered : Sweep.Numbered v.sweep.tried (started.run events).sweep j :=
    run_kept (v := started) (j := []) (Sweep.numbered_kept v.sweep.tried) hgoes
      (Sweep.Numbered.start v.sweep targets)
  -- nothing waits and nothing is in flight: all courses are ends
  obtain ⟨hqueue, hflight⟩ := hsound.idle hover
  have hcourses : Sweep.courses (started.run events).sweep j = j.fates.map .ended := by
    unfold Sweep.courses
    rw [hqueue, hflight]
    rfl
  have hbalanced := hsound.balanced
  rw [hcourses] at hbalanced
  obtain ⟨htargets, htries, hlawful⟩ := hbalanced
  rw [List.map_map] at htargets
  rw [List.flatMap_map] at htries
  obtain ⟨fates, hfates, hmap⟩ := Sweep.exists_perm_map_eq htargets
  refine ⟨told_eq started events, run_registry started events, fates, hmap, hfates,
    htries.trans (hfates.symm.flatMap_right _), ?_⟩
  rintro ⟨t, outcome⟩ hf
  have hmem : ⟨t, outcome⟩ ∈ j.fates := hfates.mem_iff.mp hf
  have hlaw := hlawful (.ended ⟨t, outcome⟩) (List.mem_map_of_mem hmem)
  refine ⟨hlaw.retries_le, ?_, ?_⟩
  · rintro rfl
    exact hlaw.givenUp t rfl
  · rintro rfl
    have hreuses := hnumbered.displaced t (Journal.mem_fates.mp hmem)
    refine ⟨hreuses, Nat.lt_of_not_le fun hfew => ?_⟩
    exact hnumbered.not_reuses (hsound.balanced.length_tries_le.trans hfew) hreuses

/-- Of two probes to one server one is answered and the other one is lost twice, and nothing
    can be sent to another server. -/
theorem each_target_has_its_end_north_south :
    let north : SweepTarget := ⟨"north", .v4 0xC0000201#32⟩
    let south : SweepTarget := ⟨"south", .v4 0xC0000202#32⟩
    let v : Survey := ⟨{ tuning := { maxParallel := 2, maxRetries := 1 } }, {}⟩
    let started := v.meet (.start [north, north, south])
    let reaches (_ : Nat) (a : Net.Address) : Bool := a = north.address
    let events : List Event := [.pump reaches 0, .reply ⟨.sweep, 1, north.address, 20000⟩,
      .pump reaches 5000000, .pump reaches 10000000]
    (∀ e ∈ events, e.goesOn = true) ∧ (started.run events).sweep.running = false ∧
      ∃ fates : List Fate, fates.map (·.attempt.target) = [north, north, south] ∧
        fates.Perm
          [⟨⟨north, 0⟩, .measured 20⟩, ⟨⟨south, 1⟩, .givenUp⟩, ⟨⟨north, 1⟩, .givenUp⟩] := by
  intro north south v started reaches events
  have hgoes : ∀ e ∈ events, e.goesOn = true := by simp [events, Event.goesOn]
  have hover : (started.run events).sweep.running = false := by decide +kernel
  have hfates : (started.journal events).fates =
      [⟨⟨north, 0⟩, .measured 20⟩, ⟨⟨south, 1⟩, .givenUp⟩, ⟨⟨north, 1⟩, .givenUp⟩] := by
    decide +kernel
  obtain ⟨-, -, fates, hmap, hperm, -⟩ :=
    each_target_has_its_end v [north, north, south] events hgoes hover
  exact ⟨hgoes, hover, fates, hmap, hfates ▸ hperm⟩

end Survey

/-! ## A displaced probe -/

namespace Sweep

variable {s filled : Sweep} {reaches : Nat → Net.Address → Bool} {now n : Nat}

theorem Loops.unique {m : Nat} {other : Sweep} (h : Loops reaches now s n filled)
    (h' : Loops reaches now s m other) : n = m ∧ filled = other := by
  induction h generalizing m with
  | stop hclosed =>
      cases h' with
      | stop _ => exact ⟨rfl, rfl⟩
      | round hopen _ => exact absurd hopen hclosed
  | round hopen _ ih =>
      cases h' with
      | stop hclosed => exact absurd hopen hclosed
      | round _ h' =>
          obtain ⟨hn, hfilled⟩ := ih h'
          exact ⟨congrArg (· + 1) hn, hfilled⟩

theorem pump_of_loops (hrunning : s.running = true)
    (h : Loops reaches now (s.expire now) n filled) :
    (s.pump reaches now).2 = filled.settle now ∧
      s.pumpNote reaches now = s.expireNote now ++ trail reaches now n (s.expire now) := by
  obtain ⟨filled', hloops, -, hpump⟩ := pump_of_running reaches now hrunning
  obtain ⟨rfl, rfl⟩ := h.unique hloops
  exact ⟨by rw [hpump], if_pos hrunning⟩

/-- The only target that waits is one that nothing can be sent to: all its probes fail, one
    after the other. -/
theorem refusals {target : SweepTarget} {retries : Nat} (now left : Nat)
    (hqueue : s.queue = [⟨target, retries⟩]) (hleft : retries + left = s.tuning.maxRetries)
    (hroom : s.inFlight.length < s.tuning.maxParallel)
    (hfails : ∀ n, reaches n target.address = false) :
    Loops reaches now s (left + 1) { s with queue := [], tried := s.tried + (left + 1) } ∧
      ∀ t ∈ (trail reaches now (left + 1) s).tries, t.target = target := by
  induction left generalizing s retries with
  | zero =>
      have hopen : s.IsOpen := ⟨hroom, by simp [hqueue]⟩
      have hunreached : ¬ reaches s.tried target.address = true := by simp [hfails]
      obtain ⟨hround, hnote⟩ := round_refused now hqueue hunreached
      have hlast : retry s.tuning.maxRetries ⟨target, retries⟩ = [] :=
        if_neg (show ¬ retries < s.tuning.maxRetries by omega)
      refine ⟨.round hopen ?_, ?_⟩
      · rw [hround, refused, hlast]
        exact .stop fun h => h.2 rfl
      · rw [trail, trail, List.append_nil, hnote, tries_refuseNote]
        intro t ht
        rw [List.mem_singleton.mp ht]
  | succ left ih =>
      have hopen : s.IsOpen := ⟨hroom, by simp [hqueue]⟩
      have hunreached : ¬ reaches s.tried target.address = true := by simp [hfails]
      obtain ⟨hround, hnote⟩ := round_refused now hqueue hunreached
      have hnext : (s.refused ⟨target, retries⟩ []).queue = [⟨target, retries + 1⟩] :=
        if_pos (show retries < s.tuning.maxRetries by omega)
      obtain ⟨hloops, htries⟩ :=
        ih hnext (show retries + 1 + left = s.tuning.maxRetries by omega) hroom
      refine ⟨.round hopen ?_, ?_⟩
      · have htried : s.tried + 1 + (left + 1) = s.tried + (left + 1 + 1) := by omega
        rw [hround, ← htried]
        exact hloops
      · rw [trail, Journal.tries_append, hnote, tries_refuseNote, hround]
        intro t ht
        rcases List.mem_append.mp ht with ht | ht
        · rw [List.mem_singleton.mp ht]
        · exact htries t ht

/-- All numbers that are left go to a target that nothing can be sent to, when there is room
    for it behind the probe that goes out first. -/
theorem pump_refusals {t : SweepTry} {deaf : SweepTarget} (now : Nat) (hrunning : s.running = true)
    (hqueue : s.queue = [t, ⟨deaf, 0⟩]) (hkept : s.expire now = s) (hopen : s.IsOpen)
    (hreached : reaches s.tried t.target.address = true)
    (hroom : (s.launched t [⟨deaf, 0⟩] now).inFlight.length < s.tuning.maxParallel)
    (hfails : ∀ n, reaches n deaf.address = false) :
    (s.pump reaches now).2 =
        { s.launched t [] now with tried := s.tried + (s.tuning.maxRetries + 2) } ∧
      ∀ other, other ≠ deaf →
        (s.pumpNote reaches now).tries.filter (·.target = other) =
          [t].filter (·.target = other) := by
  obtain ⟨hround, hnote⟩ := round_launched now hqueue hreached
  obtain ⟨hloops, htries⟩ :=
    refusals (s := s.launched t [⟨deaf, 0⟩] now) now s.tuning.maxRetries rfl
      (Nat.zero_add _) hroom hfails
  have hall : Loops reaches now (s.expire now) (s.tuning.maxRetries + 1 + 1)
      { s.launched t [] now with tried := s.tried + (s.tuning.maxRetries + 2) } := by
    have htried :
        s.tried + 1 + (s.tuning.maxRetries + 1) = s.tried + (s.tuning.maxRetries + 2) := by
      omega
    rw [hkept, ← htried]
    refine .round hopen ?_
    rw [hround]
    exact hloops
  obtain ⟨hpump, hpumped⟩ := pump_of_loops hrunning hall
  refine ⟨?_, fun other hother => ?_⟩
  · rw [hpump, settle, if_neg (by simp [launched, launch])]
  · have hnone : (trail reaches now (s.tuning.maxRetries + 1)
        (s.launched t [⟨deaf, 0⟩] now)).tries.filter (·.target = other) = [] := by
      refine List.filter_eq_nil_iff.mpr fun t ht => ?_
      rw [htries t ht]
      exact fun h => hother (of_decide_eq_true h).symm
    rw [hpumped, hkept, trail, hround, hnote, Journal.tries_append, Journal.tries_append,
      tries_expireNote, tries_launchNote, List.nil_append, List.filter_append, hnone,
      List.append_nil]

end Sweep

namespace Survey

open Sweep (Journal)

theorem run_append (v : Survey) (events more : List Event) :
    v.run (events ++ more) = (v.run events).run more :=
  List.foldl_append

theorem journal_append (v : Survey) (events more : List Event) :
    v.journal (events ++ more) = v.journal events ++ (v.run events).journal more := by
  induction events generalizing v with
  | nil => rfl
  | cons e events ih =>
      show v.note e ++ (v.meet e).journal (events ++ more) = _
      rw [ih, journal, List.append_assoc]
      rfl

/-- The probe of `lost` is in flight with the number 3 when all 65535 probes of `deaf` have
    failed. The next number in 16 bits is 3 again, and it goes to the second probe of `late`:
    `lost` had one probe, nothing is known of its latency, and the sweep is over. -/
theorem displaced_target_is_lost :
    let late : SweepTarget := ⟨"late", .v4 0xC0000201#32⟩
    let first : SweepTarget := ⟨"first", .v4 0xC0000202#32⟩
    let second : SweepTarget := ⟨"second", .v4 0xC0000203#32⟩
    let lost : SweepTarget := ⟨"lost", .v4 0xC0000204#32⟩
    let deaf : SweepTarget := ⟨"deaf", .v4 0xC0000205#32⟩
    let v : Survey := ⟨{ tuning := { maxParallel := 3, maxRetries := 65534 } }, {}⟩
    let started := v.meet (.start [late, first, second, lost, deaf])
    let reaches (_ : Nat) (a : Net.Address) : Bool := a ≠ deaf.address
    let events : List Event := [.pump reaches 0, .reply ⟨.sweep, 1, first.address, 1000000⟩,
      .reply ⟨.sweep, 2, second.address, 1000000⟩, .pump reaches 1000000, .pump reaches 5000000,
      .reply ⟨.sweep, 3, late.address, 5000000⟩, .pump reaches 5000000]
    (∀ e ∈ events, e.goesOn = true) ∧ (started.run events).sweep.running = false ∧
      (started.journal events).tries.filter (·.target = lost) = [⟨lost, 0⟩] ∧
      (started.run events).registry.latency lost.publicKey = 0 := by
  intro late first second lost deaf v started reaches events
  let before : List Event := [.pump reaches 0, .reply ⟨.sweep, 1, first.address, 1000000⟩,
    .reply ⟨.sweep, 2, second.address, 1000000⟩]
  let after : List Event := [.pump reaches 5000000, .reply ⟨.sweep, 3, late.address, 5000000⟩,
    .pump reaches 5000000]
  let registry : Registry := ⟨[("first", { latency := 1000 }), ("second", { latency := 1000 })]⟩
  let waiting : Survey :=
    ⟨{ v.sweep with
        queue := [⟨lost, 0⟩, ⟨deaf, 0⟩], inFlight := [⟨0, ⟨late, 0⟩, 0⟩], tried := 3,
        running := true }, registry⟩
  let filled : Sweep :=
    { v.sweep with
      inFlight := [⟨0, ⟨late, 0⟩, 0⟩, ⟨3, ⟨lost, 0⟩, 1000000⟩], tried := 65539, running := true }
  have hwaiting : started.run before = waiting := by decide +kernel
  -- too many rounds to evaluate: the probe of `lost` goes out, and the others are refusals
  obtain ⟨hpump, htries⟩ :=
    Sweep.pump_refusals (s := waiting.sweep) (t := ⟨lost, 0⟩) 1000000 rfl rfl rfl
      ⟨by decide, by simp [waiting]⟩ (show reaches 3 lost.address = true by decide) (by decide)
      (fun n => show reaches n deaf.address = false from rfl)
  have hmeet : waiting.meet (.pump reaches 1000000) = ⟨filled, registry⟩ := by
    have hfilled : { waiting.sweep.launched ⟨lost, 0⟩ [] 1000000 with
        tried := waiting.sweep.tried + (waiting.sweep.tuning.maxRetries + 2) } = filled := by
      decide +kernel
    exact congrArg (Survey.mk · registry) (hpump.trans hfilled)
  have hevents : events = before ++ .pump reaches 1000000 :: after := rfl
  have hrun : started.run events = (⟨filled, registry⟩ : Survey).run after := by
    rw [hevents, run_append, hwaiting, ← hmeet]
    rfl
  refine ⟨by simp [events, Event.goesOn], ?_, ?_, ?_⟩
  · rw [hrun]
    decide +kernel
  · have hjournal : started.journal events = started.journal before ++
        (waiting.note (.pump reaches 1000000) ++ (⟨filled, registry⟩ : Survey).journal after) := by
      rw [hevents, journal_append, hwaiting, ← hmeet]
      rfl
    have hfirst : (started.journal before).tries.filter (·.target = lost) = [] := by
      decide +kernel
    have hlast : ((⟨filled, registry⟩ : Survey).journal after).tries.filter (·.target = lost) =
        [] := by
      decide +kernel
    have hmiddle :
        (waiting.note (.pump reaches 1000000)).tries.filter (·.target = lost) = [⟨lost, 0⟩] :=
      htries lost (by decide)
    rw [hjournal, Journal.tries_append, Journal.tries_append, List.filter_append,
      List.filter_append, hfirst, hmiddle, hlast]
    rfl
  · rw [hrun]
    decide +kernel

end Survey

end TunnelSession
