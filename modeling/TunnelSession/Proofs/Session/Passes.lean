/-
  TunnelSession.Proofs.Session.Passes

  The passes of a session over its catalog. A pass goes on in the ticks that find the
  connection off, and only there are probes of the sweep sent. It comes to its end in such a
  tick, or it is cut off: by a tick that finds the connection elsewhere, by a command to
  connect to a city that is found, even if the connection then rejects it, or by quitting.

  Two times decide when the next pass begins. The end of a pass is noted and the refresh
  interval counted from it. To cut a pass off leaves the note alone, and the pass was due
  when it began, so that the next one is due at any later time.
-/
import TunnelSession.Proofs.Session.Resolution
import TunnelSession.Proofs.Sweep.Rounds

namespace TunnelSession

namespace Session

/-! ## Ticks -/

/-- The time at which something happens. -/
def Happening.now : Happening → Nat
  | .input around _ | .probeTick around | .checkupTick around | .statusTick around
  | .sweepTick around _ | .arrange around _ => around.now

/-- The time of a tick of the sweep. -/
def Happening.tick? : Happening → Option Nat
  | .sweepTick around _ => some around.now
  | .input _ _ | .probeTick _ | .checkupTick _ | .statusTick _ | .arrange _ _ => none

/-- The times of the ticks of the sweep. -/
def ticks (happenings : List Happening) : List Nat := happenings.filterMap Happening.tick?

/-- The probes of the sweep that are sent when something happens. -/
def sends (s : Session) : Happening → List Sweep.SweepProbe
  | .sweepTick around reaches => (s.sweepTick around reaches).1
  | .input _ _ | .probeTick _ | .checkupTick _ | .statusTick _ | .arrange _ _ => []

/-- The sweep is to go on: it is enabled, and the connection is off. -/
def Sweeps (s : Session) : Happening → Prop
  | .sweepTick _ _ => s.controller.phase = .off ∧ s.sweepEnabled = true
  | .input _ _ | .probeTick _ | .checkupTick _ | .statusTick _ | .arrange _ _ => False

/-- Whether something cuts off the pass in progress. -/
def cuts (s : Session) : Happening → Bool
  | .sweepTick _ _ => s.controller.phase ≠ .off
  | .input around (.command (.activate selection)) => (s.resolve? around selection).isSome
  | .input _ (.command .quit) => true
  | .input _ _ | .probeTick _ | .checkupTick _ | .statusTick _ | .arrange _ _ => false

/-- A pass begins. -/
def Begins (s : Session) (x : Happening) : Prop := s.Sweeps x ∧ s.sweep.isDue x.now = true

/-- A pass, which may just have begun, comes to its end. -/
def Ends (s : Session) (x : Happening) : Prop :=
  s.Sweeps x ∧ (s.sweep.running = true ∨ s.sweep.isDue x.now = true) ∧
    (s.meet x).sweep.running = false

/-- The sweep is never to go on. -/
def Rests (s : Session) : List Happening → Prop
  | [] => True
  | x :: happenings => ¬ s.Sweeps x ∧ (s.meet x).Rests happenings

variable {s : Session} {x : Happening}

/-! ## One happening -/

/-- What is left alone when the sweep is not to go on, and whether a pass is cut off. -/
structure Spared (s : Session) (x : Happening) : Prop where
  tuning : (s.meet x).sweep.tuning = s.sweep.tuning
  tried : (s.meet x).sweep.tried = s.sweep.tried
  lastFinished : (s.meet x).sweep.lastFinished = s.sweep.lastFinished
  running : (s.meet x).sweep.running = (s.sweep.running && !s.cuts x)
  catalog : (s.meet x).catalog = s.catalog
  sends : s.sends x = []
  cancel : s.sweep.running = true → s.cuts x = true → (s.meet x).sweep = s.sweep.cancel

theorem spared_of_same {flight : List InFlight}
    (hsweep : (s.meet x).sweep = { s.sweep with inFlight := flight })
    (hcatalog : (s.meet x).catalog = s.catalog) (hsends : s.sends x = [])
    (hcuts : s.cuts x = false) : Spared s x := by
  refine ⟨?_, ?_, ?_, ?_, hcatalog, hsends, fun _ h => absurd h (by simp [hcuts])⟩
  · rw [hsweep]
  · rw [hsweep]
  · rw [hsweep]
  · rw [hsweep, hcuts, Bool.not_false, Bool.and_true]

theorem spared_of_cancel (hsweep : (s.meet x).sweep = s.sweep.cancel)
    (hcatalog : (s.meet x).catalog = s.catalog) (hsends : s.sends x = [])
    (hcuts : s.cuts x = true) : Spared s x := by
  refine ⟨?_, ?_, ?_, ?_, hcatalog, hsends, fun _ _ => hsweep⟩
  · rw [hsweep, Sweep.cancel]
  · rw [hsweep, Sweep.cancel]
  · rw [hsweep, Sweep.cancel]
  · rw [hsweep, hcuts, Bool.not_true, Bool.and_false, Sweep.cancel]

theorem resolve?_keeps {around : Surroundings} {selection : Option Selection} {d : Destination}
    {s' : Session} (h : s.resolve? around selection = some (d, s')) :
    s'.sweep = s.sweep ∧ s'.catalog = s.catalog := by
  obtain ⟨w, -, hw⟩ := Option.bind_eq_some_iff.mp h
  obtain ⟨d', -, hs'⟩ := Option.bind_eq_some_iff.mp hw
  cases hs'
  exact ⟨rfl, rfl⟩

theorem spared_of_command (around : Surroundings) (cmd : Command) :
    Spared s (.input around (.command cmd)) := by
  cases cmd with
  | activate selection =>
      cases hresolve : s.resolve? around selection with
      | none =>
          have hmeet : s.meet (.input around (.command (.activate selection))) = s := by
            simp only [meet, handle, command, hresolve]
          exact spared_of_same (by rw [hmeet]) (by rw [hmeet]) rfl (by simp [cuts, hresolve])
      | some found =>
          obtain ⟨d, s'⟩ := found
          obtain ⟨hsweep, hcatalog⟩ := resolve?_keeps hresolve
          have hmeet : s.meet (.input around (.command (.activate selection))) =
              { s' with
                sweep := s'.sweep.cancel, controller := (s'.controller.activate around d).2 } := by
            simp only [meet, handle, command, hresolve]
          refine spared_of_cancel ?_ ?_ rfl (by simp [cuts, hresolve])
          · rw [hmeet, ← hsweep]
          · rw [hmeet, ← hcatalog]
  | changeServer selection silent =>
      cases hresolve : s.resolve? around (some selection) with
      | none =>
          have hmeet : s.meet (.input around (.command (.changeServer selection silent))) = s := by
            simp only [meet, handle, command, hresolve]
          exact spared_of_same (by rw [hmeet]) (by rw [hmeet]) rfl rfl
      | some found =>
          obtain ⟨d, s'⟩ := found
          obtain ⟨hsweep, hcatalog⟩ := resolve?_keeps hresolve
          have hmeet : s.meet (.input around (.command (.changeServer selection silent))) =
              { s' with controller := (s'.controller.changeServer around d silent).2 } := by
            simp only [meet, handle, command, hresolve]
          have hsame : (s.meet (.input around (.command (.changeServer selection silent)))).sweep =
              s.sweep := by
            rw [hmeet, ← hsweep]
          exact spared_of_same hsame (by rw [hmeet, ← hcatalog]) rfl rfl
  | quit => exact spared_of_cancel rfl rfl rfl rfl
  | portal present => cases present <;> exact spared_of_same rfl rfl rfl rfl
  | deactivate => exact spared_of_same rfl rfl rfl rfl
  | silentSwitch => exact spared_of_same rfl rfl rfl rfl
  | requestStatus => exact spared_of_same rfl rfl rfl rfl
  | fetchLogs ticket => exact spared_of_same rfl rfl rfl rfl
  | cleanLogs => exact spared_of_same rfl rfl rfl rfl

theorem sweepReply_keeps (s : Session) (r : ProbeReply) :
    ∃ flight, (s.sweepReply r).sweep = { s.sweep with inFlight := flight } ∧
      (s.sweepReply r).catalog = s.catalog := by
  unfold sweepReply
  rw [Sweep.reply?_eq]
  cases s.sweep.replied? r with
  | none => exact ⟨s.sweep.inFlight, rfl, rfl⟩
  | some p => exact ⟨_, rfl, rfl⟩

/-- Only a tick that finds the connection off, and the sweep enabled, has it go on. -/
theorem spared (h : ¬ s.Sweeps x) : Spared s x := by
  cases x with
  | input around i =>
      cases i with
      | command cmd => exact spared_of_command around cmd
      | link e => exact spared_of_same rfl rfl rfl rfl
      | timer token => exact spared_of_same rfl rfl rfl rfl
      | probe r =>
          cases hpurpose : r.purpose with
          | health =>
              have hmeet : s.meet (.input around (.probe r)) =
                  { s with controller := s.controller.onProbeReply r } := by
                simp only [meet, handle, hpurpose]
              exact spared_of_same (by rw [hmeet]) (by rw [hmeet]) rfl rfl
          | sweep =>
              have hmeet : s.meet (.input around (.probe r)) = s.sweepReply r := by
                simp only [meet, handle, hpurpose]
              obtain ⟨flight, hsweep, hcatalog⟩ := s.sweepReply_keeps r
              rw [← hmeet] at hsweep hcatalog
              exact spared_of_same hsweep hcatalog rfl rfl
  | probeTick around => exact spared_of_same rfl rfl rfl rfl
  | checkupTick around => exact spared_of_same rfl rfl rfl rfl
  | statusTick around => exact spared_of_same rfl rfl rfl rfl
  | arrange around order =>
      obtain ⟨flight, hmeet⟩ := meet_arrange s around order
      exact spared_of_same (by rw [hmeet]) (by rw [hmeet]) rfl rfl
  | sweepTick around reaches =>
      by_cases hoff : s.controller.phase = .off
      · have hdisabled : s.sweepEnabled = false := by
          have hnot : ¬ s.sweepEnabled = true := fun henabled => h ⟨hoff, henabled⟩
          simpa using hnot
        have htick : s.sweepTick around reaches = ([], s) := by
          simp [Session.sweepTick, hoff, hdisabled]
        have hmeet : s.meet (.sweepTick around reaches) = s := congrArg Prod.snd htick
        exact spared_of_same (by rw [hmeet]) (by rw [hmeet]) (congrArg Prod.fst htick)
          (by simp [cuts, hoff])
      · have hcuts : s.cuts (.sweepTick around reaches) = true := by simp [cuts, hoff]
        by_cases hrunning : s.sweep.running = true
        · have htick : s.sweepTick around reaches = ([], { s with sweep := s.sweep.cancel }) := by
            simp [Session.sweepTick, hoff, hrunning]
          have hmeet : s.meet (.sweepTick around reaches) = { s with sweep := s.sweep.cancel } :=
            congrArg Prod.snd htick
          exact spared_of_cancel (by rw [hmeet]) (by rw [hmeet]) (congrArg Prod.fst htick) hcuts
        · have htick : s.sweepTick around reaches = ([], s) := by
            simp [Session.sweepTick, hoff, hrunning]
          have hmeet : s.meet (.sweepTick around reaches) = s := congrArg Prod.snd htick
          refine ⟨by rw [hmeet], by rw [hmeet], by rw [hmeet], ?_, by rw [hmeet],
            congrArg Prod.fst htick, fun h => absurd h hrunning⟩
          rw [hmeet, hcuts, Bool.not_true, Bool.and_false]
          simpa using hrunning

theorem not_sweeps_of_cuts (h : s.cuts x = true) : ¬ s.Sweeps x := by
  cases x with
  | sweepTick around reaches =>
      intro hsweeps
      exact of_decide_eq_true h hsweeps.1
  | input around i => exact id
  | probeTick around => exact id
  | checkupTick around => exact id
  | statusTick around => exact id
  | arrange around order => exact id

theorem exists_tick_of_sweeps (h : s.Sweeps x) :
    ∃ around reaches, x = .sweepTick around reaches := by
  cases x with
  | sweepTick around reaches => exact ⟨around, reaches, rfl⟩
  | input around i => cases h
  | probeTick around => cases h
  | checkupTick around => cases h
  | statusTick around => cases h
  | arrange around order => cases h

theorem tick?_of_sweeps (h : s.Sweeps x) : x.tick? = some x.now := by
  obtain ⟨around, reaches, rfl⟩ := exists_tick_of_sweeps h
  rfl

/-- The sweep goes on, from the start if a pass is due. -/
theorem sweepTick_of_sweeps {around : Surroundings} {reaches : Nat → Net.Address → Bool}
    (h : s.Sweeps (.sweepTick around reaches)) :
    let sweep := if s.sweep.isDue around.now then s.sweep.start s.catalog.sweepTargets else s.sweep
    s.sweepTick around reaches =
      ((sweep.pump reaches around.now).1,
        { s with sweep := (sweep.pump reaches around.now).2 }) := by
  obtain ⟨hoff, henabled⟩ := h
  simp [Session.sweepTick, hoff, henabled]

theorem meet_catalog (s : Session) (x : Happening) : (s.meet x).catalog = s.catalog := by
  by_cases hsweeps : s.Sweeps x
  · obtain ⟨around, reaches, rfl⟩ := exists_tick_of_sweeps hsweeps
    show (s.sweepTick around reaches).2.catalog = s.catalog
    rw [sweepTick_of_sweeps hsweeps]
  · exact (spared hsweeps).catalog

theorem run_catalog (s : Session) (happenings : List Happening) :
    (s.run happenings).catalog = s.catalog := by
  induction happenings generalizing s with
  | nil => rfl
  | cons x happenings ih => exact (ih (s.meet x)).trans (meet_catalog s x)

/-! ## What a tick does to a pass -/

/-- A pass that is in progress or due goes on, or comes to its end now; without one, nothing
    is done. -/
theorem pass_cases (h : s.Sweeps x) :
    (s.meet x).sweep.tuning = s.sweep.tuning ∧
      ((s.sweep.running = true ∨ s.sweep.isDue x.now = true) ∧
          ((s.meet x).sweep.running = true ∧
              (s.meet x).sweep.lastFinished = s.sweep.lastFinished ∨
            (s.meet x).sweep.running = false ∧ (s.meet x).sweep.lastFinished = some x.now) ∨
        (s.sweep.running = false ∧ s.sweep.isDue x.now = false) ∧
          (s.meet x).sweep = s.sweep ∧ s.sends x = []) := by
  obtain ⟨around, reaches, rfl⟩ := exists_tick_of_sweeps h
  have htick := sweepTick_of_sweeps h
  have hsweep : (s.meet (.sweepTick around reaches)).sweep = ((if s.sweep.isDue around.now then
      s.sweep.start s.catalog.sweepTargets else s.sweep).pump reaches around.now).2 :=
    congrArg (fun told => told.2.sweep) htick
  by_cases hdue : s.sweep.isDue around.now = true
  · rw [if_pos hdue] at hsweep
    obtain ⟨htuning, hcases⟩ := Sweep.pump_cases reaches around.now
      (show (s.sweep.start s.catalog.sweepTargets).running = true from rfl)
    rw [← hsweep] at htuning hcases
    exact ⟨htuning, .inl ⟨.inr hdue, hcases⟩⟩
  · rw [if_neg hdue] at hsweep
    by_cases hrunning : s.sweep.running = true
    · obtain ⟨htuning, hcases⟩ := Sweep.pump_cases reaches around.now hrunning
      rw [← hsweep] at htuning hcases
      exact ⟨htuning, .inl ⟨.inl hrunning, hcases⟩⟩
    · have hover : s.sweep.running = false := by simpa using hrunning
      have hpump := Sweep.pump_of_over reaches around.now hover
      have hsends : s.sends (.sweepTick around reaches) = [] := by
        show (s.sweepTick around reaches).1 = []
        rw [htick, if_neg hdue, hpump]
      rw [hpump] at hsweep
      exact ⟨by rw [hsweep], .inr ⟨⟨hover, eq_false_of_ne_true hdue⟩, hsweep, hsends⟩⟩

/-- A pass begins with the whole catalog. -/
theorem begin_over_catalog {around : Surroundings} {reaches : Nat → Net.Address → Bool}
    (h : s.Begins (.sweepTick around reaches)) :
    (s.sends (.sweepTick around reaches), (s.meet (.sweepTick around reaches)).sweep) =
      (s.sweep.start s.catalog.sweepTargets).pump reaches around.now := by
  have htick := sweepTick_of_sweeps h.1
  have hdue : s.sweep.isDue around.now = true := h.2
  rw [if_pos hdue] at htick
  show ((s.sweepTick around reaches).1, (s.sweepTick around reaches).2.sweep) = _
  rw [htick]

theorem isDue_iff {sweep : Sweep} {now : Nat} :
    sweep.isDue now = true ↔ sweep.running = false ∧
      ∀ f, sweep.lastFinished = some f → sweep.tuning.refreshInterval ≤ now - f := by
  unfold Sweep.isDue
  cases sweep.lastFinished <;> simp

/-! ## Passes and the clock -/

/-- `Timed interval past s`: the end of a pass is noted with the time of one of the ticks so
    far, and a pass in progress was due at one of them. -/
structure Timed (interval : Nat) (past : List Nat) (s : Session) : Prop where
  refresh : s.sweep.tuning.refreshInterval = interval
  finished : ∀ f, s.sweep.lastFinished = some f → f ∈ past
  running : s.sweep.running = true → ∀ f, s.sweep.lastFinished = some f →
    ∃ t ∈ past, f + interval ≤ t

variable {interval : Nat} {past : List Nat}

/-- A tick notes its time, or leaves the note alone; a pass that begins in it is due. -/
theorem Timed.tick (h : Timed interval past s) (hsweeps : s.Sweeps x)
    (hclock : ∀ t ∈ past, t ≤ x.now) : Timed interval (past ++ [x.now]) (s.meet x) := by
  have hnow : x.now ∈ past ++ [x.now] := List.mem_append_right _ (List.mem_singleton_self _)
  obtain ⟨htuning, hcases⟩ := pass_cases hsweeps
  rcases hcases with ⟨hbusy, ⟨-, hsame⟩ | ⟨hover, hend⟩⟩ | ⟨hidle, hsame, -⟩
  · refine ⟨htuning ▸ h.refresh, fun f hf => ?_, fun _ f hf => ?_⟩
    · rw [hsame] at hf
      exact List.mem_append_left _ (h.finished f hf)
    · rw [hsame] at hf
      rcases hbusy with hrunning | hdue
      · obtain ⟨t, ht, hle⟩ := h.running hrunning f hf
        exact ⟨t, List.mem_append_left _ ht, hle⟩
      · -- the pass begins in this tick, which was late enough for it
        have helapsed := (isDue_iff.mp hdue).2 f hf
        rw [h.refresh] at helapsed
        have hpast := hclock f (h.finished f hf)
        exact ⟨x.now, hnow, by omega⟩
  · refine ⟨htuning ▸ h.refresh, fun f hf => ?_, fun hrunning => ?_⟩
    · rw [hend] at hf
      cases hf
      exact hnow
    · rw [hover] at hrunning
      cases hrunning
  · refine ⟨htuning ▸ h.refresh, fun f hf => ?_, fun hrunning => ?_⟩
    · rw [hsame] at hf
      exact List.mem_append_left _ (h.finished f hf)
    · rw [hsame, hidle.1] at hrunning
      cases hrunning

theorem Timed.meet (h : Timed interval past s) (hclock : ∀ t ∈ past, ∀ u ∈ x.tick?, t ≤ u) :
    Timed interval (past ++ x.tick?.toList) (s.meet x) := by
  by_cases hsweeps : s.Sweeps x
  · have htick := tick?_of_sweeps hsweeps
    rw [htick]
    exact h.tick hsweeps fun t ht => hclock t ht x.now htick
  · have hspared := spared hsweeps
    refine ⟨hspared.tuning ▸ h.refresh, fun f hf => ?_, fun hrunning f hf => ?_⟩
    · rw [hspared.lastFinished] at hf
      exact List.mem_append_left _ (h.finished f hf)
    · rw [hspared.running, Bool.and_eq_true] at hrunning
      rw [hspared.lastFinished] at hf
      obtain ⟨t, ht, hle⟩ := h.running hrunning.1 f hf
      exact ⟨t, List.mem_append_left _ ht, hle⟩

theorem run_append (s : Session) (happenings more : List Happening) :
    s.run (happenings ++ more) = (s.run happenings).run more :=
  List.foldl_append

theorem run_singleton (s : Session) (x : Happening) : s.run [x] = s.meet x := rfl

theorem ticks_cons (x : Happening) (happenings : List Happening) :
    ticks (x :: happenings) = x.tick?.toList ++ ticks happenings := by
  unfold ticks
  cases hx : x.tick? with
  | none => exact List.filterMap_cons_none hx
  | some t => exact List.filterMap_cons_some hx

theorem ticks_append (happenings more : List Happening) :
    ticks (happenings ++ more) = ticks happenings ++ ticks more :=
  List.filterMap_append

/-- What a happening keeps at each time, a run keeps with the clock. -/
theorem Timed.run {happenings : List Happening} (h : Timed interval past s)
    (hclock : (past ++ ticks happenings).Pairwise (· ≤ ·)) :
    Timed interval (past ++ ticks happenings) (s.run happenings) := by
  induction happenings generalizing s past with
  | nil =>
      show Timed interval (past ++ []) s
      rw [List.append_nil]
      exact h
  | cons x happenings ih =>
      rw [ticks_cons, ← List.append_assoc] at hclock ⊢
      have hpast := (List.pairwise_append.mp (List.pairwise_append.mp hclock).1).2.2
      refine ih (h.meet fun t ht u hu => hpast t ht u ?_) hclock
      rw [Option.mem_toList]
      exact hu

/-! ## Between passes -/

theorem Rests.kept {happenings : List Happening} (h : s.Rests happenings)
    (hover : s.sweep.running = false) :
    (s.run happenings).sweep.running = false ∧
      (s.run happenings).sweep.tuning = s.sweep.tuning ∧
      (s.run happenings).sweep.lastFinished = s.sweep.lastFinished := by
  induction happenings generalizing s with
  | nil => exact ⟨hover, rfl, rfl⟩
  | cons x happenings ih =>
      have hspared := spared h.1
      have hnext : (s.meet x).sweep.running = false := by
        rw [hspared.running, hover, Bool.false_and]
      obtain ⟨hrunning, htuning, hfinished⟩ := ih h.2 hnext
      exact ⟨hrunning, htuning.trans hspared.tuning, hfinished.trans hspared.lastFinished⟩

/-- The end of a pass is noted until a later one ends. -/
theorem exists_finished {f : Nat} {happenings : List Happening}
    (hticks : ∀ u ∈ ticks happenings, f ≤ u)
    (h : ∃ g, s.sweep.lastFinished = some g ∧ f ≤ g) :
    ∃ g, (s.run happenings).sweep.lastFinished = some g ∧ f ≤ g := by
  induction happenings generalizing s with
  | nil => exact h
  | cons x happenings ih =>
      rw [ticks_cons] at hticks
      refine ih (s := s.meet x) (fun u hu => hticks u (List.mem_append_right _ hu)) ?_
      by_cases hsweeps : s.Sweeps x
      · rcases (pass_cases hsweeps).2 with ⟨-, ⟨-, hsame⟩ | ⟨-, hend⟩⟩ | ⟨-, hsame, -⟩
        · rw [hsame]
          exact h
        · rw [tick?_of_sweeps hsweeps] at hticks
          exact ⟨x.now, hend, hticks x.now List.mem_cons_self⟩
        · rw [hsame]
          exact h
      · rw [(spared hsweeps).lastFinished]
        exact h

theorem Ends.noted (h : s.Ends x) : (s.meet x).sweep.lastFinished = some x.now := by
  obtain ⟨hsweeps, hbusy, hover⟩ := h
  rcases (pass_cases hsweeps).2 with ⟨-, ⟨hgoing, -⟩ | ⟨-, hend⟩⟩ | ⟨hidle, -, -⟩
  · rw [hover] at hgoing
    cases hgoing
  · exact hend
  · rcases hbusy with hrunning | hdue
    · rw [hidle.1] at hrunning
      cases hrunning
    · rw [hidle.2] at hdue
      cases hdue

/-- Without a pass in progress, and none that begins, nothing is done. -/
theorem over_of_not_begins (hover : s.sweep.running = false) (hnone : ¬ s.Begins x) :
    (s.meet x).sweep.running = false ∧ s.sends x = [] := by
  by_cases hsweeps : s.Sweeps x
  · rcases (pass_cases hsweeps).2 with ⟨hbusy, -⟩ | ⟨-, hsame, hsends⟩
    · rcases hbusy with hrunning | hdue
      · rw [hover] at hrunning
        cases hrunning
      · exact absurd ⟨hsweeps, hdue⟩ hnone
    · exact ⟨hsame ▸ hover, hsends⟩
  · have hspared := spared hsweeps
    exact ⟨by rw [hspared.running, hover, Bool.false_and], hspared.sends⟩

/-- A pass that was cut off was due when it began, and so the next one is due at once. -/
theorem begins_of_cut {between : List Happening} {y : Happening} (h : Timed interval past s)
    (hrunning : s.sweep.running = true) (hcuts : s.cuts x = true)
    (hrests : (s.meet x).Rests between) (hsweeps : ((s.meet x).run between).Sweeps y)
    (hnow : ∀ t ∈ past, t ≤ y.now) : ((s.meet x).run between).Begins y := by
  have hspared := spared (not_sweeps_of_cuts hcuts)
  have hcut : (s.meet x).sweep.running = false := by
    rw [hspared.running, hrunning, hcuts]
    rfl
  obtain ⟨hstill, htuning, hfinished⟩ := hrests.kept hcut
  refine ⟨hsweeps, isDue_iff.mpr ⟨hstill, fun f hf => ?_⟩⟩
  rw [hfinished, hspared.lastFinished] at hf
  obtain ⟨t, ht, hle⟩ := h.running hrunning f hf
  have hlate := hnow t ht
  rw [htuning, hspared.tuning, h.refresh]
  omega

/-- A pass does not begin before the refresh interval is over, counted from the last end. -/
theorem Timed.elapsed {f : Nat} (h : Timed interval past s) (hbegins : s.Begins x)
    (hfinished : ∃ g, s.sweep.lastFinished = some g ∧ f ≤ g) (hnow : ∀ t ∈ past, t ≤ x.now) :
    f + interval ≤ x.now := by
  obtain ⟨g, hg, hle⟩ := hfinished
  have helapsed := (isDue_iff.mp hbegins.2).2 g hg
  rw [h.refresh] at helapsed
  have hlate := hnow g (h.finished g hg)
  omega

/-- On every run of a session, with ticks of the sweep whose clock does not go back: a probe of
    the sweep is tried only in such a tick, while the connection is off and the sweep enabled.
    A pass in progress stops when it is cut off or comes to its end, and none is in progress
    again before one begins. If it was cut off, the next tick that has the sweep go on begins
    a pass over the whole catalog. If it came to its end, a pass does not begin until the
    refresh interval is over. -/
theorem passes_follow_the_clock (tuning : SweepTuning) (s₀ : Session)
    (hsweep : s₀.sweep = { tuning := tuning }) (happenings : List Happening)
    (hclock : (ticks happenings).Pairwise (· ≤ ·)) :
    ∀ before x after, happenings = before ++ x :: after →
      let s := s₀.run before
      ((s.sends x ≠ [] ∨ (s.meet x).sweep.tried ≠ s.sweep.tried) → s.Sweeps x) ∧
      (s.sweep.running = true → s.cuts x = true → (s.meet x).sweep = s.sweep.cancel) ∧
      (s.sweep.running = true → (s.meet x).sweep.running = false → s.cuts x = true ∨ s.Ends x) ∧
      (s.sweep.running = false → ¬ s.Begins x →
        (s.meet x).sweep.running = false ∧ s.sends x = []) ∧
      ∀ between around reaches later, after = between ++ .sweepTick around reaches :: later →
        let s' := (s.meet x).run between
        let y := Happening.sweepTick around reaches
        (s.sweep.running = true → s.cuts x = true → (s.meet x).Rests between → s'.Sweeps y →
          s'.Begins y ∧ (s'.sends y, (s'.meet y).sweep) =
            (s'.sweep.start s₀.catalog.sweepTargets).pump reaches around.now) ∧
        (s.Ends x → s'.Begins y → x.now + tuning.refreshInterval ≤ around.now) := by
  rintro before x after rfl s
  have hfresh : Timed tuning.refreshInterval [] s₀ := by
    refine ⟨by rw [hsweep], fun f hf => ?_, fun hrunning => ?_⟩
    · rw [hsweep] at hf
      cases hf
    · rw [hsweep] at hrunning
      cases hrunning
  refine ⟨fun hprobe => ?_, fun hrunning hcuts => ?_, fun hrunning hstops => ?_,
    over_of_not_begins, ?_⟩
  · by_contra hrests
    have hspared := spared hrests
    rcases hprobe with hsent | htried
    · exact hsent hspared.sends
    · exact htried hspared.tried
  · exact (spared (not_sweeps_of_cuts hcuts)).cancel hrunning hcuts
  · by_cases hsweeps : s.Sweeps x
    · exact .inr ⟨hsweeps, .inl hrunning, hstops⟩
    · rw [(spared hsweeps).running, hrunning, Bool.true_and] at hstops
      exact .inl (by simpa using hstops)
  · rintro between around reaches later rfl s' y
    -- the ticks up to the last one are all in its past
    have hticks : ticks (before ++ x :: (between ++ y :: later)) =
        ticks before ++ (x.tick?.toList ++ ticks between) ++ around.now :: ticks later := by
      have hlast : ticks (y :: later) = around.now :: ticks later := rfl
      rw [ticks_append, ticks_cons, ticks_append, hlast]
      simp only [List.append_assoc]
    rw [hticks] at hclock
    obtain ⟨hpast, -, hbefore⟩ := List.pairwise_append.mp hclock
    have hnow : ∀ t ∈ ticks before ++ (x.tick?.toList ++ ticks between), t ≤ y.now :=
      fun t ht => hbefore t ht around.now List.mem_cons_self
    obtain ⟨hfirst, hrest, -⟩ := List.pairwise_append.mp hpast
    have htimed : Timed tuning.refreshInterval (ticks before) s := hfresh.run hfirst
    refine ⟨fun hrunning hcuts hrests hsweeps => ?_, fun hends hbegins => ?_⟩
    · have hbegins : s'.Begins y := begins_of_cut htimed hrunning hcuts hrests hsweeps
        fun t ht => hnow t (List.mem_append_left _ ht)
      have hcatalog : s'.catalog = s₀.catalog := by
        rw [run_catalog, meet_catalog, run_catalog]
      rw [← hcatalog]
      exact ⟨hbegins, begin_over_catalog hbegins⟩
    · have hlater : Timed tuning.refreshInterval (ticks before ++ (x.tick?.toList ++ ticks between))
          s' := by
        rw [← ticks_cons] at hpast ⊢
        exact htimed.run hpast
      rw [tick?_of_sweeps hends.1] at hrest
      have hfinished := exists_finished (s := s.meet x) (f := x.now)
        (List.pairwise_cons.mp hrest).1 ⟨x.now, hends.noted, Nat.le_refl _⟩
      exact hlater.elapsed hbegins hfinished hnow

/-- A pass is cut off by a connection, which is given up. The next one begins at once and ends
    in the same tick, as nothing can be sent, and half an hour later there is another one. -/
theorem passes_follow_the_clock_berlin :
    let first : Happening := .sweepTick {} fun _ _ => true
    let connect : Happening := .input {} (.command (.activate none))
    let back : List Happening :=
      [.input {} (.command .deactivate), .input {} (.link (.message .disconnected))]
    let second : Happening := .sweepTick { now := 1000000 } fun _ _ => false
    let third : Happening := .sweepTick { now := 1801000000 } fun _ _ => true
    let s₁ := (berlinSession none).run quietDaemon
    let s₂ := s₁.meet first
    let s₃ := (s₂.meet connect).run back
    (ticks (quietDaemon ++ [first, connect] ++ back ++ [second, third])).Pairwise (· ≤ ·) ∧
      (s₁.sends first ≠ [] ∧ s₁.Sweeps first) ∧
      (s₂.sweep.running = true ∧ s₂.cuts connect = true ∧
        (s₂.meet connect).sweep = s₂.sweep.cancel) ∧
      ((s₂.meet connect).Rests back ∧ s₃.Sweeps second ∧ s₃.Begins second) ∧
      (s₃.Ends second ∧ (s₃.meet second).Begins third ∧ second.now + 1800000000 ≤ third.now) := by
  intro first connect back second third s₁ s₂ s₃
  have hclock : (ticks (quietDaemon ++ [first, connect] ++ back ++ [second, third])).Pairwise
      (· ≤ ·) := by
    decide
  have hpasses := passes_follow_the_clock {} (berlinSession none) rfl _ hclock
  have hsent : s₁.sends first ≠ [] := by decide +kernel
  have hrunning : s₂.sweep.running = true := by decide +kernel
  have hcuts : s₂.cuts connect = true := by decide +kernel
  have hrests : (s₂.meet connect).Rests back := ⟨id, id, trivial⟩
  have hsweeps : s₃.Sweeps second := ⟨by decide +kernel, by decide +kernel⟩
  have hends : s₃.Ends second := ⟨hsweeps, .inr (by decide +kernel), by decide +kernel⟩
  have hlast : (s₃.meet second).Sweeps third := ⟨by decide +kernel, by decide +kernel⟩
  have hbegins : (s₃.meet second).Begins third := ⟨hlast, by decide +kernel⟩
  have hearly := hpasses quietDaemon first (connect :: back ++ [second, third]) (by simp)
  have hmiddle := hpasses (quietDaemon ++ [first]) connect (back ++ [second, third]) (by simp)
  have hlate := hpasses (quietDaemon ++ [first] ++ [connect] ++ back) second [third] (by simp)
  rw [run_append, run_singleton] at hmiddle
  rw [run_append, run_append, run_append, run_singleton, run_singleton] at hlate
  obtain ⟨-, hcancel, -, -, hagain⟩ := hmiddle
  obtain ⟨-, -, -, -, hwaits⟩ := hlate
  have hsweeping : s₁.Sweeps first := hearly.1 (.inl hsent)
  have hnext := (hagain back { now := 1000000 } (fun _ _ => false) [third] rfl).1
    hrunning hcuts hrests hsweeps
  have hinterval := (hwaits [] { now := 1801000000 } (fun _ _ => true) [] rfl).2 hends hbegins
  exact ⟨hclock, ⟨hsent, hsweeping⟩, ⟨hrunning, hcuts, hcancel hrunning hcuts⟩,
    ⟨hrests, hsweeps, hnext.1⟩, hends, hbegins, hinterval⟩

end Session

end TunnelSession
