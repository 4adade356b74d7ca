/-
  TunnelSession.Proofs.Control.Rotation

  Silent switches do not go in circles. A tunnel that is unstable is left for another
  server of the same city, and nobody asks the user. Whoever is left cools down first,
  so that as long as no cooldown runs out the servers that were left are not tried
  again, and after the last of them the tunnel is taken down.

  Two things can become of an input in which the user has no part: the connection stays
  with its server, or it departs for a server that does not cool down. The servers that
  it has visited are then all different, since those that were left rest until the
  moment at which the first of their cooldowns may be over.
-/
import Mathlib.Data.List.Dedup
import Mathlib.Data.List.Perm.Subperm
import TunnelSession.Proofs.Control.Staying

namespace TunnelSession

open Controller (Input Happening)

/-- The inputs in which neither the user nor a portal has a part. -/
@[simp] def Controller.Input.isUnattended : Input → Bool
  | .silentSwitch | .link _ | .timer _ | .probeTick | .probeReply _ | .checkup => true
  | _ => false

/-- What happens is unattended, and less than a span of time has passed since a moment. -/
def Controller.Happening.UnattendedWithin (start span : Nat) : Happening → Prop
  | .input around i => i.isUnattended = true ∧ start ≤ around.clock ∧
      around.clock < start + span ∧ around.clock < Registry.endOfTime
  | .measured _ => False

namespace Controller

variable {t : Nat} {c c' c₁ : Controller} {around : Surroundings} {i : Input} {d : Destination}
  {s : Server} {config : TunnelConfig} {during : Phase}

/-! ## Departing for another server -/

theorem startActivation_keeps (c : Controller) (around : Surroundings) (d : Destination)
    (during : Phase) : (c.startActivation around d during).2.held = c.held ∧
      (c.startActivation around d during).2.means = c.means := by
  have hrests (c : Controller) : (c.finishOff around).held = c.held :=
    congrArg Bearing.held (bearing_finishOff c around)
  unfold startActivation
  split
  · exact ⟨hrests _, means_finishOff { c with destination := some d } around⟩
  · split
    · exact ⟨hrests c, means_finishOff c around⟩
    · dsimp only
      split
      · exact ⟨hrests _, means_finishOff c.cancelTimers around⟩
      · exact ⟨held_enter _ during, means_enter during⟩

/-- An attempt at the destination that waits for no server goes nowhere. -/
theorem startActivation_stays (hd : c.destination = some d)
    (hkey : (c.startActivation around d during).2.awaited.key? = none) :
    Stays t c (c.startActivation around d during).2 := by
  cases hs : d.choose? c.registry around.clock around.dice with
  | none =>
      have hplan : Stays t c { c with destination := some d } :=
        .same (congrArg (fun aim => { c.bearing with destination := aim }) hd.symm) rfl rfl
      simp only [startActivation, hs]
      exact (hplan.trans (stays_finishOff _ around)).trans (stays_emit _ _)
  | some s =>
      cases hconfig : c.tunnelTo s with
      | error e =>
          simp only [startActivation, hs, hconfig]
          exact stays_finishOff c around
      | ok config =>
          have hcancel : Stays t c c.cancelTimers := stays_wait c c.awaited
          cases htaken : around.accepts (.activate config) with
          | error e =>
              simp only [startActivation, hs, hconfig, htaken]
              exact (hcancel.trans (stays_finishOff _ around)).trans (stays_emit _ _)
          | ok u =>
              simp only [startActivation, hs, hconfig, htaken] at hkey
              have hawaited := congrArg (fun s : Bearing => s.awaited.key?)
                ((bearing_arm _ .handshake c.cancelTimers.tuning.handshakeTimeout).trans
                  (bearing_enter { c.cancelTimers.perform (.send (.activate config)) with
                    awaited := .handshake s.publicKey
                    destination := some d
                    server := some s } during))
              cases hawaited.symm.trans hkey

/-- `Departs t c around d s config c'`: a tunnel to another server of the destination was
    asked for. The server that is left rests until `t`, as do the others that did. -/
structure Departs (t : Nat) (c : Controller) (around : Surroundings) (d : Destination)
    (s : Server) (config : TunnelConfig) (c' : Controller) : Prop
    extends c.Launches around d s config c' where
  held : c'.held = c.held
  tuning : c'.tuning = c.tuning
  rests : ∀ key, c.registry.RestsUntil t key → c'.registry.RestsUntil t key
  left : ∀ old, c.server = some old → c'.registry.RestsUntil t old.publicKey
  portal : c'.phase ≠ .captivePortal

/-- What an unattended input can make of the connection. -/
def Drifts (t : Nat) (c : Controller) (around : Surroundings) (c' : Controller) : Prop :=
  Stays t c c' ∨ ∃ d, c.destination = some d ∧ ∃ s config, c.Departs t around d s config c'

/-- A silent switch does nothing, or the server that is left cools down, and the tunnel is
    taken down or an attempt is made at the same destination. -/
theorem silentSwitch_cases (c : Controller) (around : Surroundings) :
    (c.silentSwitch around).2 = c ∨
      ∃ d old, c.phase = .on ∧ c.destination = some d ∧ c.server = some old ∧
        2 ≤ d.servers.length ∧
        ((c.silentSwitch around).2 = (c.coolDown around old.publicKey).giveUpCity around ∨
          (c.silentSwitch around).2 = (((c.coolDown around old.publicKey).stopHealth
            around).startActivation around d .silentSwitching).2) := by
  unfold silentSwitch
  split
  · next d old hon hd hold =>
    split
    · exact .inl rfl
    · next hmany =>
      have hactive : (c.coolDown around old.publicKey).phase.isActive = true :=
        congrArg Phase.isActive hon
      dsimp only
      refine .inr ⟨d, old, hon, hd, hold, Nat.not_lt.mp hmany, ?_⟩
      split
      · exact .inl rfl
      · rw [changeServer_of_isActive hactive]
        exact .inr rfl
  · exact .inl rfl

theorem silentSwitch_drifts (hclock : around.ShortOf t c.tuning.cooldown) (hh : c.held = none) :
    c.Drifts t around (c.silentSwitch around).2 := by
  rcases silentSwitch_cases c around with hsame | ⟨d, old, -, hd, hold, -, hnext⟩
  · rw [hsame]
    exact .inl (.refl c)
  · have hcool : Stays t c (c.coolDown around old.publicKey) := stays_coolDown c hclock _
    rcases hnext with hdown | hmove
    · rw [hdown]
      exact .inl (hcool.trans (giveUpCity_stays around (hcool.held.trans hh)))
    · rw [hmove]
      -- the server that is left rests before the next one is chosen
      have hleft : (c.coolDown around old.publicKey).registry.RestsUntil t old.publicKey :=
        Registry.restsUntil_setCooldown c.registry old.publicKey hclock.before hclock.lasts
          hclock.shown
      have hunwatched := stays_stopHealth (t := t) (c.coolDown around old.publicKey) around
      generalize (c.coolDown around old.publicKey).stopHealth around = stopped at hunwatched
      have hstopped : Stays t c stopped := hcool.trans hunwatched
      obtain ⟨hheld, hmeans⟩ := startActivation_keeps stopped around d .silentSwitching
      rcases startActivation_launches stopped around d .silentSwitching with
        ⟨-, hkey⟩ | ⟨s, config, hlaunches⟩
      · exact .inl (hstopped.trans (startActivation_stays (hstopped.destination.trans hd) hkey))
      · have hregistry : (stopped.startActivation around d .silentSwitching).2.registry =
            stopped.registry := congrArg (fun m => m.2.2) hmeans
        have htuning : (stopped.startActivation around d .silentSwitching).2.tuning =
            stopped.tuning := congrArg Prod.fst hmeans
        refine .inr ⟨d, hd, s, config, hstopped.quiet.launches hlaunches,
          hheld.trans hstopped.held, htuning.trans hstopped.quiet.tuning, ?_, ?_, ?_⟩
        · intro key hrests
          exact hregistry ▸ hstopped.rests key hrests
        · intro other hother
          obtain rfl : old = other := Option.some.inj (hold.symm.trans hother)
          exact hregistry ▸ hunwatched.rests _ hleft
        · rcases phase_startActivation stopped around d .silentSwitching with hp | hp <;>
            exact ne_of_eq_of_ne hp nofun

theorem Drifts.tuning (h : c.Drifts t around c') : c'.tuning = c.tuning := by
  rcases h with hstays | ⟨d, -, s, config, hdeparts⟩
  · exact hstays.quiet.tuning
  · exact hdeparts.tuning

theorem Stays.drifts (h : Stays t c c₁) (h' : c₁.Drifts t around c') : c.Drifts t around c' := by
  rcases h' with hstays | ⟨d, hd, s, config, hdeparts⟩
  · exact .inl (h.trans hstays)
  · refine .inr ⟨d, h.destination.symm.trans hd, s, config, h.quiet.launches hdeparts.toLaunches,
      hdeparts.held.trans h.held, hdeparts.tuning.trans h.quiet.tuning,
      fun key hrests => hdeparts.rests key (h.rests key hrests),
      fun old hold => hdeparts.left old (h.server.trans hold), hdeparts.portal⟩

theorem checkup_drifts (hclock : around.ShortOf t c.tuning.cooldown) (hh : c.held = none) :
    c.Drifts t around (c.checkup around) := by
  have hlook : Stays t c (c.checked around) := stays_checked c around
  rw [checkup_eq]
  split
  · exact hlook.drifts (silentSwitch_drifts (hlook.quiet.tuning.symm ▸ hclock) (hlook.held.trans hh))
  · exact .inl hlook

/-- An unattended input leaves the connection with its server, or makes it depart for
    another one. -/
theorem handle_drifts (hclock : around.ShortOf t c.tuning.cooldown) (hm : c.stance.Matched)
    (hh : c.held = none) (hp : c.phase ≠ .captivePortal) (hi : i.isUnattended = true) :
    c.Drifts t around (c.handle around i) := by
  cases i with
  | silentSwitch => exact silentSwitch_drifts hclock hh
  | link e => exact .inl (onLink_stays hclock hm hh hp e)
  | timer token => exact .inl (onTimer_stays hclock hm hh hp token)
  | probeTick => exact .inl (probeTick_stays c around)
  | probeReply r => exact .inl (onProbeReply_stays c r)
  | checkup => exact checkup_drifts hclock hh
  | _ => cases hi

/-! ## Tours of a city -/

/-- A tour of the servers of a destination. From the first one on, the connection has
    asked for the tunnels `new` and is with the server `s` by now. It never was with one
    of them twice, and those that it `left` rest until `t`. -/
structure Tour (t : Nat) (d : Destination) (earlier : List TunnelConfig) (first : Server)
    (new : List TunnelConfig) (left : List String) (s : Server) (c : Controller) : Prop where
  destination : c.destination = some d
  server : c.server = some s
  held : c.held = none
  portal : c.phase ≠ .captivePortal
  asked : c.asked = earlier ++ new
  visited : first.publicKey :: new.map (·.serverKey) = left ++ [s.publicKey]
  candidates : left ++ [s.publicKey] ⊆ d.servers.map (·.publicKey)
  distinct : (left ++ [s.publicKey]).Nodup
  rests : ∀ key ∈ left, c.registry.RestsUntil t key

variable {earlier new : List TunnelConfig} {first : Server} {left : List String}

/-- Where the tour begins, nothing was left yet. -/
theorem Tour.start (hp : c.phase = .on) (hh : c.held = none) (hd : c.destination = some d)
    (hs : c.server = some s) (hcandidate : s ∈ d.servers) : Tour t d c.asked s [] [] s c where
  destination := hd
  server := hs
  held := hh
  portal := ne_of_eq_of_ne hp nofun
  asked := (List.append_nil _).symm
  visited := rfl
  candidates := List.cons_subset.mpr ⟨List.mem_map_of_mem hcandidate, List.nil_subset _⟩
  distinct := List.nodup_singleton _
  rests := nofun

theorem Tour.stay (h : Tour t d earlier first new left s c) (h' : Stays t c c') :
    Tour t d earlier first new left s c' :=
  { h with
    destination := h'.destination.trans h.destination
    server := h'.server.trans h.server
    held := h'.held.trans h.held
    portal := h'.portal h.portal
    asked := h'.quiet.asked.trans h.asked
    rests := fun key hkey => h'.rests key (h.rests key hkey) }

/-- The next server of a tour was not visited before: the others rest, and it does not. -/
theorem Tour.depart (h : Tour t d earlier first new left s c) (hclock : around.clock < t)
    {next : Server} (h' : c.Departs t around d next config c') :
    Tour t d earlier first (new ++ [config]) (left ++ [s.publicKey]) next c' := by
  have hrests : ∀ key ∈ left ++ [s.publicKey], c'.registry.RestsUntil t key := by
    intro key hkey
    rcases List.mem_append.mp hkey with hleft | hlast
    · exact h'.rests key (h.rests key hleft)
    · rw [List.mem_singleton.mp hlast]
      exact h'.left s h.server
  have hfresh : next.publicKey ∉ left ++ [s.publicKey] := fun hmem =>
    absurd ((hrests _ hmem).isCooling hclock) (Bool.eq_false_iff.mp h'.usable)
  have hkey : config.serverKey = next.publicKey := (tunnelTo_ok h'.made).1
  exact {
    destination := h'.destination
    server := h'.server
    held := h'.held.trans h.held
    portal := h'.portal
    asked := by rw [h'.asked, h.asked, List.append_assoc]
    visited := by rw [List.map_append, ← List.cons_append, h.visited, List.map_singleton, hkey]
    candidates := List.append_subset.mpr
      ⟨h.candidates, List.cons_subset.mpr
        ⟨List.mem_map_of_mem h'.candidate, List.nil_subset _⟩⟩
    distinct := by
      rw [← List.concat_eq_append]
      exact h.distinct.concat hfresh
    rests := hrests }

theorem Tour.drift (h : Tour t d earlier first new left s c) (hclock : around.clock < t)
    (h' : c.Drifts t around c') : ∃ new left s, Tour t d earlier first new left s c' := by
  rcases h' with hstays | ⟨d', hd', next, config, hdeparts⟩
  · exact ⟨new, left, s, h.stay hstays⟩
  · obtain rfl : d = d' := Option.some.inj (h.destination.symm.trans hd')
    exact ⟨_, _, next, h.depart hclock hdeparts⟩

/-- The candidates limit how long a tour can be. -/
theorem Tour.length_lt (h : Tour t d earlier first new left s c) :
    new.length < (d.servers.map (·.publicKey)).dedup.length := by
  have hvisited : (left ++ [s.publicKey]).length = new.length + 1 := by
    rw [← h.visited, List.length_cons, List.length_map]
  have hsubset : left ++ [s.publicKey] ⊆ (d.servers.map (·.publicKey)).dedup :=
    fun key hkey => List.mem_dedup.mpr (h.candidates hkey)
  calc new.length < (left ++ [s.publicKey]).length := hvisited ▸ Nat.lt_succ_self _
    _ ≤ (d.servers.map (·.publicKey)).dedup.length :=
      (List.subperm_of_subset h.distinct hsubset).length_le

/-- The moment up to which no cooldown of a span can be over that begins after `start`. -/
def firstEnd (start span : Nat) : Nat := min (start + span) Registry.endOfTime

theorem shortOf_of_unattended {start span : Nat}
    (h : (Happening.input around i).UnattendedWithin start span) :
    around.ShortOf (firstEnd start span) span := by
  obtain ⟨-, hstart, hspan, hend⟩ := h
  refine ⟨Nat.lt_min.mpr ⟨hspan, hend⟩, ?_, Nat.min_le_right _ _⟩
  exact (Nat.min_le_left _ _).trans (Nat.add_le_add_right hstart span)

/-- Somewhere on a tour, with what it takes to go on. -/
structure OnTour (start span : Nat) (d : Destination) (earlier : List TunnelConfig)
    (first : Server) (c : Controller) : Prop where
  matched : c.stance.Matched
  cooldown : c.tuning.cooldown = span
  tour : ∃ new left s, Tour (firstEnd start span) d earlier first new left s c

/-- What is unattended goes on with a tour, before a cooldown can be over. -/
theorem OnTour.meet {start span : Nat} {x : Happening} (h : OnTour start span d earlier first c)
    (hx : x.UnattendedWithin start span) : OnTour start span d earlier first (c.meet x) := by
  cases x with
  | measured registry => exact absurd hx id
  | input around i =>
      obtain ⟨new, left, s, htour⟩ := h.tour
      have hclock : around.ShortOf (firstEnd start span) span := shortOf_of_unattended hx
      have hdrifts : c.Drifts (firstEnd start span) around (c.handle around i) :=
        handle_drifts (h.cooldown.symm ▸ hclock) h.matched htour.held htour.portal hx.1
      exact ⟨meet_matched h.matched (.input around i), hdrifts.tuning.symm ▸ h.cooldown,
        htour.drift hclock.before hdrifts⟩

theorem OnTour.run {start span : Nat} {later : List Happening}
    (h : OnTour start span d earlier first c)
    (hlater : ∀ x ∈ later, x.UnattendedWithin start span) :
    OnTour start span d earlier first (c.run later) :=
  run_keeps_of_mem (fun _ x hx hc => hc.meet (hlater x hx)) h

/-! ## The last server of a city -/

/-- Whether the connection tries to leave its server silently. -/
def leavesSilently (c : Controller) (around : Surroundings) : Input → Bool
  | .silentSwitch => c.phase = .on
  | .checkup =>
    (c.health.checkup around.now).1 = some .unstable && c.tuning.switchOnUnstable && c.phase = .on
  | _ => false

/-- The order to take the tunnel down, if the link takes it. -/
def downOrder (around : Surroundings) : List Request :=
  if (around.accepts .deactivate).isOk then [.deactivate] else []

theorem sent_giveUpCity (c : Controller) (around : Surroundings) :
    (c.giveUpCity around).sent = c.sent ++ downOrder around := by
  have hgiving : (c.givingUp around).sent = c.sent :=
    congrArg Stance.sent stance_givingUp
  rw [giveUpCity_eq, downOrder]
  cases around.accepts .deactivate with
  | ok u =>
      have hasked := congrArg Stance.sent (stance_send (c.givingUp around) .deactivate)
      have harmed := congrArg Stance.sent (stance_arm
        ({ (c.givingUp around).perform (.send .deactivate) with
          awaited := .disconnection } : Controller) .disconnect
        (c.givingUp around).tuning.disconnectTimeout)
      exact harmed.trans (hasked.trans (congrArg (· ++ [Request.deactivate]) hgiving))
  | error e =>
      have hdown : ((c.givingUp around).wentDown around).sent = (c.givingUp around).sent :=
        congrArg Stance.sent stance_wentDown
      exact (sent_emit _ _).trans (hdown.trans (hgiving.trans (List.append_nil _).symm))

/-- Where the other servers of the city cool down, there is none to go to once the
    present one does as well. -/
theorem silentSwitch_of_last (hclock : around.ShortOf t c.tuning.cooldown) (hp : c.phase = .on)
    (hd : c.destination = some d) (hs : c.server = some s) (hmany : 2 ≤ d.servers.length)
    (hcooling : ∀ o ∈ d.servers, o.publicKey ≠ s.publicKey →
      c.registry.isCooling around.clock o.publicKey = true) :
    (c.silentSwitch around).2 = (c.coolDown around s.publicKey).giveUpCity around := by
  have hnone : (d.available (c.coolDown around s.publicKey).registry around.clock).isEmpty := by
    refine List.isEmpty_iff.mpr (List.eq_nil_iff_forall_not_mem.mpr fun o ho => ?_)
    obtain ⟨hcandidate, husable⟩ := Destination.mem_available.mp ho
    refine absurd ?_ (Bool.eq_false_iff.mp husable)
    by_cases hkey : o.publicKey = s.publicKey
    · rw [hkey]
      exact (Registry.restsUntil_setCooldown c.registry s.publicKey hclock.before hclock.lasts
        hclock.shown).isCooling hclock.before
    · have hpositive : c.tuning.cooldown ≠ 0 := by
        have := hclock.before
        have := hclock.lasts
        omega
      exact (Registry.isCooling_setCooldown_of_ne c.registry around.clock hkey hpositive).trans
        (hcooling o hcandidate hkey)
  unfold silentSwitch
  rw [hp, hd, hs]
  dsimp only
  rw [if_neg (Nat.not_lt.mpr hmany), if_pos hnone]

/-- The last server of a city is left for none: the tunnel is taken down. -/
theorem sent_handle_of_last (hclock : around.ShortOf t c.tuning.cooldown)
    (hd : c.destination = some d) (hs : c.server = some s) (hmany : 2 ≤ d.servers.length)
    (hcooling : ∀ o ∈ d.servers, o.publicKey ≠ s.publicKey →
      c.registry.isCooling around.clock o.publicKey = true)
    (hi : c.leavesSilently around i = true) :
    (c.handle around i).sent = c.sent ++ downOrder around := by
  cases i with
  | silentSwitch =>
      have hp : c.phase = .on := of_decide_eq_true hi
      show (c.silentSwitch around).2.sent = _
      rw [silentSwitch_of_last hclock hp hd hs hmany hcooling, sent_giveUpCity]
      rfl
  | checkup =>
      simp only [leavesSilently, Bool.and_eq_true, decide_eq_true_eq] at hi
      obtain ⟨⟨hunstable, hmoves⟩, hp⟩ := hi
      have hlook : Stays t c (c.checked around) := stays_checked c around
      have hregistry : (c.checked around).registry = c.registry :=
        congrArg (fun m => m.2.2) (means_emitStability
          (c := { c with health := (c.health.checkup around.now).2 }) _)
      show (c.checkup around).sent = _
      rw [checkup_eq, if_pos ⟨hunstable, hmoves, hp⟩,
        silentSwitch_of_last (hlook.quiet.tuning.symm ▸ hclock) (phase_checked.trans hp)
          (hlook.destination.trans hd) (hlook.server.trans hs) hmany
          (hregistry.symm ▸ hcooling), sent_giveUpCity]
      exact congrArg (· ++ downOrder around) sent_checked
  | _ => cases hi

/-! ## On every run -/

/-- Silent switches do not go in circles. Take any run to a tunnel that is up, to a server
    of the stored city, with nothing held. As long as only unattended inputs follow, in
    less time than the shortest cooldown, every tunnel that is asked for goes to a server
    of the city that the connection was not with before, so they are fewer than the city
    has servers. And when the connection is to leave its server silently, and all the
    others cool down, the tunnel is taken down and none is asked for. -/
theorem silent_switches_do_not_cycle (tuning : ControlTuning) (device : Device)
    (registry : Registry) (before later : List Happening) (start : Nat) (d : Destination)
    (s : Server) :
    let c := (initial tuning device registry).run before
    let c' := c.run later
    c.phase = .on → c.held = none → c.destination = some d → c.server = some s →
      s ∈ d.servers → (∀ x ∈ later, x.UnattendedWithin start c.tuning.cooldown) →
      (∃ new, c'.asked = c.asked ++ new ∧
        (s.publicKey :: new.map (·.serverKey)).Nodup ∧
        (∀ config ∈ new, ∃ o ∈ d.servers, config.serverKey = o.publicKey) ∧
        new.length + 1 ≤ (d.servers.map (·.publicKey)).dedup.length) ∧
      ∀ around i last, (Happening.input around i).UnattendedWithin start c.tuning.cooldown →
        c'.leavesSilently around i = true → c'.server = some last → 2 ≤ d.servers.length →
        (∀ o ∈ d.servers, o.publicKey ≠ last.publicKey →
          c'.registry.isCooling around.clock o.publicKey = true) →
        (c'.handle around i).sent = c'.sent ++ downOrder around := by
  intro c c' hp hh hd hs hcandidate hlater
  have hm : c.stance.Matched := run_matched (initial_matched tuning device registry) before
  have hstart : OnTour start c.tuning.cooldown d c.asked s c :=
    ⟨hm, rfl, [], [], s, .start hp hh hd hs hcandidate⟩
  obtain ⟨-, htuning, new, left, s', htour⟩ := hstart.run hlater
  refine ⟨⟨new, htour.asked, ?_, fun config hconfig => ?_, htour.length_lt⟩,
    fun around i last hi hleaves hlast hmany hcooling => ?_⟩
  · rw [htour.visited]
    exact htour.distinct
  · have hvisited : config.serverKey ∈ left ++ [s'.publicKey] :=
      htour.visited ▸ List.mem_cons_of_mem _ (List.mem_map_of_mem hconfig)
    obtain ⟨o, ho, hkey⟩ := List.mem_map.mp (htour.candidates hvisited)
    exact ⟨o, ho, hkey.symm⟩
  · have hclock : around.ShortOf (firstEnd start c.tuning.cooldown) c'.tuning.cooldown :=
      htuning.symm ▸ shortOf_of_unattended hi
    exact sent_handle_of_last hclock htour.destination hlast hmany hcooling hleaves

/-- Unattended, the tunnel moves to the other server of its city. -/
def wayToSouth : List Happening :=
  [.input { clock := 10 } .silentSwitch,
    .input { clock := 11 } (.link (.message (.connected southServer.publicKey))),
    .input { clock := 12 } (.link (.message (.status { connected := true })))]

/-- The tunnel moves from the one server of the city to the other. There is no third one,
    and when it is to move on, it is taken down. -/
theorem silent_switches_do_not_cycle_from_north :
    let c := (initial {} sampleDevice {}).run northTunnel
    let c' := c.run wayToSouth
    (c.phase = .on ∧ c.held = none ∧ c.destination = some twinCity ∧
      c.server = some northServer ∧ northServer ∈ twinCity.servers ∧
      (∀ x ∈ wayToSouth, x.UnattendedWithin 10 c.tuning.cooldown)) ∧
      (c'.phase = .on ∧ c'.server = some southServer ∧
        ∀ o ∈ twinCity.servers, o.publicKey ≠ southServer.publicKey →
          c'.registry.isCooling 20 o.publicKey = true) ∧
      (∃ new, c'.asked = c.asked ++ new ∧
        (northServer.publicKey :: new.map (·.serverKey)).Nodup ∧ new.length + 1 ≤ 2) ∧
      (c'.handle { clock := 20 } .silentSwitch).sent = c'.sent ++ [.deactivate] := by
  have hcycle := silent_switches_do_not_cycle {} sampleDevice {} northTunnel wayToSouth 10 twinCity
    northServer
  generalize hc : (initial {} sampleDevice {}).run northTunnel = c at hcycle ⊢
  intro c c'
  have hready : (c.phase = .on ∧ c.held = none ∧ c.destination = some twinCity ∧
        c.server = some northServer ∧ c.tuning.cooldown = 300) ∧
      c'.phase = .on ∧ c'.server = some southServer ∧
        ∀ o ∈ twinCity.servers, o.publicKey ≠ southServer.publicKey →
          c'.registry.isCooling 20 o.publicKey = true := by
    unfold c' c
    rw [← hc]
    decide +kernel
  obtain ⟨⟨hp, hh, hd, hs, hcooldown⟩, hon, hsouth, hcooling⟩ := hready
  have hcandidate : northServer ∈ twinCity.servers := List.mem_cons_self
  have hway : ∀ x ∈ wayToSouth, x.UnattendedWithin 10 c.tuning.cooldown := by
    rw [hcooldown]
    simp [wayToSouth, Happening.UnattendedWithin, Registry.endOfTime]
  obtain ⟨⟨new, hasked, hdistinct, -, hfew⟩, hlast⟩ := hcycle hp hh hd hs hcandidate hway
  have hnow : (Happening.input { clock := 20 } .silentSwitch).UnattendedWithin 10
      c.tuning.cooldown := by
    rw [hcooldown]
    exact ⟨rfl, by decide, by decide, by decide⟩
  refine ⟨⟨hp, hh, hd, hs, hcandidate, hway⟩, ⟨hon, hsouth, hcooling⟩,
    ⟨new, hasked, hdistinct, hfew⟩, ?_⟩
  exact hlast { clock := 20 } .silentSwitch southServer hnow (decide_eq_true hon) hsouth
    (Nat.le_refl 2) hcooling

end Controller

end TunnelSession
