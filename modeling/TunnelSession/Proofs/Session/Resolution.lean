/-
  TunnelSession.Proofs.Session.Resolution

  Where a session connects to if it is not told. It remembers the city that was asked for
  last, and goes there again; only a session that remembers none picks the best city.

  Between the two stands the destination of the last tunnel, which never has its turn:
  whoever names a destination is remembered, so that a session that remembers no city has
  no destination either. And a remembered city stands in the way of the best one. If the
  catalog does not have it, the session goes nowhere.
-/
import TunnelSession.Session.Basic
import TunnelSession.Proofs.Catalog.Lookup
import TunnelSession.Proofs.Control.Aimless
import TunnelSession.Proofs.Control.Held
import TunnelSession.Proofs.Json.RoundTrip

namespace TunnelSession

open Controller (northServer sampleDevice)

/-! ## The best city -/

/-- Where each candidate replaces one of no higher rank, the highest rank is left. -/
theorem exists_foldl_best {α : Type} {f : Option α → α → Option α} (rank : α → Nat)
    (hf : ∀ b x, f (some b) x = if rank b ≤ rank x then some x else some b) (xs : List α) (b : α) :
    ∃ best ∈ b :: xs, xs.foldl f (some b) = some best ∧ ∀ x ∈ b :: xs, rank x ≤ rank best := by
  induction xs generalizing b with
  | nil => exact ⟨b, List.mem_singleton_self b, rfl, by simp⟩
  | cons x xs ih =>
      rw [List.foldl_cons, hf]
      by_cases hle : rank b ≤ rank x
      · obtain ⟨best, hmem, hbest, hmax⟩ := ih x
        rw [if_pos hle]
        refine ⟨best, List.mem_cons_of_mem b hmem, hbest, List.forall_mem_cons.mpr ⟨?_, hmax⟩⟩
        exact hle.trans (hmax x List.mem_cons_self)
      · obtain ⟨best, hmem, hbest, hmax⟩ := ih b
        obtain ⟨hb, hxs⟩ := List.forall_mem_cons.mp hmax
        rw [if_neg hle]
        refine ⟨best, ?_, hbest, ?_⟩
        · rcases List.mem_cons.mp hmem with rfl | hmem
          · exact List.mem_cons_self
          · exact List.mem_cons_of_mem b (List.mem_cons_of_mem x hmem)
        · exact List.forall_mem_cons.mpr
            ⟨hb, List.forall_mem_cons.mpr ⟨(Nat.le_of_not_le hle).trans hb, hxs⟩⟩

/-- No city of the catalog has a higher tier. -/
def Registry.IsBest (r : Registry) (now : Nat) (userCountry : Option String) (c : Catalog)
    (city : City) : Prop :=
  ∀ other ∈ c.cities, (r.score now other userCountry).rank ≤ (r.score now city userCountry).rank

/-- There is a best city unless there is none at all. -/
theorem Registry.bestCity?_cases (r : Registry) (now : Nat) (userCountry : Option String)
    (c : Catalog) :
    c.cities = [] ∧ r.bestCity? now userCountry c = none ∨
      ∃ city ∈ c.cities, r.bestCity? now userCountry c = some city ∧
        r.IsBest now userCountry c city := by
  unfold bestCity? IsBest
  cases hcities : c.cities with
  | nil => exact .inl ⟨rfl, rfl⟩
  | cons city cities =>
      refine .inr ?_
      exact exists_foldl_best (fun city => (r.score now city userCountry).rank)
        (fun _ _ => rfl) cities city

namespace Session

/-! ## Runs -/

/-- Something that happens to a session. -/
inductive Happening
  | input (around : Surroundings) (i : SessionInput)
  | probeTick (around : Surroundings)
  | checkupTick (around : Surroundings)
  | statusTick (around : Surroundings)
  | sweepTick (around : Surroundings) (reaches : Nat → Net.Address → Bool)
  /-- The probes of the sweep that are in flight are put in another order. -/
  | arrange (around : Surroundings) (order : List InFlight)

/-- What becomes of a session when something happens. -/
def meet (s : Session) : Happening → Session
  | .input around i => s.handle around i
  | .probeTick around => s.probeTick around
  | .checkupTick around => s.checkupTick around
  | .statusTick around => s.statusTick around
  | .sweepTick around reaches => (s.sweepTick around reaches).2
  | .arrange _ order =>
    if order.Perm s.sweep.inFlight then { s with sweep := { s.sweep with inFlight := order } }
    else s

/-- What becomes of a session when things happen in turn. -/
def run (s : Session) (happenings : List Happening) : Session :=
  happenings.foldl meet s

variable {s s₀ s' : Session} {around : Surroundings} {w : Selection} {city : City}

theorem meet_arrange (s : Session) (around : Surroundings) (order : List InFlight) :
    ∃ flight, s.meet (.arrange around order) =
      { s with sweep := { s.sweep with inFlight := flight } } := by
  by_cases hperm : order.Perm s.sweep.inFlight
  · exact ⟨order, if_pos hperm⟩
  · exact ⟨s.sweep.inFlight, if_neg hperm⟩

/-! ## Commands that name a city -/

/-- The session once it goes to a city, which it remembers. -/
def goTo (s : Session) (around : Surroundings) (w : Selection) (city : City) : Session :=
  { s with
    lastSelection := some w
    sweep := s.sweep.cancel
    controller := (s.controller.activate around (.ofCity city)).2 }

theorem activate_of_found {selection : Option Selection} (hw : s.wanted? around selection = some w)
    (hcity : s.catalog.findCity? w.countryCode w.cityName = some city) :
    s.command around (.activate selection) = s.goTo around w city := by
  have hresolve : s.resolve? around selection =
      some (.ofCity city, { s with lastSelection := some w }) := by
    rw [resolve?, hw, Option.bind_eq_bind, Option.bind_some, Catalog.destination?, hcity]
    rfl
  simp only [command, hresolve]
  rfl

theorem activate_of_missing {selection : Option Selection}
    (hw : s.wanted? around selection = some w)
    (hcity : s.catalog.findCity? w.countryCode w.cityName = none) :
    s.command around (.activate selection) = s := by
  have hresolve : s.resolve? around selection = none := by
    rw [resolve?, hw, Option.bind_eq_bind, Option.bind_some, Catalog.destination?, hcity]
    rfl
  simp only [command, hresolve]

theorem activate_of_nowhere {selection : Option Selection}
    (hw : s.wanted? around selection = none) : s.command around (.activate selection) = s := by
  have hresolve : s.resolve? around selection = none := by
    rw [resolve?, hw]
    rfl
  simp only [command, hresolve]

/-! ## What a session remembers -/

/-- The session has the catalog and the country that it had at first, and as long as it
    remembers no city it has no destination. -/
structure Recalls (s₀ s : Session) : Prop where
  catalog : s.catalog = s₀.catalog
  userCountry : s.userCountry = s₀.userCountry
  aimless : s.lastSelection = none → s.controller.Aimless

namespace Recalls

theorem of_controller {c : Controller} {sweep : Sweep} (h : Recalls s₀ s)
    (hc : s.controller.Aimless → c.Aimless) :
    Recalls s₀ { s with controller := c, sweep := sweep } :=
  ⟨h.catalog, h.userCountry, fun hnone => hc (h.aimless hnone)⟩

/-- What does not name a destination gives the connection no aim. -/
theorem of_handle {i : Controller.Input} {sweep : Sweep} (h : Recalls s₀ s)
    (around : Surroundings) (hi : i.namesDestination = false) :
    Recalls s₀ { s with controller := s.controller.handle around i, sweep := sweep } :=
  h.of_controller fun haimless => haimless.handle hi

/-- Who names a city is remembered. -/
theorem of_resolve {selection : Option Selection} {d : Destination} {c : Controller}
    {sweep : Sweep} (h : Recalls s₀ s) (hresolve : s.resolve? around selection = some (d, s')) :
    Recalls s₀ { s' with controller := c, sweep := sweep } := by
  obtain ⟨w, -, hw⟩ := Option.bind_eq_some_iff.mp hresolve
  obtain ⟨d', -, hs'⟩ := Option.bind_eq_some_iff.mp hw
  cases hs'
  exact ⟨h.catalog, h.userCountry, nofun⟩

theorem command (h : Recalls s₀ s) (around : Surroundings) (cmd : Command) :
    Recalls s₀ (s.command around cmd) := by
  cases cmd with
  | activate selection =>
      unfold Session.command
      dsimp only
      split
      · next d s' hresolve => exact h.of_resolve hresolve
      · exact h
  | changeServer selection silent =>
      unfold Session.command
      dsimp only
      split
      · next d s' hresolve => exact h.of_resolve hresolve
      · exact h
  | deactivate => exact h.of_handle around (i := .deactivate) rfl
  | silentSwitch => exact h.of_handle around (i := .silentSwitch) rfl
  | quit => exact h.of_handle around (i := .quit) rfl
  | portal present =>
      cases present with
      | true => exact h.of_handle around (i := .portal true) rfl
      | false => exact h.of_handle around (i := .portal false) rfl
  | requestStatus => exact h.of_handle around (i := .requestStatus) rfl
  | fetchLogs ticket => exact h.of_handle around (i := .fetchLogs ticket) rfl
  | cleanLogs => exact h.of_handle around (i := .cleanLogs) rfl

theorem handle (h : Recalls s₀ s) (around : Surroundings) (i : SessionInput) :
    Recalls s₀ (s.handle around i) := by
  cases i with
  | command cmd => exact h.command around cmd
  | link e => exact h.of_handle around (i := .link e) rfl
  | timer token => exact h.of_handle around (i := .timer token) rfl
  | probe r =>
      unfold Session.handle
      dsimp only
      split
      · exact h.of_handle around (i := .probeReply r) rfl
      · unfold sweepReply
        split
        · exact h.of_controller id
        · exact h

/-- The sweep measures servers and does nothing else. -/
theorem sweepTick (h : Recalls s₀ s) (around : Surroundings)
    (reaches : Nat → Net.Address → Bool) : Recalls s₀ (s.sweepTick around reaches).2 := by
  have hswept (sweep : Sweep) : Recalls s₀ { s with sweep := sweep } := h.of_controller id
  unfold Session.sweepTick
  split
  · dsimp only
    split
    · exact hswept _
    · exact h
  · split
    · exact h
    · exact hswept _

/-- Whatever happens, who names a destination is remembered. -/
theorem meet (h : Recalls s₀ s) (x : Happening) : Recalls s₀ (s.meet x) := by
  cases x with
  | input around i => exact h.handle around i
  | probeTick around => exact h.of_handle around (i := .probeTick) rfl
  | checkupTick around => exact h.of_handle around (i := .checkup) rfl
  | statusTick around => exact h.of_handle around (i := .requestStatus) rfl
  | sweepTick around reaches => exact h.sweepTick around reaches
  | arrange around order =>
      obtain ⟨flight, hmeet⟩ := meet_arrange s around order
      rw [hmeet]
      exact h.of_controller id

theorem run (h : Recalls s₀ s) (happenings : List Happening) : Recalls s₀ (s.run happenings) := by
  induction happenings generalizing s with
  | nil => exact h
  | cons x happenings ih => exact ih (h.meet x)

end Recalls

/-! ## Without a selection -/

theorem wanted?_of_remembered (hs : s.lastSelection = some w) :
    s.wanted? around none = some w := by
  rw [wanted?, hs]
  rfl

/-- Without a city to remember, there is no destination either, and the best city is next. -/
theorem wanted?_of_nothing (around : Surroundings) (hs : s.lastSelection = none)
    (haimless : s.controller.Aimless) :
    s.wanted? around none =
      (s.controller.registry.bestCity? around.clock s.userCountry s.catalog).map
        fun city => .make city.countryCode city.name := by
  rw [wanted?, hs, haimless.1]
  rfl

/-- On every run of a session with a catalog that was read, to connect without a selection is
    to go to the city that is remembered, if the catalog has it, and else to go nowhere. A
    session that remembers none goes to a city of the catalog of which none has a higher
    tier, or nowhere if the catalog has no city; for this the codes of the countries must
    come through being lowered, and no two cities may have the same code and name. -/
theorem unnamed_city_is_found (text : String) (tuning : ControlTuning) (device : Device)
    (registry : Registry) (s₀ : Session) (before : List Happening) (around : Surroundings)
    (hread : Catalog.read text = .ok s₀.catalog)
    (hfresh : s₀.controller = .initial tuning device registry) :
    let s := s₀.run before
    let s' := s.command around (.activate none)
    (s.catalog = s₀.catalog ∧ s.userCountry = s₀.userCountry) ∧
    (∀ w, s.lastSelection = some w →
      (∃ city, s.catalog.Has w city ∧ s' = s.goTo around w city) ∨
        (∀ city, ¬ s.catalog.Has w city) ∧ s' = s) ∧
    (s.lastSelection = none → (∀ k ∈ s.catalog.countries, Text.IsAsciiCased k.code) →
      s.catalog.IsUnambiguous →
        (∃ city ∈ s.catalog.cities,
          s.controller.registry.IsBest around.clock s.userCountry s.catalog city ∧
            s' = s.goTo around (.make city.countryCode city.name) city) ∨
          s.catalog.cities = [] ∧ s' = s) := by
  intro s s'
  have hstart : Recalls s₀ s₀ := ⟨rfl, rfl, fun _ => hfresh ▸ Controller.initial_aimless _ _ _⟩
  have h : Recalls s₀ s := hstart.run before
  refine ⟨⟨h.catalog, h.userCountry⟩, fun w hw => ?_, fun hnone hcodes hunambiguous => ?_⟩
  · have hwanted : s.wanted? around none = some w := wanted?_of_remembered hw
    cases hfind : s.catalog.findCity? w.countryCode w.cityName with
    | none =>
        exact .inr ⟨Catalog.not_has_of_findCity? hfind, activate_of_missing hwanted hfind⟩
    | some city =>
        exact .inl ⟨city, Catalog.has_of_findCity? hfind, activate_of_found hwanted hfind⟩
  · have hmarked : s.catalog.IsMarked := h.catalog ▸ Catalog.isMarked_of_read hread
    have hwanted := wanted?_of_nothing around hnone (h.aimless hnone)
    rcases s.controller.registry.bestCity?_cases around.clock s.userCountry s.catalog with
      ⟨hempty, hbest⟩ | ⟨city, hcity, hbest, hmax⟩
    · rw [hbest] at hwanted
      exact .inr ⟨hempty, activate_of_nowhere hwanted⟩
    · rw [hbest] at hwanted
      have hfind := Catalog.findCity?_make hmarked hcodes hunambiguous hcity
      exact .inl ⟨city, hcity, hmax, activate_of_found hwanted hfind⟩

/-- A city with one server. -/
def berlin : City := ⟨"Berlin", "", "de", [northServer]⟩

def berlinCatalog : Catalog := ⟨[⟨"Germany", "de", [berlin]⟩]⟩

def berlinJson : Json :=
  let server := Json.object [("hostname", .text northServer.hostname),
    ("public_key", .text northServer.publicKey), ("ipv4_addr_in", .text northServer.endpointV4),
    ("ipv4_gateway", .text northServer.gatewayV4)]
  let city := Json.object [("name", .text "Berlin"), ("servers", .list [server])]
  let country := Json.object [("name", .text "Germany"), ("code", .text "de"),
    ("cities", .list [city])]
  .object [("countries", .list [country])]

theorem read_berlinJson : Catalog.read berlinJson.write = .ok berlinCatalog := by
  rw [Catalog.read, Json.read?_write rfl]
  decide +kernel

/-- A session that may remember a city, and has the one city to go to. -/
def berlinSession (remembered : Option Selection) : Session where
  controller := .initial {} sampleDevice {}
  catalog := berlinCatalog
  lastSelection := remembered

/-- The daemon has no tunnel. -/
def quietDaemon : List Happening :=
  [.input {} (.link .ready), .input {} (.link (.message (.status {})))]

/-- A session that remembers no city goes to the only one. -/
theorem unnamed_city_is_found_berlin :
    let s := (berlinSession none).run quietDaemon
    (s.controller.phase = .off ∧ s.lastSelection = none ∧
      (∀ k ∈ s.catalog.countries, Text.IsAsciiCased k.code) ∧ s.catalog.IsUnambiguous) ∧
      s.command {} (.activate none) = s.goTo {} (.make "de" "Berlin") berlin := by
  intro s
  have hready : s.controller.phase = .off ∧ s.lastSelection = none := by decide +kernel
  have hcodes : ∀ k ∈ berlinCatalog.countries, Text.IsAsciiCased k.code := by decide +kernel
  have hunambiguous : berlinCatalog.IsUnambiguous := by decide +kernel
  obtain ⟨⟨hcatalog, -⟩, -, hnone⟩ := unnamed_city_is_found berlinJson.write {} sampleDevice {}
    (berlinSession none) quietDaemon {} read_berlinJson rfl
  have hsame : s.catalog = berlinCatalog := hcatalog
  refine ⟨⟨hready.1, hready.2, hsame ▸ hcodes, hsame ▸ hunambiguous⟩, ?_⟩
  rcases hnone hready.2 (hsame ▸ hcodes) (hsame ▸ hunambiguous) with
    ⟨city, hcity, -, hgoes⟩ | ⟨hempty, -⟩
  · have honly : city ∈ [berlin] := by rwa [hcatalog] at hcity
    obtain rfl := List.mem_singleton.mp honly
    exact hgoes
  · rw [hcatalog] at hempty
    cases hempty

/-- A city that is remembered and has left the catalog is not replaced by the best one: the
    session goes nowhere, though there is a city to go to. -/
theorem missing_city_is_not_replaced :
    let s := (berlinSession (some ⟨"fr", "Paris"⟩)).run quietDaemon
    Catalog.read berlinJson.write = .ok s.catalog ∧ s.controller.phase = .off ∧
      s.catalog.cities = [berlin] ∧ s.command {} (.activate none) = s := by
  intro s
  have hready : s.catalog = berlinCatalog ∧ s.controller.phase = .off ∧
      s.lastSelection = some ⟨"fr", "Paris"⟩ ∧ s.catalog.findCity? "fr" "Paris" = none := by
    decide +kernel
  obtain ⟨hcatalog, hoff, hremembered, hmissing⟩ := hready
  refine ⟨?_, hoff, ?_, activate_of_missing (wanted?_of_remembered hremembered) hmissing⟩
  · rw [hcatalog]
    exact read_berlinJson
  · rw [hcatalog]
    rfl

end Session

end TunnelSession
