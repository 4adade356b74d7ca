/-
  TunnelSession.Proofs.Quality.Draws

  Which servers can be chosen, whatever draws among them. A generator gives a place by
  weight, or any place where no weight is positive; what is relied on is which places it
  can give, not how often. The choice comes to nothing exactly when all servers are
  cooling down; else it is the preferred server or any one that takes part in the draw.
  The throw of the dice is such a generator: a number below the sum of the weights falls
  in the share of one place, and each share holds some number.
-/
import TunnelSession.Proofs.Quality.Choice
import Mathlib.Algebra.Order.BigOperators.Group.List
import Mathlib.Algebra.Order.Ring.Nat

namespace TunnelSession

/-! ## Generators -/

/-- What draws a server from a list, as its state decides: a place by weight, if there is one,
    and a place among a number of equals. -/
structure Generator (State : Type) where
  byWeight : List Nat → State → Option Nat
  evenly : Nat → State → Nat

/-- A place by weight is one with a positive weight, each of these can come out, and there is
    none exactly where no weight is positive; this is relied on for weights whose sum is below
    a limit. Each place among equals can come out. -/
structure Generator.Lawful {State : Type} (g : Generator State) (limit : Nat) : Prop where
  none_iff : ∀ weights state, weights.sum < limit →
    (g.byWeight weights state = none ↔ ∀ w ∈ weights, w = 0)
  positive : ∀ weights state i, weights.sum < limit → g.byWeight weights state = some i →
    ∃ w, weights[i]? = some w ∧ 0 < w
  reaches : ∀ weights i w, weights.sum < limit → weights[i]? = some w → 0 < w →
    ∃ state, g.byWeight weights state = some i
  evenly_lt : ∀ n state, 0 < n → g.evenly n state < n
  evenly_reaches : ∀ n i, i < n → ∃ state, g.evenly n state = i

/-- The server that is drawn: by weight, and evenly if no server has any. -/
def Generator.draw? {State : Type} (g : Generator State) (servers : List Server)
    (state : State) : Option Server :=
  match g.byWeight (servers.map (·.weight)) state with
  | some i => servers[i]?
  | none => servers[g.evenly servers.length state]?

theorem totalWeight_eq_sum (servers : List Server) :
    totalWeight servers = (servers.map (·.weight)).sum := by
  induction servers with
  | nil => rfl
  | cons s servers ih => rw [totalWeight, ih, List.map_cons, List.sum_cons]

/-- A server takes part in a draw by its weight, or where none has any. -/
theorem mem_drawable {servers : List Server} {s : Server} :
    s ∈ drawable servers ↔
      s ∈ servers ∧ (0 < s.weight ∨ ∀ t ∈ servers, t.weight = 0) := by
  have hzero : totalWeight servers = 0 ↔ ∀ t ∈ servers, t.weight = 0 := by
    rw [totalWeight_eq_sum, List.sum_eq_zero_iff_forall_eq_nat, List.forall_mem_map]
  unfold drawable
  split
  · next hnone => exact ⟨fun hs => ⟨hs, .inr (hzero.mp hnone)⟩, And.left⟩
  · next hsome => rw [List.mem_filter, decide_eq_true_eq, ← hzero, or_iff_left hsome]

namespace Generator.Lawful

variable {State : Type} {g : Generator State} {limit : Nat} {state : State}
  {servers : List Server} {s : Server}

theorem exists_server {i w : Nat} (h : (servers.map (·.weight))[i]? = some w) :
    ∃ s, servers[i]? = some s ∧ s.weight = w := by
  rw [List.getElem?_map] at h
  exact Option.map_eq_some_iff.mp h

/-- A draw comes to nothing only where there is no server. -/
theorem draw?_eq_none_iff (hg : g.Lawful limit) (hsum : (servers.map (·.weight)).sum < limit) :
    g.draw? servers state = none ↔ servers = [] := by
  constructor
  · intro h
    unfold draw? at h
    split at h
    · next i hi =>
      obtain ⟨w, hw, -⟩ := hg.positive _ _ _ hsum hi
      obtain ⟨t, ht, -⟩ := exists_server hw
      cases ht.symm.trans h
    · -- an even draw among some servers gives a place of one
      by_contra hne
      have hlt := hg.evenly_lt servers.length state (List.length_pos_iff.mpr hne)
      exact absurd (List.getElem?_eq_none_iff.mp h) (Nat.not_le.mpr hlt)
  · rintro rfl
    unfold draw?
    split <;> rfl

theorem mem_drawable_of_draw? (hg : g.Lawful limit)
    (hsum : (servers.map (·.weight)).sum < limit) (h : g.draw? servers state = some s) :
    s ∈ drawable servers := by
  unfold draw? at h
  rw [mem_drawable]
  split at h
  · next i hi =>
    obtain ⟨w, hw, hpos⟩ := hg.positive _ _ _ hsum hi
    obtain ⟨t, ht, rfl⟩ := exists_server hw
    cases ht.symm.trans h
    exact ⟨List.mem_of_getElem? h, .inl hpos⟩
  · next hnone =>
    have hzero := (hg.none_iff _ state hsum).mp hnone
    exact ⟨List.mem_of_getElem? h, .inr (List.forall_mem_map.mp hzero)⟩

/-- Each server that takes part comes out of some draw. -/
theorem exists_draw? (hg : g.Lawful limit) (hsum : (servers.map (·.weight)).sum < limit)
    (h : s ∈ drawable servers) : ∃ state, g.draw? servers state = some s := by
  obtain ⟨hs, hpart⟩ := mem_drawable.mp h
  obtain ⟨i, hi⟩ := List.getElem?_of_mem hs
  rcases hpart with hpos | hzero
  · have hweight : (servers.map (·.weight))[i]? = some s.weight := by
      rw [List.getElem?_map, hi, Option.map_some]
    obtain ⟨state, hstate⟩ := hg.reaches _ _ _ hsum hweight hpos
    exact ⟨state, by rw [draw?, hstate]; exact hi⟩
  · obtain ⟨state, hstate⟩ := hg.evenly_reaches servers.length i (List.getElem?_eq_some_iff.mp hi).1
    have hnone := (hg.none_iff _ state hsum).mpr (List.forall_mem_map.mpr hzero)
    exact ⟨state, by rw [draw?, hnone, hstate]; exact hi⟩

end Generator.Lawful

/-! ## The throw of the dice -/

/-- The place in whose share of the sum a number falls. -/
def placeOf? : List Nat → Nat → Option Nat
  | [], _ => none
  | w :: weights, n => if n < w then some 0 else (placeOf? weights (n - w)).map (· + 1)

theorem placeOf?_isSome {weights : List Nat} {n : Nat} (h : n < weights.sum) :
    (placeOf? weights n).isSome = true := by
  induction weights generalizing n with
  | nil => cases h
  | cons w weights ih =>
      rw [List.sum_cons] at h
      rw [placeOf?]
      split
      · rfl
      · rw [Option.isSome_map]
        exact ih (by omega)

theorem positive_of_placeOf? {weights : List Nat} {n i : Nat} (h : placeOf? weights n = some i) :
    ∃ w, weights[i]? = some w ∧ 0 < w := by
  induction weights generalizing n i with
  | nil => cases h
  | cons w weights ih =>
      rw [placeOf?] at h
      split at h
      · next hlt =>
        cases h
        exact ⟨w, rfl, Nat.zero_lt_of_lt hlt⟩
      · obtain ⟨j, hj, rfl⟩ := Option.map_eq_some_iff.mp h
        exact ih hj

/-- The share of each place holds a number below the sum. -/
theorem exists_placeOf? {weights : List Nat} {i w : Nat} (h : weights[i]? = some w) (hw : 0 < w) :
    ∃ n, n < weights.sum ∧ placeOf? weights n = some i := by
  induction weights generalizing i with
  | nil => cases h
  | cons v weights ih =>
      rw [List.sum_cons]
      cases i with
      | zero =>
          cases h
          exact ⟨0, Nat.lt_add_right _ hw, if_pos hw⟩
      | succ i =>
          -- past the share of the first place
          obtain ⟨n, hn, hplace⟩ := ih h
          refine ⟨v + n, Nat.add_lt_add_left hn v, ?_⟩
          rw [placeOf?, if_neg (Nat.not_lt.mpr (Nat.le_add_right v n)), Nat.add_sub_cancel_left,
            hplace, Option.map_some]

/-- A number that was thrown, cut to what is asked for. -/
def throwOfDice : Generator Nat where
  byWeight weights n := if weights.sum = 0 then none else placeOf? weights (n % weights.sum)
  evenly places n := n % places

/-- The dice are lawful for weights of any sum. -/
theorem throwOfDice_lawful (limit : Nat) : throwOfDice.Lawful limit where
  none_iff weights n _ := by
    rw [← List.sum_eq_zero_iff_forall_eq_nat]
    simp only [throwOfDice]
    split
    · next hzero => exact iff_of_true rfl hzero
    · next hsome =>
      have hplace := placeOf?_isSome (Nat.mod_lt n (Nat.pos_of_ne_zero hsome))
      exact iff_of_false (Option.isSome_iff_ne_none.mp hplace) hsome
  positive weights n i _ h := by
    simp only [throwOfDice] at h
    split at h
    · cases h
    · exact positive_of_placeOf? h
  reaches weights i w _ h hw := by
    obtain ⟨n, hn, hplace⟩ := exists_placeOf? h hw
    refine ⟨n, ?_⟩
    simp only [throwOfDice]
    rw [if_neg (Nat.ne_zero_of_lt hn), Nat.mod_eq_of_lt hn, hplace]
  evenly_lt places n h := Nat.mod_lt n h
  evenly_reaches places i h := ⟨i, Nat.mod_eq_of_lt h⟩

theorem atWeight?_eq (servers : List Server) (n : Nat) :
    atWeight? servers n = (placeOf? (servers.map (·.weight)) n).bind (servers[·]?) := by
  induction servers generalizing n with
  | nil => rfl
  | cons s servers ih =>
      rw [atWeight?, List.map_cons, placeOf?]
      split
      · rfl
      · rw [ih, Option.bind_map]
        rfl

/-- What the dice draw is what the generator that they are draws. -/
theorem draw?_eq (servers : List Server) (dice : Nat) :
    draw? servers dice = throwOfDice.draw? servers dice := by
  unfold draw? Generator.draw?
  rw [totalWeight_eq_sum]
  by_cases hzero : (servers.map (·.weight)).sum = 0
  · simp only [throwOfDice]
    rw [if_pos hzero, if_pos hzero]
  · rw [if_neg hzero, atWeight?_eq]
    simp only [throwOfDice]
    rw [if_neg hzero]
    obtain ⟨i, hi⟩ := Option.isSome_iff_exists.mp
      (placeOf?_isSome (Nat.mod_lt dice (Nat.pos_of_ne_zero hzero)))
    rw [hi]
    rfl

/-! ## Choices -/

namespace Destination

variable {State : Type} {g : Generator State} {d : Destination} {r : Registry} {now : Nat}
  {s p : Server}

/-- The choice with any generator in the place of the dice. -/
def chooseBy? (g : Generator State) (d : Destination) (r : Registry) (now : Nat)
    (state : State) : Option Server :=
  match d.usableExit? r now with
  | some s => some s
  | none => g.draw? (d.available r now) state

theorem choose?_eq (d : Destination) (r : Registry) (now : Nat) :
    d.choose? r now = chooseBy? throwOfDice d r now := by
  funext dice
  cases husable : d.usableExit? r now with
  | none => rw [choose?, chooseBy?, husable, draw?_eq]
  | some p => rw [choose?, chooseBy?, husable]

/-- The servers of a destination that have the preferred key are looked up by it: the first of
    them is the preferred server. -/
theorem exists_exitServer? (hs : s ∈ d.servers) (hexit : d.exit = some s.publicKey) :
    ∃ p, d.server? s.publicKey = some p ∧ p.publicKey = s.publicKey ∧ d.exitServer? = some p := by
  have hfound : (d.server? s.publicKey).isSome = true :=
    List.find?_isSome.mpr ⟨s, hs, beq_self_eq_true s.publicKey⟩
  obtain ⟨p, hp⟩ := Option.isSome_iff_exists.mp hfound
  refine ⟨p, hp, publicKey_of_server? hp, ?_⟩
  rw [exitServer?, hexit, Option.bind_some, hp]

/-- No server is preferred and usable if those with the preferred key are cooling down. -/
theorem usableExit?_eq_none
    (h : ∀ s ∈ d.servers, d.exit = some s.publicKey → r.isCooling now s.publicKey = true) :
    d.usableExit? r now = none := by
  by_contra hsome
  obtain ⟨p, hp⟩ := Option.ne_none_iff_exists'.mp hsome
  obtain ⟨hmem, hcool⟩ := mem_available.mp (mem_of_usableExit? hp)
  obtain ⟨hexit, -⟩ := Option.filter_eq_some_iff.mp hp
  obtain ⟨key, hkey, hserver⟩ := Option.bind_eq_some_iff.mp hexit
  have hpreferred : d.exit = some p.publicKey := by rw [hkey, publicKey_of_server? hserver]
  exact Bool.false_ne_true (hcool.symm.trans (h p hmem hpreferred))

theorem available_eq_nil_iff :
    d.available r now = [] ↔ ∀ s ∈ d.servers, r.isCooling now s.publicKey = true := by
  rw [available, List.filter_eq_nil_iff]
  simp

theorem sum_available_lt {limit : Nat} (d : Destination) (r : Registry) (now : Nat)
    (h : (d.servers.map (·.weight)).sum < limit) :
    ((d.available r now).map (·.weight)).sum < limit := by
  have hsub : (d.available r now).Sublist d.servers := List.filter_sublist
  exact Nat.lt_of_le_of_lt ((hsub.map _).sum_le_sum fun _ _ => Nat.zero_le _) h

/-- What a choice among the servers of a destination comes to, over all states of what draws
    them. -/
structure Chooses (d : Destination) (r : Registry) (now : Nat)
    (choose : State → Option Server) : Prop where
  none_iff : ∀ state, choose state = none ↔
    ∀ s ∈ d.servers, r.isCooling now s.publicKey = true
  usable : ∀ state s, choose state = some s →
    s ∈ d.servers ∧ r.isCooling now s.publicKey = false
  /-- The first server with the preferred key, while it can be used. -/
  preferred : ∀ s ∈ d.servers, d.exit = some s.publicKey →
    r.isCooling now s.publicKey = false →
    ∃ p, d.server? s.publicKey = some p ∧ ∀ state, choose state = some p
  /-- A server without a weight is the last resort. -/
  weightless : (∀ s ∈ d.servers, d.exit = some s.publicKey →
      r.isCooling now s.publicKey = true) →
    ∀ state s, choose state = some s → s.weight = 0 →
      ∀ t ∈ d.available r now, t.weight = 0
  /-- Every other server that can be used may be the one. -/
  reaches : (∀ s ∈ d.servers, d.exit = some s.publicKey →
      r.isCooling now s.publicKey = true) →
    ∀ s ∈ d.available r now, (s.weight = 0 → ∀ t ∈ d.available r now, t.weight = 0) →
      ∃ state, choose state = some s

theorem chooseBy?_of_unusable (h : d.usableExit? r now = none) (state : State) :
    chooseBy? g d r now state = g.draw? (d.available r now) state := by
  rw [chooseBy?, h]

theorem chooseBy?_of_usable (h : d.usableExit? r now = some p) (state : State) :
    chooseBy? g d r now state = some p := by
  rw [chooseBy?, h]

theorem chooseBy?_chooses {limit : Nat} (hg : g.Lawful limit)
    (hsum : (d.servers.map (·.weight)).sum < limit) (r : Registry) (now : Nat) :
    d.Chooses r now (chooseBy? g d r now) where
  none_iff state := by
    rw [← available_eq_nil_iff]
    cases husable : d.usableExit? r now with
    | none => rw [chooseBy?_of_unusable husable, hg.draw?_eq_none_iff (d.sum_available_lt r now hsum)]
    | some p =>
        rw [chooseBy?_of_usable husable]
        exact iff_of_false (Option.some_ne_none p)
          (List.ne_nil_of_mem (mem_of_usableExit? husable))
  usable state s hs := by
    rw [← mem_available]
    cases husable : d.usableExit? r now with
    | none =>
        rw [chooseBy?_of_unusable husable] at hs
        exact (mem_drawable.mp
          (hg.mem_drawable_of_draw? (d.sum_available_lt r now hsum) hs)).1
    | some p =>
        rw [chooseBy?_of_usable husable] at hs
        cases hs
        exact mem_of_usableExit? husable
  preferred s hs hexit hcool := by
    obtain ⟨p, hp, hkey, hserver⟩ := exists_exitServer? hs hexit
    have husable := usableExit?_eq_some hserver (hkey ▸ hcool)
    exact ⟨p, hp, fun state => chooseBy?_of_usable husable state⟩
  weightless h state s hs hweight := by
    rw [chooseBy?_of_unusable (usableExit?_eq_none h)] at hs
    obtain ⟨-, hpart⟩ := mem_drawable.mp
      (hg.mem_drawable_of_draw? (d.sum_available_lt r now hsum) hs)
    exact hpart.resolve_left (Nat.not_lt.mpr (Nat.le_of_eq hweight))
  reaches h s hs hpart := by
    have hdrawable : s ∈ drawable (d.available r now) :=
      mem_drawable.mpr ⟨hs, (Nat.eq_zero_or_pos s.weight).symm.imp_right hpart⟩
    obtain ⟨state, hstate⟩ := hg.exists_draw? (d.sum_available_lt r now hsum) hdrawable
    exact ⟨state, (chooseBy?_of_unusable (usableExit?_eq_none h) state).trans hstate⟩

/-- The servers that are said to be possible are those that some throw of the dice leads to. -/
theorem mem_possible : s ∈ d.possible r now ↔ ∃ dice, d.choose? r now dice = some s := by
  rw [choose?_eq, possible]
  cases husable : d.usableExit? r now with
  | none =>
      simp only [chooseBy?_of_unusable husable]
      have hsum := Nat.lt_succ_self ((d.available r now).map (·.weight)).sum
      exact ⟨(throwOfDice_lawful _).exists_draw? hsum, fun ⟨_, h⟩ =>
        (throwOfDice_lawful _).mem_drawable_of_draw? hsum h⟩
  | some p =>
      simp only [chooseBy?_of_usable husable, List.mem_singleton, Option.some.injEq,
        exists_const]
      exact eq_comm

/-- The choice among the servers of a destination comes to nothing exactly when none of them
    can be used. Otherwise it is a server that can be used: the preferred one if that can,
    else any one that takes part in a draw by weight. This is so by the throw of the dice and
    by every generator that gives the same places for weights of such a sum. -/
theorem choices_are_the_usable (d : Destination) (r : Registry) (now : Nat) :
    (d.available r now = [] ↔ ∀ s ∈ d.servers, r.isCooling now s.publicKey = true) ∧
      d.Chooses r now (d.choose? r now) ∧
      ∀ (State : Type) (g : Generator State) (limit : Nat), g.Lawful limit →
        (d.servers.map (·.weight)).sum < limit → d.Chooses r now (chooseBy? g d r now) := by
  refine ⟨available_eq_nil_iff, ?_, fun _ _ _ hg hsum => chooseBy?_chooses hg hsum r now⟩
  -- the dice have no limit, so any above the sum will do
  rw [choose?_eq]
  exact chooseBy?_chooses (throwOfDice_lawful _) (Nat.lt_succ_self _) r now

/-- A preferred server that rests, one without a weight and one with a weight: the last is
    always chosen. When the first has rested, it is. -/
theorem choices_are_the_usable_berlin :
    let server (key : String) (weight : Nat) : Server :=
      { hostname := key, publicKey := key, endpointV4 := "", gatewayV4 := "", weight := weight }
    let d : Destination :=
      ⟨"de", "Berlin", [server "east" 5, server "west" 0, server "south" 3], some "east"⟩
    let r : Registry := ({} : Registry).setCooldown 100 "east" 300
    throwOfDice.Lawful (2 ^ 32) ∧ (d.servers.map (·.weight)).sum < 2 ^ 32 ∧
      (∀ s ∈ d.servers, d.exit = some s.publicKey → r.isCooling 399 s.publicKey = true) ∧
      (∃ dice, chooseBy? throwOfDice d r 399 dice = some (server "south" 3)) ∧
      (∀ dice, chooseBy? throwOfDice d r 399 dice ≠ some (server "west" 0)) ∧
      r.isCooling 400 "east" = false ∧ ∀ dice, d.choose? r 400 dice = some (server "east" 5) := by
  intro server d r
  have hrests : ∀ s ∈ d.servers, d.exit = some s.publicKey →
      r.isCooling 399 s.publicKey = true := by
    decide +kernel
  have hback : r.isCooling 400 "east" = false := by decide +kernel
  have hlawful := throwOfDice_lawful (2 ^ 32)
  have hsum : (d.servers.map (·.weight)).sum < 2 ^ 32 := by decide +kernel
  have hthrown := (choices_are_the_usable d r 399).2.2 Nat throwOfDice (2 ^ 32) hlawful hsum
  have hmem : server "south" 3 ∈ d.available r 399 := by decide +kernel
  obtain ⟨p, hp, hpreferred⟩ := (choices_are_the_usable d r 400).2.1.preferred
    (server "east" 5) List.mem_cons_self rfl hback
  have heast : d.server? "east" = some (server "east" 5) := by decide +kernel
  cases heast.symm.trans hp
  refine ⟨hlawful, hsum, hrests, ?_, ?_, hback, hpreferred⟩
  · exact hthrown.reaches hrests _ hmem fun hzero => absurd hzero (by decide)
  · intro dice hwest
    have hzero : (3 : Nat) = 0 := hthrown.weightless hrests dice _ hwest rfl _ hmem
    cases hzero

end Destination

end TunnelSession
