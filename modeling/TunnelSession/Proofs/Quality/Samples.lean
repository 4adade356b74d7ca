/-
  TunnelSession.Proofs.Quality.Samples

  What a better sample of one server does to the tier of its city. The sample counts in the
  mean of the city and in the mean of all servers, and it lowers the first one by no less
  than the second, as it is one of fewer. So a city that was faster than the average still is.
  But both means are rounded up before they are compared, and that can make them equal: then
  the city loses what it had for its latency. This is the only way in which to be faster does
  harm, as long as no server is listed twice.
-/
import TunnelSession.Proofs.Quality.Tiers
import Mathlib.Algebra.Order.BigOperators.Group.List
import Mathlib.Algebra.Order.Ring.Nat
import Mathlib.Data.List.Perm.Subperm

namespace TunnelSession

/-! ## Means -/

/-- The number of samples among some values. -/
def known (values : List Nat) : Nat := (values.filter (0 < ·)).length

theorem sum_filter_pos (values : List Nat) : (values.filter (0 < ·)).sum = values.sum := by
  induction values with
  | nil => rfl
  | cons v values ih =>
      rw [List.filter_cons]
      split
      · rw [List.sum_cons, List.sum_cons, ih]
      · next hv =>
        rw [decide_eq_true_eq] at hv
        rw [List.sum_cons, ih]
        omega

/-- A mean that is rounded up is compared with a number as the sum is. -/
theorem ceilMean_le_iff {values : List Nat} {n : Nat} :
    ceilMean values ≤ n ↔ values.sum ≤ n * known values := by
  have hsum := sum_filter_pos values
  unfold ceilMean known
  dsimp only
  split
  · next hnone =>
    rw [List.isEmpty_iff] at hnone
    rw [hnone] at hsum ⊢
    rw [← hsum]
    exact iff_of_true (Nat.zero_le _) (Nat.zero_le _)
  · next hsome =>
    have hpos : 0 < (values.filter (0 < ·)).length :=
      List.length_pos_iff.mpr fun h => hsome (List.isEmpty_iff.mpr h)
    have hfold : (values.filter (0 < ·)).foldr (· + ·) 0 = values.sum := hsum
    rw [hfold, ← Nat.lt_succ_iff, Nat.div_lt_iff_lt_mul hpos, Nat.succ_mul]
    omega

theorem lt_ceilMean_iff {values : List Nat} {n : Nat} :
    n < ceilMean values ↔ n * known values < values.sum := by
  rw [← Nat.not_le, ← Nat.not_le, ceilMean_le_iff]

/-- Where both a part and the whole lose the same, and the part was below a bound that the whole
    was above, then each bound on the whole is one on the part. -/
theorem sum_le_of_fewer {part part' whole whole' n m d low bound : Nat} (hfewer : n ≤ m)
    (hpart : part' + d = part) (hwhole : whole' + d = whole) (hlow : part ≤ low * n)
    (hhigh : low * m < whole) (hbound : whole' ≤ bound * m) : part' ≤ bound * n := by
  rcases Nat.le_total low bound with hle | hle
  · have hmono : low * n ≤ bound * n := Nat.mul_le_mul_right n hle
    omega
  · -- the whole fell from above one bound to below the other, and the part has fewer members
    obtain ⟨e, rfl⟩ := Nat.exists_eq_add_of_le hle
    have hmono : e * n ≤ e * m := Nat.mul_le_mul_left e hfewer
    rw [Nat.add_mul] at hlow hhigh
    omega

/-- If the loss is a whole number for each member of the part, the bound on the part falls by
    that number, and the whole stays above it. -/
theorem lt_sum_of_fewer {part part' whole whole' n m d low e : Nat} (hfewer : n ≤ m)
    (hn : 0 < n) (hd : d = e * n) (hpart : part' + d = part) (hwhole : whole' + d = whole)
    (hlow : part ≤ low * n) (hhigh : low * m < whole) :
    part' ≤ (low - e) * n ∧ (low - e) * m < whole' := by
  have hle : e ≤ low := Nat.le_of_mul_le_mul_right (by omega : e * n ≤ low * n) hn
  have hmono : e * n ≤ e * m := Nat.mul_le_mul_left e hfewer
  have hmono' : e * m ≤ low * m := Nat.mul_le_mul_right m hle
  rw [Nat.sub_mul, Nat.sub_mul]
  omega

namespace Registry

variable {r : Registry} {city : City} {key : String} {s : Server} {ms now : Nat}
  {userCountry : Option String}

/-! ## One sample among many -/

theorem known_map (r : Registry) (keys : List String) :
    known (keys.map r.latency) = (keys.filter (0 < r.latency ·)).length := by
  rw [known, List.filter_map, List.length_map]
  rfl

/-- A sample in the place of another one leaves the number of samples. -/
theorem known_setLatency (hpos : 0 < ms) (hold : 0 < r.latency key) (keys : List String) :
    known (keys.map (r.setLatency key ms).latency) = known (keys.map r.latency) := by
  -- a server has a sample after exactly if it had one before
  have hsame : ∀ k ∈ keys, decide (0 < (r.setLatency key ms).latency k) =
      decide (0 < r.latency k) := by
    intro k _
    rw [latency_setLatency]
    split
    · next hkey => rw [hkey, decide_eq_true hpos, decide_eq_true hold]
    · rfl
  rw [known_map, known_map, List.filter_congr hsame]

/-- It changes a sum as often as the server counts in it. -/
theorem sum_setLatency (r : Registry) (key : String) (ms : Nat) (keys : List String) :
    (keys.map (r.setLatency key ms).latency).sum + keys.count key * r.latency key =
      (keys.map r.latency).sum + keys.count key * ms := by
  induction keys with
  | nil => simp
  | cons k keys ih =>
      rw [List.map_cons, List.map_cons, List.sum_cons, List.sum_cons, List.count_cons,
        latency_setLatency]
      by_cases hkey : k = key
      · rw [if_pos hkey, if_pos (beq_iff_eq.mpr hkey), Nat.add_mul, Nat.add_mul, hkey]
        omega
      · rw [if_neg hkey, if_neg (mt beq_iff_eq.mp hkey), Nat.add_zero]
        omega

/-- A better sample lowers a sum by the difference, as often as the server counts in it. -/
theorem sum_better (hlt : ms < r.latency key) (keys : List String) :
    (keys.map (r.setLatency key ms).latency).sum + keys.count key * (r.latency key - ms) =
      (keys.map r.latency).sum := by
  have hsum := sum_setLatency r key ms keys
  have hsplit : keys.count key * r.latency key =
      keys.count key * (r.latency key - ms) + keys.count key * ms := by
    rw [← Nat.mul_add, Nat.sub_add_cancel (Nat.le_of_lt hlt)]
  omega

theorem mem_keys_of_latency (h : 0 < r.latency key) : key ∈ r.keys := by
  by_contra hnew
  rw [latency, standing_of_not_mem hnew] at h
  exact absurd h (by decide)

/-- The average after a better sample is that of the same servers. -/
theorem averageLatency_setLatency (hr : r.WellFormed) (hold : 0 < r.latency key) (ms : Nat) :
    (r.setLatency key ms).averageLatency =
      ceilMean (r.keys.map (r.setLatency key ms).latency) := by
  rw [(hr.setLatency key ms).averageLatency_eq]
  congr 2
  rw [setLatency, keys_put, if_pos (mem_keys_of_latency hold)]

/-! ## The city and the whole -/

/-- The number of the servers of a city with a sample. -/
def measuredIn (r : Registry) (city : City) : Nat :=
  (city.servers.filter (0 < r.latency ·.publicKey)).length

/-- A city that lists no server twice has no more samples than there are. -/
theorem known_le_of_nodup {keys : List String} (r : Registry) (hnodup : keys.Nodup) :
    known (keys.map r.latency) ≤ known (r.keys.map r.latency) := by
  rw [known_map, known_map]
  refine (List.subperm_of_subset (hnodup.filter _) fun key hkey => ?_).length_le
  obtain ⟨-, hmeasured⟩ := List.mem_filter.mp hkey
  exact List.mem_filter.mpr ⟨mem_keys_of_latency (of_decide_eq_true hmeasured), hmeasured⟩

/-- A better sample does not make the city slower. -/
theorem cityLatency_better (city : City) (hpos : 0 < ms) (hlt : ms < r.latency key) :
    (r.setLatency key ms).cityLatency city ≤ r.cityLatency city := by
  have hold : 0 < r.latency key := Nat.zero_lt_of_lt hlt
  have hsum := sum_better hlt (city.servers.map (·.publicKey))
  have hmean : ceilMean ((city.servers.map (·.publicKey)).map r.latency) ≤
      ceilMean ((city.servers.map (·.publicKey)).map r.latency) := Nat.le_refl _
  rw [ceilMean_le_iff] at hmean
  rw [cityLatency_eq, cityLatency_eq, ceilMean_le_iff, known_setLatency hpos hold]
  omega

theorem cityLatency_pos (hs : s ∈ city.servers) (hold : 0 < r.latency s.publicKey) :
    0 < r.cityLatency city := by
  rw [cityLatency_eq, lt_ceilMean_iff, Nat.zero_mul]
  exact Nat.lt_of_lt_of_le hold
    (List.le_sum_of_mem (List.mem_map_of_mem (List.mem_map_of_mem hs)))

theorem measuredIn_eq (r : Registry) (city : City) :
    r.measuredIn city = known ((city.servers.map (·.publicKey)).map r.latency) := by
  rw [known_map, List.filter_map, List.length_map]
  rfl

/-- The sums and numbers of samples that the two means are made of, when a better sample
    replaces that of a server which the city lists once. -/
theorem sums_better (hr : r.WellFormed) (hnodup : (city.servers.map (·.publicKey)).Nodup)
    (hs : s ∈ city.servers) (hlt : ms < r.latency s.publicKey) :
    let r' := r.setLatency s.publicKey ms
    ((city.servers.map (·.publicKey)).map r'.latency).sum + (r.latency s.publicKey - ms) =
        ((city.servers.map (·.publicKey)).map r.latency).sum ∧
      (r.keys.map r'.latency).sum + (r.latency s.publicKey - ms) = (r.keys.map r.latency).sum := by
  have hcity := sum_better hlt (city.servers.map (·.publicKey))
  have hall := sum_better hlt r.keys
  have hknown := mem_keys_of_latency (Nat.zero_lt_of_lt hlt)
  rw [List.count_eq_one_of_mem hnodup (List.mem_map_of_mem hs), Nat.one_mul] at hcity
  rw [List.count_eq_one_of_mem hr.keys_nodup hknown, Nat.one_mul] at hall
  exact ⟨hcity, hall⟩

/-- A city that was faster than the average is not slower than it after a better sample of a
    server that it lists once. -/
theorem cityLatency_le_average (hr : r.WellFormed)
    (hnodup : (city.servers.map (·.publicKey)).Nodup) (hs : s ∈ city.servers) (hpos : 0 < ms)
    (hlt : ms < r.latency s.publicKey) (hfaster : r.cityLatency city < r.averageLatency) :
    (r.setLatency s.publicKey ms).cityLatency city ≤
      (r.setLatency s.publicKey ms).averageLatency := by
  have hold : 0 < r.latency s.publicKey := Nat.zero_lt_of_lt hlt
  obtain ⟨hpart, hwhole⟩ := sums_better hr hnodup hs hlt
  have hlow := ceilMean_le_iff.mp (Nat.le_of_eq (cityLatency_eq r city).symm)
  rw [hr.averageLatency_eq, lt_ceilMean_iff] at hfaster
  have hbound := ceilMean_le_iff.mp (Nat.le_of_eq (averageLatency_setLatency hr hold ms).symm)
  rw [known_setLatency hpos hold] at hbound
  rw [cityLatency_eq, ceilMean_le_iff, known_setLatency hpos hold]
  exact sum_le_of_fewer (known_le_of_nodup r hnodup) hpart hwhole hlow hfaster hbound

/-- It still is faster if the better sample gains a whole number for each measured server. -/
theorem cityLatency_lt_average (hr : r.WellFormed)
    (hnodup : (city.servers.map (·.publicKey)).Nodup) (hs : s ∈ city.servers) (hpos : 0 < ms)
    (hlt : ms < r.latency s.publicKey) (hfaster : r.cityLatency city < r.averageLatency)
    (hwhole : r.measuredIn city ∣ r.latency s.publicKey - ms) :
    (r.setLatency s.publicKey ms).cityLatency city <
      (r.setLatency s.publicKey ms).averageLatency := by
  have hold : 0 < r.latency s.publicKey := Nat.zero_lt_of_lt hlt
  obtain ⟨hpart, hwhole'⟩ := sums_better hr hnodup hs hlt
  have hlow := ceilMean_le_iff.mp (Nat.le_of_eq (cityLatency_eq r city).symm)
  have hmeasured : 0 < r.measuredIn city :=
    List.length_pos_of_mem (List.mem_filter.mpr ⟨hs, decide_eq_true hold⟩)
  obtain ⟨e, he⟩ := hwhole
  rw [hr.averageLatency_eq, lt_ceilMean_iff] at hfaster
  rw [measuredIn_eq] at he hmeasured
  obtain ⟨hcity, hall⟩ := lt_sum_of_fewer (known_le_of_nodup r hnodup) hmeasured
    (he.trans (Nat.mul_comm _ _)) hpart hwhole' hlow hfaster
  rw [← known_setLatency hpos hold] at hcity hall
  rw [cityLatency_eq, averageLatency_setLatency hr hold]
  exact Nat.lt_of_le_of_lt (ceilMean_le_iff.mpr hcity) (lt_ceilMean_iff.mpr hall)

/-! ## The tier -/

theorem bonus_eq_zero_iff (h : 0 < r.cityLatency city) :
    r.bonus city = 0 ↔ r.averageLatency ≤ r.cityLatency city := by
  unfold bonus
  split
  · next hslow => exact iff_of_true rfl (hslow.resolve_left (Nat.ne_of_gt h))
  · next hfast =>
    refine iff_of_false ?_ fun hslow => hfast (.inr hslow)
    split <;> decide

/-- A better sample leaves the bonus or makes it larger, or takes all of it away. -/
theorem bonus_better (city : City) (hpos : 0 < ms) (hlt : ms < r.latency key)
    (hsome : (r.setLatency key ms).bonus city ≠ 0) :
    r.bonus city ≤ (r.setLatency key ms).bonus city := by
  have hle := cityLatency_better city hpos hlt
  unfold bonus at hsome ⊢
  split at hsome
  · exact absurd rfl hsome
  · next hfast =>
    rw [if_neg hfast]
    split
    · exact Nat.zero_le _
    · by_cases hlow : r.cityLatency city < lowLatency
      · rw [if_pos (Nat.lt_of_le_of_lt hle hlow)]
        split <;> decide
      · rw [if_neg hlow]
        split <;> decide

/-- A better sample of one of its servers takes a tier from a city only if the city can be used
    and was faster than the average, and is no longer. -/
theorem score_lowered_iff (hs : s ∈ city.servers) (hpos : 0 < ms)
    (hlt : ms < r.latency s.publicKey) (now : Nat) (userCountry : Option String) :
    ((r.setLatency s.publicKey ms).score now city userCountry).rank <
        (r.score now city userCountry).rank ↔
      (∃ t ∈ city.servers, r.isCooling now t.publicKey = false) ∧
        r.cityLatency city < r.averageLatency ∧
        (r.setLatency s.publicKey ms).averageLatency ≤
          (r.setLatency s.publicKey ms).cityLatency city := by
  have hactive := activeServers_setLatency r s.publicKey ms now city
  -- the base stays, so that only the bonus can lower the score
  by_cases hnone : r.activeServers now city = 0
  · rw [rank_score_of_none hnone, rank_score_of_none (hactive.trans hnone)]
    refine iff_of_false (Nat.lt_irrefl 0) ?_
    rintro ⟨⟨t, ht, hcool⟩, -⟩
    exact Bool.false_ne_true (hcool.symm.trans (activeServers_eq_zero_iff.mp hnone t ht))
  · have husable : ∃ t ∈ city.servers, r.isCooling now t.publicKey = false := by
      by_contra hrest
      refine hnone (activeServers_eq_zero_iff.mpr fun t ht => ?_)
      exact (Bool.not_eq_false _).mp fun hcool => hrest ⟨t, ht, hcool⟩
    obtain ⟨-, hbase, hscore⟩ := rank_score_of_some userCountry hnone
    obtain ⟨-, -, hscore'⟩ := rank_score_of_some (r := r.setLatency s.publicKey ms) userCountry
      (hactive ▸ hnone)
    have hle : (r.baseScore now city userCountry).rank ≤ 3 := by
      rw [hbase]
      split
      · exact Nat.le_refl 3
      · exact Nat.min_le_right _ _
    have hold : 0 < r.latency s.publicKey := Nat.zero_lt_of_lt hlt
    have hnew : 0 < (r.setLatency s.publicKey ms).latency s.publicKey := by
      rwa [latency_setLatency, if_pos rfl]
    rw [hscore, hscore', baseScore_congr hactive, and_iff_right husable, ← Nat.not_le,
      ← Nat.not_le, ← bonus_eq_zero_iff (cityLatency_pos hs hold),
      ← bonus_eq_zero_iff (cityLatency_pos hs hnew)]
    -- a base of at most three leaves room for one tier at least
    have hbetter := bonus_better city hpos hlt
    omega

/-- As long as a city lists no server twice, a better sample of one of its servers takes a tier
    from it only where both means come out equal after they are rounded up, and not if the
    sample gains a whole number for each measured server of the city. -/
theorem faster_is_lowered_only_by_rounding (hr : r.WellFormed) (hs : s ∈ city.servers)
    (hpos : 0 < ms) (hlt : ms < r.latency s.publicKey) (now : Nat)
    (userCountry : Option String) :
    let r' := r.setLatency s.publicKey ms
    ((r'.score now city userCountry).rank < (r.score now city userCountry).rank ↔
        (∃ t ∈ city.servers, r.isCooling now t.publicKey = false) ∧
          r.cityLatency city < r.averageLatency ∧ r'.averageLatency ≤ r'.cityLatency city) ∧
      ((city.servers.map (·.publicKey)).Nodup →
        ((r'.score now city userCountry).rank < (r.score now city userCountry).rank ↔
          (∃ t ∈ city.servers, r.isCooling now t.publicKey = false) ∧
            r.cityLatency city < r.averageLatency ∧ r'.cityLatency city = r'.averageLatency) ∧
        (r.measuredIn city ∣ r.latency s.publicKey - ms →
          (r.score now city userCountry).rank ≤ (r'.score now city userCountry).rank)) := by
  intro r'
  have hlowered := score_lowered_iff hs hpos hlt now userCountry
  refine ⟨hlowered, fun hnodup => ⟨hlowered.trans ?_, fun hwhole => ?_⟩⟩
  · refine and_congr_right fun _ => and_congr_right fun hfaster => ?_
    have hle := cityLatency_le_average hr hnodup hs hpos hlt hfaster
    exact ⟨Nat.le_antisymm hle, fun heq => Nat.le_of_eq heq.symm⟩
  · by_contra hless
    obtain ⟨-, hfaster, hslow⟩ := hlowered.mp (Nat.lt_of_not_le hless)
    exact absurd (cityLatency_lt_average hr hnodup hs hpos hlt hfaster hwhole)
      (Nat.not_lt.mpr hslow)

/-- Two servers of Berlin have samples of 5 ms and a third one elsewhere has 6 ms. With 3 ms in
    the place of one of the first, Berlin has a mean of 4 ms and keeps its tier; with 4 ms both
    means are 5 ms, and it does not. -/
theorem faster_is_lowered_only_by_rounding_berlin :
    let server (key : String) : Server :=
      { hostname := key, publicKey := key, endpointV4 := "", gatewayV4 := "" }
    let berlin : City := { name := "Berlin", servers := [server "a", server "b"] }
    let r : Registry := ((({} : Registry).setLatency "a" 5).setLatency "b" 5).setLatency "c" 6
    r.WellFormed ∧ server "a" ∈ berlin.servers ∧ r.latency "a" = 5 ∧
      (berlin.servers.map (·.publicKey)).Nodup ∧
      r.measuredIn berlin ∣ r.latency "a" - 3 ∧
      (r.score 0 berlin none).rank ≤ ((r.setLatency "a" 3).score 0 berlin none).rank ∧
      (r.setLatency "a" 4).cityLatency berlin = (r.setLatency "a" 4).averageLatency ∧
      ((r.setLatency "a" 4).score 0 berlin none).rank < (r.score 0 berlin none).rank := by
  intro server berlin r
  have hr : r.WellFormed :=
    ((wellFormed_empty.setLatency "a" 5).setLatency "b" 5).setLatency "c" 6
  have hs : server "a" ∈ berlin.servers := List.mem_cons_self
  have hold : r.latency "a" = 5 := by decide +kernel
  have hnodup : (berlin.servers.map (·.publicKey)).Nodup := by decide +kernel
  have hwhole : r.measuredIn berlin ∣ r.latency "a" - 3 := by decide +kernel
  have hequal : (r.setLatency "a" 4).cityLatency berlin = (r.setLatency "a" 4).averageLatency := by
    decide +kernel
  have husable : ∃ t ∈ berlin.servers, r.isCooling 0 t.publicKey = false :=
    ⟨server "a", hs, by decide +kernel⟩
  have hfaster : r.cityLatency berlin < r.averageLatency := by decide +kernel
  have hthree := faster_is_lowered_only_by_rounding hr hs (by decide : 0 < 3)
    (Nat.lt_of_lt_of_eq (by decide) hold.symm) 0 none
  have hfour := faster_is_lowered_only_by_rounding hr hs (by decide : 0 < 4)
    (Nat.lt_of_lt_of_eq (by decide) hold.symm) 0 none
  exact ⟨hr, hs, hold, hnodup, hwhole, (hthree.2 hnodup).2 hwhole, hequal,
    (hfour.2 hnodup).1.mpr ⟨husable, hfaster, hequal⟩⟩

/-- A server of Berlin that comes down from 5 ms to 4 ms takes two tiers from it, as both means
    are rounded up to 5 ms. Paris lists one server three times, so a faster one counts more in
    the average than in the city, and it takes a tier from Paris too. -/
theorem faster_sample_costs_tiers :
    let server (key : String) : Server :=
      { hostname := key, publicKey := key, endpointV4 := "", gatewayV4 := "" }
    let berlin : City := { name := "Berlin", servers := [server "a", server "b"] }
    let r : Registry := ((({} : Registry).setLatency "a" 5).setLatency "b" 5).setLatency "c" 6
    let paris : City :=
      { name := "Paris", servers := [server "d", server "e", server "e", server "e"] }
    let t : Registry := (({} : Registry).setLatency "d" 100).setLatency "e" 50
    (r.latency "a" = 5 ∧ r.score 0 berlin none = .excellent ∧
        (r.setLatency "a" 4).score 0 berlin none = .moderate) ∧
      t.latency "d" = 100 ∧ t.score 0 paris none = .excellent ∧
        (t.setLatency "d" 10).score 0 paris none = .good := by
  decide +kernel

end Registry

end TunnelSession
