/-
  TunnelSession.Proofs.Quality.Tiers

  What the tier of a city is made of. Tiers are compared by their ranks, and there the
  score is a sum that is cut at the best tier: a base, which the usable servers and the
  user's country decide, and a bonus for latency, which no cooldown touches. Only a city
  without a usable server gets nothing. As a cooldown can only take servers away from the
  base, it lifts no city.
-/
import TunnelSession.Quality.Score
import TunnelSession.Proofs.Quality.Registry

namespace TunnelSession

/-! ## Ranks -/

namespace Score

theorem rank_eq_zero_iff {s : Score} : s.rank = 0 ↔ s = .unavailable := by
  cases s <;> simp [rank]

theorem rank_le (s : Score) : s.rank ≤ 4 := by
  cases s <;> decide

theorem rank_upgrade (s : Score) : s.upgrade.rank = min (s.rank + 1) 4 := by
  cases s <;> rfl

theorem rank_best (a b : Score) : (a.best b).rank = max a.rank b.rank := by
  unfold best
  split
  · next h => exact (Nat.max_eq_right h).symm
  · next h => exact (Nat.max_eq_left (Nat.le_of_not_le h)).symm

theorem rank_ofServers (n : Nat) : (ofServers n).rank = min n 3 := by
  match n with
  | 0 | 1 | 2 => rfl
  | n + 3 => exact (Nat.min_eq_right (Nat.le_add_left 3 n)).symm

end Score

namespace Registry

variable {r r' : Registry} {now : Nat} {city : City} {userCountry : Option String}

/-! ## The base -/

theorem activeServers_eq_zero_iff :
    r.activeServers now city = 0 ↔ ∀ s ∈ city.servers, r.isCooling now s.publicKey = true := by
  rw [activeServers, List.length_eq_zero_iff, List.filter_eq_nil_iff]
  simp

/-- Who leaves more servers alone has fewer to use. -/
theorem activeServers_le
    (h : ∀ key, r.isCooling now key = true → r'.isCooling now key = true) (city : City) :
    r'.activeServers now city ≤ r.activeServers now city := by
  refine (List.monotone_filter_right city.servers ?_).length_le
  intro s hs
  rw [Bool.not_eq_true'] at hs ⊢
  rw [Bool.eq_false_iff] at hs ⊢
  exact mt (h s.publicKey) hs

/-- Samples do not count there. -/
theorem activeServers_setLatency (r : Registry) (key : String) (ms now : Nat) (city : City) :
    (r.setLatency key ms).activeServers now city = r.activeServers now city := by
  unfold activeServers
  simp only [isCooling_setLatency]

theorem baseScore_congr (h : r'.activeServers now city = r.activeServers now city) :
    r'.baseScore now city userCountry = r.baseScore now city userCountry := by
  unfold baseScore
  rw [h]

/-- Whether a city is in the user's country. -/
def isHome (city : City) (userCountry : Option String) : Bool :=
  userCountry.any (Text.equalFold · city.countryCode)

/-- The base counts usable servers up to three, and three for the user's country, but it is
    nothing without a usable server. -/
theorem rank_baseScore (r : Registry) (now : Nat) (city : City) (userCountry : Option String) :
    (r.baseScore now city userCountry).rank =
      if r.activeServers now city = 0 then 0
      else if isHome city userCountry then 3 else min (r.activeServers now city) 3 := by
  have hservers := Score.rank_ofServers (r.activeServers now city)
  have hzero : Score.ofServers (r.activeServers now city) = .unavailable ↔
      r.activeServers now city = 0 := by
    rw [← Score.rank_eq_zero_iff, hservers]
    omega
  unfold baseScore isHome
  dsimp only
  split
  · next hnone =>
    rw [hnone, if_pos (hzero.mp hnone)]
    rfl
  · next hsome =>
    rw [if_neg (mt hzero.mpr hsome)]
    split
    · rw [Score.rank_best, hservers]
      exact Nat.max_eq_right (Nat.min_le_right _ _)
    · exact hservers

/-! ## The bonus -/

/-- The tiers that the latency of a city adds to its base. -/
def bonus (r : Registry) (city : City) : Nat :=
  if r.cityLatency city = 0 ∨ r.averageLatency ≤ r.cityLatency city then 0
  else if r.cityLatency city < lowLatency then 2
  else 1

theorem rank_score (r : Registry) (now : Nat) (city : City) (userCountry : Option String) :
    (r.score now city userCountry).rank =
      if (r.baseScore now city userCountry).rank = 0 then 0
      else min ((r.baseScore now city userCountry).rank + r.bonus city) 4 := by
  have havailable : (r.baseScore now city userCountry).isAvailable = true ↔
      (r.baseScore now city userCountry).rank ≠ 0 := by
    rw [Score.isAvailable, bne_iff_ne]
    exact not_congr Score.rank_eq_zero_iff.symm
  have hle := (r.baseScore now city userCountry).rank_le
  -- the score leaves out each way not to get a bonus in one test, with the base that is nothing
  unfold score bonus
  dsimp only
  by_cases hnone : (r.baseScore now city userCountry).rank = 0
  · have hfalse := Bool.eq_false_iff.mpr (mt havailable.mp (not_not_intro hnone))
    rw [if_pos hnone, hfalse, Bool.not_false, Bool.true_or, Bool.true_or, if_pos rfl, hnone]
  · rw [if_neg hnone, havailable.mpr hnone, Bool.not_true, Bool.false_or]
    simp only [Bool.or_eq_true, decide_eq_true_eq]
    split
    · exact (Nat.min_eq_left hle).symm
    · split
      · rw [Score.rank_upgrade, Score.rank_upgrade]
        omega
      · exact Score.rank_upgrade _

theorem bonus_le (r : Registry) (city : City) : r.bonus city ≤ 2 := by
  unfold bonus
  split
  · exact Nat.zero_le _
  · split <;> decide

/-- A cooldown leaves the samples as they are, and with them the bonus. -/
theorem bonus_setCooldown (hr : r.WellFormed) (now : Nat) (key : String) (seconds : Nat)
    (city : City) : (r.setCooldown now key seconds).bonus city = r.bonus city := by
  unfold bonus
  rw [hr.averageLatency_setCooldown, cityLatency_eq, cityLatency_eq, latency_setCooldown]

/-! ## The score -/

theorem rank_score_of_none (h : r.activeServers now city = 0) :
    (r.score now city userCountry).rank = 0 := by
  rw [rank_score, if_pos (by rw [rank_baseScore, if_pos h])]

/-- With a usable server the base is at least one, and the score adds the bonus to it. -/
theorem rank_score_of_some (userCountry : Option String) (h : r.activeServers now city ≠ 0) :
    1 ≤ (r.baseScore now city userCountry).rank ∧
      (r.baseScore now city userCountry).rank =
        (if isHome city userCountry then 3 else min (r.activeServers now city) 3) ∧
      (r.score now city userCountry).rank =
        min ((r.baseScore now city userCountry).rank + r.bonus city) 4 := by
  have hbase := r.rank_baseScore now city userCountry
  rw [if_neg h] at hbase
  have hpos : 1 ≤ (r.baseScore now city userCountry).rank := by
    rw [hbase]
    split <;> omega
  refine ⟨hpos, hbase, ?_⟩
  rw [rank_score, if_neg (Nat.ne_of_gt hpos)]

/-- Fewer usable servers do not make a better score. -/
theorem rank_score_le (hservers : r'.activeServers now city ≤ r.activeServers now city)
    (hbonus : r'.bonus city = r.bonus city) :
    (r'.score now city userCountry).rank ≤ (r.score now city userCountry).rank := by
  by_cases hnone : r'.activeServers now city = 0
  · rw [rank_score_of_none hnone]
    exact Nat.zero_le _
  · have hsome : r.activeServers now city ≠ 0 := fun hzero =>
      hnone (Nat.le_zero.mp (hzero ▸ hservers))
    obtain ⟨-, hbase', hscore'⟩ := rank_score_of_some userCountry hnone
    obtain ⟨-, hbase, hscore⟩ := rank_score_of_some userCountry hsome
    have hle : (r'.baseScore now city userCountry).rank ≤
        (r.baseScore now city userCountry).rank := by
      rw [hbase', hbase]
      split <;> omega
    rw [hscore', hscore, hbonus]
    omega

/-- A city has no score exactly if none of its servers can be used, whatever its latency and
    country. Else its score is its base or up to two tiers better, and good at least in the
    user's country. No cooldown lifts a city at the moment that it starts, and no sample
    changes the base. -/
theorem score_follows_usable_servers (hr : r.WellFormed) (now : Nat) (city : City)
    (userCountry : Option String) :
    (r.score now city userCountry = .unavailable ↔
        ∀ s ∈ city.servers, r.isCooling now s.publicKey = true) ∧
      ((∃ s ∈ city.servers, r.isCooling now s.publicKey = false) →
        (r.baseScore now city userCountry).rank ≤ (r.score now city userCountry).rank ∧
        (r.score now city userCountry).rank ≤ (r.baseScore now city userCountry).rank + 2 ∧
        ∀ country, userCountry = some country →
          Text.equalFold country city.countryCode = true →
          Score.good.rank ≤ (r.score now city userCountry).rank) ∧
      (∀ key seconds, 0 < seconds →
        ((r.setCooldown now key seconds).score now city userCountry).rank ≤
          (r.score now city userCountry).rank) ∧
      ∀ key ms, (r.setLatency key ms).baseScore now city userCountry =
        r.baseScore now city userCountry := by
  refine ⟨?_, ?_, ?_, ?_⟩
  · rw [← Score.rank_eq_zero_iff, ← activeServers_eq_zero_iff]
    refine ⟨fun hscore => ?_, rank_score_of_none⟩
    by_contra hsome
    obtain ⟨hpos, -, hsum⟩ := rank_score_of_some userCountry hsome
    omega
  · rintro ⟨s, hs, hcool⟩
    have hsome : r.activeServers now city ≠ 0 := fun hnone =>
      Bool.false_ne_true (hcool.symm.trans (activeServers_eq_zero_iff.mp hnone s hs))
    obtain ⟨-, hbase, hsum⟩ := rank_score_of_some userCountry hsome
    have hbonus := r.bonus_le city
    have hle := (r.baseScore now city userCountry).rank_le
    refine ⟨by omega, by omega, fun country hcountry hequal => ?_⟩
    have hhome : isHome city userCountry = true := by
      rw [isHome, hcountry]
      exact hequal
    rw [if_pos hhome] at hbase
    rw [hsum, hbase]
    exact Nat.le_min.mpr ⟨Nat.le_add_right _ _, by decide⟩
  · intro key seconds hpos
    exact rank_score_le
      (activeServers_le (fun other => hr.isCooling_setCooldown key (Nat.ne_of_gt hpos)) city)
      (bonus_setCooldown hr now key seconds city)
  · intro key ms
    exact baseScore_congr (activeServers_setLatency r key ms now city)

/-- The server of two entries of Berlin is the only one left, and in the user's country that is
    still good. When it rests too, the city is out of the question, fast or not. -/
theorem score_follows_usable_servers_berlin :
    let server (key : String) : Server :=
      { hostname := key, publicKey := key, endpointV4 := "", gatewayV4 := "" }
    let berlin : City :=
      { name := "Berlin", countryCode := "de", servers := [server "a", server "b", server "a"] }
    let r : Registry := ((({} : Registry).setLatency "a" 20).setLatency "c" 90).setCooldown 100 "b" 60
    r.WellFormed ∧
      (∃ s ∈ berlin.servers, r.isCooling 120 s.publicKey = false) ∧
      Text.equalFold "DE" berlin.countryCode = true ∧
      Score.good.rank ≤ (r.score 120 berlin (some "DE")).rank ∧
      (∀ s ∈ berlin.servers, (r.setCooldown 120 "a" 60).isCooling 120 s.publicKey = true) ∧
      (r.setCooldown 120 "a" 60).score 120 berlin (some "DE") = .unavailable ∧
      ((r.setCooldown 120 "a" 60).score 120 berlin (some "DE")).rank ≤
        (r.score 120 berlin (some "DE")).rank := by
  intro server berlin r
  have hr : r.WellFormed :=
    ((wellFormed_empty.setLatency "a" 20).setLatency "c" 90).setCooldown 100 "b" 60
  have husable : ∃ s ∈ berlin.servers, r.isCooling 120 s.publicKey = false :=
    ⟨server "a", List.mem_cons_self, by decide +kernel⟩
  have hhome : Text.equalFold "DE" berlin.countryCode = true := by decide +kernel
  have hnone : ∀ s ∈ berlin.servers, (r.setCooldown 120 "a" 60).isCooling 120 s.publicKey = true := by
    decide +kernel
  obtain ⟨-, hsome, hcooldown, -⟩ := score_follows_usable_servers hr 120 berlin (some "DE")
  exact ⟨hr, husable, hhome, (hsome husable).2.2 "DE" rfl hhome, hnone,
    (score_follows_usable_servers (hr.setCooldown 120 "a" 60) 120 berlin (some "DE")).1.mpr hnone,
    hcooldown "a" 60 (by decide)⟩

end Registry

end TunnelSession
