/-
  TunnelSession.Proofs.Quality.Registry

  What is known about one server does not depend on what is learnt of the others. A
  server that rests until a moment cools down at every moment before, and no cooldown
  that lasts as long, its own or that of another server, lets it go earlier.

  A registry that has one entry for each server, which all operations keep, is known by
  its keys and what stands for each of them.
-/
import TunnelSession.Quality.Registry
import Mathlib.Data.List.Nodup

namespace TunnelSession.Registry

variable {r : Registry} {key other : String} {now seconds t : Nat}

/-! ## Standings -/

/-- To replace the entries of one key leaves those of the others alone. -/
theorem find?_replaced (entries : List (String × Standing)) (key other : String) (s : Standing) :
    (entries.map (fun e => if e.1 == key then (key, s) else e)).find? (·.1 == other) =
      if other = key then (entries.find? (·.1 == key)).map (fun _ => (key, s))
      else entries.find? (·.1 == other) := by
  induction entries with
  | nil => simp
  | cons e entries ih =>
      rw [List.map_cons, List.find?_cons, List.find?_cons, List.find?_cons, ih]
      by_cases hother : other = key
      · rw [hother]
        cases hkey : e.1 == key <;> simp [hkey]
      · have hmiss : (key == other) = false := beq_eq_false_iff_ne.mpr (Ne.symm hother)
        by_cases hkey : e.1 = key <;> simp [hkey, hother, hmiss]

theorem standing_put (r : Registry) (key other : String) (s : Standing) :
    (r.put key s).standing other = if other = key then s else r.standing other := by
  unfold put standing
  split
  · next hknown =>
    obtain ⟨e, he⟩ := Option.isSome_iff_exists.mp
      (List.find?_isSome.mpr (List.any_eq_true.mp hknown))
    dsimp only
    rw [find?_replaced, he]
    split <;> rfl
  · next hunknown =>
    have hnone : r.entries.find? (·.1 == key) = none :=
      List.find?_eq_none.mpr fun e he hkey => hunknown (List.any_eq_true.mpr ⟨e, he, hkey⟩)
    dsimp only
    rw [List.find?_append]
    by_cases hother : other = key
    · rw [if_pos hother, hother, hnone]
      simp
    · simp [hother, Ne.symm hother]

/-! ## Cooldowns -/

theorem coolingUntil_setCooldown (r : Registry) (now : Nat) (key : String) (hs : seconds ≠ 0)
    (other : String) :
    ((r.setCooldown now key seconds).standing other).coolingUntil =
      if other = key then min (now + seconds) endOfTime
      else (r.standing other).coolingUntil := by
  rw [setCooldown, standing_put, if_neg hs]
  split <;> rfl

theorem isCooling_iff : r.isCooling now key = true ↔ now < (r.standing key).coolingUntil := by
  unfold isCooling cooldown
  dsimp only
  rw [bne_iff_ne]
  split
  · next h => exact ⟨fun _ => h, fun _ => Nat.ne_zero_of_lt h⟩
  · next h => exact ⟨fun hne => absurd rfl hne, fun hnow => absurd hnow h⟩

/-- Only the server whose cooldown is set may be left alone at another time. -/
theorem isCooling_setCooldown_of_ne (r : Registry) (now' : Nat) (h : other ≠ key) (hs : seconds ≠ 0) :
    (r.setCooldown now' key seconds).isCooling now other = r.isCooling now other := by
  rw [Bool.eq_iff_iff, isCooling_iff, isCooling_iff, coolingUntil_setCooldown r now' key hs,
    if_neg h]

/-- The server is left alone until a moment at least. -/
def RestsUntil (r : Registry) (t : Nat) (key : String) : Prop :=
  t ≤ (r.standing key).coolingUntil

theorem RestsUntil.isCooling (h : r.RestsUntil t key) (hnow : now < t) :
    r.isCooling now key = true :=
  isCooling_iff.mpr (Nat.lt_of_lt_of_le hnow h)

/-- A cooldown that lasts until the moment makes the server rest until then. -/
theorem restsUntil_setCooldown (r : Registry) (key : String) (hnow : now < t)
    (hlast : t ≤ now + seconds) (hend : t ≤ endOfTime) :
    (r.setCooldown now key seconds).RestsUntil t key := by
  have hs : seconds ≠ 0 := by omega
  rw [RestsUntil, coolingUntil_setCooldown r now key hs, if_pos rfl]
  exact Nat.le_min.mpr ⟨hlast, hend⟩

/-- It lets no server go earlier. -/
theorem RestsUntil.setCooldown (h : r.RestsUntil t other) (key : String) (hnow : now < t)
    (hlast : t ≤ now + seconds) (hend : t ≤ endOfTime) :
    (r.setCooldown now key seconds).RestsUntil t other := by
  by_cases hkey : other = key
  · rw [hkey]
    exact restsUntil_setCooldown r key hnow hlast hend
  · have hs : seconds ≠ 0 := by omega
    rw [RestsUntil, coolingUntil_setCooldown r now key hs, if_neg hkey]
    exact h

theorem isCooling_setLatency (r : Registry) (key : String) (ms now : Nat) (other : String) :
    (r.setLatency key ms).isCooling now other = r.isCooling now other := by
  rw [Bool.eq_iff_iff, isCooling_iff, isCooling_iff, setLatency, standing_put]
  split
  · next hkey => rw [hkey]
  · rfl

/-! ## Samples -/

theorem latency_setLatency (r : Registry) (key : String) (ms : Nat) (other : String) :
    (r.setLatency key ms).latency other = if other = key then ms else r.latency other := by
  rw [latency, setLatency, standing_put]
  split <;> rfl

theorem latency_setCooldown (r : Registry) (now : Nat) (key : String) (seconds : Nat) :
    (r.setCooldown now key seconds).latency = r.latency := by
  funext other
  rw [latency, setCooldown, standing_put]
  split
  · next hkey =>
    rw [hkey]
    rfl
  · rfl

theorem cityLatency_eq (r : Registry) (city : City) :
    r.cityLatency city = ceilMean ((city.servers.map (·.publicKey)).map r.latency) := by
  rw [List.map_map]
  rfl

theorem ceilMean_concat_zero (values : List Nat) : ceilMean (values ++ [0]) = ceilMean values := by
  have hsame : (values ++ [0]).filter (0 < ·) = values.filter (0 < ·) := by
    rw [List.filter_append]
    exact List.append_nil _
  unfold ceilMean
  rw [hsame]

/-! ## One entry for each server -/

/-- The servers that something is known about. -/
def keys (r : Registry) : List String := r.entries.map (·.1)

/-- No server has two entries, and no cooldown ends after the last second of the clock. -/
structure WellFormed (r : Registry) : Prop where
  keys_nodup : r.keys.Nodup
  ends : ∀ e ∈ r.entries, e.2.coolingUntil ≤ endOfTime

theorem wellFormed_empty : ({} : Registry).WellFormed :=
  ⟨List.nodup_nil, fun _ he => nomatch he⟩

/-- An entry is put in the place of the one before, or else behind all others. -/
theorem keys_put (r : Registry) (key : String) (s : Standing) :
    (r.put key s).keys = if key ∈ r.keys then r.keys else r.keys ++ [key] := by
  have hknown : r.entries.any (·.1 == key) = true ↔ key ∈ r.keys := by
    rw [List.any_eq_true, keys, List.mem_map]
    exact exists_congr fun e => and_congr_right fun _ => beq_iff_eq
  unfold put
  split
  · next h =>
    rw [if_pos (hknown.mp h)]
    -- the entry that is replaced has the same key
    have hsame : ∀ e ∈ r.entries, (if e.1 == key then (key, s) else e).1 = e.1 := by
      intro e _
      split
      · next hkey => exact (beq_iff_eq.mp hkey).symm
      · rfl
    rw [keys, List.map_map]
    exact List.map_congr_left hsame
  · next h =>
    rw [if_neg (mt hknown.mpr h), keys, List.map_append]
    rfl

/-- What stands for a server without an entry says nothing. -/
theorem standing_of_not_mem (h : key ∉ r.keys) : r.standing key = {} := by
  have hnone : r.entries.find? (·.1 == key) = none :=
    List.find?_eq_none.mpr fun e he hkey =>
      h (List.mem_map.mpr ⟨e, he, beq_iff_eq.mp hkey⟩)
  rw [standing, hnone]
  rfl

namespace WellFormed

/-- An entry is what stands for its server. -/
theorem standing_eq (h : r.WellFormed) {e : String × Standing} (he : e ∈ r.entries) :
    r.standing e.1 = e.2 := by
  have hsome : (r.entries.find? (·.1 == e.1)).isSome = true :=
    List.find?_isSome.mpr ⟨e, he, beq_self_eq_true e.1⟩
  obtain ⟨e', he'⟩ := Option.isSome_iff_exists.mp hsome
  have hkey : e'.1 = e.1 := beq_iff_eq.mp (List.find?_some he' :)
  have hsame : e' = e :=
    List.inj_on_of_nodup_map h.keys_nodup (List.mem_of_find?_eq_some he') he hkey
  rw [standing, he', hsame]
  rfl

theorem coolingUntil_le (h : r.WellFormed) (key : String) :
    (r.standing key).coolingUntil ≤ endOfTime := by
  by_cases hkey : key ∈ r.keys
  · obtain ⟨e, he, rfl⟩ := List.mem_map.mp hkey
    rw [h.standing_eq he]
    exact h.ends e he
  · rw [standing_of_not_mem hkey]
    exact Nat.zero_le _

theorem put (h : r.WellFormed) (key : String) {s : Standing} (hs : s.coolingUntil ≤ endOfTime) :
    (r.put key s).WellFormed where
  keys_nodup := by
    rw [keys_put]
    split
    · exact h.keys_nodup
    · next hnew => exact List.nodup_append.mpr ⟨h.keys_nodup, List.nodup_singleton key,
        fun k hk k' hk' heq => hnew (List.mem_singleton.mp hk' ▸ heq ▸ hk)⟩
  ends e he := by
    unfold Registry.put at he
    split at he
    · obtain ⟨e', he', rfl⟩ := List.mem_map.mp he
      split
      · exact hs
      · exact h.ends e' he'
    · rcases List.mem_append.mp he with hold | hnew
      · exact h.ends e hold
      · rw [List.mem_singleton.mp hnew]
        exact hs

theorem setLatency (h : r.WellFormed) (key : String) (ms : Nat) :
    (r.setLatency key ms).WellFormed :=
  h.put key (h.coolingUntil_le key)

theorem setCooldown (h : r.WellFormed) (now : Nat) (key : String) (seconds : Nat) :
    (r.setCooldown now key seconds).WellFormed := by
  refine h.put key ?_
  dsimp only
  split
  · exact Nat.zero_le _
  · exact Nat.min_le_right _ _

/-- Who is left alone stays so when a server is put on cooldown at that moment. -/
theorem isCooling_setCooldown (h : r.WellFormed) (key : String) (hs : seconds ≠ 0)
    (hcool : r.isCooling now other = true) :
    (r.setCooldown now key seconds).isCooling now other = true := by
  rw [isCooling_iff] at hcool ⊢
  rw [coolingUntil_setCooldown r now key hs]
  split
  · -- the clock is not at its end, as a cooldown ends later than now
    have hend := h.coolingUntil_le other
    rw [Nat.lt_min]
    omega
  · exact hcool

/-- The average is taken over the samples of the servers with an entry. -/
theorem averageLatency_eq (h : r.WellFormed) :
    r.averageLatency = ceilMean (r.keys.map r.latency) := by
  have hsame : ∀ e ∈ r.entries, e.2.latency = r.latency e.1 := fun e he => by
    rw [latency, h.standing_eq he]
  rw [averageLatency, keys, List.map_map]
  exact congrArg ceilMean (List.map_congr_left hsame)

/-- A cooldown does not count as a sample, even if nothing was known about the server. -/
theorem averageLatency_setCooldown (h : r.WellFormed) (now : Nat) (key : String) (seconds : Nat) :
    (r.setCooldown now key seconds).averageLatency = r.averageLatency := by
  rw [(h.setCooldown now key seconds).averageLatency_eq, h.averageLatency_eq,
    latency_setCooldown, Registry.setCooldown, keys_put]
  split
  · rfl
  · next hnew =>
    -- the entry that is made counts for nothing, as it has no sample
    have hzero : r.latency key = 0 := by
      rw [latency, standing_of_not_mem hnew]
    rw [List.map_append, List.map_singleton, hzero, ceilMean_concat_zero]

end WellFormed

end TunnelSession.Registry
