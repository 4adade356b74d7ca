/-
  TunnelSession.Proofs.Quality.Choice

  Whichever way a server is chosen, by preference or by a throw of the dice, it is one
  of the servers of the destination that are not cooling down.
-/
import TunnelSession.Quality.Choice

namespace TunnelSession

variable {servers : List Server} {s : Server} {n dice now : Nat} {d : Destination} {r : Registry}

theorem mem_of_atWeight? (h : atWeight? servers n = some s) : s ∈ servers := by
  induction servers generalizing n with
  | nil => cases h
  | cons t servers ih =>
      rw [atWeight?] at h
      split at h
      · cases h
        exact .head _
      · exact .tail _ (ih h)

theorem mem_of_draw? (h : draw? servers dice = some s) : s ∈ servers := by
  unfold draw? at h
  split at h
  · exact List.mem_of_getElem? h
  · exact mem_of_atWeight? h

namespace Destination

theorem mem_available :
    s ∈ d.available r now ↔ s ∈ d.servers ∧ r.isCooling now s.publicKey = false := by
  rw [available, List.mem_filter, Bool.not_eq_true']

theorem mem_of_exitServer? (h : d.exitServer? = some s) : s ∈ d.servers := by
  obtain ⟨key, -, hserver⟩ := Option.bind_eq_some_iff.mp h
  exact List.mem_of_find?_eq_some hserver

theorem mem_of_usableExit? (h : d.usableExit? r now = some s) : s ∈ d.available r now := by
  obtain ⟨hexit, husable⟩ := Option.filter_eq_some_iff.mp h
  exact mem_available.mpr ⟨mem_of_exitServer? hexit, Bool.not_eq_true' _ ▸ husable⟩

theorem usableExit?_eq_some (hexit : d.exitServer? = some s)
    (hcool : r.isCooling now s.publicKey = false) : d.usableExit? r now = some s := by
  rw [usableExit?, hexit, Option.filter_some, hcool]
  rfl

theorem mem_of_choose? (h : d.choose? r now dice = some s) : s ∈ d.available r now := by
  unfold choose? at h
  split at h
  · next exit hexit =>
    cases h
    exact mem_of_usableExit? hexit
  · exact mem_of_draw? h

/-- Where the preferred server cannot be used, a throw of the dice decides. -/
theorem choose?_of_unusable (h : d.usableExit? r now = none) :
    d.choose? r now dice = draw? (d.available r now) dice := by
  rw [choose?, h]

/-- A server that is asked for by its key is chosen if it can be used. The preference that
    the destination had is not looked at. -/
theorem choose?_withExit (d : Destination) (key : String) (r : Registry) (now dice : Nat) :
    (d.withExit key).choose? r now dice =
      ((d.server? key).filter fun s => !r.isCooling now s.publicKey).or
        (draw? (d.available r now) dice) := by
  have husable : (d.withExit key).usableExit? r now =
      (d.server? key).filter fun s => !r.isCooling now s.publicKey := rfl
  rw [choose?, husable]
  cases (d.server? key).filter fun s => !r.isCooling now s.publicKey <;> rfl

theorem publicKey_of_server? {key : String} (h : d.server? key = some s) : s.publicKey = key := by
  unfold server? at h
  exact beq_iff_eq.mp (List.find?_some h :)

end Destination

end TunnelSession
