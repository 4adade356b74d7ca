/-
  TunnelSession.Proofs.Wire.Requests

  What a list of requests asks for. Only two kinds of requests touch the tunnel,
  and the last of these says which tunnel is to be up once all are taken.
-/
import TunnelSession.Wire.Message
import Mathlib.Data.List.Induction

namespace TunnelSession

/-- Whether a request brings a tunnel up or down. -/
@[simp] def Request.isOrder : Request → Bool
  | activate _ | deactivate => true
  | _ => false

/-- The tunnel that is to be up after a request, where `up` was to be up before. -/
@[simp] def Request.want (up : Option TunnelConfig) : Request → Option TunnelConfig
  | .activate config => some config
  | .deactivate => none
  | _ => up

/-- The tunnel that requests ask for, the last of them last. -/
def wanted (requests : List Request) : Option TunnelConfig :=
  requests.foldl Request.want none

section Wanted

variable {old new : List Request}

@[simp] theorem wanted_concat (old : List Request) (r : Request) :
    wanted (old ++ [r]) = r.want (wanted old) := by
  simp [wanted]

theorem want_of_not_isOrder {r : Request} (h : r.isOrder = false) (up : Option TunnelConfig) :
    r.want up = up := by
  cases r with
  | activate config => cases h
  | deactivate => cases h
  | status | logs | cleanLogs => rfl

/-- There is an order in a list of requests, or all leave the tunnel alone. -/
theorem order_or_quiet (requests : List Request) :
    (∃ r ∈ requests, r.isOrder = true) ∨ ∀ r ∈ requests, r.isOrder = false := by
  by_cases h : ∃ r ∈ requests, r.isOrder = true
  · exact .inl h
  · exact .inr fun r hr => Bool.eq_false_iff.mpr fun horder => h ⟨r, hr, horder⟩

/-- Requests that leave the tunnel alone do not change what is asked for. -/
theorem wanted_append_quiet (h : ∀ r ∈ new, r.isOrder = false) :
    wanted (old ++ new) = wanted old := by
  induction new using List.reverseRecOn with
  | nil => rw [List.append_nil]
  | append_singleton new r ih =>
      have hnew : ∀ r ∈ new, r.isOrder = false := fun q hq => h q (List.mem_append_left _ hq)
      have hr : r.isOrder = false := h r (List.mem_append_right _ (List.mem_singleton_self r))
      rw [← List.append_assoc, wanted_concat, ih hnew, want_of_not_isOrder hr]

/-- Nothing is asked for before the first order. -/
theorem wanted_eq_none (h : ∀ r ∈ new, r.isOrder = false) : wanted new = none :=
  (congrArg wanted (List.nil_append new).symm).trans (wanted_append_quiet h)

/-- If new orders leave no tunnel asked for, one of them takes a tunnel down. -/
theorem deactivate_mem_of_wanted_eq_none (h : wanted (old ++ new) = none)
    (horder : ∃ r ∈ new, r.isOrder = true) : .deactivate ∈ new := by
  induction new using List.reverseRecOn with
  | nil =>
      obtain ⟨r, hr, -⟩ := horder
      exact absurd hr List.not_mem_nil
  | append_singleton new r ih =>
      rw [← List.append_assoc, wanted_concat] at h
      cases r with
      | activate config => cases h
      | deactivate => exact List.mem_append_right _ (List.mem_singleton_self _)
      | status | logs | cleanLogs =>
          -- the last request is no order, so an earlier one is
          obtain ⟨q, hq, hqorder⟩ := horder
          refine List.mem_append_left _ (ih h ⟨q, ?_, hqorder⟩)
          rcases List.mem_append.mp hq with hq | hq
          · exact hq
          · rw [List.mem_singleton.mp hq] at hqorder
            cases hqorder

/-- The end of a tunnel is not asked for in requests that leave it alone. -/
theorem deactivate_not_mem (h : ∀ r ∈ new, r.isOrder = false) : .deactivate ∉ new :=
  fun hmem => absurd (h _ hmem) nofun

end Wanted

/-! ## Tunnels up, tunnels down -/

/-- Requests that take a tunnel down only where one is asked for. -/
def Paired (requests : List Request) : Prop :=
  ∀ n, requests[n]? = some .deactivate → (wanted (requests.take n)).isSome = true

theorem Paired.concat {requests : List Request} {r : Request} (h : Paired requests)
    (hr : r = .deactivate → (wanted requests).isSome = true) : Paired (requests ++ [r]) := by
  intro n hn
  -- one of the old requests, the new one, or none
  rcases Nat.lt_trichotomy n requests.length with hlt | heq | hgt
  · rw [List.getElem?_append_left hlt] at hn
    rw [List.take_append_of_le_length (Nat.le_of_lt hlt)]
    exact h n hn
  · rw [heq, List.getElem?_concat_length] at hn
    rw [heq, List.take_left]
    exact hr (Option.some.inj hn)
  · have hlen : (requests ++ [r]).length ≤ n := by
      rw [List.length_append, List.length_singleton]
      omega
    rw [List.getElem?_eq_none hlen] at hn
    cases hn

end TunnelSession
