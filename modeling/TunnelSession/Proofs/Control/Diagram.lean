/-
  TunnelSession.Proofs.Control.Diagram

  The diagram of the phases, with the failure paths back to off, and the paths
  through it.
-/
import TunnelSession.Control.Basic
import Mathlib.Data.List.Chain

namespace TunnelSession.Phase

/-- The arrows of the diagram. -/
def leadsTo : Phase → Phase → Bool
  | initializing, off | initializing, on => true
  | off, connecting | off, on => true
  | connecting, confirming | connecting, switching | connecting, silentSwitching => true
  | connecting, disconnecting | connecting, off => true
  | confirming, on | confirming, switching | confirming, silentSwitching => true
  | confirming, disconnecting | confirming, off => true
  | on, disconnecting | on, switching | on, silentSwitching | on, captivePortal | on, off => true
  | switching, on | switching, silentSwitching | switching, disconnecting | switching, off => true
  | silentSwitching, on | silentSwitching, switching => true
  | silentSwitching, disconnecting | silentSwitching, off => true
  | captivePortal, disconnecting | captivePortal, connecting | captivePortal, off => true
  | disconnecting, off => true
  | _, _ => false

/-- No arrow leads from a phase to itself. -/
theorem leadsTo_irrefl (p : Phase) : p.leadsTo p = false := by
  cases p <;> rfl

/-- Every phase can fall back to off. -/
theorem leadsTo_off {p : Phase} (h : p ≠ off) : p.leadsTo off = true := by
  cases p <;> first | rfl | exact absurd rfl h

/-- A tunnel that is up or on its way up can be taken down. -/
theorem leadsTo_disconnecting {p : Phase} (h : p.isActive = true) :
    p.leadsTo disconnecting = true := by
  cases p <;> first | rfl | exact absurd h (by decide)

/-- From every tunnel there is a way to another server that the user knows of. -/
theorem leadsTo_switching {p : Phase} (h : p.isActive = true) (hne : p ≠ switching) :
    p.leadsTo switching = true := by
  cases p <;> first | rfl | exact absurd h (by decide) | exact absurd rfl hne

/-- The same for a way that the user does not know of. -/
theorem leadsTo_silentSwitching {p : Phase} (h : p.isActive = true) (hne : p ≠ silentSwitching) :
    p.leadsTo silentSwitching = true := by
  cases p <;> first | rfl | exact absurd h (by decide) | exact absurd rfl hne

/-- The phases without a tunnel are the four others. -/
theorem isActive_of_ne {p : Phase} (hoff : p ≠ off) (hinit : p ≠ initializing)
    (hdis : p ≠ disconnecting) (hportal : p ≠ captivePortal) : p.isActive = true := by
  cases p <;> first | rfl | contradiction

/-- `IsPath p l q`: the phases of `l`, entered one after the other from `p` on,
    follow the arrows and end in `q`. -/
def IsPath : Phase → List Phase → Phase → Prop
  | p, [], q => p = q
  | p, r :: l, q => p.leadsTo r = true ∧ IsPath r l q

/-- What is told on the way from one phase to another. -/
def stepTo (p q : Phase) : List Phase := if p = q then [] else [q]

@[simp] theorem stepTo_self (p : Phase) : p.stepTo p = [] := if_pos rfl

theorem isPath_stepTo {p q : Phase} (h : p ≠ q → p.leadsTo q = true) : IsPath p (p.stepTo q) q := by
  unfold stepTo
  split
  · next heq => exact heq
  · next hne => exact ⟨h hne, rfl⟩

theorem IsPath.append {p q r : Phase} {l m : List Phase} (hl : IsPath p l q) (hm : IsPath q m r) :
    IsPath p (l ++ m) r := by
  induction l generalizing p with
  | nil =>
      have hpq : p = q := hl
      rw [hpq]
      exact hm
  | cons x l ih => exact ⟨hl.1, ih hl.2⟩

/-- Two phases that follow each other on a path differ. -/
theorem IsPath.isChain_ne {p q : Phase} {l : List Phase} (h : IsPath p l q) :
    (p :: l).IsChain (· ≠ ·) := by
  induction l generalizing p with
  | nil => exact .singleton p
  | cons x l ih =>
      refine .cons_cons ?_ (ih h.2)
      intro heq
      have hself : x.leadsTo x = true := heq ▸ h.1
      rw [leadsTo_irrefl] at hself
      exact Bool.noConfusion hself

end TunnelSession.Phase
