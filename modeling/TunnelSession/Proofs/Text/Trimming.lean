/-
  TunnelSession.Proofs.Text.Trimming

  What trimming takes away: blanks at both ends, all of them and nothing else. So a text
  is its trimmed form with blanks around it, and a text that has no blank at its ends is
  what is left of it whatever blanks are put around it.
-/
import TunnelSession.Text.Blank
import TunnelSession.Proofs.Text.Numerals

namespace TunnelSession.Text

variable {before after cs : List Char}

/-- Nothing but blanks. -/
def AllBlank (cs : List Char) : Prop := ∀ c ∈ cs, isBlank c = true

theorem allBlank_nil : AllBlank [] :=
  fun _ hc => absurd hc List.not_mem_nil

theorem trim_of_allBlank (h : AllBlank cs) : trim cs = [] := by
  have hdrop : cs.dropWhile isBlank = [] := List.dropWhile_eq_nil_iff.mpr h
  rw [trim, hdrop]
  rfl

/-- Blanks around a text that has none at its own ends are trimmed, and nothing else. -/
theorem trim_around (hbefore : AllBlank before) (hafter : AllBlank after)
    (hfirst : Stops isBlank cs) (hlast : Stops isBlank cs.reverse) :
    trim (before ++ (cs ++ after)) = cs := by
  cases cs with
  | nil =>
      apply trim_of_allBlank
      intro c hc
      rcases List.mem_append.mp hc with hc | hc
      · exact hbefore c hc
      · exact hafter c hc
  | cons c cs =>
      have hstart : Stops isBlank (c :: cs ++ after) := hfirst
      have hend : ∀ c ∈ after.reverse, isBlank c = true :=
        fun c hc => hafter c (List.mem_reverse.mp hc)
      rw [trim, dropWhile_append_stop hbefore hstart, List.reverse_append,
        dropWhile_append_stop hend hlast, List.reverse_reverse]

theorem trim_eq_self (hfirst : Stops isBlank cs) (hlast : Stops isBlank cs.reverse) :
    trim cs = cs := by
  have h := trim_around allBlank_nil allBlank_nil hfirst hlast
  rwa [List.nil_append, List.append_nil] at h

/-- A text is what is left of it with blanks on both sides. -/
theorem exists_blanks_around (cs : List Char) :
    ∃ before after, AllBlank before ∧ AllBlank after ∧ cs = before ++ (trim cs ++ after) := by
  let rest := cs.dropWhile isBlank
  refine ⟨cs.takeWhile isBlank, (rest.reverse.takeWhile isBlank).reverse, ?_, ?_, ?_⟩
  · intro c hc
    exact List.mem_takeWhile_imp hc
  · intro c hc
    exact List.mem_takeWhile_imp (List.mem_reverse.mp hc)
  · have hrest : trim cs ++ (rest.reverse.takeWhile isBlank).reverse = rest := by
      rw [trim, ← List.reverse_append, List.takeWhile_append_dropWhile, List.reverse_reverse]
    rw [hrest, List.takeWhile_append_dropWhile]

/-! ## What trimming leaves -/

theorem stops_dropWhile {α : Type} (p : α → Bool) (cs : List α) : Stops p (cs.dropWhile p) := by
  intro c hc
  have hfirst := List.head?_dropWhile_not p cs
  rw [Option.mem_def.mp hc] at hfirst
  exact hfirst

/-- What trimming leaves has no blank at its end. -/
theorem stops_reverse_trim (cs : List Char) : Stops isBlank (trim cs).reverse := by
  rw [trim, List.reverse_reverse]
  exact stops_dropWhile isBlank _

/-- What trimming leaves has no blank at its start. -/
theorem stops_trim (cs : List Char) : Stops isBlank (trim cs) := by
  intro c hc
  -- it is the start of what is left once the blanks before it are gone
  have hprefix : trim cs <+: cs.dropWhile isBlank := by
    have hsuffix := List.dropWhile_suffix isBlank (l := (cs.dropWhile isBlank).reverse)
    rw [trim, ← List.reverse_suffix, List.reverse_reverse]
    exact hsuffix
  apply stops_dropWhile isBlank cs c
  obtain ⟨after, hafter⟩ := hprefix
  rw [← hafter, List.head?_append, Option.mem_def.mp hc]
  rfl

/-- Blanks at the end make no difference. -/
theorem trim_append_blank (cs : List Char) (hafter : AllBlank after) :
    trim (cs ++ after) = trim cs := by
  obtain ⟨before, blanks, hbefore, hblanks, hcs⟩ := exists_blanks_around cs
  have hboth : AllBlank (blanks ++ after) := by
    intro c hc
    rcases List.mem_append.mp hc with hc | hc
    · exact hblanks c hc
    · exact hafter c hc
  have haround := trim_around hbefore hboth (stops_trim cs) (stops_reverse_trim cs)
  rw [← haround]
  congr 1
  rw [← List.append_assoc, ← List.append_assoc, List.append_assoc before, ← hcs]

theorem mem_of_mem_trim {c : Char} (hc : c ∈ trim cs) : c ∈ cs := by
  obtain ⟨before, after, -, -, hcs⟩ := exists_blanks_around cs
  rw [hcs]
  exact List.mem_append_right _ (List.mem_append_left _ hc)

end TunnelSession.Text
