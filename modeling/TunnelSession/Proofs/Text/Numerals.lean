/-
  TunnelSession.Proofs.Text.Numerals

  Numerals that were written are read back: a run of digits has the value of the
  number that it was written for, and begins with a zero only if it is one.
-/
import TunnelSession.Text.Numeral
import Mathlib.Data.List.TakeWhile

namespace TunnelSession.Text

/-- The text ends, or goes on with something that has not the property. -/
def Stops {α : Type} (p : α → Bool) (rest : List α) : Prop :=
  ∀ c ∈ rest.head?, p c = false

section Stops

variable {α : Type} {p : α → Bool} {run rest : List α} {c : α}

theorem stops_nil : Stops p [] :=
  fun _ hc => nomatch hc

theorem stops_cons (hc : p c = false) : Stops p (c :: rest) := by
  intro d hd
  rw [← Option.some.inj hd]
  exact hc

theorem Stops.takeWhile (h : Stops p rest) : rest.takeWhile p = [] := by
  cases rest with
  | nil => rfl
  | cons c rest => rw [List.takeWhile_cons, h c rfl]; rfl

theorem Stops.dropWhile (h : Stops p rest) : rest.dropWhile p = rest := by
  cases rest with
  | nil => rfl
  | cons c rest => rw [List.dropWhile_cons, h c rfl]; rfl

/-- A run that something other than the property follows is taken as a whole. -/
theorem takeWhile_append_stop (hrun : ∀ c ∈ run, p c = true) (hrest : Stops p rest) :
    (run ++ rest).takeWhile p = run := by
  rw [List.takeWhile_append_of_pos hrun, hrest.takeWhile, List.append_nil]

theorem dropWhile_append_stop (hrun : ∀ c ∈ run, p c = true) (hrest : Stops p rest) :
    (run ++ rest).dropWhile p = rest := by
  rw [List.dropWhile_append_of_pos hrun, hrest.dropWhile]

end Stops

/-! ## Digits -/

theorem digitValue?_digitChar {radix d : Nat} (h16 : radix ≤ 16) (hd : d < radix) :
    digitValue? radix d.digitChar = some d := by
  have hall : ∀ radix ≤ 16, ∀ d < radix, digitValue? radix d.digitChar = some d := by decide
  exact hall radix h16 d hd

/-- A digit is one of every greater radix. -/
theorem isDigitOf_mono {radix more : Nat} (h : radix ≤ more) {c : Char}
    (hc : isDigitOf radix c = true) : isDigitOf more c = true := by
  obtain ⟨v, hv⟩ := Option.isSome_iff_exists.mp hc
  simp only [digitValue?, Option.filter_eq_some_iff, decide_eq_true_eq] at hv
  refine Option.isSome_iff_exists.mpr ⟨v, ?_⟩
  simp only [digitValue?, Option.filter_eq_some_iff, decide_eq_true_eq]
  exact ⟨hv.1, Nat.lt_of_lt_of_le hv.2 h⟩

theorem valueOf_concat (radix : Nat) (ds : List Char) (c : Char) :
    valueOf radix (ds ++ [c]) = valueOf radix ds * radix + (digitValue? radix c).getD 0 := by
  rw [valueOf, List.foldl_append]
  rfl

section Written

variable {radix n : Nat} (h1 : 1 < radix) (h16 : radix ≤ 16)

include h1 h16

theorem isDigitOf_of_mem_toDigits {c : Char} (hc : c ∈ Nat.toDigits radix n) :
    isDigitOf radix c = true := by
  induction n using Nat.strongRecOn with
  | ind n ih =>
      by_cases hn : n < radix
      · rw [Nat.toDigits_of_lt_base hn, List.mem_singleton] at hc
        rw [hc, isDigitOf, digitValue?_digitChar h16 hn]
        rfl
      · rw [Nat.toDigits_of_base_le h1 (Nat.le_of_not_lt hn), List.mem_append,
          List.mem_singleton] at hc
        rcases hc with hc | rfl
        · exact ih (n / radix) (Nat.div_lt_self (by omega) h1) hc
        · rw [isDigitOf, digitValue?_digitChar h16 (Nat.mod_lt n (by omega))]
          rfl

/-- Digits are worth the number that they were written for. -/
theorem valueOf_toDigits (n : Nat) : valueOf radix (Nat.toDigits radix n) = n := by
  induction n using Nat.strongRecOn with
  | ind n ih =>
      by_cases hn : n < radix
      · rw [Nat.toDigits_of_lt_base hn, ← List.nil_append [_], valueOf_concat,
          digitValue?_digitChar h16 hn]
        exact (congrArg (· + n) (Nat.zero_mul radix)).trans (Nat.zero_add n)
      · rw [Nat.toDigits_of_base_le h1 (Nat.le_of_not_lt hn), valueOf_concat,
          ih (n / radix) (Nat.div_lt_self (by omega) h1),
          digitValue?_digitChar h16 (Nat.mod_lt n (by omega))]
        exact Nat.div_add_mod' n radix

/-- No digits of another number than zero begin with a zero. -/
theorem head?_toDigits (hn : n ≠ 0) : (Nat.toDigits radix n).head? ≠ some '0' := by
  induction n using Nat.strongRecOn with
  | ind n ih =>
      by_cases hlt : n < radix
      · rw [Nat.toDigits_of_lt_base hlt]
        intro hzero
        have hvalue := digitValue?_digitChar h16 hlt
        rw [Option.some.inj hzero, digitValue?] at hvalue
        simp only [Option.filter_eq_some_iff] at hvalue
        exact hn (Option.some.inj hvalue.1).symm
      · have hle : radix ≤ n := Nat.le_of_not_lt hlt
        have hpos : n / radix ≠ 0 := Nat.ne_of_gt (Nat.div_pos hle (by omega))
        have htail := ih (n / radix) (Nat.div_lt_self (by omega) h1) hpos
        rw [Nat.toDigits_of_base_le h1 hle]
        generalize hds : Nat.toDigits radix (n / radix) = ds at htail
        cases ds with
        | nil => exact absurd (congrArg List.length hds) (Nat.ne_of_gt Nat.length_toDigits_pos)
        | cons c ds => exact htail

/-- The digits of a number are one zero, or do not begin with a zero. -/
theorem no_leading_zero :
    ¬1 < (Nat.toDigits radix n).length ∨ (Nat.toDigits radix n).head? ≠ some '0' := by
  by_cases hn : n = 0
  · left
    rw [hn, Nat.toDigits_of_lt_base (by omega)]
    exact Nat.lt_irrefl 1
  · exact .inr (head?_toDigits h1 h16 hn)

theorem takeWhile_toDigits {rest : List Char} (hrest : Stops (isDigitOf radix) rest) :
    (Nat.toDigits radix n ++ rest).takeWhile (isDigitOf radix) = Nat.toDigits radix n :=
  takeWhile_append_stop (fun _ hc => isDigitOf_of_mem_toDigits h1 h16 hc) hrest

end Written

/-- The first digit of a number, and what follows it. -/
theorem toDigits_cons (n : Nat) : ∃ d ds, Nat.toDigits 10 n = d :: ds ∧ d.isDigit = true := by
  have hpos : 0 < (Nat.toDigits 10 n).length := Nat.length_toDigits_pos
  cases hds : Nat.toDigits 10 n with
  | nil => rw [hds] at hpos; exact absurd hpos (Nat.lt_irrefl 0)
  | cons d ds =>
      have hmem : d ∈ Nat.toDigits 10 n := by
        rw [hds]
        exact List.mem_cons_self
      exact ⟨d, ds, rfl, Nat.isDigit_of_mem_toDigits (by decide) (by decide) hmem⟩

/-- A sign or a digit is no other character. -/
theorem ne_of_number {c : Char} (hc : c = '-' ∨ c.isDigit = true) (d : Char) (hminus : d ≠ '-')
    (hdigit : d.isDigit = false) : c ≠ d := by
  rintro rfl
  exact hc.elim hminus fun h => Bool.false_ne_true (hdigit.symm.trans h)

/-- A numeral is read back within every bound that it does not exceed. -/
theorem readBounded?_decimal {most n : Nat} (h : n ≤ most) :
    readBounded? most (decimal n) = some n := by
  have hdigits : ∀ c ∈ Nat.toDigits 10 n, isDigitOf 10 c = true := fun _ hc =>
    isDigitOf_of_mem_toDigits (by decide) (by decide) hc
  have hvalue : valueOf 10 (Nat.toDigits 10 n) = n := valueOf_toDigits (by decide) (by decide) n
  have hne : Nat.toDigits 10 n ≠ [] := List.ne_nil_of_length_pos Nat.length_toDigits_pos
  have hread : readDigits? 10 (Nat.toDigits 10 n) = some n := by
    rw [readDigits?, if_pos ⟨hne, List.all_eq_true.mpr hdigits⟩, hvalue]
  rw [readBounded?, decimal, String.toList_ofList]
  -- the first digit is no sign
  split
  · next rest heq =>
    have hplus : isDigitOf 10 '+' = true := hdigits _ (by rw [heq]; exact List.mem_cons_self)
    exact absurd hplus (by decide)
  · rw [hread, Option.filter_some, if_pos (decide_eq_true h)]

/-- Digits up to hexadecimal ones stand between the zero and the small f. -/
theorem toNat_of_isDigitOf {radix : Nat} {c : Char} (h : isDigitOf radix c = true) :
    0x30 ≤ c.toNat ∧ c.toNat ≤ 0x66 := by
  obtain ⟨v, hv⟩ := Option.isSome_iff_exists.mp h
  have hle : ∀ d : Char, (d ≤ c ↔ d.toNat ≤ c.toNat) ∧ (c ≤ d ↔ c.toNat ≤ d.toNat) :=
    fun d => ⟨Iff.rfl, Iff.rfl⟩
  simp only [digitValue?, Option.filter_eq_some_iff, (hle _).1, (hle _).2, Char.reduceToNat] at hv
  obtain ⟨hv, -⟩ := hv
  split at hv
  · omega
  split at hv
  · omega
  split at hv
  · omega
  · cases hv

end TunnelSession.Text
