/-
  TunnelSession.Proofs.Net.Count

  How many ranges a tunnel is routed by. The blocks of an interval grow up to the
  largest one and shrink after it, so there are at most two of each size; and a hole
  splits at most one of the intervals that are left of a family, since these lie
  apart. So the ranges are as many as the holes, up to a factor.
-/
import TunnelSession.Proofs.Net.Coverage
import Mathlib.Algebra.Order.BigOperators.Group.List
import Mathlib.Algebra.Order.Ring.Nat

namespace TunnelSession.Net

/-! ## Blocks of an interval -/

/-- The block at the start of an interval is the largest that can be. -/
theorem le_blockBits {first last k bits : Nat} (hk : k ≤ bits) (haligned : 2 ^ k ∣ first)
    (hfits : first + 2 ^ k ≤ last + 1) : k ≤ blockBits first last bits := by
  induction bits with
  | zero =>
      rw [Nat.le_zero.mp hk]
      exact Nat.zero_le _
  | succ bits ih =>
      unfold blockBits
      split
      · exact hk
      · next hlarger =>
        -- the bound itself is no such size, so `k` is below it
        have hne : k ≠ bits + 1 := fun heq => hlarger (heq ▸ ⟨haligned, hfits⟩)
        exact ih (by omega)

/-- Next to an aligned number that is not aligned any further lies one that is. -/
theorem two_pow_succ_dvd_add {a k : Nat} (h : 2 ^ k ∣ a) (hnot : ¬ 2 ^ (k + 1) ∣ a) :
    2 ^ (k + 1) ∣ a + 2 ^ k := by
  obtain ⟨q, rfl⟩ := h
  have hodd : q % 2 = 1 := by
    by_contra heven
    refine hnot ⟨q / 2, ?_⟩
    rw [Nat.pow_succ, Nat.mul_assoc, Nat.mul_div_cancel' (by omega)]
  refine ⟨(q + 1) / 2, ?_⟩
  rw [Nat.pow_succ, Nat.mul_assoc, Nat.mul_div_cancel' (by omega), Nat.mul_add, Nat.mul_one]

/-- Where a larger block is aligned, it does not fit. -/
theorem Span.lt_of_aligned {bits : Nat} {s : Span} (hbits : s.headBits bits < bits)
    (haligned : 2 ^ (s.headBits bits + 1) ∣ s.first) :
    s.last + 1 < s.first + 2 ^ (s.headBits bits + 1) := by
  by_contra hfits
  have hle : s.headBits bits + 1 ≤ s.headBits bits :=
    le_blockBits hbits haligned (Nat.le_of_not_lt hfits)
  exact Nat.not_succ_le_self _ hle

/-- An interval that is shorter than an aligned block at its start has at most one
    block of each smaller size. -/
theorem Span.length_blocks_of_short {bits m : Nat} {s : Span} (hne : s.first ≤ s.last)
    (hm : m ≤ bits) (haligned : 2 ^ m ∣ s.first) (hshort : s.last + 1 < s.first + 2 ^ m) :
    (s.blocks bits).length ≤ m := by
  fun_induction blocks bits s generalizing m with
  | case1 s hmore ih =>
      simp only [Nat.pow_eq] at hmore ih ⊢
      have hhead : 2 ^ s.headBits bits ∣ s.first := (blockBits_fits hne bits).2.1
      have hpow : 2 ^ s.headBits bits < 2 ^ m := by omega
      have hlt : s.headBits bits < m := (Nat.pow_lt_pow_iff_right (by decide)).mp hpow
      have hnext : s.last + 1 < s.first + 2 ^ (s.headBits bits + 1) :=
        lt_of_aligned (by omega) (Nat.dvd_trans (Nat.pow_dvd_pow 2 hlt) haligned)
      rw [Nat.pow_succ] at hnext
      -- what is left is shorter than the block before it
      have hrest := ih hmore (m := s.headBits bits) (by omega)
        (Nat.dvd_add hhead (Nat.dvd_refl _)) (by omega)
      rw [List.length_cons]
      omega
  | case2 s hend =>
      -- an interval that is not empty is no shorter than a block of one
      have hpos : m ≠ 0 := by
        rintro rfl
        rw [Nat.pow_zero] at hshort
        omega
      rw [List.length_singleton]
      omega

/-- An interval has at most two blocks of each size, less those that are too small for
    where it starts. -/
theorem Span.length_blocks_add_le {bits m : Nat} {s : Span} (h : s.Within (2 ^ bits))
    (hm : m ≤ bits) (haligned : 2 ^ m ∣ s.first) :
    (s.blocks bits).length + m ≤ 2 * bits + 1 := by
  fun_induction blocks bits s generalizing m with
  | case1 s hmore ih =>
      simp only [Nat.pow_eq] at hmore ih ⊢
      obtain ⟨hne, hlast⟩ := h
      have hhead : 2 ^ s.headBits bits ∣ s.first := (blockBits_fits hne bits).2.1
      have hpow : 2 ^ s.headBits bits < 2 ^ bits := by omega
      have hlt : s.headBits bits < bits := (Nat.pow_lt_pow_iff_right (by decide)).mp hpow
      rw [List.length_cons]
      by_cases hmid : 2 ^ (s.headBits bits + 1) ∣ s.first
      · -- from here on the blocks shrink
        have hnext := lt_of_aligned hlt hmid
        rw [Nat.pow_succ] at hnext
        have hrest := length_blocks_of_short (s := ⟨s.first + 2 ^ s.headBits bits, s.last⟩) hmore
          (Nat.le_of_lt hlt) (Nat.dvd_add hhead (Nat.dvd_refl _)) (by dsimp only; omega)
        omega
      · -- the next block is larger
        have hle : m ≤ s.headBits bits := by
          by_contra hgt
          exact hmid (Nat.dvd_trans (Nat.pow_dvd_pow 2 (Nat.lt_of_not_le hgt)) haligned)
        have hrest := ih ⟨hmore, hlast⟩ hlt (two_pow_succ_dvd_add hhead hmid)
        omega
  | case2 s hend =>
      rw [List.length_singleton]
      omega

theorem Span.length_blocks_le {bits : Nat} {s : Span} (h : s.Within (2 ^ bits)) :
    (s.blocks bits).length ≤ 2 * bits + 1 :=
  s.length_blocks_add_le h (Nat.zero_le bits) (Nat.one_dvd s.first)

/-! ## Intervals apart -/

/-- One interval ends before the other starts. -/
def Span.Before (s t : Span) : Prop := s.last < t.first

/-- One interval ends before the other starts, and a number lies between them. -/
def Span.Apart (s t : Span) : Prop := s.last + 1 < t.first

theorem Span.Apart.before {s t : Span} (h : s.Apart t) : s.Before t :=
  Nat.lt_of_succ_lt h

/-- What is left of an interval lies in it. -/
theorem Span.without_bounds {s hole t : Span} (ht : t ∈ s.without hole) :
    s.first ≤ t.first ∧ t.last ≤ s.last := by
  unfold without at ht
  split at ht
  · rw [List.mem_singleton.mp ht]
    exact ⟨Nat.le_refl _, Nat.le_refl _⟩
  · simp only [List.mem_append, List.mem_ite_nil_right, List.mem_singleton] at ht
    rcases ht with ⟨hfirst, rfl⟩ | ⟨hlast, rfl⟩ <;> dsimp only <;> omega

/-- What is left of an interval on both sides of a hole lies apart, as the hole is not
    empty. -/
theorem Span.pairwise_without (s : Span) {hole : Span} (hhole : hole.first ≤ hole.last) :
    (s.without hole).Pairwise Apart := by
  unfold without
  split
  · exact List.pairwise_singleton _ _
  · split <;> split
    · refine List.pairwise_pair.mpr ?_
      unfold Apart
      dsimp only
      omega
    · exact List.pairwise_singleton _ _
    · exact List.pairwise_singleton _ _
    · exact List.Pairwise.nil

/-- At most two intervals are left of one, and one if the hole reaches its end. -/
theorem Span.length_without_le (s hole : Span) :
    (s.without hole).length ≤ if hole.last < s.last then 2 else 1 := by
  unfold without
  split <;> split <;> simp
  all_goals split <;> simp

/-- Intervals that lie apart do so without a hole. -/
theorem pairwise_flatMap_without {spans : List Span} {hole : Span}
    (hapart : spans.Pairwise Span.Apart) (hhole : hole.first ≤ hole.last) :
    (spans.flatMap (·.without hole)).Pairwise Span.Apart := by
  refine List.pairwise_flatMap.mpr ⟨fun s _ => s.pairwise_without hhole, ?_⟩
  refine hapart.imp fun hst x hx y hy => ?_
  have hlast := (Span.without_bounds hx).2
  have hfirst := (Span.without_bounds hy).1
  unfold Span.Apart at hst ⊢
  omega

/-- So does what is left when all holes are cut out. -/
theorem pairwise_cut {spans holes : List Span} (hapart : spans.Pairwise Span.Apart)
    (hholes : ∀ hole ∈ holes, hole.first ≤ hole.last) :
    (cut spans holes).Pairwise Span.Apart := by
  induction holes generalizing spans with
  | nil => exact hapart
  | cons hole holes ih =>
      obtain ⟨hhole, hholes⟩ := List.forall_mem_cons.mp hholes
      exact ih (pairwise_flatMap_without hapart hhole) hholes

/-- A hole splits one of the intervals at most. -/
theorem length_flatMap_without {spans : List Span} (hole : Span)
    (hapart : spans.Pairwise Span.Before) :
    (spans.flatMap (·.without hole)).length ≤ spans.length + 1 := by
  induction spans with
  | nil => exact Nat.zero_le _
  | cons s spans ih =>
      obtain ⟨hs, hspans⟩ := List.pairwise_cons.mp hapart
      rw [List.flatMap_cons, List.length_append, List.length_cons]
      by_cases hinside : hole.last < s.last
      · -- the hole does not reach the others
        have hothers : spans.flatMap (·.without hole) = spans := by
          have hsame : ∀ t ∈ spans, t.without hole = [t] := fun t ht =>
            if_pos (.inl (Nat.lt_trans hinside (hs t ht)))
          rw [List.flatMap_congr hsame, List.flatMap_singleton']
        have hsplit := s.length_without_le hole
        rw [if_pos hinside] at hsplit
        rw [hothers]
        omega
      · have hwhole := s.length_without_le hole
        rw [if_neg hinside] at hwhole
        have hrest := ih hspans
        omega

/-- Each hole adds an interval at most. -/
theorem length_cut_le {spans holes : List Span} (hapart : spans.Pairwise Span.Apart)
    (hholes : ∀ hole ∈ holes, hole.first ≤ hole.last) :
    (cut spans holes).length ≤ spans.length + holes.length := by
  induction holes generalizing spans with
  | nil => exact Nat.le_refl _
  | cons hole holes ih =>
      have hhere := length_flatMap_without hole (hapart.imp Span.Apart.before)
      have hrest := ih (pairwise_flatMap_without hapart (hholes hole List.mem_cons_self))
        fun h hh => hholes h (List.mem_cons_of_mem hole hh)
      rw [cut, List.foldl_cons, ← cut, List.length_cons]
      omega

/-! ## Ranges of a tunnel -/

theorem Cidr.span_nonempty (r : Cidr) : r.span.first ≤ r.span.last :=
  Nat.le_add_right _ _

theorem Family.holes_nonempty (f : Family) (excluded : List Cidr) :
    ∀ hole ∈ ((f.localBlocks ++ excluded).filter (fun r => r.address.family == f)).map Cidr.span,
      hole.first ≤ hole.last :=
  List.forall_mem_map.mpr fun r _ => r.span_nonempty

/-- The intervals that are left of a family lie apart. -/
theorem Family.pairwise_spans (f : Family) (excluded : List Cidr) :
    (f.spans excluded).Pairwise Span.Apart :=
  pairwise_cut (List.pairwise_singleton Span.Apart f.whole) (f.holes_nonempty excluded)

/-- The intervals that are left of a family are no more than what is left out of it,
    and one. -/
theorem Family.length_spans_le (f : Family) (excluded : List Cidr) :
    (f.spans excluded).length ≤ f.localBlocks.length + excluded.length + 1 := by
  have hcut := length_cut_le (List.pairwise_singleton Span.Apart f.whole)
    (f.holes_nonempty excluded)
  have hfilter : ((f.localBlocks ++ excluded).filter (fun r => r.address.family == f)).length ≤
      f.localBlocks.length + excluded.length := by
    rw [← List.length_append]
    exact List.length_filter_le _ _
  rw [List.length_map, List.length_singleton] at hcut
  rw [spans]
  omega

theorem Family.length_routed_le (f : Family) (excluded : List Cidr) :
    (f.routed excluded).length ≤
      (f.localBlocks.length + excluded.length + 1) * (2 * f.width + 1) := by
  have hblocks : ((f.spans excluded).map fun s => (s.blocks f.width).length).sum ≤
      ((f.spans excluded).map fun s => (s.blocks f.width).length).length * (2 * f.width + 1) := by
    refine List.sum_le_card_nsmul _ _ (List.forall_mem_map.mpr fun s hs => ?_)
    exact Span.length_blocks_le (f.spans_within excluded s hs)
  rw [List.length_map] at hblocks
  rw [routed_eq, List.length_map, List.length_flatMap]
  exact Nat.le_trans hblocks (Nat.mul_le_mul_right _ (f.length_spans_le excluded))

/-- The ranges of a tunnel are at most 322 for each excluded one, and 1098 more. -/
theorem length_allowedRanges_le (gateway4 : BitVec 32) (gateway6 : Option (BitVec 128))
    (excluded : List Cidr) :
    (allowedRanges gateway4 gateway6 excluded).length ≤ 322 * excluded.length + 1098 := by
  have hv4 : (Family.v4.routed excluded).length ≤ (4 + excluded.length + 1) * 65 :=
    Family.v4.length_routed_le excluded
  have hv6 : (Family.v6.routed excluded).length ≤ (2 + excluded.length + 1) * 257 :=
    Family.v6.length_routed_le excluded
  unfold allowedRanges
  cases gateway6 with
  | none => simp; omega
  | some g => simp; omega

end TunnelSession.Net
