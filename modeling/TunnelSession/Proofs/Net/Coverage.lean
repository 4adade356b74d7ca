/-
  TunnelSession.Proofs.Net.Coverage

  What the routes of a tunnel cover. Addresses of a family are numbers of its
  width, a range is an interval of them, and so the question is one about
  intervals: cutting a hole out of one leaves the numbers outside the hole, and
  the aligned blocks of an interval hold its numbers and no others. Nothing leaks
  past the holes, and nothing is lost at their edges.
-/
import TunnelSession.Net.Carve
import Mathlib.Algebra.Group.Nat.Defs
import Mathlib.Data.List.Basic

namespace TunnelSession.Net

/-! ## Addresses as numbers -/

theorem Address.toNat_lt (a : Address) : a.toNat < 2 ^ a.family.width := by
  cases a with
  | v4 bits => exact bits.isLt
  | v6 bits => exact bits.isLt

/-- Two addresses are of one family if both are of IPv6 or neither is. -/
theorem Address.isV6_eq_iff {a b : Address} : a.isV6 = b.isV6 ↔ a.family = b.family := by
  cases a <;> cases b <;> simp [isV6, family]

/-- An address is known by its family and its number. -/
theorem Address.ext {a b : Address} (hf : a.family = b.family) (hn : a.toNat = b.toNat) :
    a = b := by
  cases a <;> cases b <;> cases hf
  · exact congrArg v4 (BitVec.eq_of_toNat_eq hn)
  · exact congrArg v6 (BitVec.eq_of_toNat_eq hn)

theorem Family.family_address (f : Family) (n : Nat) : (f.address n).family = f := by
  cases f <;> rfl

theorem Family.toNat_address (f : Family) {n : Nat} (h : n < 2 ^ f.width) :
    (f.address n).toNat = n := by
  cases f <;> exact (BitVec.toNat_ofNat n _).trans (Nat.mod_eq_of_lt h)

/-! ## Intervals -/

instance : Membership Nat Span := ⟨fun s n => s.first ≤ n ∧ n ≤ s.last⟩

theorem Span.mem_def {s : Span} {n : Nat} : n ∈ s ↔ s.first ≤ n ∧ n ≤ s.last := Iff.rfl

/-- Numbers share their upper bits if they lie in one aligned block. -/
theorem shiftRight_eq_iff {a n h : Nat} :
    a >>> h = n >>> h ↔ a / 2 ^ h * 2 ^ h ≤ n ∧ n ≤ a / 2 ^ h * 2 ^ h + (2 ^ h - 1) := by
  have hsize : 0 < 2 ^ h := Nat.two_pow_pos h
  rw [Nat.shiftRight_eq_div_pow, Nat.shiftRight_eq_div_pow]
  constructor
  · intro heq
    rw [heq]
    have hdiv := Nat.div_add_mod' n (2 ^ h)
    have hmod := Nat.mod_lt n hsize
    omega
  · rintro ⟨hle, hlt⟩
    refine (Nat.div_eq_of_lt_le hle ?_).symm
    rw [Nat.add_mul, Nat.one_mul]
    omega

/-- The interval of a range holds the numbers of its addresses. -/
theorem Cidr.contains_iff {r : Cidr} {a : Address} :
    r.contains a = true ↔ r.address.family = a.family ∧ a.toNat ∈ r.span := by
  rw [contains, Bool.and_eq_true, beq_iff_eq, beq_iff_eq, Address.isV6_eq_iff, shiftRight_eq_iff]
  rfl

/-- What is left without a hole is what was there and is not in it. -/
theorem Span.mem_without {s hole : Span} {n : Nat} :
    (∃ t ∈ s.without hole, n ∈ t) ↔ n ∈ s ∧ n ∉ hole := by
  simp only [mem_def]
  unfold without
  split
  · next hapart =>
    simp only [List.mem_singleton, exists_eq_left]
    omega
  · next hmeet =>
    -- what is left is on one side of the hole or on the other, and either may be missing
    simp only [List.mem_append, List.mem_ite_nil_right, List.mem_singleton]
    constructor
    · rintro ⟨t, ⟨hfirst, rfl⟩ | ⟨hlast, rfl⟩, hn⟩ <;> dsimp only at hn <;> omega
    · rintro ⟨hn, hout⟩
      by_cases hbefore : n < hole.first
      · exact ⟨_, .inl ⟨by omega, rfl⟩, by dsimp only; omega⟩
      · exact ⟨_, .inr ⟨by omega, rfl⟩, by dsimp only; omega⟩

/-- An interval of numbers below `bound` that is not empty. -/
def Span.Within (bound : Nat) (s : Span) : Prop := s.first ≤ s.last ∧ s.last < bound

theorem Span.Within.without {bound : Nat} {s hole : Span} (h : s.Within bound) :
    ∀ t ∈ s.without hole, t.Within bound := by
  intro t ht
  unfold Span.without at ht
  split at ht
  · rw [List.mem_singleton.mp ht]
    exact h
  · simp only [List.mem_append, List.mem_ite_nil_right, List.mem_singleton] at ht
    unfold Within at h ⊢
    rcases ht with ⟨hfirst, rfl⟩ | ⟨hlast, rfl⟩ <;> dsimp only <;> omega

/-- Cutting holes out of intervals leaves what is in no hole. -/
theorem mem_cut {spans holes : List Span} {n : Nat} :
    (∃ s ∈ cut spans holes, n ∈ s) ↔ (∃ s ∈ spans, n ∈ s) ∧ ∀ hole ∈ holes, n ∉ hole := by
  induction holes generalizing spans with
  | nil => simp [cut]
  | cons hole holes ih =>
      have hstep : (∃ s ∈ spans.flatMap (·.without hole), n ∈ s) ↔
          (∃ s ∈ spans, n ∈ s) ∧ n ∉ hole := by
        simp only [List.mem_flatMap]
        constructor
        · rintro ⟨t, ⟨s, hs, ht⟩, hn⟩
          obtain ⟨hin, hout⟩ := Span.mem_without.mp ⟨t, ht, hn⟩
          exact ⟨⟨s, hs, hin⟩, hout⟩
        · rintro ⟨⟨s, hs, hin⟩, hout⟩
          obtain ⟨t, ht, hn⟩ := Span.mem_without.mpr ⟨hin, hout⟩
          exact ⟨t, ⟨s, hs, ht⟩, hn⟩
      rw [cut, List.foldl_cons, ← cut, ih, hstep, List.forall_mem_cons, and_assoc]

theorem cut_within {bound : Nat} {spans holes : List Span} (h : ∀ s ∈ spans, s.Within bound) :
    ∀ s ∈ cut spans holes, s.Within bound := by
  induction holes generalizing spans with
  | nil => exact h
  | cons hole holes ih =>
      refine ih fun t ht => ?_
      obtain ⟨s, hs, ht⟩ := List.mem_flatMap.mp ht
      exact (h s hs).without t ht

/-! ## Aligned blocks -/

/-- The block at the start of an interval is aligned and does not pass its end. -/
theorem blockBits_fits {first last : Nat} (h : first ≤ last) (bits : Nat) :
    blockBits first last bits ≤ bits ∧ 2 ^ blockBits first last bits ∣ first ∧
      first + 2 ^ blockBits first last bits ≤ last + 1 := by
  induction bits with
  | zero => exact ⟨Nat.le_refl 0, Nat.one_dvd first, Nat.succ_le_succ h⟩
  | succ k ih =>
      unfold blockBits
      split
      · next hfits => exact ⟨Nat.le_refl _, hfits.1, hfits.2⟩
      · exact ⟨Nat.le_succ_of_le ih.1, ih.2⟩

/-- The numbers of a block. -/
def blockSpan (b : Nat × Nat) : Span := ⟨b.1, b.1 + (2 ^ b.2 - 1)⟩

/-- The blocks of an interval are aligned, and lie in it. -/
theorem Span.blocks_fit {bits : Nat} {s : Span} (h : s.first ≤ s.last) :
    ∀ b ∈ s.blocks bits, b.2 ≤ bits ∧ 2 ^ b.2 ∣ b.1 ∧ s.first ≤ b.1 ∧ (blockSpan b).last ≤ s.last := by
  fun_induction blocks bits s with
  | case1 s hmore ih =>
      obtain ⟨hsmall, haligned, hfits⟩ := blockBits_fits h bits
      intro b hb
      rcases List.mem_cons.mp hb with rfl | hb
      · exact ⟨hsmall, haligned, Nat.le_refl _, by dsimp only [blockSpan, headBits]; omega⟩
      · obtain ⟨hsmall', haligned', hfirst, hlast⟩ := ih hmore b hb
        exact ⟨hsmall', haligned', Nat.le_trans (Nat.le_add_right _ _) hfirst, hlast⟩
  | case2 s hend =>
      obtain ⟨hsmall, haligned, hfits⟩ := blockBits_fits h bits
      intro b hb
      rw [List.mem_singleton.mp hb]
      exact ⟨hsmall, haligned, Nat.le_refl _, by dsimp only [blockSpan, headBits]; omega⟩

/-- The blocks of an interval hold its numbers and no others. -/
theorem Span.mem_blocks {bits n : Nat} {s : Span} (h : s.first ≤ s.last) :
    (∃ b ∈ s.blocks bits, n ∈ blockSpan b) ↔ n ∈ s := by
  fun_induction blocks bits s with
  | case1 s hmore ih =>
      simp only [Nat.pow_eq] at hmore ih ⊢
      have hsize : 0 < 2 ^ s.headBits bits := Nat.two_pow_pos _
      -- the first block and the interval behind it are the whole interval
      have hhead : n ∈ blockSpan (s.first, s.headBits bits) ∨
          n ∈ (⟨s.first + 2 ^ s.headBits bits, s.last⟩ : Span) ↔ n ∈ s := by
        simp only [mem_def, blockSpan]
        omega
      rw [← hhead, ← ih hmore]
      simp only [List.mem_cons, or_and_right, exists_or, exists_eq_left]
  | case2 s hend =>
      simp only [Nat.pow_eq] at hend
      have hsize : 0 < 2 ^ s.headBits bits := Nat.two_pow_pos _
      have hfits : s.first + 2 ^ s.headBits bits ≤ s.last + 1 := (blockBits_fits h bits).2.2
      simp only [List.mem_singleton, exists_eq_left, mem_def, blockSpan]
      omega

/-! ## Ranges of a family -/

namespace Family

variable {f : Family}

theorem address_block {b : Nat × Nat} (hlast : (blockSpan b).last < 2 ^ f.width) :
    (f.block b).address.toNat = b.1 :=
  f.toNat_address (Nat.lt_of_le_of_lt (Nat.le_add_right _ _) hlast)

theorem hostBits_block {b : Nat × Nat} (hsmall : b.2 ≤ f.width) : (f.block b).hostBits = b.2 := by
  rw [Cidr.hostBits, block, f.width_address, Nat.sub_sub_self hsmall]

/-- The interval of the range of an aligned block is that of the block. -/
theorem span_block {b : Nat × Nat} (hsmall : b.2 ≤ f.width) (haligned : 2 ^ b.2 ∣ b.1)
    (hlast : (blockSpan b).last < 2 ^ f.width) : (f.block b).span = blockSpan b := by
  rw [Cidr.span, hostBits_block hsmall, address_block hlast, blockSpan]
  dsimp only [Nat.pow_eq]
  rw [Nat.div_mul_cancel haligned]

/-- The range of an aligned block contains the addresses of the block. -/
theorem block_contains_iff {b : Nat × Nat} {a : Address} (hsmall : b.2 ≤ f.width)
    (haligned : 2 ^ b.2 ∣ b.1) (hlast : (blockSpan b).last < 2 ^ f.width) :
    (f.block b).contains a = true ↔ a.family = f ∧ a.toNat ∈ blockSpan b := by
  rw [Cidr.contains_iff, span_block hsmall haligned hlast, block, f.family_address, eq_comm]

/-- The numbers of all addresses of a family. -/
def whole (f : Family) : Span := ⟨0, 2 ^ f.width - 1⟩

/-- The intervals that are left of a family without its local networks and what is
    excluded. -/
def spans (f : Family) (excluded : List Cidr) : List Span :=
  cut [f.whole] (((f.localBlocks ++ excluded).filter (fun r => r.address.family == f)).map Cidr.span)

theorem routed_eq (f : Family) (excluded : List Cidr) :
    f.routed excluded = ((f.spans excluded).flatMap (·.blocks f.width)).map f.block := rfl

theorem spans_within (f : Family) (excluded : List Cidr) :
    ∀ s ∈ f.spans excluded, s.Within (2 ^ f.width) := by
  refine cut_within fun s hs => ?_
  rw [List.mem_singleton.mp hs]
  exact ⟨Nat.zero_le _, Nat.sub_one_lt (Nat.ne_of_gt (Nat.two_pow_pos _))⟩

/-- What is left of a family are the numbers of its addresses that are in no range
    that is left out. -/
theorem mem_spans {excluded : List Cidr} {a : Address} (h : a.family = f) :
    (∃ s ∈ f.spans excluded, a.toNat ∈ s) ↔
      ∀ r ∈ f.localBlocks ++ excluded, r.contains a = false := by
  have hwhole : ∃ s ∈ [f.whole], a.toNat ∈ s := by
    have hlt := a.toNat_lt
    rw [h] at hlt
    exact ⟨f.whole, List.mem_singleton_self _, Nat.zero_le _, Nat.le_sub_one_of_lt hlt⟩
  rw [spans, mem_cut, and_iff_right hwhole, List.forall_mem_map]
  refine ⟨fun hout r hr => ?_, fun hout r hr hin => ?_⟩
  · rw [Bool.eq_false_iff, Ne, Cidr.contains_iff]
    rintro ⟨hfamily, hin⟩
    exact hout r (List.mem_filter.mpr ⟨hr, beq_iff_eq.mpr (hfamily.trans h)⟩) hin
  · obtain ⟨hr, hfamily⟩ := List.mem_filter.mp hr
    have hcontains : r.contains a = true :=
      Cidr.contains_iff.mpr ⟨(beq_iff_eq.mp hfamily).trans h.symm, hin⟩
    exact Bool.false_ne_true ((hout r hr).symm.trans hcontains)

/-- The routed ranges of a family contain the addresses of what is left of it. -/
theorem routed_contains_iff {excluded : List Cidr} {a : Address} :
    (∃ r ∈ f.routed excluded, r.contains a = true) ↔
      a.family = f ∧ ∃ s ∈ f.spans excluded, a.toNat ∈ s := by
  -- an interval of the family ends below its last address, and so do its blocks
  have hblock : ∀ s ∈ f.spans excluded, ∀ b ∈ s.blocks f.width,
      ((f.block b).contains a = true ↔ a.family = f ∧ a.toNat ∈ blockSpan b) := by
    intro s hs b hb
    obtain ⟨hle, hlt⟩ := f.spans_within excluded s hs
    obtain ⟨hsmall, haligned, -, hlast⟩ := Span.blocks_fit hle b hb
    exact block_contains_iff hsmall haligned (Nat.lt_of_le_of_lt hlast hlt)
  rw [routed_eq]
  constructor
  · rintro ⟨r, hr, hin⟩
    obtain ⟨b, hb, rfl⟩ := List.mem_map.mp hr
    obtain ⟨s, hs, hb⟩ := List.mem_flatMap.mp hb
    obtain ⟨hfamily, hin⟩ := (hblock s hs b hb).mp hin
    exact ⟨hfamily, s, hs, (Span.mem_blocks (f.spans_within excluded s hs).1).mp ⟨b, hb, hin⟩⟩
  · rintro ⟨hfamily, s, hs, hin⟩
    obtain ⟨b, hb, hin⟩ := (Span.mem_blocks (f.spans_within excluded s hs).1).mpr hin
    exact ⟨f.block b, List.mem_map_of_mem (List.mem_flatMap.mpr ⟨s, hs, hb⟩),
      (hblock s hs b hb).mpr ⟨hfamily, hin⟩⟩

end Family

/-! ## Routes of a tunnel -/

/-- The range of one address contains it and no other. -/
theorem Cidr.host_contains_iff {a c : Address} : (host c).contains a = true ↔ a = c := by
  have hbits : (host c).hostBits = 0 := Nat.sub_self _
  rw [contains, hbits, Bool.and_eq_true, beq_iff_eq, beq_iff_eq, Address.isV6_eq_iff]
  constructor
  · rintro ⟨hfamily, hnumber⟩
    exact (Address.ext hfamily hnumber).symm
  · rintro rfl
    exact ⟨rfl, rfl⟩

/-- A tunnel carries the gateways, and of each family that has a gateway all that
    is neither local nor excluded; and it carries nothing else. -/
theorem allowedRanges_contains_iff (gateway4 : BitVec 32) (gateway6 : Option (BitVec 128))
    (excluded : List Cidr) (a : Address) :
    (∃ r ∈ allowedRanges gateway4 gateway6 excluded, r.contains a = true) ↔
      a = .v4 gateway4 ∨ (∃ g, gateway6 = some g ∧ a = .v6 g) ∨
        (a.isV6 = true → gateway6.isSome = true) ∧
          (∀ r ∈ a.family.localBlocks, r.contains a = false) ∧
          ∀ r ∈ excluded, r.contains a = false := by
  have hrouted : ∀ f : Family, (∃ r ∈ f.routed excluded, r.contains a = true) ↔
      a.family = f ∧ ((∀ r ∈ a.family.localBlocks, r.contains a = false) ∧
        ∀ r ∈ excluded, r.contains a = false) := by
    intro f
    rw [Family.routed_contains_iff]
    refine and_congr_right fun h => ?_
    rw [Family.mem_spans h, List.forall_mem_append, h]
  have hsplit : (∃ r ∈ allowedRanges gateway4 gateway6 excluded, r.contains a = true) ↔
      a = .v4 gateway4 ∨ (∃ g, gateway6 = some g ∧ a = .v6 g) ∨
        (∃ r ∈ Family.v4.routed excluded, r.contains a = true) ∨
        gateway6.isSome = true ∧ ∃ r ∈ Family.v6.routed excluded, r.contains a = true := by
    cases gateway6 with
    | none => simp [allowedRanges, or_and_right, exists_or, Cidr.host_contains_iff]
    | some g => simp [allowedRanges, or_and_right, exists_or, Cidr.host_contains_iff]
  rw [hsplit, hrouted, hrouted]
  refine or_congr_right (or_congr_right ?_)
  cases a with
  | v4 bits => simp [Address.family, Address.isV6]
  | v6 bits => simp [Address.family, Address.isV6]

end TunnelSession.Net
