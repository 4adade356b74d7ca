/-
  TunnelSession.Proofs.Net.Canonical

  The routed ranges of a family as the only list of their kind. Of two aligned
  ranges one lies in the other or they have no address in common. So the widest
  ranges that fit into a set of addresses do not overlap, each other range that fits
  lies in one of them, and a list of ranges that covers the set needs one for each.

  The blocks of an interval are the widest ones that fit into it. As the intervals
  that are left of a family have gaps between them, no range reaches across two, and
  the blocks of all of them are the widest ones that fit into what is left. A list
  that is told by this alone does not depend on how the holes were given.
-/
import TunnelSession.Proofs.Net.Count
import Mathlib.Data.List.Sort

namespace TunnelSession.Net

/-! ## Aligned blocks -/

/-- An aligned block lies before an aligned one that is no smaller, behind it or in it. -/
theorem aligned_cases {a b j k : Nat} (ha : 2 ^ j ∣ a) (hb : 2 ^ k ∣ b) (hjk : j ≤ k) :
    a + 2 ^ j ≤ b ∨ b + 2 ^ k ≤ a ∨ b ≤ a ∧ a + 2 ^ j ≤ b + 2 ^ k := by
  obtain ⟨m, rfl⟩ := ha
  obtain ⟨n, rfl⟩ := Nat.dvd_trans (Nat.pow_dvd_pow 2 hjk) hb
  obtain ⟨q, hq⟩ := Nat.pow_dvd_pow 2 hjk
  rw [hq]
  -- all four ends are multiples of the smaller size, so it is enough to compare the factors
  have hnext {x y : Nat} (h : x < y) : 2 ^ j * x + 2 ^ j ≤ 2 ^ j * y := by
    rw [← Nat.mul_succ]
    exact Nat.mul_le_mul_left _ h
  have hmono {x y : Nat} (h : x ≤ y) : 2 ^ j * x ≤ 2 ^ j * y := Nat.mul_le_mul_left _ h
  rw [← Nat.mul_add]
  rcases Nat.lt_or_ge m n with hbefore | hfrom
  · exact .inl (hnext hbefore)
  · rcases Nat.lt_or_ge m (n + q) with hin | hbehind
    · exact .inr (.inr ⟨hmono hfrom, hnext hin⟩)
    · exact .inr (.inl (hmono hbehind))

/-- An aligned block of an interval that starts before the end of the first one lies in it. -/
theorem Span.within_head {bits a k : Nat} {s : Span} (hne : s.first ≤ s.last) (hk : k ≤ bits)
    (haligned : 2 ^ k ∣ a) (hfirst : s.first ≤ a) (hlast : a + 2 ^ k ≤ s.last + 1)
    (hhead : a < s.first + 2 ^ s.headBits bits) : a + 2 ^ k ≤ s.first + 2 ^ s.headBits bits := by
  have hsize : 0 < 2 ^ k := Nat.two_pow_pos k
  have hsize' : 0 < 2 ^ s.headBits bits := Nat.two_pow_pos _
  have halignedHead : 2 ^ s.headBits bits ∣ s.first := (blockBits_fits hne bits).2.1
  rcases Nat.le_total k (s.headBits bits) with hsmall | hlarge
  · have hcases := aligned_cases haligned halignedHead hsmall
    omega
  · -- it would hold the first block, but that is the largest one at the start
    have hstart : a = s.first := by
      have hcases := aligned_cases halignedHead haligned hlarge
      omega
    have hle : k ≤ s.headBits bits := le_blockBits hk (hstart ▸ haligned) (hstart ▸ hlast)
    have hpow : 2 ^ k ≤ 2 ^ s.headBits bits := Nat.pow_le_pow_right (by decide) hle
    omega

/-- Each aligned block that fits into an interval lies in one of its blocks. -/
theorem Span.exists_block {bits a k : Nat} {s : Span} (hne : s.first ≤ s.last) (hk : k ≤ bits)
    (haligned : 2 ^ k ∣ a) (hfirst : s.first ≤ a) (hlast : a + 2 ^ k ≤ s.last + 1) :
    ∃ b ∈ s.blocks bits, b.1 ≤ a ∧ a + 2 ^ k ≤ b.1 + 2 ^ b.2 := by
  -- along the cutting of the interval: in the first block, or in one of the rest
  fun_induction blocks bits s with
  | case1 s hmore ih =>
      simp only [Nat.pow_eq] at hmore ih ⊢
      by_cases hhead : a < s.first + 2 ^ s.headBits bits
      · exact ⟨_, List.mem_cons_self, hfirst, within_head hne hk haligned hfirst hlast hhead⟩
      · obtain ⟨b, hb, hin⟩ := ih hmore (Nat.le_of_not_lt hhead) hlast
        exact ⟨b, List.mem_cons_of_mem _ hb, hin⟩
  | case2 s hend =>
      simp only [Nat.pow_eq] at hend
      have hsize : 0 < 2 ^ k := Nat.two_pow_pos k
      have hhead : a < s.first + 2 ^ s.headBits bits := by omega
      exact ⟨_, List.mem_singleton_self _, hfirst, within_head hne hk haligned hfirst hlast hhead⟩

/-- The blocks of an interval ascend and do not overlap. -/
theorem Span.pairwise_blocks {bits : Nat} {s : Span} (hne : s.first ≤ s.last) :
    (s.blocks bits).Pairwise fun b c => (blockSpan b).Before (blockSpan c) := by
  fun_induction blocks bits s with
  | case1 s hmore ih =>
      refine List.pairwise_cons.mpr ⟨fun c hc => ?_, ih hmore⟩
      have hfirst := (blocks_fit hmore c hc).2.2.1
      have hsize : 0 < 2 ^ s.headBits bits := Nat.two_pow_pos _
      simp only [Nat.pow_eq] at hfirst
      simp only [Before, blockSpan]
      omega
  | case2 s hend => exact List.pairwise_singleton _ _

/-! ## Intervals apart -/

/-- Of two members of a list in which earlier ones are related to later ones, one is related
    to the other. -/
theorem eq_or_of_pairwise {α : Type} {R : α → α → Prop} {l : List α} {a b : α}
    (h : l.Pairwise R) (ha : a ∈ l) (hb : b ∈ l) : a = b ∨ R a b ∨ R b a := by
  induction h with
  | nil => cases ha
  | cons hhead _ ih =>
      rcases List.mem_cons.mp ha with hahead | hatail <;>
        rcases List.mem_cons.mp hb with hbhead | hbtail
      · exact .inl (hahead.trans hbhead.symm)
      · exact .inr (.inl (hahead ▸ hhead b hbtail))
      · exact .inr (.inr (hbhead ▸ hhead a hatail))
      · exact ih hatail hbtail

/-- An interval whose numbers are in intervals with gaps between them lies in one of these. -/
theorem Span.exists_of_apart {spans : List Span} {t : Span} (hapart : spans.Pairwise Apart)
    (hne : t.first ≤ t.last) (h : ∀ n ∈ t, ∃ s ∈ spans, n ∈ s) :
    ∃ s ∈ spans, s.first ≤ t.first ∧ t.last ≤ s.last := by
  obtain ⟨s, hs, hfirst⟩ := h t.first ⟨Nat.le_refl _, hne⟩
  refine ⟨s, hs, hfirst.1, ?_⟩
  by_contra hpast
  -- the number after the end of `s` would be in an interval that adjoins `s`
  obtain ⟨u, hu, hnext⟩ := h (s.last + 1) ⟨by have := hfirst.2; omega, by omega⟩
  rw [mem_def] at hfirst hnext
  rcases eq_or_of_pairwise hapart hs hu with rfl | hsu | hus
  · omega
  · unfold Apart at hsu
    omega
  · unfold Apart at hus
    omega

/-! ## Ranges -/

namespace Cidr

variable {r t : Cidr}

theorem hostBits_le (r : Cidr) : r.hostBits ≤ r.address.family.width := by
  have hwidth : r.address.width = r.address.family.width := by cases r.address <;> rfl
  rw [hostBits, hwidth]
  exact Nat.sub_le _ _

theorem span_last (r : Cidr) : r.span.last + 1 = r.span.first + 2 ^ r.hostBits := by
  have hsize : 0 < 2 ^ r.hostBits := Nat.two_pow_pos _
  simp only [span, Nat.pow_eq]
  omega

theorem aligned_span (r : Cidr) : 2 ^ r.hostBits ∣ r.span.first :=
  Nat.dvd_mul_left _ _

theorem span_last_lt (r : Cidr) : r.span.last < 2 ^ r.address.family.width := by
  have hcases := aligned_cases r.aligned_span (Nat.dvd_zero (2 ^ r.address.family.width))
    r.hostBits_le
  have hfirst : r.span.first ≤ r.address.toNat := Nat.div_mul_le_self _ _
  have hsize : 0 < 2 ^ r.hostBits := Nat.two_pow_pos _
  have hlast := r.span_last
  have hlt := r.address.toNat_lt
  omega

theorem contains_self (r : Cidr) : r.contains r.address = true := by
  rw [contains, beq_self_eq_true, beq_self_eq_true, Bool.and_self]

/-- A number of the interval is that of an address of the range. -/
theorem contains_address {n : Nat} (h : n ∈ r.span) :
    (r.address.family.address n).toNat = n ∧
      r.contains (r.address.family.address n) = true := by
  have hnumber : (r.address.family.address n).toNat = n :=
    Family.toNat_address _ (Nat.lt_of_le_of_lt h.2 r.span_last_lt)
  exact ⟨hnumber, contains_iff.mpr ⟨(Family.family_address _ n).symm, hnumber.symm ▸ h⟩⟩

/-- One range lies in another: all its addresses are in the other. -/
instance : HasSubset Cidr := ⟨fun r t => ∀ a, r.contains a = true → t.contains a = true⟩

theorem subset_iff : r ⊆ t ↔ r.address.family = t.address.family ∧
    t.span.first ≤ r.span.first ∧ r.span.last ≤ t.span.last := by
  constructor
  · intro h
    have hin {n : Nat} (hn : n ∈ r.span) :
        t.address.family = r.address.family ∧ n ∈ t.span := by
      obtain ⟨hnumber, hmem⟩ := contains_address hn
      have ht := contains_iff.mp (h _ hmem)
      rw [Family.family_address, hnumber] at ht
      exact ht
    have hfirst := hin ⟨Nat.le_refl _, r.span_nonempty⟩
    have hlast := hin ⟨r.span_nonempty, Nat.le_refl _⟩
    exact ⟨hfirst.1.symm, hfirst.2.1, hlast.2.2⟩
  · rintro ⟨hfamily, hfirst, hlast⟩ a ha
    obtain ⟨hra, hmem⟩ := contains_iff.mp ha
    exact contains_iff.mpr ⟨hfamily.symm.trans hra, Nat.le_trans hfirst hmem.1,
      Nat.le_trans hmem.2 hlast⟩

/-- The bits of the address that members need not share are zero. -/
def Aligned (r : Cidr) : Prop := 2 ^ r.hostBits ∣ r.address.toNat

instance : DecidablePred Aligned := fun r =>
  inferInstanceAs (Decidable (2 ^ r.hostBits ∣ r.address.toNat))

theorem Aligned.span_first (h : r.Aligned) : r.span.first = r.address.toNat :=
  Nat.div_mul_cancel h

/-- An aligned range is known by its addresses. -/
theorem Aligned.eq_of_subset (hr : r.Aligned) (ht : t.Aligned) (hrt : r ⊆ t) (htr : t ⊆ r) :
    r = t := by
  obtain ⟨hfamily, hfirst, hlast⟩ := subset_iff.mp hrt
  obtain ⟨-, hfirst', hlast'⟩ := subset_iff.mp htr
  have haddress : r.address = t.address := by
    refine Address.ext hfamily ?_
    rw [← hr.span_first, ← ht.span_first]
    exact Nat.le_antisymm hfirst' hfirst
  have hsize : 2 ^ r.hostBits = 2 ^ t.hostBits := by
    have hr := r.span_last
    have ht := t.span_last
    omega
  have hbits : r.hostBits = t.hostBits := Nat.pow_right_injective (Nat.le_refl 2) hsize
  obtain ⟨address, length, hle⟩ := r
  obtain ⟨address', length', hle'⟩ := t
  dsimp only at haddress
  subst haddress
  have hlength : length = length' := by
    simp only [hostBits] at hbits
    omega
  subst hlength
  rfl

/-- One range ends before the other starts. -/
def Before (r t : Cidr) : Prop := r.span.Before t.span

instance : Std.Asymm Before where
  asymm r t hrt htr := by
    have hr := r.span_nonempty
    have ht := t.span_nonempty
    unfold Before Span.Before at hrt htr
    omega

theorem Before.disjoint {a : Address} (h : r.Before t) (ha : r.contains a = true) :
    t.contains a = false := by
  have hr := (contains_iff.mp ha).2.2
  rw [Bool.eq_false_iff, Ne, contains_iff]
  rintro ⟨-, ht, -⟩
  unfold Before Span.Before at h
  omega

end Cidr

/-! ## Canonical lists -/

/-- An address is in one of the ranges. -/
def Covers (ranges : List Cidr) (a : Address) : Prop :=
  ∃ r ∈ ranges, r.contains a = true

/-- Aligned ranges of a family, ascending and without overlap, such that each range that fits
    into what they cover lies in one of them. -/
structure Canonical (f : Family) (ranges : List Cidr) : Prop where
  family : ∀ r ∈ ranges, r.address.family = f
  aligned : ∀ r ∈ ranges, r.Aligned
  ascending : ranges.Pairwise Cidr.Before
  widest : ∀ c : Cidr, (∀ a, c.contains a = true → Covers ranges a) → ∃ r ∈ ranges, c ⊆ r

namespace Canonical

variable {f : Family} {ranges ranges' cover : List Cidr} {r t : Cidr} {a : Address}

theorem nil (f : Family) : Canonical f [] where
  family _ hr := nomatch hr
  aligned _ hr := nomatch hr
  ascending := .nil
  widest c h := by
    obtain ⟨r, hr, -⟩ := h c.address c.contains_self
    cases hr

/-- An address is in no two of the ranges. -/
theorem eq_of_contains (h : Canonical f ranges) (hr : r ∈ ranges) (ht : t ∈ ranges)
    (hra : r.contains a = true) (hta : t.contains a = true) : r = t := by
  rcases eq_or_of_pairwise h.ascending hr ht with heq | hbefore | hbehind
  · exact heq
  · exact absurd hta (Bool.not_eq_true _ ▸ hbefore.disjoint hra)
  · exact absurd hra (Bool.not_eq_true _ ▸ hbehind.disjoint hta)

/-- A cover of the same addresses of the family has a range inside each of the ranges. -/
theorem exists_subset (h : Canonical f ranges)
    (hcover : ∀ a, a.family = f → (Covers cover a ↔ Covers ranges a)) (hr : r ∈ ranges) :
    ∃ c ∈ cover, c ⊆ r := by
  -- the one that holds the address that the range is written with
  have hcovered : Covers ranges r.address := ⟨r, hr, r.contains_self⟩
  obtain ⟨c, hc, hin⟩ := (hcover r.address (h.family r hr)).mpr hcovered
  have hfamily : c.address.family = f := (Cidr.contains_iff.mp hin).1.trans (h.family r hr)
  obtain ⟨t, ht, hct⟩ := h.widest c fun a ha =>
    (hcover a ((Cidr.contains_iff.mp ha).1.symm.trans hfamily)).mp ⟨c, hc, ha⟩
  -- it fits into one of the ranges, and that can only be the one with this address
  rw [h.eq_of_contains hr ht r.contains_self (hct _ hin)]
  exact ⟨c, hc, hct⟩

/-- No cover of the same addresses of the family has fewer ranges. -/
theorem length_le (h : Canonical f ranges)
    (hcover : ∀ a, a.family = f → (Covers cover a ↔ Covers ranges a)) :
    ranges.length ≤ cover.length := by
  choose! inner hinner hsubset using fun r (hr : r ∈ ranges) => h.exists_subset hcover hr
  -- a range that lies in two of the ranges would have its own address in both
  have hinjective : ∀ r ∈ ranges, ∀ t ∈ ranges, inner r = inner t → r = t := by
    intro r hr t ht heq
    have hra := hsubset r hr _ (inner r).contains_self
    rw [heq] at hra
    exact h.eq_of_contains hr ht hra (hsubset t ht _ (inner t).contains_self)
  have hnodup : (ranges.map inner).Nodup :=
    List.Nodup.map_on hinjective (h.ascending.imp fun hbefore heq => by
      subst heq
      exact (asymm hbefore hbefore).elim)
  have hsub : ranges.map inner ⊆ cover := by
    intro c hc
    obtain ⟨r, hr, rfl⟩ := List.mem_map.mp hc
    exact hinner r hr
  have hle := (List.subperm_of_subset hnodup hsub).length_le
  rwa [List.length_map] at hle

theorem filter_self (h : Canonical f ranges) :
    ranges.filter (·.address.family == f) = ranges :=
  List.filter_eq_self.mpr fun r hr => beq_iff_eq.mpr (h.family r hr)

theorem filter_other {g : Family} (h : Canonical f ranges) (hne : f ≠ g) :
    ranges.filter (·.address.family == g) = [] :=
  List.filter_eq_nil_iff.mpr fun r hr heq => hne ((h.family r hr).symm.trans (beq_iff_eq.mp heq))

theorem mem_of_mem (h : Canonical f ranges) (h' : Canonical f ranges')
    (hsame : ∀ a, Covers ranges a ↔ Covers ranges' a) (hr : r ∈ ranges) : r ∈ ranges' := by
  -- a range of one list lies in one of the other, and that again in one of the first
  obtain ⟨t, ht, hrt⟩ := h'.widest r fun a ha => (hsame a).mp ⟨r, hr, ha⟩
  obtain ⟨u, hu, htu⟩ := h.widest t fun a ha => (hsame a).mpr ⟨t, ht, ha⟩
  have hur : r = u := h.eq_of_contains hr hu r.contains_self (htu _ (hrt _ r.contains_self))
  subst hur
  rwa [(h.aligned r hr).eq_of_subset (h'.aligned t ht) hrt htu]

/-- A canonical list is known by the addresses that it covers. -/
theorem eq_of_covers (h : Canonical f ranges) (h' : Canonical f ranges')
    (hsame : ∀ a, Covers ranges a ↔ Covers ranges' a) : ranges = ranges' :=
  haveI := Std.Asymm.antisymm Cidr.Before
  List.Subset.antisymm_of_pairwise h.ascending h'.ascending
    (fun _ => h.mem_of_mem h' hsame) fun _ => h'.mem_of_mem h fun a => (hsame a).symm

end Canonical

/-! ## Routed ranges -/

namespace Family

variable {f : Family} {excluded : List Cidr}

/-- The range of a block of what is left of a family has the interval of the block. -/
theorem span_of_mem_blocks {s : Span} {b : Nat × Nat} (hs : s ∈ f.spans excluded)
    (hb : b ∈ s.blocks f.width) :
    (f.block b).Aligned ∧ (f.block b).span = blockSpan b := by
  obtain ⟨hle, hlt⟩ := f.spans_within excluded s hs
  obtain ⟨hsmall, haligned, -, hlast⟩ := Span.blocks_fit hle b hb
  have hlast := Nat.lt_of_le_of_lt hlast hlt
  refine ⟨?_, span_block hsmall haligned hlast⟩
  rw [Cidr.Aligned, hostBits_block hsmall, address_block hlast]
  exact haligned

theorem pairwise_routed (f : Family) (excluded : List Cidr) :
    (f.routed excluded).Pairwise Cidr.Before := by
  rw [routed_eq, List.pairwise_map, List.pairwise_flatMap]
  constructor
  · -- the blocks of one interval
    intro s hs
    refine (Span.pairwise_blocks (f.spans_within excluded s hs).1).imp_of_mem ?_
    intro b c hb hc hbefore
    rw [Cidr.Before, (span_of_mem_blocks hs hb).2, (span_of_mem_blocks hs hc).2]
    exact hbefore
  · -- blocks of two intervals lie as far apart as these
    refine (f.pairwise_spans excluded).imp_of_mem ?_
    intro s t hs ht hapart b hb c hc
    rw [Cidr.Before, (span_of_mem_blocks hs hb).2, (span_of_mem_blocks ht hc).2, Span.Before]
    have hbin := (Span.blocks_fit (f.spans_within excluded s hs).1 b hb).2.2.2
    have hcin := (Span.blocks_fit (f.spans_within excluded t ht).1 c hc).2.2.1
    have hgap := hapart.before
    unfold Span.Before at hgap
    simp only [blockSpan] at hbin ⊢
    omega

/-- A range that fits into what is routed lies in one of the routed ranges. -/
theorem exists_routed (c : Cidr)
    (h : ∀ a, c.contains a = true → Covers (f.routed excluded) a) :
    ∃ r ∈ f.routed excluded, c ⊆ r := by
  have hfamily : c.address.family = f :=
    (routed_contains_iff.mp (h c.address c.contains_self)).1
  have hleft : ∀ n ∈ c.span, ∃ s ∈ f.spans excluded, n ∈ s := by
    intro n hn
    obtain ⟨hnumber, hin⟩ := Cidr.contains_address hn
    have hspan := (routed_contains_iff.mp (h _ hin)).2
    rwa [hnumber] at hspan
  -- first the interval that the range lies in, then the block
  obtain ⟨s, hs, hfirst, hlast⟩ :=
    Span.exists_of_apart (f.pairwise_spans excluded) c.span_nonempty hleft
  have hend := c.span_last
  obtain ⟨b, hb, hbfirst, hblast⟩ := Span.exists_block (f.spans_within excluded s hs).1
    (hfamily ▸ c.hostBits_le) c.aligned_span hfirst (by omega)
  refine ⟨f.block b, List.mem_map_of_mem (List.mem_flatMap.mpr ⟨s, hs, hb⟩), ?_⟩
  rw [Cidr.subset_iff, (span_of_mem_blocks hs hb).2, block, f.family_address]
  refine ⟨hfamily, hbfirst, ?_⟩
  simp only [blockSpan]
  omega

theorem routed_canonical (f : Family) (excluded : List Cidr) :
    Canonical f (f.routed excluded) where
  family r hr := by
    obtain ⟨b, -, rfl⟩ := List.mem_map.mp hr
    exact f.family_address b.1
  aligned r hr := by
    obtain ⟨b, hb, rfl⟩ := List.mem_map.mp hr
    obtain ⟨s, hs, hb⟩ := List.mem_flatMap.mp hb
    exact (span_of_mem_blocks hs hb).1
  ascending := f.pairwise_routed excluded
  widest := exists_routed

/-- The routed ranges are the same if the excluded addresses are. -/
theorem routed_congr {excluded' : List Cidr}
    (h : ∀ a, Covers excluded a ↔ Covers excluded' a) :
    f.routed excluded = f.routed excluded' := by
  have hout (a : Address) : (∀ r ∈ excluded, r.contains a = false) ↔
      ∀ r ∈ excluded', r.contains a = false := by
    have hnone (l : List Cidr) : (∀ r ∈ l, r.contains a = false) ↔ ¬ Covers l a := by
      simp [Covers]
    rw [hnone, hnone, h]
  refine (f.routed_canonical excluded).eq_of_covers (f.routed_canonical excluded') fun a => ?_
  unfold Covers
  rw [routed_contains_iff, routed_contains_iff]
  refine and_congr_right fun hfamily => ?_
  rw [mem_spans hfamily, mem_spans hfamily, List.forall_mem_append, List.forall_mem_append, hout]

end Family

/-! ## Routes of a tunnel -/

/-- The routes of a tunnel behind those of the gateways. -/
def carvedRoutes (gateway4 : BitVec 32) (gateway6 : Option (BitVec 128))
    (excluded : List Cidr) : List Cidr :=
  (allowedRanges gateway4 gateway6 excluded).drop (1 + gateway6.toList.length)

/-- Those of one family. -/
def carvedRoutesOf (f : Family) (gateway4 : BitVec 32) (gateway6 : Option (BitVec 128))
    (excluded : List Cidr) : List Cidr :=
  (carvedRoutes gateway4 gateway6 excluded).filter (·.address.family == f)

theorem carvedRoutes_eq (gateway4 : BitVec 32) (gateway6 : Option (BitVec 128))
    (excluded : List Cidr) :
    carvedRoutes gateway4 gateway6 excluded = Family.v4.routed excluded ++
      (if gateway6.isSome then Family.v6.routed excluded else []) := by
  unfold carvedRoutes allowedRanges
  cases gateway6 <;> rfl

/-- The IPv6 routes of a tunnel, if it has any. -/
theorem carriedV6_canonical (gateway6 : Option (BitVec 128)) (excluded : List Cidr) :
    Canonical .v6 (if gateway6.isSome then Family.v6.routed excluded else []) := by
  split
  · exact Family.v6.routed_canonical excluded
  · exact .nil _

theorem carvedRoutesOf_v4 (gateway4 : BitVec 32) (gateway6 : Option (BitVec 128))
    (excluded : List Cidr) :
    carvedRoutesOf .v4 gateway4 gateway6 excluded = Family.v4.routed excluded := by
  rw [carvedRoutesOf, carvedRoutes_eq, List.filter_append,
    (Family.v4.routed_canonical excluded).filter_self,
    (carriedV6_canonical gateway6 excluded).filter_other (by decide), List.append_nil]

theorem carvedRoutesOf_v6 (gateway4 : BitVec 32) (gateway6 : Option (BitVec 128))
    (excluded : List Cidr) :
    carvedRoutesOf .v6 gateway4 gateway6 excluded =
      if gateway6.isSome then Family.v6.routed excluded else [] := by
  rw [carvedRoutesOf, carvedRoutes_eq, List.filter_append,
    (Family.v4.routed_canonical excluded).filter_other (by decide),
    (carriedV6_canonical gateway6 excluded).filter_self, List.nil_append]

theorem carvedRoutesOf_canonical (f : Family) (gateway4 : BitVec 32)
    (gateway6 : Option (BitVec 128)) (excluded : List Cidr) :
    Canonical f (carvedRoutesOf f gateway4 gateway6 excluded) := by
  cases f with
  | v4 =>
      rw [carvedRoutesOf_v4]
      exact Family.v4.routed_canonical excluded
  | v6 =>
      rw [carvedRoutesOf_v6]
      exact carriedV6_canonical gateway6 excluded

/-- Behind the routes of the gateways come those of IPv4 and then those of IPv6. Those of a
    family are aligned, ascend and have no address in common, and no list of ranges that
    covers the same addresses of the family is shorter. Exclusions that cover the same
    addresses, in whatever order and split, lead to the same list. -/
theorem carved_routes_are_minimal (gateway4 : BitVec 32) (gateway6 : Option (BitVec 128))
    (excluded : List Cidr) :
    carvedRoutes gateway4 gateway6 excluded =
        carvedRoutesOf .v4 gateway4 gateway6 excluded ++
          carvedRoutesOf .v6 gateway4 gateway6 excluded ∧
      (∀ f,
        (∀ r ∈ carvedRoutesOf f gateway4 gateway6 excluded,
          r.address.toNat % 2 ^ r.hostBits = 0) ∧
        (carvedRoutesOf f gateway4 gateway6 excluded).Pairwise (fun r t =>
          r.address.toNat < t.address.toNat ∧
            ∀ a, ¬ (r.contains a = true ∧ t.contains a = true)) ∧
        ∀ cover : List Cidr,
          (∀ a, a.family = f →
            (Covers cover a ↔ Covers (carvedRoutesOf f gateway4 gateway6 excluded) a)) →
          (carvedRoutesOf f gateway4 gateway6 excluded).length ≤ cover.length) ∧
      ∀ excluded' : List Cidr, (∀ a, Covers excluded a ↔ Covers excluded' a) →
        allowedRanges gateway4 gateway6 excluded' = allowedRanges gateway4 gateway6 excluded := by
  refine ⟨?_, fun f => ?_, fun excluded' h => ?_⟩
  · rw [carvedRoutesOf_v4, carvedRoutesOf_v6, carvedRoutes_eq]
  · have hcanonical := carvedRoutesOf_canonical f gateway4 gateway6 excluded
    refine ⟨fun r hr => Nat.mod_eq_zero_of_dvd (hcanonical.aligned r hr), ?_, ?_⟩
    · refine hcanonical.ascending.imp_of_mem fun hr ht hbefore => ⟨?_, fun a ha => ?_⟩
      · rw [← (hcanonical.aligned _ hr).span_first, ← (hcanonical.aligned _ ht).span_first]
        exact Nat.lt_of_le_of_lt (Cidr.span_nonempty _) hbefore
      · exact Bool.false_ne_true ((hbefore.disjoint ha.1).symm.trans ha.2)
    · exact fun cover hcover => hcanonical.length_le hcover
  · unfold allowedRanges
    rw [Family.routed_congr h, Family.routed_congr h]

/-- With one half and one quarter of all addresses excluded a single range is left, though two
    of half its size cover the same. The exclusions may as well be given as three quarters. -/
theorem carved_routes_are_minimal_of_quarter :
    let half (a : BitVec 32) : Cidr := ⟨.v4 a, 1, Nat.le_add_right 1 31⟩
    let quarter (a : BitVec 32) : Cidr := ⟨.v4 a, 2, Nat.le_add_right 2 30⟩
    let eighth (a : BitVec 32) : Cidr := ⟨.v4 a, 3, Nat.le_add_right 3 29⟩
    let excluded := [half 0x80000000#32, quarter 0]
    let excluded' := [quarter 0xC0000000#32, quarter 0x80000000#32, quarter 0, eighth 0]
    let cover := [eighth 0x40000000#32, eighth 0x60000000#32]
    let routes := carvedRoutesOf .v4 0x0A400001#32 none excluded
    routes = [quarter 0x40000000#32] ∧
      (∀ a, a.family = .v4 → (Covers cover a ↔ Covers routes a)) ∧
      routes.length ≤ cover.length ∧
      (∀ a, Covers excluded a ↔ Covers excluded' a) ∧
      allowedRanges 0x0A400001#32 none excluded' = allowedRanges 0x0A400001#32 none excluded := by
  intro half quarter eighth excluded excluded' cover routes
  have hroutes : routes = [quarter 0x40000000#32] := by
    decide +kernel
  -- which IPv4 addresses a range holds is a matter of numbers
  have hin (x b : BitVec 32) (k : Nat) (hk : k ≤ 32) :
      (⟨.v4 x, k, hk⟩ : Cidr).contains (.v4 b) = true ↔
        x.toNat / 2 ^ (32 - k) * 2 ^ (32 - k) ≤ b.toNat ∧
          b.toNat ≤ x.toNat / 2 ^ (32 - k) * 2 ^ (32 - k) + (2 ^ (32 - k) - 1) := by
    rw [Cidr.contains_iff]
    exact and_iff_right rfl
  have hcover : ∀ a, a.family = .v4 → (Covers cover a ↔ Covers routes a) := by
    intro a ha
    rw [hroutes]
    cases a with
    | v4 b =>
        simp [Covers, cover, eighth, quarter, hin]
        omega
    | v6 b => cases ha
  have hsame : ∀ a, Covers excluded a ↔ Covers excluded' a := by
    intro a
    cases a with
    | v4 b =>
        simp [Covers, excluded, excluded', half, quarter, eighth, hin]
        omega
    | v6 b =>
        simp [Covers, excluded, excluded', half, quarter, eighth, Cidr.contains_iff, Address.family]
  obtain ⟨-, hof, hexcluded⟩ := carved_routes_are_minimal 0x0A400001#32 none excluded
  exact ⟨hroutes, hcover, (hof .v4).2.2 cover hcover, hsame, hexcluded excluded' hsame⟩

end TunnelSession.Net
