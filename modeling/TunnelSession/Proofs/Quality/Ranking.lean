/-
  TunnelSession.Proofs.Quality.Ranking

  The order of the reports on the cities. Reports are compared by tier first; within a
  tier a city without a sample comes after all that have one, and these come by latency.
  That is a total preorder, in which two reports are of one standing exactly if tier and
  latency agree. So the sorted list is fixed: it holds the reports in this order, those
  of one standing in the order of the catalog, and no other list does.
-/
import TunnelSession.Quality.Score
import TunnelSession.Proofs.Quality.Tiers

namespace TunnelSession

/-! ## Lists that are sorted by a preorder and stable -/

section Stable

variable {α κ : Type} [DecidableEq κ] {le : α → α → Bool} {key : α → κ}

/-- The members of a list with a key. -/
def withKey (key : α → κ) (k : κ) (l : List α) : List α := l.filter (fun x => key x = k)

theorem mem_withKey {k : κ} {l : List α} {x : α} : x ∈ withKey key k l ↔ x ∈ l ∧ key x = k := by
  simp [withKey]

/-- To sort a list leaves the members with one key in their order. -/
theorem withKey_mergeSort (htrans : ∀ a b c, le a b = true → le b c = true → le a c = true)
    (htotal : ∀ a b, (le a b || le b a) = true) (hkey : ∀ a b, key a = key b → le a b = true)
    (l : List α) (k : κ) : withKey key k (l.mergeSort le) = withKey key k l := by
  have hsorted : (withKey key k l).Pairwise (fun a b => le a b = true) := by
    apply List.pairwise_of_forall_mem_list
    intro a ha b hb
    exact hkey a b ((mem_withKey.mp ha).2.trans (mem_withKey.mp hb).2.symm)
  have hsublist : (withKey key k l).Sublist (l.mergeSort le) :=
    List.sublist_mergeSort htrans htotal hsorted List.filter_sublist
  -- so sorting keeps them in their order, and it keeps all of them
  have hself : withKey key k (withKey key k l) = withKey key k l := by
    simp [withKey, List.filter_filter]
  have hinside : (withKey key k l).Sublist (withKey key k (l.mergeSort le)) := by
    have hfiltered := hsublist.filter (fun x => key x = k)
    rwa [← withKey, ← withKey, hself] at hfiltered
  exact (hinside.eq_of_length ((List.mergeSort_perm l le).filter _).length_eq.symm).symm

theorem withKey_cons (k : κ) (x : α) (l : List α) :
    withKey key k (x :: l) = if key x = k then x :: withKey key k l else withKey key k l := by
  simp [withKey, List.filter_cons]

/-- Two sorted lists with the same members of each key, in the same order, are one list. -/
theorem eq_of_withKey (hanti : ∀ a b, le a b = true → le b a = true → key a = key b)
    {l₁ l₂ : List α} (h₁ : l₁.Pairwise (fun a b => le a b = true))
    (h₂ : l₂.Pairwise (fun a b => le a b = true))
    (h : ∀ k, withKey key k l₁ = withKey key k l₂) : l₁ = l₂ := by
  have hmem : ∀ x, x ∈ l₁ ↔ x ∈ l₂ := by
    intro x
    have hx : x ∈ withKey key (key x) l₁ ↔ x ∈ withKey key (key x) l₂ := by rw [h]
    simpa [mem_withKey] using hx
  induction l₁ generalizing l₂ with
  | nil => exact (List.eq_nil_iff_forall_not_mem.mpr fun x hx => nomatch (hmem x).mpr hx).symm
  | cons a t₁ ih =>
      cases l₂ with
      | nil => exact nomatch (hmem a).mp (.head _)
      | cons b t₂ =>
          -- each of the two heads is in the other list, so it stands after the other head
          have hhead : a = b := by
            rcases List.mem_cons.mp ((hmem b).mpr (.head _)) with heq | hb
            · exact heq.symm
            rcases List.mem_cons.mp ((hmem a).mp (.head _)) with heq | ha
            · exact heq
            have hab : key a = key b :=
              hanti a b ((List.pairwise_cons.mp h₁).1 b hb) ((List.pairwise_cons.mp h₂).1 a ha)
            have hk := h (key a)
            rw [withKey_cons, withKey_cons, if_pos rfl, if_pos hab.symm] at hk
            exact (List.cons.inj hk).1
          subst hhead
          have htail : ∀ k, withKey key k t₁ = withKey key k t₂ := by
            intro k
            have hk := h k
            rw [withKey_cons, withKey_cons] at hk
            split at hk
            · exact (List.cons.inj hk).2
            · exact hk
          have hmem' : ∀ x, x ∈ t₁ ↔ x ∈ t₂ := by
            intro x
            have hx : x ∈ withKey key (key x) t₁ ↔ x ∈ withKey key (key x) t₂ := by rw [htail]
            simpa [mem_withKey] using hx
          rw [ih h₁.of_cons h₂.of_cons htail hmem']

end Stable

/-! ## The comparison of two reports -/

theorem Score.rank_inj {s t : Score} : s.rank = t.rank ↔ s = t := by
  cases s <;> cases t <;> decide

namespace CityReport

/-- How two reports compare, the better one first. Zero is no latency, and stands after
    all others. -/
def compare (a b : CityReport) : Ordering :=
  (Ord.compare b.score.rank a.score.rank).then <|
    match a.latency, b.latency with
    | 0, 0 => .eq
    | 0, _ => .gt
    | _, 0 => .lt
    | m, n => Ord.compare m n

/-- What reports are compared by. -/
def standing (a : CityReport) : Score × Nat := (a.score, a.latency)

variable {a b : CityReport}

theorem before_iff : a.before b = true ↔ b.score.rank < a.score.rank ∨
    a.score.rank = b.score.rank ∧ (b.latency = 0 ∨ a.latency ≠ 0 ∧ a.latency ≤ b.latency) := by
  unfold before
  split
  · next hne =>
    have hrank : a.score.rank ≠ b.score.rank := mt Score.rank_inj.mp hne
    simp [hrank]
  · next heq =>
    have hrank : a.score.rank = b.score.rank := Score.rank_inj.mpr (Decidable.not_not.mp heq)
    simp only [hrank, Nat.lt_irrefl, false_or, true_and]
    split
    · next hzero => simp [hzero]
    · next hsome => simp [hsome]

theorem before_trans (a b c : CityReport) (hab : a.before b = true) (hbc : b.before c = true) :
    a.before c = true := by
  rw [before_iff] at hab hbc ⊢
  omega

theorem before_total (a b : CityReport) : (a.before b || b.before a) = true := by
  rw [Bool.or_eq_true, before_iff, before_iff]
  omega

/-- Both orders are right exactly for reports of one standing. -/
theorem standing_eq_iff : a.standing = b.standing ↔ a.before b = true ∧ b.before a = true := by
  rw [before_iff, before_iff, standing, standing, Prod.mk.injEq, ← Score.rank_inj]
  omega

/-- Latencies compare like numbers, but zero is the last of them. -/
theorem isLE_latency (m n : Nat) :
    (match m, n with
      | 0, 0 => Ordering.eq
      | 0, _ => .gt
      | _, 0 => .lt
      | m, n => Ord.compare m n).isLE = true ↔ n = 0 ∨ m ≠ 0 ∧ m ≤ n := by
  match m, n with
  | 0, 0 => decide
  | 0, n + 1 => simp
  | m + 1, 0 => simp
  | m + 1, n + 1 => simp [Nat.isLE_compare]

theorem isLE_compare (a b : CityReport) : (compare a b).isLE = a.before b := by
  rw [Bool.eq_iff_iff, before_iff, compare]
  rcases Nat.lt_trichotomy b.score.rank a.score.rank with h | h | h
  · simp [Nat.compare_eq_lt.mpr h, h]
  · rw [Nat.compare_eq_eq.mpr h, h]
    simpa using isLE_latency a.latency b.latency
  · rw [Nat.compare_eq_gt.mpr h]
    simp
    omega

theorem compare_swap (a b : CityReport) : compare a b = (compare b a).swap := by
  unfold compare
  rw [Ordering.swap_then, Nat.compare_swap]
  congr 1
  match a.latency, b.latency with
  | 0, 0 => rfl
  | 0, n + 1 => rfl
  | m + 1, 0 => rfl
  | m + 1, n + 1 => exact (Nat.compare_swap _ _).symm

/-- The comparison is a total preorder. -/
instance transCmp_compare : Std.TransCmp compare where
  eq_swap := compare_swap _ _
  isLE_trans := by
    intro a b c hab hbc
    rw [isLE_compare] at hab hbc ⊢
    exact before_trans a b c hab hbc

end CityReport

/-! ## The reports -/

namespace Registry

section Sorted

variable (r : Registry) (now : Nat) (userCountry : Option String) (c : Catalog)

/-- The reports on the cities, in the order of the catalog. -/
def cityReports : List CityReport :=
  c.cities.map (r.report now userCountry)

theorem pairwise_reports :
    (r.reports now userCountry c).Pairwise (fun a b => a.before b = true) :=
  List.pairwise_mergeSort CityReport.before_trans CityReport.before_total _

theorem withKey_reports (k : Score × Nat) :
    withKey CityReport.standing k (r.reports now userCountry c) =
      withKey CityReport.standing k (r.cityReports now userCountry c) := by
  apply withKey_mergeSort CityReport.before_trans CityReport.before_total
  intro a b hab
  exact (CityReport.standing_eq_iff.mp hab).1

end Sorted

/-- **Reports rank the cities.** Each city of the catalog has one report, with its tier and
    its latency. Better tiers come first; within a tier the cities with a sample come
    before those without one, by latency; and where both agree, the order is that of the
    catalog. The comparison behind this is a total preorder, and no other list is sorted
    by it and keeps the order of the catalog: it is the same whatever sorts it. -/
theorem reports_rank_the_cities (r : Registry) (now : Nat) (userCountry : Option String)
    (c : Catalog) :
    let unsorted := c.cities.map fun city => CityReport.mk city.countryCode city.name
      (r.cityLatency city) (r.score now city userCountry)
    let reports := r.reports now userCountry c
    reports.Perm unsorted ∧
      reports.Pairwise (fun a b => b.score.rank ≤ a.score.rank ∧
        (a.score = b.score → b.latency ≠ 0 → a.latency ≠ 0 ∧ a.latency ≤ b.latency)) ∧
      (∀ k, withKey CityReport.standing k reports = withKey CityReport.standing k unsorted) ∧
      Std.TransCmp CityReport.compare ∧
      ∀ sorted : List CityReport,
        sorted.Pairwise (fun a b => CityReport.compare a b ≠ .gt) →
        (∀ k, withKey CityReport.standing k sorted = withKey CityReport.standing k unsorted) →
          sorted = reports := by
  intro unsorted reports
  have hperm : reports.Perm unsorted := List.mergeSort_perm _ _
  have hstable : ∀ k, withKey CityReport.standing k reports =
      withKey CityReport.standing k unsorted := r.withKey_reports now userCountry c
  have hbefore : reports.Pairwise (fun a b => a.before b = true) :=
    r.pairwise_reports now userCountry c
  refine ⟨hperm, ?_, hstable, inferInstance, ?_⟩
  · apply hbefore.imp
    intro a b hab
    rw [CityReport.before_iff] at hab
    constructor
    · omega
    · intro hscore hsome
      have hrank : a.score.rank = b.score.rank := congrArg Score.rank hscore
      omega
  · intro sorted hsorted hsame
    have hsorted' : sorted.Pairwise (fun a b => a.before b = true) := by
      apply hsorted.imp
      intro a b hab
      rw [← CityReport.isLE_compare]
      exact Ordering.isLE_iff_ne_gt.mpr hab
    have hanti : ∀ a b : CityReport, a.before b = true → b.before a = true →
        a.standing = b.standing :=
      fun a b hab hba => CityReport.standing_eq_iff.mpr ⟨hab, hba⟩
    apply eq_of_withKey hanti hsorted' hbefore
    intro k
    rw [hsame, hstable]

end Registry

end TunnelSession
