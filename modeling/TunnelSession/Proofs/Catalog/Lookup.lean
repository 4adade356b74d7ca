/-
  TunnelSession.Proofs.Catalog.Lookup

  To find a city of a catalog again by its own code and name. The codes of countries are
  lowered when a catalog is read and again when a city is selected, by the rules of all
  alphabets, but compared by those of ASCII. A code comes through this as long as none of
  its letters changes but the ASCII ones.

  What is found is the first city with the code and the name, and it is the one that was
  meant unless the catalog has two of them.
-/
import TunnelSession.Catalog.Reader

namespace TunnelSession

/-! ## Letter case -/

namespace Text

variable {a b s : String} {c : Char} {before cs : List Char}

/-- Only the ASCII letters of the text change when it is lowered. -/
def IsAsciiCased (s : String) : Prop := lower s = lowerAscii s

instance (s : String) : Decidable (IsAsciiCased s) := inferInstanceAs (Decidable (_ = _))

theorem equalFold_iff : equalFold a b = true ↔ lowerAscii a = lowerAscii b := by
  rw [equalFold, beq_iff_eq]
  exact String.ofList_inj.symm

-- Batteries has lemmas on lowered letters, but no module of Mathlib short of the whole of it
-- brings them in; these go by the numbers of the letters.
theorem isUpper_iff_toNat : c.isUpper = true ↔ 65 ≤ c.toNat ∧ c.toNat ≤ 90 :=
  decide_eq_true_iff.trans (and_congr UInt32.le_iff_toNat_le UInt32.le_iff_toNat_le)

theorem toLower_of_not_isUpper (h : ¬ c.isUpper = true) : c.toLower = c :=
  dif_neg (of_decide_eq_false (Bool.not_eq_true _ ▸ h))

theorem toNat_toLower_of_isUpper (h : c.isUpper = true) : c.toLower.toNat = c.toNat + 32 := by
  have hrange : 65 ≤ c.toNat ∧ c.toNat ≤ 90 := isUpper_iff_toNat.mp h
  have hlowered : c.toLower.val = c.val + 32 := congrArg Char.val (dif_pos (of_decide_eq_true h))
  calc c.toLower.toNat = (c.val + 32).toNat := congrArg UInt32.toNat hlowered
    _ = (c.toNat + 32) % 2 ^ 32 := UInt32.toNat_add c.val 32
    _ = c.toNat + 32 := Nat.mod_eq_of_lt (by omega)

theorem toLower_toLower (c : Char) : c.toLower.toLower = c.toLower := by
  by_cases h : c.isUpper = true
  · have hrange : 65 ≤ c.toNat ∧ c.toNat ≤ 90 := isUpper_iff_toNat.mp h
    have hlowered : c.toLower.toNat = c.toNat + 32 := toNat_toLower_of_isUpper h
    refine toLower_of_not_isUpper fun hagain => ?_
    have hcapital : c.toLower.toNat ≤ 90 := (isUpper_iff_toNat.mp hagain).2
    omega
  · rw [toLower_of_not_isUpper h, toLower_of_not_isUpper h]

theorem lowerAscii_lowerAscii (s : String) : lowerAscii (lowerAscii s) = lowerAscii s := by
  have hidem : Char.toLower ∘ Char.toLower = Char.toLower := funext toLower_toLower
  rw [lowerAscii, lowerAscii, String.toList_ofList, List.map_map, hidem]

/-- A capital ASCII letter is lowered to an ASCII letter. -/
theorem toNat_toLower_lt (h : c.isUpper = true) : c.toLower.toNat < 0x80 := by
  have hrange : 65 ≤ c.toNat ∧ c.toNat ≤ 90 := isUpper_iff_toNat.mp h
  rw [toNat_toLower_of_isUpper h]
  omega

theorem lowerAfter_cons (hsigma : c ≠ 'Σ') (hdotted : c ≠ 'İ') :
    lowerAfter before (c :: cs) = lowerChar c :: lowerAfter (c :: before) cs := by
  rw [lowerAfter]
  · exact hsigma
  · exact hdotted

/-- Where only ASCII letters change, nothing is left to change. -/
theorem lowerAfter_map_toLower (h : lowerAfter before cs = cs.map Char.toLower)
    (before' : List Char) : lowerAfter before' (cs.map Char.toLower) = cs.map Char.toLower := by
  induction cs generalizing before before' with
  | nil => rfl
  | cons c cs ih =>
      have hsigma : c ≠ 'Σ' := by
        rintro rfl
        have hhead : (if casedAhead before && !casedAhead cs then 'ς' else 'σ') = 'Σ' :=
          (List.cons.inj h).1
        split at hhead <;> cases hhead
      have hdotted : c ≠ 'İ' := by
        rintro rfl
        cases (List.cons.inj h).1
      rw [lowerAfter_cons hsigma hdotted, List.map_cons] at h
      obtain ⟨hc, hcs⟩ := List.cons.inj h
      rw [List.map_cons]
      by_cases hupper : c.isUpper = true
      · have hascii : c.toLower.toNat < 0x80 := toNat_toLower_lt hupper
        have hsigma' : c.toLower ≠ 'Σ' := by
          intro heq
          rw [heq] at hascii
          exact absurd hascii (by decide)
        have hdotted' : c.toLower ≠ 'İ' := by
          intro heq
          rw [heq] at hascii
          exact absurd hascii (by decide)
        rw [lowerAfter_cons hsigma' hdotted', ih hcs, lowerChar, if_pos hascii, toLower_toLower]
      · rw [toLower_of_not_isUpper hupper] at hc ⊢
        rw [lowerAfter_cons hsigma hdotted, ih hcs, hc]

/-- To lower such a text twice is to lower its ASCII letters. -/
theorem IsAsciiCased.lower_lower (h : IsAsciiCased s) : lower (lower s) = lowerAscii s := by
  have hcs : lowerAfter [] s.toList = s.toList.map Char.toLower := String.ofList_injective h
  rw [h, lower, lowerAscii, String.toList_ofList, lowerAfter_map_toLower hcs]

end Text

/-! ## Cities under a selection -/

namespace Catalog

variable {c : Catalog} {w : Selection} {city other : City} {k : Country}

/-- The catalog has the city under the selected code and name, both up to ASCII case. -/
def Has (c : Catalog) (w : Selection) (city : City) : Prop :=
  ∃ k ∈ c.countries, Text.equalFold k.code w.countryCode = true ∧ city ∈ k.cities ∧
    Text.equalFold city.name w.cityName = true

theorem has_of_findCity? (h : c.findCity? w.countryCode w.cityName = some city) : c.Has w city := by
  have hname := List.find?_some h
  obtain ⟨k, hk, hcity⟩ := List.mem_flatMap.mp (List.mem_of_find?_eq_some h)
  obtain ⟨hmem, hcode⟩ := List.mem_filter.mp hk
  exact ⟨k, hmem, hcode, hcity, hname⟩

theorem not_has_of_findCity? (h : c.findCity? w.countryCode w.cityName = none) (city : City) :
    ¬ c.Has w city := by
  rintro ⟨k, hk, hcode, hcity, hname⟩
  have hkept : k ∈ c.countries.filter fun k => Text.equalFold k.code w.countryCode :=
    List.mem_filter.mpr ⟨hk, hcode⟩
  exact List.find?_eq_none.mp h city (List.mem_flatMap.mpr ⟨k, hkept, hcity⟩) hname

/-! ## Finding a city again -/

/-- Every city has the lowered code of its country. -/
def IsMarked (c : Catalog) : Prop :=
  ∀ k ∈ c.countries, ∀ city ∈ k.cities, city.countryCode = Text.lower k.code

/-- No two cities have the same code and name up to ASCII case. -/
def IsUnambiguous (c : Catalog) : Prop :=
  ∀ a ∈ c.cities, ∀ b ∈ c.cities, Text.equalFold a.countryCode b.countryCode = true →
    Text.equalFold a.name b.name = true → a = b

instance (c : Catalog) : Decidable c.IsUnambiguous :=
  inferInstanceAs (Decidable (∀ a ∈ c.cities, ∀ b ∈ c.cities, _ → _ → a = b))

theorem isMarked_of_read {text : String} (h : Catalog.read text = .ok c) : c.IsMarked := by
  intro k hk city hcity
  unfold Catalog.read at h
  split at h
  · cases h
  · split at h
    · cases h
    · cases h
      obtain ⟨k', -, rfl⟩ := List.mem_map.mp hk
      obtain ⟨city', -, rfl⟩ := List.mem_map.mp hcity
      rfl

/-- A city with a code that comes through is found under its own code and name. -/
theorem has_make (hmarked : c.IsMarked) (hk : k ∈ c.countries) (hcode : Text.IsAsciiCased k.code)
    (hcity : city ∈ k.cities) : c.Has (.make city.countryCode city.name) city := by
  refine ⟨k, hk, ?_, hcity, Text.equalFold_iff.mpr rfl⟩
  show Text.equalFold k.code (Text.lower city.countryCode) = true
  rw [hmarked k hk city hcity, hcode.lower_lower, Text.equalFold_iff, Text.lowerAscii_lowerAscii]

/-- All that is found under the code and name of a city has the same code and name. -/
theorem equalFold_of_has_make (hmarked : c.IsMarked)
    (hcodes : ∀ k ∈ c.countries, Text.IsAsciiCased k.code) (hk : k ∈ c.countries)
    (hcity : city ∈ k.cities) (h : c.Has (.make city.countryCode city.name) other) :
    other ∈ c.cities ∧ Text.equalFold other.countryCode city.countryCode = true ∧
      Text.equalFold other.name city.name = true := by
  obtain ⟨k', hk', hfold, hother, hname⟩ := h
  refine ⟨List.mem_flatMap.mpr ⟨k', hk', hother⟩, ?_, hname⟩
  have hsame : Text.lowerAscii k'.code = Text.lowerAscii k.code := by
    have hlowered : Text.equalFold k'.code (Text.lower city.countryCode) = true := hfold
    rwa [hmarked k hk city hcity, (hcodes k hk).lower_lower, Text.equalFold_iff,
      Text.lowerAscii_lowerAscii] at hlowered
  rw [hmarked k' hk' other hother, hmarked k hk city hcity, hcodes k' hk', hcodes k hk, hsame]
  exact Text.equalFold_iff.mpr rfl

/-- In a catalog that was read, a city is found again by its own code and name if the codes
    of the countries come through, and no other city has the same. -/
theorem findCity?_make (hmarked : c.IsMarked)
    (hcodes : ∀ k ∈ c.countries, Text.IsAsciiCased k.code) (hunambiguous : c.IsUnambiguous)
    (hcity : city ∈ c.cities) :
    c.findCity? (Selection.make city.countryCode city.name).countryCode
      (Selection.make city.countryCode city.name).cityName = some city := by
  obtain ⟨k, hk, hmem⟩ := List.mem_flatMap.mp hcity
  cases hfind : c.findCity? (Selection.make city.countryCode city.name).countryCode
      (Selection.make city.countryCode city.name).cityName with
  | none => exact absurd (has_make hmarked hk (hcodes k hk) hmem) (not_has_of_findCity? hfind city)
  | some other =>
      obtain ⟨hother, hcode, hname⟩ :=
        equalFold_of_has_make hmarked hcodes hk hmem (has_of_findCity? hfind)
      rw [hunambiguous other hother city hcity hcode hname]

end Catalog

end TunnelSession
