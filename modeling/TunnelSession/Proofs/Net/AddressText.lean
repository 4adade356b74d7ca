/-
  TunnelSession.Proofs.Net.AddressText

  The text of an address is read back as that address. For the colon form the
  text is taken apart at its double colon, and each side holds the groups that it
  was written for; what the double colon stands for are zeros.
-/
import TunnelSession.Net.Address
import TunnelSession.Proofs.Text.Numerals

namespace TunnelSession.Net.Address

open Text (isDigitOf Stops stops_nil stops_cons)

/-! ## Numbers -/

theorem readNumber_toDigits {radix most n : Nat} {rest : List Char} (zeros : Bool)
    (h1 : 1 < radix) (h16 : radix ≤ 16) (hn : (Nat.toDigits radix n).length ≤ most)
    (hrest : Stops (isDigitOf radix) rest) :
    readNumber radix most zeros (Nat.toDigits radix n ++ rest) = some (n, rest) := by
  have hpos : 0 < (Nat.toDigits radix n).length := Nat.length_toDigits_pos
  have hkeep : ¬((Nat.toDigits radix n).isEmpty || decide (most < (Nat.toDigits radix n).length) ||
      (!zeros && decide (1 < (Nat.toDigits radix n).length) &&
        (Nat.toDigits radix n).head? == some '0')) = true := by
    have hne : Nat.toDigits radix n ≠ [] := List.ne_nil_of_length_pos hpos
    simp only [Bool.or_eq_true, Bool.and_eq_true, decide_eq_true_eq, beq_iff_eq, List.isEmpty_iff]
    rintro ((hnil | hlong) | ⟨⟨_, hlong⟩, hzero⟩)
    · exact hne hnil
    · omega
    · exact (Text.no_leading_zero h1 h16).elim (· hlong) (· hzero)
  simp only [readNumber]
  rw [Text.takeWhile_toDigits h1 h16 hrest, if_neg hkeep, Text.valueOf_toDigits h1 h16,
    List.drop_left]

/-- What follows a number is what follows its digits. -/
theorem readNumber_rest {radix most n : Nat} {zeros : Bool} {cs rest : List Char}
    (h : readNumber radix most zeros cs = some (n, rest)) :
    rest = cs.dropWhile (isDigitOf radix) := by
  simp only [readNumber] at h
  split at h
  · exact nomatch h
  · obtain ⟨_, hrest⟩ := Prod.mk.inj (Option.some.inj h)
    have hsplit : cs.takeWhile (isDigitOf radix) ++ cs.dropWhile (isDigitOf radix) = cs :=
      List.takeWhile_append_dropWhile
    calc rest = cs.drop (cs.takeWhile (isDigitOf radix)).length := hrest.symm
      _ = (cs.takeWhile (isDigitOf radix) ++ cs.dropWhile (isDigitOf radix)).drop
            (cs.takeWhile (isDigitOf radix)).length := by rw [hsplit]
      _ = cs.dropWhile (isDigitOf radix) := List.drop_left

/-- No number begins with something that is no digit. -/
theorem readNumber_of_stops {radix : Nat} (most : Nat) (zeros : Bool) {cs : List Char}
    (h : Stops (isDigitOf radix) cs) : readNumber radix most zeros cs = none := by
  simp only [readNumber]
  rw [h.takeWhile]
  rfl

/-! ## The dotted form -/

theorem readOctet_toDigits {n : Nat} {rest : List Char} (hn : n < 256)
    (hrest : Stops (isDigitOf 10) rest) : readOctet (Nat.toDigits 10 n ++ rest) = some (n, rest) := by
  have hlength : (Nat.toDigits 10 n).length ≤ 3 :=
    (Nat.length_toDigits_le_iff (by decide) (by decide)).2 (by omega)
  rw [readOctet, readNumber_toDigits false (by decide) (by decide) hlength hrest,
    Option.filter_some, if_pos (by simpa using hn)]

/-- The octets of an IPv4 address with dots between them. -/
def dotted (n : Nat) : List Char :=
  Nat.toDigits 10 (n / 16777216) ++ '.' :: (Nat.toDigits 10 (n / 65536 % 256) ++
    '.' :: (Nat.toDigits 10 (n / 256 % 256) ++ '.' :: Nat.toDigits 10 (n % 256)))

theorem toList_showV4 (a : BitVec 32) : (showV4 a).toList = dotted a.toNat := by
  simp [showV4, dotted, Text.decimal]

theorem readV4_dotted (a : BitVec 32) : readV4 (dotted a.toNat) = some (a, []) := by
  have hdot : ∀ rest, Stops (isDigitOf 10) ('.' :: rest) := fun _ => stops_cons rfl
  have hlt := a.isLt
  have hvalue : ((a.toNat / 16777216 * 256 + a.toNat / 65536 % 256) * 256 +
      a.toNat / 256 % 256) * 256 + a.toNat % 256 = a.toNat := by omega
  have hlast : readOctet (Nat.toDigits 10 (a.toNat % 256) ++ []) = some (a.toNat % 256, []) :=
    readOctet_toDigits (Nat.mod_lt _ (by decide)) stops_nil
  rw [List.append_nil] at hlast
  simp only [readV4, dotted, Option.bind_eq_bind]
  rw [readOctet_toDigits (by omega) (hdot _), Option.bind_some, expect, if_pos rfl,
    Option.bind_some, readOctet_toDigits (Nat.mod_lt _ (by decide)) (hdot _), Option.bind_some,
    expect, if_pos rfl, Option.bind_some, readOctet_toDigits (Nat.mod_lt _ (by decide)) (hdot _),
    Option.bind_some, expect, if_pos rfl, Option.bind_some, hlast, Option.bind_some, hvalue,
    BitVec.ofNat_toNat, BitVec.setWidth_eq]

/-- There is no dotted form where no dot follows the first digits. -/
theorem readV4_of_no_dot {cs : List Char} (h : (cs.dropWhile (isDigitOf 10)).head? ≠ some '.') :
    readV4 cs = none := by
  cases hread : readOctet cs with
  | none => rw [readV4, hread]; rfl
  | some r =>
      obtain ⟨n, rest⟩ := r
      have hrest := readNumber_rest (Option.filter_eq_some_iff.1 hread).1
      have hexpect : expect '.' rest = none := by
        cases rest with
        | nil => rfl
        | cons c rest =>
            rw [← hrest] at h
            exact if_neg fun hc => h (congrArg some hc)
      rw [readV4, hread]
      simp only [Option.bind_eq_bind, Option.bind_some, hexpect, Option.bind_none]

/-! ## Groups -/

/-- Groups as they are spelled: a colon before each but the first. -/
def spelled (first : Bool) : List Nat → List Char
  | [] => []
  | g :: rest => (if first then [] else [':']) ++ (Nat.toDigits 16 g ++ spelled false rest)

theorem toList_showGroups (groups : List Nat) :
    (showGroups groups).toList = spelled true groups := by
  have htail : ∀ gs : List Nat, ∀ g, ((':' :: ([':'].intercalate
      ((g :: gs).map (Nat.toDigits 16)))) = spelled false (g :: gs)) := by
    intro gs
    induction gs with
    | nil => intro g; simp [spelled]
    | cons g' gs ih =>
        intro g
        rw [List.map_cons, List.map_cons, List.intercalate_cons_cons, ← List.map_cons, spelled,
          ← ih g']
        simp
  cases groups with
  | nil => rfl
  | cons g gs =>
      have hhere := htail gs g
      rw [spelled] at hhere ⊢
      rw [showGroups, String.toList_intercalate, List.map_map]
      have hof :
          String.toList ∘ (fun g => String.ofList (Nat.toDigits 16 g)) = Nat.toDigits 16 := by
        funext g
        exact String.toList_ofList
      rw [hof]
      exact (List.cons.inj hhere).2

/-- The text ends, or goes on with a colon. -/
def AtColon (rest : List Char) : Prop :=
  ∀ c ∈ rest.head?, c = ':'

theorem atColon_nil : AtColon [] :=
  fun _ hc => nomatch hc

theorem atColon_cons (rest : List Char) : AtColon (':' :: rest) :=
  fun _ hc => (Option.some.inj hc).symm

theorem AtColon.stops {radix : Nat} {rest : List Char} (h : AtColon rest) :
    Stops (isDigitOf radix) rest := by
  intro c hc
  rw [h c hc]
  rfl

theorem atColon_spelled {rest : List Char} (groups : List Nat) (h : AtColon rest) :
    AtColon (spelled false groups ++ rest) := by
  cases groups with
  | nil => exact h
  | cons g gs => exact atColon_cons _

/-- Hexadecimal digits before a colon do not begin a dotted form. -/
theorem readV4_digits {run rest : List Char} (hrun : ∀ c ∈ run, isDigitOf 16 c = true)
    (hrest : AtColon rest) : readV4 (run ++ rest) = none := by
  refine readV4_of_no_dot ?_
  -- the decimal digits among them end at another hexadecimal digit, or at the colon
  induction run with
  | nil =>
      cases rest with
      | nil => exact nofun
      | cons c rest =>
          rw [hrest c rfl, List.nil_append, List.dropWhile_cons_of_neg (by decide)]
          exact fun h => absurd (Option.some.inj h) (by decide)
  | cons c run ih =>
      rw [List.cons_append, List.dropWhile_cons]
      by_cases hc : isDigitOf 10 c = true
      · rw [if_pos hc]
        exact ih fun d hd => hrun d (List.mem_cons_of_mem c hd)
      · rw [if_neg hc]
        intro hdot
        have hhex := hrun c List.mem_cons_self
        rw [Option.some.inj hdot] at hhex
        exact absurd hhex (by decide)

theorem readV4_spelled {rest : List Char} (groups : List Nat) (hrest : AtColon rest) :
    readV4 (spelled true groups ++ rest) = none := by
  cases groups with
  | nil => exact readV4_digits (fun _ hc => nomatch hc) hrest
  | cons g gs =>
      have hrun : ∀ c ∈ Nat.toDigits 16 g, isDigitOf 16 c = true := fun c hc =>
        Text.isDigitOf_of_mem_toDigits (by decide) (by decide) hc
      have htext : spelled true (g :: gs) ++ rest =
          Nat.toDigits 16 g ++ (spelled false gs ++ rest) := by
        simp [spelled]
      rw [htext]
      exact readV4_digits hrun (atColon_spelled gs hrest)

/-- Reading a group after the colon before it, where no dotted form stands. -/
theorem readGroups_of_no_dotted (first : Bool) (left : Nat) {body : List Char}
    (h : readV4 body = none) :
    readGroups first (left + 1) ((if first then [] else [':']) ++ body) =
      match readNumber 16 4 true body with
      | none => ⟨[], false, (if first then [] else [':']) ++ body⟩
      | some (g, rest) =>
        ⟨g :: (readGroups false left rest).groups, (readGroups false left rest).dotted,
          (readGroups false left rest).rest⟩ := by
  have hbody : (if first then some ((if first then [] else [':']) ++ body)
      else expect ':' ((if first then [] else [':']) ++ body)) = some body := by
    cases first <;> rfl
  rw [readGroups, hbody]
  cases hnumber : readNumber 16 4 true body with
  | none => simp only [h, ite_self, hnumber]
  | some r => simp only [h, ite_self, hnumber]

/-- No more groups are read where the text ends or a double colon stands. -/
theorem readGroups_of_end (first : Bool) (left : Nat) :
    readGroups first left [] = ⟨[], false, []⟩ := by
  cases left with
  | zero => rfl
  | succ left =>
      cases first with
      | false => rfl
      | true =>
          have hnone : readV4 [] = none := by decide
          have h := readGroups_of_no_dotted true left hnone
          rw [readNumber_of_stops 4 true stops_nil] at h
          exact h

theorem readGroups_of_colons (first : Bool) (left : Nat) (rest : List Char) :
    readGroups first left (':' :: ':' :: rest) = ⟨[], false, ':' :: ':' :: rest⟩ := by
  have hnone : ∀ cs, readV4 (':' :: cs) = none := fun cs => readV4_spelled [] (atColon_cons cs)
  cases left with
  | zero => rfl
  | succ left =>
      cases first with
      | false =>
          have h := readGroups_of_no_dotted false left (hnone rest)
          rw [readNumber_of_stops 4 true (atColon_cons rest).stops] at h
          exact h
      | true =>
          have h := readGroups_of_no_dotted true left (hnone (':' :: rest))
          rw [readNumber_of_stops 4 true (atColon_cons _).stops] at h
          exact h

section Spelled

variable {groups : List Nat} {left : Nat} {rest : List Char}

/-- Spelled groups are read, up to where reading stops by itself. -/
theorem readGroups_spelled (first : Bool) (hfits : groups.length ≤ left)
    (hsmall : ∀ g ∈ groups, g < 65536) (hrest : AtColon rest)
    (hstop : ∀ first left, readGroups first left rest = ⟨[], false, rest⟩) :
    readGroups first left (spelled first groups ++ rest) = ⟨groups, false, rest⟩ := by
  -- only the first group has no colon before it, so `first` changes on the way
  induction groups generalizing first left with
  | nil => exact hstop first left
  | cons g gs ih =>
      obtain ⟨left, rfl⟩ : ∃ l, left = l + 1 := ⟨left - 1, by
        have := hfits
        rw [List.length_cons] at this
        omega⟩
      have hlength : (Nat.toDigits 16 g).length ≤ 4 :=
        (Nat.length_toDigits_le_iff (by decide) (by decide)).2 (hsmall g List.mem_cons_self)
      have htext : spelled first (g :: gs) ++ rest =
          (if first then [] else [':']) ++ (Nat.toDigits 16 g ++ (spelled false gs ++ rest)) := by
        rw [spelled, List.append_assoc, List.append_assoc]
      have hdigits : ∀ c ∈ Nat.toDigits 16 g, isDigitOf 16 c = true := fun c hc =>
        Text.isDigitOf_of_mem_toDigits (by decide) (by decide) hc
      have hmore := ih false (Nat.le_of_succ_le_succ hfits)
        fun g' hg' => hsmall g' (List.mem_cons_of_mem g hg')
      rw [htext, readGroups_of_no_dotted first left
          (readV4_digits hdigits (atColon_spelled gs hrest)),
        readNumber_toDigits true (by decide) (by decide) hlength (atColon_spelled gs hrest).stops]
      simp only [hmore]

end Spelled

theorem readGroups_spelled_end {groups : List Nat} {left : Nat} (hfits : groups.length ≤ left)
    (hsmall : ∀ g ∈ groups, g < 65536) :
    readGroups true left (spelled true groups) = ⟨groups, false, []⟩ := by
  have h := readGroups_spelled true hfits hsmall atColon_nil readGroups_of_end
  rwa [List.append_nil] at h

/-! ## The longest run of zeros -/

/-- All groups of the run are zero. -/
def Run.Zero (groups : List Nat) (r : Run) : Prop :=
  ∀ i, r.start ≤ i → i < r.start + r.size → groups[i]? = some 0

/-- The run in progress ends where the reading stands. -/
def Run.EndsAt (r : Run) (at_ : Nat) : Prop :=
  r.size = 0 ∨ r.start + r.size = at_

theorem longestZeros_zero {groups : List Nat} (rest : List Nat) {at_ : Nat} {current best : Run}
    (hrest : groups.drop at_ = rest) (hcurrent : current.Zero groups)
    (hends : current.EndsAt at_) (hbest : best.Zero groups) :
    (longestZeros current best at_ rest).Zero groups := by
  induction rest generalizing at_ current best with
  | nil => exact hbest
  | cons g rest ih =>
      have hhere : groups[at_]? = some g := by
        rw [← List.head?_drop, hrest]
        rfl
      have hnext : groups.drop (at_ + 1) = rest := by
        rw [← List.drop_drop, hrest]
        rfl
      rw [longestZeros]
      split
      · next hg =>
          subst hg
          generalize hgrown : (if current.size = 0 then (⟨at_, 1⟩ : Run)
            else ⟨current.start, current.size + 1⟩) = grown
          -- the zero here begins a run, or extends the one that ends here
          have hzero : grown.Zero groups := by
            intro i hlo hhi
            rcases Nat.lt_or_ge i at_ with hlt | hge
            · rw [← hgrown] at hlo hhi
              split at hlo
              · exact absurd hlo (Nat.not_le.2 hlt)
              · next hsize =>
                  rw [if_neg hsize] at hhi
                  have hend := hends.resolve_left hsize
                  exact hcurrent i hlo (by omega)
            · have hi : i = at_ := by
                rw [← hgrown] at hhi
                split at hhi
                · exact Nat.le_antisymm (Nat.le_of_lt_succ hhi) hge
                · next hsize =>
                    have hend := hends.resolve_left hsize
                    simp only at hhi
                    omega
              rw [hi]
              exact hhere
          have hgrownEnds : grown.EndsAt (at_ + 1) := by
            rw [← hgrown]
            split
            · exact .inr rfl
            · next hsize =>
                have hend := hends.resolve_left hsize
                exact .inr (by simp only; omega)
          refine ih hnext hzero hgrownEnds ?_
          split
          · exact hzero
          · exact hbest
      · exact ih hnext (fun i _ hi => absurd hi (by simp)) (.inl rfl) hbest

/-- A run of zeros can be cut out and put back. -/
theorem Run.Zero.fill {groups : List Nat} {r : Run} (h : r.Zero groups) (hsize : 0 < r.size) :
    r.start + r.size ≤ groups.length ∧
      groups.take r.start ++ List.replicate r.size 0 ++ groups.drop (r.start + r.size) = groups := by
  have hlast := h (r.start + r.size - 1) (by omega) (by omega)
  obtain ⟨hlt, _⟩ := List.getElem?_eq_some_iff.1 hlast
  have hzeros : (groups.drop r.start).take r.size = List.replicate r.size 0 := by
    refine List.eq_replicate_iff.2 ⟨by rw [List.length_take, List.length_drop]; omega, ?_⟩
    intro g hg
    obtain ⟨i, hi, hget⟩ := List.mem_iff_getElem.1 hg
    have hsmall : i < r.size := Nat.lt_of_lt_of_le hi (List.length_take_le _ _)
    have hzero := h (r.start + i) (Nat.le_add_right _ _) (Nat.add_lt_add_left hsmall _)
    rw [← List.getElem?_drop, ← List.getElem?_take_of_lt hsmall, List.getElem?_eq_getElem hi,
      hget] at hzero
    exact Option.some.inj hzero
  refine ⟨by omega, ?_⟩
  rw [← hzeros, List.append_assoc, ← List.drop_drop, List.take_append_drop,
    List.take_append_drop]

/-! ## The colon form -/

theorem length_groupsOf (a : BitVec 128) : (groupsOf a).length = 8 := rfl

theorem groupsOf_lt (a : BitVec 128) : ∀ g ∈ groupsOf a, g < 65536 := by
  intro g hg
  obtain ⟨i, _, rfl⟩ := List.mem_map.1 hg
  exact Nat.mod_lt _ (by decide)

theorem ofGroups_groupsOf (a : BitVec 128) : ofGroups (groupsOf a) = a := by
  have hlt := a.isLt
  refine BitVec.eq_of_toNat_eq ?_
  simp only [ofGroups, groupsOf, List.map_cons, List.map_nil, List.foldl_cons, List.foldl_nil,
    Nat.shiftRight_eq_div_pow, BitVec.toNat_ofNat]
  omega

/-- A mapped IPv4 address in terms of its groups. -/
theorem ofGroups_mapped {a : BitVec 128} (h : a.toNat >>> 32 = 0xFFFF) :
    ofGroups (List.replicate 5 0 ++ [0xFFFF, (BitVec.ofNat 32 a.toNat).toNat / 65536,
      (BitVec.ofNat 32 a.toNat).toNat % 65536]) = a := by
  have hlt := a.isLt
  rw [Nat.shiftRight_eq_div_pow] at h
  refine BitVec.eq_of_toNat_eq ?_
  simp only [ofGroups, List.replicate, List.cons_append, List.nil_append, List.foldl_cons,
    List.foldl_nil, BitVec.toNat_ofNat]
  omega

/-- Eight groups that are spelled out are the address. -/
theorem readV6_spelled {groups : List Nat} (hlength : groups.length = 8)
    (hsmall : ∀ g ∈ groups, g < 65536) :
    readV6 (spelled true groups) = some (ofGroups groups, []) := by
  have hhead := readGroups_spelled_end (Nat.le_of_eq hlength) hsmall
  simp only [readV6, hhead, hlength, if_true]

/-- Groups around a double colon, with zeros in its place, are the address. -/
theorem readV6_around {before after : List Nat} {zeros : Nat} {dotted : Bool} {text : List Char}
    (hlength : before.length + zeros + after.length = 8) (hzeros : 0 < zeros)
    (hsmall : ∀ g ∈ before, g < 65536)
    (hafter : readGroups true (7 - before.length) text = ⟨after, dotted, []⟩) :
    readV6 (spelled true before ++ ':' :: ':' :: text) =
      some (ofGroups (before ++ List.replicate zeros 0 ++ after), []) := by
  have hhead : readGroups true 8 (spelled true before ++ ':' :: ':' :: text) =
      ⟨before, false, ':' :: ':' :: text⟩ :=
    readGroups_spelled true (by omega) hsmall (atColon_cons _)
      fun first left => readGroups_of_colons first left text
  have hcount : 8 - before.length - after.length = zeros := by omega
  simp only [readV6, hhead, expect, if_pos, Option.bind_eq_bind, Option.bind_some, hafter, hcount]
  rw [if_neg (by omega), if_neg (by decide)]

/-- The tail of a mapped address: its last group and the dotted form. -/
theorem readGroups_mapped (a : BitVec 32) :
    readGroups true 7 ("ffff:".toList ++ dotted a.toNat) =
      ⟨[0xFFFF, a.toNat / 65536, a.toNat % 65536], true, []⟩ := by
  have hcolon : AtColon (':' :: dotted a.toNat) := atColon_cons _
  have htext : "ffff:".toList ++ dotted a.toNat =
      (if true then [] else [':']) ++ (Nat.toDigits 16 0xFFFF ++ ':' :: dotted a.toNat) := by
    rw [show Nat.toDigits 16 0xFFFF = ['f', 'f', 'f', 'f'] by decide]
    rfl
  have hnumber : readNumber 16 4 true (Nat.toDigits 16 0xFFFF ++ ':' :: dotted a.toNat) =
      some (0xFFFF, ':' :: dotted a.toNat) :=
    readNumber_toDigits true (by decide) (by decide) (by decide) hcolon.stops
  have hdigits : ∀ c ∈ Nat.toDigits 16 0xFFFF, isDigitOf 16 c = true := fun _ hc =>
    Text.isDigitOf_of_mem_toDigits (by decide) (by decide) hc
  have hdotted : readGroups false 6 (':' :: dotted a.toNat) =
      ⟨[a.toNat / 65536, a.toNat % 65536], true, []⟩ := by
    rw [readGroups]
    simp only [expect, if_true, Bool.false_eq_true, if_false, readV4_dotted]
    rfl
  rw [htext, readGroups_of_no_dotted true 6 (readV4_digits hdigits hcolon), hnumber]
  simp only [hdotted]

theorem readV6_showV6 (a : BitVec 128) : readV6 (showV6 a).toList = some (a, []) := by
  rw [showV6]
  split
  · next hmapped =>
      have hmappedGroups := readGroups_mapped (BitVec.ofNat 32 a.toNat)
      have hcount : ([] : List Nat).length + 5 + [0xFFFF, (BitVec.ofNat 32 a.toNat).toNat / 65536,
          (BitVec.ofNat 32 a.toNat).toNat % 65536].length = 8 := rfl
      have htail := readV6_around hcount (by decide) (fun _ hg => nomatch hg) hmappedGroups
      rw [List.nil_append, ofGroups_mapped hmapped] at htail
      rw [String.toList_append, toList_showV4]
      exact htail
  · simp only
    generalize hr : longestZeros ⟨0, 0⟩ ⟨0, 0⟩ 0 (groupsOf a) = r
    have hzero : r.Zero (groupsOf a) := by
      rw [← hr]
      exact longestZeros_zero _ rfl (fun _ _ hi => absurd hi (by simp)) (.inl rfl)
        fun _ _ hi => absurd hi (by simp)
    split
    · next hsize =>
        obtain ⟨hends, hfill⟩ := hzero.fill (by omega)
        rw [length_groupsOf] at hends
        have hbefore : ((groupsOf a).take r.start).length = r.start := by
          rw [List.length_take, length_groupsOf]
          omega
        have hafter : ((groupsOf a).drop (r.start + r.size)).length = 8 - (r.start + r.size) := by
          rw [List.length_drop, length_groupsOf]
        have hfits : ((groupsOf a).drop (r.start + r.size)).length ≤
            7 - ((groupsOf a).take r.start).length := by omega
        have hcount : ((groupsOf a).take r.start).length + r.size +
            ((groupsOf a).drop (r.start + r.size)).length = 8 := by omega
        have htail := readGroups_spelled_end hfits
          fun g hg => groupsOf_lt a g (List.mem_of_mem_drop hg)
        have hread := readV6_around hcount (by omega)
          (fun g hg => groupsOf_lt a g (List.mem_of_mem_take hg)) htail
        rw [hfill, ofGroups_groupsOf] at hread
        rw [String.toList_append, String.toList_append, toList_showGroups, toList_showGroups,
          List.append_assoc]
        exact hread
    · rw [toList_showGroups, readV6_spelled (length_groupsOf a) (groupsOf_lt a), ofGroups_groupsOf]

/-- A colon form is no dotted form. -/
theorem readV4_showV6 (a : BitVec 128) : readV4 (showV6 a).toList = none := by
  rw [showV6]
  split
  · rw [String.toList_append]
    exact readV4_spelled [] (atColon_cons _)
  · simp only
    split
    · rw [String.toList_append, String.toList_append, toList_showGroups, List.append_assoc]
      exact readV4_spelled _ (atColon_cons _)
    · rw [toList_showGroups, ← List.append_nil (spelled _ _)]
      exact readV4_spelled _ atColon_nil

/-- An address is read back from its text. -/
theorem read?_text (a : Address) : read? a.text = some a := by
  cases a with
  | v4 a =>
      have hread : readV4? (showV4 a) = some a := by
        rw [readV4?, toList_showV4, readV4_dotted]
      rw [text, read?, hread]
  | v6 a =>
      have hnone : readV4? (showV6 a) = none := by rw [readV4?, readV4_showV6]
      have hread : readV6? (showV6 a) = some a := by rw [readV6?, readV6_showV6]
      rw [text, read?, hnone, hread]
      rfl

/-! ## Characters -/

/-- A character that the text of an address may hold. -/
def isAddressChar (c : Char) : Bool := isDigitOf 16 c || c == '.' || c == ':'

theorem isAddressChar_of_toDigits {radix n : Nat} {c : Char} (h1 : 1 < radix) (h16 : radix ≤ 16)
    (hc : c ∈ Nat.toDigits radix n) : isAddressChar c = true := by
  have hdigit := Text.isDigitOf_of_mem_toDigits h1 h16 hc
  simp only [isAddressChar, Text.isDigitOf_mono h16 hdigit, Bool.true_or]

theorem isAddressChar_of_showV4 (a : BitVec 32) :
    ∀ c ∈ (showV4 a).toList, isAddressChar c = true := by
  have hdigits : ∀ n, ∀ c ∈ Nat.toDigits 10 n, isAddressChar c = true := fun _ _ hc =>
    isAddressChar_of_toDigits (by decide) (by decide) hc
  rw [toList_showV4, dotted]
  intro c hc
  simp only [List.mem_append, List.mem_cons] at hc
  rcases hc with hc | rfl | hc | rfl | hc | rfl | hc
  · exact hdigits _ c hc
  · rfl
  · exact hdigits _ c hc
  · rfl
  · exact hdigits _ c hc
  · rfl
  · exact hdigits _ c hc

theorem isAddressChar_of_showGroups (groups : List Nat) :
    ∀ c ∈ (showGroups groups).toList, isAddressChar c = true := by
  have hspelled : ∀ (groups : List Nat) (first : Bool),
      ∀ c ∈ spelled first groups, isAddressChar c = true := by
    intro groups
    induction groups with
    | nil => exact fun _ _ hc => nomatch hc
    | cons g groups ih =>
        intro first c hc
        simp only [spelled, List.mem_append] at hc
        rcases hc with hc | hc | hc
        · cases first with
          | true => cases hc
          | false => rw [List.mem_singleton.mp hc]; rfl
        · exact isAddressChar_of_toDigits (by decide) (by decide) hc
        · exact ih false c hc
  rw [toList_showGroups]
  exact hspelled groups true

/-- The text of an address holds digits, dots and colons. -/
theorem isAddressChar_of_text (a : Address) : ∀ c ∈ a.text.toList, isAddressChar c = true := by
  cases a with
  | v4 a => exact isAddressChar_of_showV4 a
  | v6 a =>
      have hmapped : ∀ c ∈ "::ffff:".toList, isAddressChar c = true :=
        List.all_eq_true.mp (by decide)
      have hgap : ∀ c ∈ "::".toList, isAddressChar c = true := List.all_eq_true.mp (by decide)
      rw [text, showV6]
      intro c hc
      split at hc
      · rw [String.toList_append] at hc
        exact (List.mem_append.mp hc).elim (hmapped c) (isAddressChar_of_showV4 _ c)
      · simp only at hc
        split at hc
        · rw [String.toList_append, String.toList_append] at hc
          rcases List.mem_append.mp hc with hc | hc
          · exact (List.mem_append.mp hc).elim (isAddressChar_of_showGroups _ c) (hgap c)
          · exact isAddressChar_of_showGroups _ c hc
        · exact isAddressChar_of_showGroups _ c hc

end TunnelSession.Net.Address
