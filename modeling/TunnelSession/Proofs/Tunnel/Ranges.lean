/-
  TunnelSession.Proofs.Tunnel.Ranges

  A range is read back from its text and from its JSON form, whatever its address and
  length are, host bits included. So no two ranges share a text; and since no range has
  a comma in its text, the list of routes in an interface file can be taken apart
  again, and tells which ranges the config has.
-/
import TunnelSession.Proofs.Text.Trimming
import TunnelSession.Proofs.Tunnel.QuickFile
import TunnelSession.Proofs.Wire.RoundTrip

namespace TunnelSession

open Net (Address Cidr)
open Text (AllBlank Stops)

/-! ## The text of a range -/

namespace Net.Cidr

/-- A character that the text of a range may hold. -/
def isRangeChar (c : Char) : Bool := Address.isAddressChar c || c == '/'

theorem toList_text (r : Cidr) :
    r.text.toList = r.address.text.toList ++ '/' :: Nat.toDigits 10 r.length := by
  have hslash : "/".toList = ['/'] := rfl
  have hdecimal : (Text.decimal r.length).toList = Nat.toDigits 10 r.length :=
    String.toList_ofList
  show (r.address.text ++ "/" ++ Text.decimal r.length).toList = _
  rw [String.toList_append, String.toList_append, hslash, hdecimal, List.append_assoc,
    List.singleton_append]

theorem isRangeChar_of_text (r : Cidr) : ∀ c ∈ r.text.toList, isRangeChar c = true := by
  intro c hc
  rw [toList_text] at hc
  simp only [isRangeChar, Bool.or_eq_true, beq_iff_eq]
  rcases List.mem_append.mp hc with hc | hc
  · exact .inl (Address.isAddressChar_of_text _ c hc)
  rcases List.mem_cons.mp hc with hc | hc
  · exact .inr hc
  · exact .inl (Address.isAddressChar_of_toDigits (by decide) (by decide) hc)

theorem isBlank_of_isRangeChar {c : Char} (h : isRangeChar c = true) : Text.isBlank c = false := by
  simp only [isRangeChar, Address.isAddressChar, Bool.or_eq_true, beq_iff_eq] at h
  rcases h with ((h | rfl) | rfl) | rfl
  · have hbounds := Text.toNat_of_isDigitOf h
    simp only [Text.isBlank, Bool.or_eq_false_iff, Bool.and_eq_false_iff, decide_eq_false_iff_not,
      beq_eq_false_iff_ne]
    omega
  · rfl
  · rfl
  · rfl

theorem slash_mem_text (r : Cidr) : '/' ∈ r.text.toList := by
  rw [toList_text]
  exact List.mem_append_right _ List.mem_cons_self

theorem slash_not_mem_address (a : Address) : '/' ∉ a.text.toList := by
  intro hmem
  exact absurd (Address.isAddressChar_of_text a _ hmem) (by decide)

/-- A range is read back from its text, whatever blanks stand around it. -/
theorem read_around (r : Cidr) {before after : List Char} (hbefore : AllBlank before)
    (hafter : AllBlank after) :
    Cidr.read (String.ofList (before ++ (r.text.toList ++ after))) = .ok r := by
  have hclear : ∀ c ∈ r.text.toList, Text.isBlank c = false := fun c hc =>
    isBlank_of_isRangeChar (r.isRangeChar_of_text c hc)
  have hfirst : Stops Text.isBlank r.text.toList := fun c hc =>
    hclear c (List.mem_of_mem_head? hc)
  have hlast : Stops Text.isBlank r.text.toList.reverse := fun c hc =>
    hclear c (List.mem_reverse.mp (List.mem_of_mem_head? hc))
  have htrim : Text.trimmed (String.ofList (before ++ (r.text.toList ++ after))) = r.text := by
    rw [Text.trimmed, String.toList_ofList, Text.trim_around hbefore hafter hfirst hlast,
      String.ofList_toList]
  -- the address is what comes before the slash
  have haddress : r.text.toList.takeWhile (· != '/') = r.address.text.toList := by
    rw [toList_text]
    apply Text.takeWhile_append_stop
    · intro c hc
      apply bne_iff_ne.mpr
      rintro rfl
      exact slash_not_mem_address _ hc
    · exact Text.stops_cons rfl
  have hlength : r.text.toList.drop (r.address.text.toList.length + 1) =
      Nat.toDigits 10 r.length := by
    rw [toList_text, ← List.drop_drop, List.drop_left]
    rfl
  have hmost : r.length ≤ 255 := Nat.le_trans r.length_le_128 (by decide)
  have hnumber : Text.readBounded? 255 (String.ofList (Nat.toDigits 10 r.length)) = some r.length :=
    Text.readBounded?_decimal hmost
  simp only [Cidr.read, htrim, if_pos r.slash_mem_text, haddress, hlength, String.ofList_toList,
    Address.read?_text, hnumber]
  exact dif_pos r.length_le

theorem read_text (r : Cidr) : Cidr.read r.text = .ok r := by
  have hread := r.read_around Text.allBlank_nil Text.allBlank_nil
  rwa [List.nil_append, List.append_nil, String.ofList_toList] at hread

theorem text_injective : Function.Injective Cidr.text := by
  intro r s h
  have hread : (Except.ok r : Except Net.CidrError Cidr) = .ok s := by
    rw [← r.read_text, h, s.read_text]
  exact Except.ok.inj hread

/-- A range is read back from the text of its JSON form. -/
theorem ofJson?_write (r : Cidr) :
    (Json.readSettled? (Json.write r.toJson)).bind ofJson? = some r := by
  rw [Json.readSettled?_write (r.settle_toJson _), Option.bind_some, ofJson?_toJson]

/-! ## Lists of ranges -/

/-- The ranges of a list with commas between them, if each of them can be read. -/
def readList? (s : String) : Option (List Cidr) :=
  if s.isEmpty then some [] else (Text.splitAt ',' s).mapM fun part => (Cidr.read part).toOption

theorem comma_not_mem {blanks : List Char} (hblanks : AllBlank blanks) (r : Cidr) :
    ∀ c ∈ blanks ++ r.text.toList, (c == ',') = false := by
  intro c hc
  apply beq_false_of_ne
  rintro rfl
  rcases List.mem_append.mp hc with hc | hc
  · exact absurd (hblanks _ hc) (by decide)
  · exact absurd (r.isRangeChar_of_text _ hc) (by decide)

/-- The parts of a list are its ranges, with a blank before each but the first. -/
theorem mapM_read_parts (r : Cidr) (rs : List Cidr) {blanks : List Char}
    (hblanks : AllBlank blanks) :
    ((blanks ++ (", ".intercalate ((r :: rs).map text)).toList).splitOnP (· == ',')).mapM
      (fun part => (Cidr.read (String.ofList part)).toOption) = some (r :: rs) := by
  have hread : ∀ (r : Cidr) {blanks : List Char}, AllBlank blanks →
      (Cidr.read (String.ofList (blanks ++ r.text.toList))).toOption = some r := by
    intro r blanks hblanks
    have h := r.read_around hblanks Text.allBlank_nil
    rw [List.append_nil] at h
    rw [h]
    rfl
  induction rs generalizing r blanks with
  | nil =>
      rw [List.map_singleton, String.intercalate_singleton,
        List.splitOnP_eq_singleton (comma_not_mem hblanks r), List.mapM_cons, hread r hblanks]
      rfl
  | cons s rs ih =>
      have hcomma : ", ".toList = [',', ' '] := rfl
      have hspace : AllBlank [' '] := by
        intro c hc
        rw [List.mem_singleton.mp hc]
        rfl
      rw [List.map_cons, List.map_cons, String.intercalate_cons_cons, String.toList_append,
        String.toList_append, hcomma, List.append_assoc, List.cons_append, ← List.append_assoc,
        List.splitOnP_append_cons_of_forall_mem (comma_not_mem hblanks r) ',' rfl, List.mapM_cons,
        hread r hblanks, ← List.map_cons, ih s hspace]
      rfl

theorem readList?_intercalate (rs : List Cidr) :
    readList? (", ".intercalate (rs.map text)) = some rs := by
  cases rs with
  | nil => rfl
  | cons r rs =>
      have hparts := mapM_read_parts r rs Text.allBlank_nil
      rw [List.nil_append] at hparts
      -- the text of no range is empty, for it has a slash
      have hsome : (", ".intercalate ((r :: rs).map text)).isEmpty = false := by
        refine Bool.eq_false_iff.mpr fun hempty => ?_
        have hslash : '/' ∈ r.text.toList := r.slash_mem_text
        have hmem : '/' ∈ (", ".intercalate ((r :: rs).map text)).toList := by
          cases rs with
          | nil =>
              rwa [List.map_singleton, String.intercalate_singleton]
          | cons s rs =>
              rw [List.map_cons, List.map_cons, String.intercalate_cons_cons, String.append_assoc,
                String.toList_append]
              exact List.mem_append_left _ hslash
        rw [String.isEmpty_iff.mp hempty] at hmem
        exact absurd hmem List.not_mem_nil
      simp only [readList?, hsome, Bool.false_eq_true, if_false, Text.splitAt, List.mapM_map,
        Function.comp_def]
      exact hparts

end Net.Cidr

/-! ## The list in an interface file -/

namespace TunnelConfig

/-- The list of routes in an interface file: what its last line for them gives. -/
def allowedIPs? (file : String) : Option String :=
  (Text.splitAt '\n' file).reverse.findSome? fun line =>
    if "AllowedIPs = ".toList.isPrefixOf line.toList then
      some (String.ofList (line.toList.drop 13))
    else none

/-- Whatever is written before it, the last line of a file is the last that is found. -/
theorem exists_splitAt_join {last : String} (hlast : hasLineBreak last = false)
    (before : List String) :
    ∃ parts, Text.splitAt '\n' (String.join ((before ++ [last]).map (· ++ "\n"))) =
      parts ++ [last, ""] := by
  induction before with
  | nil =>
      refine ⟨[], splitAt_join ?_⟩
      intro line hline
      rwa [List.mem_singleton.mp hline]
  | cons line before ih =>
      obtain ⟨parts, hparts⟩ := ih
      have hfeed : "\n".toList = ['\n'] := rfl
      -- a line that has line feeds in it only adds to the parts before
      refine ⟨Text.splitAt '\n' line ++ parts, ?_⟩
      rw [List.append_assoc, ← hparts, List.cons_append, List.map_cons, Text.splitAt,
        String.toList_join, List.flatMap_cons, String.toList_append, List.append_assoc, hfeed,
        List.singleton_append, List.splitOnP_append_cons _ _ rfl, List.map_append,
        ← String.toList_join]
      rfl

theorem allowedIPs?_join {list : String} (hlist : hasLineBreak list = false)
    (before : List String) :
    allowedIPs? (String.join ((before ++ ["AllowedIPs = " ++ list]).map (· ++ "\n"))) =
      some list := by
  have hkey : hasLineBreak "AllowedIPs = " = false := rfl
  have hline : hasLineBreak ("AllowedIPs = " ++ list) = false := by
    rw [hasLineBreak_append, hkey, hlist]
    rfl
  obtain ⟨parts, hparts⟩ := exists_splitAt_join hline before
  have hprefix : "AllowedIPs = ".toList.isPrefixOf ("AllowedIPs = " ++ list).toList = true := by
    rw [List.isPrefixOf_iff_prefix, String.toList_append]
    exact List.prefix_append _ _
  have hvalue : ("AllowedIPs = " ++ list).toList.drop 13 = list.toList := by
    rw [String.toList_append]
    exact List.drop_left' rfl
  have hempty : "AllowedIPs = ".toList.isPrefixOf "".toList = false := rfl
  rw [allowedIPs?, hparts, List.reverse_append]
  simp only [List.reverse_cons, List.reverse_nil, List.nil_append, List.cons_append,
    List.findSome?_cons, hempty, Bool.false_eq_true, if_false, if_pos hprefix,
    hvalue, String.ofList_toList]

/-- The list in the file of a config, be it valid or not, is that of its ranges. -/
theorem allowedIPs?_quickFile {c : TunnelConfig} {file : String} (h : c.quickFile? = some file) :
    allowedIPs? file = some (", ".intercalate (c.sortedRanges.map Cidr.text)) := by
  obtain ⟨endpoint, -, rfl⟩ := Option.map_eq_some_iff.mp h
  have hranges : ∀ s ∈ c.sortedRanges.map Cidr.text, hasLineBreak s = false := by
    intro s hs
    obtain ⟨r, -, rfl⟩ := List.mem_map.mp hs
    exact hasLineBreak_cidr r
  have hcomma : hasLineBreak ", " = false := rfl
  have hlist := hasLineBreak_intercalate hcomma hranges
  have hlines : ∃ before, c.quickLines endpoint = before ++
      ["AllowedIPs = " ++ ", ".intercalate (c.sortedRanges.map Cidr.text)] := by
    rw [quickLines_eq]
    exact ⟨_, (List.append_assoc _ ["", "[Peer]", _, _] [_]).symm⟩
  obtain ⟨before, hbefore⟩ := hlines
  rw [hbefore]
  exact allowedIPs?_join hlist before

end TunnelConfig

/-- **The text of a range determines it.** Every range, host bits included, is read back
    from its text, from its JSON form, and from the text of that form; so different ranges
    have different texts. The list of routes in the interface file of any config is read
    back as the ranges of the config in their order for the file. So two files with the
    same list come from configs that have the same ranges. -/
theorem Net.Cidr.read_back_from_every_form :
    (∀ r : Cidr, Cidr.read r.text = .ok r ∧ Cidr.ofJson? r.toJson = some r ∧
      (Json.readSettled? (Json.write r.toJson)).bind Cidr.ofJson? = some r) ∧
    (∀ r s : Cidr, r.text = s.text → r = s) ∧
    (∀ (c : TunnelConfig) (file : String), c.quickFile? = some file →
      (TunnelConfig.allowedIPs? file).bind Cidr.readList? = some c.sortedRanges) ∧
    (∀ (c d : TunnelConfig) (f g : String), c.quickFile? = some f → d.quickFile? = some g →
      TunnelConfig.allowedIPs? f = TunnelConfig.allowedIPs? g →
        c.sortedRanges = d.sortedRanges ∧ c.ranges.Perm d.ranges) := by
  have hlist : ∀ (c : TunnelConfig) (file : String), c.quickFile? = some file →
      (TunnelConfig.allowedIPs? file).bind Cidr.readList? = some c.sortedRanges := by
    intro c file h
    rw [TunnelConfig.allowedIPs?_quickFile h]
    exact Cidr.readList?_intercalate _
  refine ⟨fun r => ⟨r.read_text, r.ofJson?_toJson, r.ofJson?_write⟩,
    fun r s h => text_injective h, hlist, ?_⟩
  intro c d f g hf hg hsame
  have hsorted : c.sortedRanges = d.sortedRanges := by
    apply Option.some.inj
    rw [← hlist c f hf, hsame, hlist d g hg]
  have hc : c.sortedRanges.Perm c.ranges := List.mergeSort_perm _ _
  have hd : d.sortedRanges.Perm d.ranges := List.mergeSort_perm _ _
  exact ⟨hsorted, hc.symm.trans (hsorted ▸ hd)⟩

/-- A range of IPv6 with bits set after its first 33, which is written with an IPv4 address
    at its end. -/
def Net.Cidr.mappedRange : Cidr :=
  ⟨.v6 0xFFFF0A400C07, 33, by decide⟩

/-- The tunnel of `paddedTunnel` with its two ranges the other way around. -/
def TunnelConfig.turnedTunnel : TunnelConfig :=
  { paddedTunnel with ranges := paddedTunnel.ranges.reverse }

theorem Net.Cidr.read_back_from_every_form_mapped :
    (mappedRange.text = "::ffff:10.64.12.7/33" ∧ Cidr.read mappedRange.text = .ok mappedRange ∧
      Cidr.ofJson? mappedRange.toJson = some mappedRange) ∧
    ∃ f g, TunnelConfig.paddedTunnel.quickFile? = some f ∧
      TunnelConfig.turnedTunnel.quickFile? = some g ∧
      TunnelConfig.allowedIPs? f = TunnelConfig.allowedIPs? g ∧
      TunnelConfig.paddedTunnel.ranges.Perm TunnelConfig.turnedTunnel.ranges := by
  have htext : mappedRange.text = "::ffff:10.64.12.7/33" := by decide +kernel
  have hpadded : TunnelConfig.paddedTunnel.quickFile?.isSome = true := by decide +kernel
  have hturned : TunnelConfig.turnedTunnel.quickFile?.isSome = true := by decide +kernel
  obtain ⟨f, hf⟩ := Option.isSome_iff_exists.mp hpadded
  obtain ⟨g, hg⟩ := Option.isSome_iff_exists.mp hturned
  have hsorted :
      TunnelConfig.paddedTunnel.sortedRanges = TunnelConfig.turnedTunnel.sortedRanges := by
    simp [TunnelConfig.sortedRanges, TunnelConfig.turnedTunnel, TunnelConfig.paddedTunnel,
      List.mergeSort, List.MergeSort.Internal.splitInTwo]
  have hsame : TunnelConfig.allowedIPs? f = TunnelConfig.allowedIPs? g := by
    rw [TunnelConfig.allowedIPs?_quickFile hf, TunnelConfig.allowedIPs?_quickFile hg, hsorted]
  obtain ⟨hread, -, -, hranges⟩ := read_back_from_every_form
  exact ⟨⟨htext, (hread mappedRange).1, (hread mappedRange).2.1⟩, f, g, hf, hg, hsame,
    (hranges _ _ f g hf hg hsame).2⟩

end TunnelSession
