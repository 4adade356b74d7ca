/-
  TunnelSession.Proofs.Wire.Sizes

  How many bytes a frame has. A text grows when it is written, since quotes, line feeds
  and the like are escaped; a range does not, as its address is spelled with digits, dots
  and colons. From the sizes of the values follow those of the two frames that have no
  fixed size, the log and the request for a tunnel.
-/
import TunnelSession.Daemon.LogBuffer
import TunnelSession.Proofs.Net.AddressText
import TunnelSession.Proofs.Wire.Delivery
import Mathlib.Algebra.Order.BigOperators.Group.List
import Mathlib.Algebra.Order.Ring.Nat

namespace TunnelSession

/-! ## Texts -/

namespace Text

/-- The number of bytes of a text in UTF-8. -/
def utf8Length (cs : List Char) : Nat := (cs.flatMap String.utf8EncodeChar).length

theorem length_toBytes_ofList (cs : List Char) :
    (toBytes (String.ofList cs)).length = utf8Length cs := by
  rw [toBytes_ofList]
  rfl

@[simp] theorem utf8Length_nil : utf8Length [] = 0 := rfl

@[simp] theorem utf8Length_append (cs ds : List Char) :
    utf8Length (cs ++ ds) = utf8Length cs + utf8Length ds := by
  rw [utf8Length, List.flatMap_append, List.length_append]
  rfl

@[simp] theorem utf8Length_cons (c : Char) (cs : List Char) :
    utf8Length (c :: cs) = utf8Length [c] + utf8Length cs :=
  utf8Length_append [c] cs

/-- The digits of a number are digits. -/
theorem mem_toDigits {radix n : Nat} (h1 : 1 < radix) {c : Char} (hc : c ∈ Nat.toDigits radix n) :
    ∃ d < radix, c = d.digitChar := by
  induction n using Nat.strongRecOn with
  | ind n ih =>
      by_cases hn : n < radix
      · rw [Nat.toDigits_of_lt_base hn, List.mem_singleton] at hc
        exact ⟨n, hn, hc⟩
      · rw [Nat.toDigits_of_base_le h1 (Nat.le_of_not_lt hn), List.mem_append,
          List.mem_singleton] at hc
        rcases hc with hc | rfl
        · exact ih (n / radix) (Nat.div_lt_self (by omega) h1) hc
        · exact ⟨n % radix, Nat.mod_lt n (by omega), rfl⟩

end Text

namespace Json

open Text (utf8Length)

/-- The number of bytes that a character takes within a written text. -/
def escapedSize (c : Char) : Nat := utf8Length (escapeChar c)

/-- The number of bytes that a text takes within its quotes. -/
def escapedLength (cs : List Char) : Nat := (cs.map escapedSize).sum

@[simp] theorem escapedLength_nil : escapedLength [] = 0 := rfl

@[simp] theorem escapedLength_cons (c : Char) (cs : List Char) :
    escapedLength (c :: cs) = escapedSize c + escapedLength cs := rfl

@[simp] theorem escapedLength_append (cs ds : List Char) :
    escapedLength (cs ++ ds) = escapedLength cs + escapedLength ds := by
  rw [escapedLength, List.map_append, List.sum_append]
  rfl

theorem escapedLength_flatMap {α : Type} (f : α → List Char) (l : List α) :
    escapedLength (l.flatMap f) = (l.map fun a => escapedLength (f a)).sum := by
  induction l with
  | nil => rfl
  | cons a l ih => rw [List.flatMap_cons, escapedLength_append, ih, List.map_cons, List.sum_cons]

theorem utf8Length_flatMap_escapeChar (cs : List Char) :
    utf8Length (cs.flatMap escapeChar) = escapedLength cs := by
  induction cs with
  | nil => rfl
  | cons c cs ih => rw [List.flatMap_cons, Text.utf8Length_append, ih]; rfl

theorem utf8Length_writeText (s : String) :
    utf8Length (writeText s) = escapedLength s.toList + 2 := by
  have hquote : utf8Length ['"'] = 1 := by decide
  rw [writeText, Text.utf8Length_append, Text.utf8Length_cons, utf8Length_flatMap_escapeChar,
    hquote]
  omega

/-- What holds of the sixteen digits holds of those of a number. -/
theorem forall_mem_toDigits {P : Char → Prop} {radix : Nat} (h1 : 1 < radix) (h16 : radix ≤ 16)
    (hdigit : ∀ d < 16, P d.digitChar) (n : Nat) : ∀ c ∈ Nat.toDigits radix n, P c := by
  intro c hc
  obtain ⟨d, hd, rfl⟩ := Text.mem_toDigits h1 hc
  exact hdigit d (Nat.lt_of_lt_of_le hd h16)

/-- Digits are written as they are. -/
theorem flatMap_escapeChar_toDigits {radix : Nat} (h1 : 1 < radix) (h16 : radix ≤ 16) (n : Nat) :
    (Nat.toDigits radix n).flatMap escapeChar = Nat.toDigits radix n := by
  have hplain : ∀ c ∈ Nat.toDigits radix n, escapeChar c = [c] :=
    forall_mem_toDigits h1 h16 (by decide) n
  rw [List.flatMap_congr hplain, List.flatMap_singleton']

theorem escapedLength_toDigits_le {radix n w : Nat} (h1 : 1 < radix) (h16 : radix ≤ 16)
    (hw : 0 < w) (hn : n < radix ^ w) : escapedLength (Nat.toDigits radix n) ≤ w := by
  have hone : ∀ c ∈ Nat.toDigits radix n, escapedSize c = 1 :=
    forall_mem_toDigits h1 h16 (by decide) n
  rw [escapedLength, List.map_congr_left hone, List.map_const', List.sum_replicate_nat, Nat.mul_one]
  exact (Nat.length_toDigits_le_iff h1 hw).2 hn

/-! ## Values -/

/-- The number of bytes of a written value. -/
def size (v : Json) : Nat := utf8Length (writeValue v)

/-- The number of bytes of a member, with the colon in it and the comma or brace before
    it. -/
def memberSize (m : String × Json) : Nat := escapedLength m.1.toList + size m.2 + 4

theorem size_text (s : String) : size (.text s) = escapedLength s.toList + 2 := by
  rw [size, writeValue, utf8Length_writeText]

theorem size_bool_le (b : Bool) : size (.bool b) ≤ 5 := by
  cases b <;> decide

theorem size_ofNat_le {n w : Nat} (hw : 0 < w) (hn : n < 10 ^ w) : size (.ofNat n) ≤ w := by
  have hwritten : writeValue (.ofNat n) = (Nat.toDigits 10 n).flatMap escapeChar := by
    rw [flatMap_escapeChar_toDigits (by decide) (by decide)]
    rfl
  rw [size, hwritten, utf8Length_flatMap_escapeChar]
  exact escapedLength_toDigits_le (by decide) (by decide) hw hn

theorem utf8Length_writeItems (items : List Json) :
    utf8Length (writeItems items) = (items.map fun v => size v + 1).sum + 1 := by
  have hcomma : utf8Length [','] = 1 := by decide
  have hend : utf8Length [']'] = 1 := by decide
  induction items with
  | nil => rw [writeItems, hend]; rfl
  | cons v items ih =>
      rw [writeItems, Text.utf8Length_append, Text.utf8Length_cons, hcomma, ih, List.map_cons,
        List.sum_cons, ← size]
      omega

theorem size_list_le (items : List Json) :
    size (.list items) ≤ (items.map fun v => size v + 1).sum + 2 := by
  have hbracket : utf8Length ['['] = 1 := by decide
  cases items with
  | nil => decide
  | cons v items =>
      rw [size, writeValue, Text.utf8Length_append, Text.utf8Length_cons, hbracket,
        utf8Length_writeItems, List.map_cons, List.sum_cons, ← size]
      omega

theorem utf8Length_writeMembers (members : List (String × Json)) :
    utf8Length (writeMembers members) = (members.map memberSize).sum + 1 := by
  have hcomma : utf8Length [','] = 1 := by decide
  have hcolon : utf8Length [':'] = 1 := by decide
  have hend : utf8Length ['\x7d'] = 1 := by decide
  induction members with
  | nil => rw [writeMembers, hend]; rfl
  | cons m members ih =>
      rw [writeMembers, Text.utf8Length_append, List.cons_append, Text.utf8Length_cons ',',
        Text.utf8Length_append, Text.utf8Length_cons ':', hcomma, hcolon, utf8Length_writeText, ih,
        List.map_cons, List.sum_cons, memberSize, ← size]
      omega

theorem size_object {members : List (String × Json)} (h : members ≠ []) :
    size (.object members) = (members.map memberSize).sum + 1 := by
  have hbrace : utf8Length ['\x7b'] = 1 := by decide
  have hcolon : utf8Length [':'] = 1 := by decide
  cases members with
  | nil => exact absurd rfl h
  | cons m members =>
      rw [size, writeValue, Text.utf8Length_append, List.cons_append, Text.utf8Length_cons '\x7b',
        Text.utf8Length_append, Text.utf8Length_cons ':', hbrace, hcolon, utf8Length_writeText,
        utf8Length_writeMembers, List.map_cons, List.sum_cons, memberSize, ← size]
      omega

/-- The bytes of members are those of their names and of their values, and four more for
    each. -/
theorem sum_memberSize (members : List (String × Json)) :
    (members.map memberSize).sum =
      ((members.map (·.1)).map fun name => escapedLength name.toList).sum +
        (members.map fun m => size m.2).sum + 4 * members.length := by
  induction members with
  | nil => rfl
  | cons m members ih =>
      rw [List.map_cons, List.sum_cons, ih, memberSize]
      simp only [List.map_cons, List.sum_cons, List.length_cons]
      omega

end Json

/-! ## Ranges -/

namespace Net

open Json (escapedLength escapedLength_toDigits_le escapedLength_append escapedLength_cons)
open Address (dotted spelled)

theorem Address.escapedLength_dotted_le {n : Nat} (hn : n < 2 ^ 32) :
    escapedLength (dotted n) ≤ 15 := by
  have hdot : Json.escapedSize '.' = 1 := by decide
  have hoctet : ∀ m < 256, escapedLength (Nat.toDigits 10 m) ≤ 3 := fun m hm =>
    escapedLength_toDigits_le (by decide) (by decide) (by decide) (by omega)
  have h1 := hoctet (n / 16777216) (by omega)
  have h2 := hoctet (n / 65536 % 256) (Nat.mod_lt _ (by decide))
  have h3 := hoctet (n / 256 % 256) (Nat.mod_lt _ (by decide))
  have h4 := hoctet (n % 256) (Nat.mod_lt _ (by decide))
  simp only [dotted, escapedLength_append, escapedLength_cons, hdot]
  omega

/-- A group has at most four digits and a colon. -/
theorem Address.escapedLength_spelled_le (first : Bool) {groups : List Nat}
    (hsmall : ∀ g ∈ groups, g < 65536) :
    escapedLength (spelled first groups) ≤ 5 * groups.length := by
  have hcolon : escapedLength (if first then [] else [':']) ≤ 1 := by
    cases first <;> decide
  induction groups generalizing first with
  | nil => exact Nat.zero_le _
  | cons g groups ih =>
      have hg : escapedLength (Nat.toDigits 16 g) ≤ 4 :=
        escapedLength_toDigits_le (by decide) (by decide) (by decide) (hsmall g List.mem_cons_self)
      have hrest := ih false (fun g hg => hsmall g (List.mem_cons_of_mem _ hg)) (by decide)
      rw [spelled, escapedLength_append, escapedLength_append, List.length_cons]
      omega

/-- The text of an address takes at most 42 bytes. -/
theorem Address.escapedLength_text_le (a : Address) : escapedLength a.text.toList ≤ 42 := by
  cases a with
  | v4 a =>
      have hdotted := escapedLength_dotted_le a.isLt
      rw [text, toList_showV4]
      omega
  | v6 a =>
      have hsmall := groupsOf_lt a
      have hlength := length_groupsOf a
      rw [text, showV6]
      dsimp only
      generalize groupsOf a = groups at hsmall hlength ⊢
      generalize longestZeros ⟨0, 0⟩ ⟨0, 0⟩ 0 groups = zeros
      split
      · have hmapped : escapedLength "::ffff:".toList = 7 := by decide
        have hdotted := escapedLength_dotted_le (BitVec.ofNat 32 a.toNat).isLt
        rw [String.toList_append, escapedLength_append, toList_showV4]
        omega
      · split
        · -- the groups on both sides of the double colon are at most all of them
          have hcolons : escapedLength "::".toList = 2 := by decide
          have hbefore := escapedLength_spelled_le true fun g hg =>
            hsmall g (List.mem_of_mem_take (i := zeros.start) hg)
          have hafter := escapedLength_spelled_le true fun g hg =>
            hsmall g (List.mem_of_mem_drop (i := zeros.start + zeros.size) hg)
          rw [List.length_take] at hbefore
          rw [List.length_drop] at hafter
          rw [String.toList_append, String.toList_append, escapedLength_append,
            escapedLength_append, toList_showGroups, toList_showGroups]
          omega
        · have hall := escapedLength_spelled_le true hsmall
          rw [toList_showGroups]
          omega

theorem Cidr.size_toJson_le (r : Cidr) : Json.size r.toJson ≤ 83 := by
  have haddress := r.address.escapedLength_text_le
  have hlength : Json.size (.ofNat r.length) ≤ 3 :=
    Json.size_ofNat_le (by decide) (Nat.lt_of_le_of_lt r.length_le_128 (by decide))
  have hfamily := Json.size_bool_le r.isV6
  have hnames :
      (["address", "range", "isIpv6"].map fun name => escapedLength name.toList).sum = 18 := by
    decide
  rw [toJson, Json.size_object (List.cons_ne_nil _ _), Json.sum_memberSize]
  simp only [List.map_cons, List.map_nil, List.sum_cons, List.sum_nil, List.length_cons,
    List.length_nil, Json.size_text] at hnames ⊢
  omega

end Net

/-! ## Frames -/

open Json (escapedLength)

theorem FrameParts.length_text (p : FrameParts) :
    (Text.toBytes p.text).length = (p.fields.map Json.memberSize).sum +
      escapedLength p.kind.toList + 12 := by
  have htype : escapedLength "type".toList = 4 := by decide
  rw [LineBuffer.toBytes_text, List.length_append, Json.write, Text.length_toBytes_ofList,
    ← Json.size, FrameParts.json, Json.size_object (List.cons_ne_nil _ _), List.map_cons,
    List.sum_cons, Json.memberSize, Json.size_text, htype, List.length_singleton]
  omega

/-- The frame of a log has the bytes of its lines, two more for each line feed and 26
    around them. -/
theorem length_frame_logs (log : Daemon.LogBuffer) :
    (Text.toBytes (Reply.logs log.contents).frame).length =
      (log.lines.map fun line => escapedLength line.toList + 2).sum + 26 := by
  have hlogs : escapedLength "logs".toList = 4 := by decide
  have hfeed : escapedLength "\n".toList = 2 := by decide
  have hcontents : escapedLength log.contents.toList =
      (log.lines.map fun line => escapedLength line.toList + 2).sum := by
    rw [Daemon.LogBuffer.contents, String.toList_join, List.flatMap_map, Json.escapedLength_flatMap]
    refine congrArg List.sum (List.map_congr_left fun line _ => ?_)
    rw [String.toList_append, Json.escapedLength_append, hfeed]
  rw [Reply.frame, FrameParts.length_text, Reply.parts]
  simp only [List.map_cons, List.map_nil, List.sum_cons, List.sum_nil, Json.memberSize,
    Json.size_text, hcontents, hlogs]
  omega

/-- The number of bytes that the texts of a config take within their quotes. -/
def TunnelConfig.textsLength (c : TunnelConfig) : Nat :=
  (c.textFields.map fun f => escapedLength f.2.toList).sum

theorem TunnelConfig.size_ranges_le (c : TunnelConfig) :
    Json.size (.list (c.ranges.map Net.Cidr.toJson)) ≤ 84 * c.ranges.length + 2 := by
  have hitems : ((c.ranges.map Net.Cidr.toJson).map fun v => Json.size v + 1).sum ≤
      ((c.ranges.map Net.Cidr.toJson).map fun v => Json.size v + 1).length * 84 := by
    refine List.sum_le_card_nsmul _ _ (List.forall_mem_map.mpr ?_)
    exact List.forall_mem_map.mpr fun r _ => Nat.succ_le_succ r.size_toJson_le
  have hlist := Json.size_list_le (c.ranges.map Net.Cidr.toJson)
  rw [List.length_map, List.length_map] at hitems
  omega

/-- The names of the fields of a config, of which the last may be missing. -/
theorem TunnelConfig.names_sublist (c : TunnelConfig) :
    (c.members.map (·.1)).Sublist ["privateKey", "deviceIpv4Address", "deviceIpv6Address",
      "serverIpv4Gateway", "serverIpv6Gateway", "serverPublicKey", "serverIpv4AddrIn",
      "serverIpv6AddrIn", "serverPort", "ipv6Enabled", "allowedIPAddressRanges", "dnsServer"] := by
  cases hdns : c.dnsServer with
  | none =>
      rw [members, hdns]
      exact List.sublist_append_left _ ["dnsServer"]
  | some dns =>
      rw [members, hdns]
      exact List.Sublist.refl _

/-- The names of the fields of a config take at most 180 bytes. -/
theorem TunnelConfig.names_length_le (c : TunnelConfig) :
    ((c.members.map (·.1)).map fun name => escapedLength name.toList).sum ≤ 180 := by
  refine Nat.le_trans ((c.names_sublist.map _).sum_le_sum fun _ _ => Nat.zero_le _) ?_
  decide

/-- The values of the fields of a config take the bytes of its texts and at most 84 for
    each range, and at most 30 more. -/
theorem TunnelConfig.values_length_le (c : TunnelConfig) :
    (c.members.map fun m => Json.size m.2).sum ≤ c.textsLength + 84 * c.ranges.length + 30 := by
  have hport : Json.size (.ofNat c.port.toNat) ≤ 5 :=
    Json.size_ofNat_le (by decide) (Nat.lt_of_lt_of_le c.port.toNat_lt (by decide))
  have hipv6 := Json.size_bool_le c.ipv6Enabled
  have hranges := c.size_ranges_le
  rw [textsLength, members, textFields]
  cases c.dnsServer with
  | none =>
      simp only [Option.toList_none, List.map_nil, List.append_nil, List.map_cons, List.sum_cons,
        List.sum_nil, Json.size_text, Option.getD_none]
      omega
  | some dns =>
      simp only [Option.toList_some, List.map_nil, List.cons_append, List.nil_append,
        List.map_cons, List.sum_cons, List.sum_nil, Json.size_text, Option.getD_some]
      omega

theorem TunnelConfig.length_members_le (c : TunnelConfig) : c.members.length ≤ 12 := by
  have hnames := c.names_sublist.length_le
  rwa [List.length_map] at hnames

/-- The frame of a request for a tunnel has the bytes of its texts, at most 84 for each
    range, and at most 280 around them. -/
theorem length_frame_activate_le (c : TunnelConfig) :
    (Text.toBytes (Request.activate c).frame).length ≤
      c.textsLength + 84 * c.ranges.length + 280 := by
  have hkind : escapedLength "activate".toList = 8 := by decide
  have hnames := c.names_length_le
  have hvalues := c.values_length_le
  have hmembers := c.length_members_le
  rw [Request.frame, FrameParts.length_text, Request.parts, hkind]
  dsimp only
  rw [Json.sum_memberSize]
  omega

end TunnelSession
