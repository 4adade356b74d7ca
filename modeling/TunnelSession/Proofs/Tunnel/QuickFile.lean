/-
  TunnelSession.Proofs.Tunnel.QuickFile

  What a valid config can put into the interface file. The check looks at the text
  fields and the file is written from the views of the config, so the two are tied
  together here: whatever stands in a line is one of the checked texts, or the text of
  an address, and neither holds a line break. Hence the file has the lines that it was
  written with, and no more.
-/
import TunnelSession.Tunnel.QuickFile
import TunnelSession.Proofs.Net.AddressText
import TunnelSession.Proofs.Tunnel.Validity

namespace TunnelSession

open Net (Address Cidr)

/-! ## Texts on one line -/

namespace TunnelConfig

theorem hasLineBreak_eq_false {s : String} :
    hasLineBreak s = false ↔ ∀ c ∈ s.toList, c ≠ '\n' ∧ c ≠ '\r' := by
  simp [hasLineBreak]

theorem hasLineBreak_append (s t : String) :
    hasLineBreak (s ++ t) = (hasLineBreak s || hasLineBreak t) := by
  rw [hasLineBreak, String.toList_append, List.any_append]
  rfl

/-- Texts on one line, joined by such a text, are on one line. -/
theorem hasLineBreak_intercalate {sep : String} {l : List String} (hsep : hasLineBreak sep = false)
    (hl : ∀ s ∈ l, hasLineBreak s = false) : hasLineBreak (sep.intercalate l) = false := by
  induction l with
  | nil => rfl
  | cons s l ih =>
      cases l with
      | nil => simpa using hl s (.head _)
      | cons t l =>
          rw [String.intercalate_cons_cons, hasLineBreak_append, hasLineBreak_append, hsep,
            hl s (.head _), ih fun u hu => hl u (.tail _ hu)]
          rfl

theorem hasLineBreak_decimal (n : Nat) : hasLineBreak (Text.decimal n) = false := by
  rw [hasLineBreak_eq_false, Text.decimal, String.toList_ofList]
  intro c hc
  have hdigit : Text.isDigitOf 10 c = true :=
    Text.isDigitOf_of_mem_toDigits (by decide) (by decide) hc
  -- a line break is no digit
  constructor <;> rintro rfl <;> exact absurd hdigit (by decide)

theorem hasLineBreak_address (a : Address) : hasLineBreak a.text = false := by
  rw [hasLineBreak_eq_false]
  intro c hc
  have hchar : Address.isAddressChar c = true := Address.isAddressChar_of_text a c hc
  constructor <;> rintro rfl <;> exact absurd hchar (by decide)

theorem hasLineBreak_withPort (a : Address) (port : Nat) :
    hasLineBreak (a.withPort port) = false := by
  have hport : hasLineBreak (toString port) = false := hasLineBreak_decimal port
  have hcolon : hasLineBreak ":" = false := rfl
  have hopen : hasLineBreak "[" = false := rfl
  have hclose : hasLineBreak "]:" = false := rfl
  have haddress : hasLineBreak a.text = false := hasLineBreak_address a
  cases a with
  | v4 a =>
      show hasLineBreak (Address.showV4 a ++ ":" ++ toString port) = false
      rw [Address.text] at haddress
      rw [hasLineBreak_append, hasLineBreak_append, haddress, hcolon, hport]
      rfl
  | v6 a =>
      show hasLineBreak ("[" ++ Address.showV6 a ++ "]:" ++ toString port) = false
      rw [Address.text] at haddress
      rw [hasLineBreak_append, hasLineBreak_append, hasLineBreak_append, haddress, hopen, hclose,
        hport]
      rfl

theorem hasLineBreak_cidr (r : Cidr) : hasLineBreak r.text = false := by
  have hslash : hasLineBreak "/" = false := rfl
  show hasLineBreak (r.address.text ++ "/" ++ Text.decimal r.length) = false
  rw [hasLineBreak_append, hasLineBreak_append, hasLineBreak_address, hslash,
    hasLineBreak_decimal]
  rfl

/-! ## The lines of a text -/

/-- Lines that were written one after the other, each with its line feed, are the lines
    that are found. -/
theorem splitAt_join {lines : List String} (h : ∀ line ∈ lines, hasLineBreak line = false) :
    Text.splitAt '\n' (String.join (lines.map (· ++ "\n"))) = lines ++ [""] := by
  rw [Text.splitAt, String.toList_join]
  induction lines with
  | nil => rfl
  | cons line lines ih =>
      have hline : ∀ c ∈ line.toList, (c == '\n') = false := by
        intro c hc
        exact beq_false_of_ne (hasLineBreak_eq_false.mp (h line (.head _)) c hc).1
      have hfeed : "\n".toList = ['\n'] := rfl
      rw [List.map_cons, List.flatMap_cons, String.toList_append, List.append_assoc, hfeed,
        List.singleton_append, List.splitOnP_append_cons_of_forall_mem hline '\n' rfl,
        List.map_cons, String.ofList_toList, ih fun l hl => h l (.tail _ hl)]
      rfl

end TunnelConfig

/-! ## The values of the file -/

/-- The values in an interface file, each on the line of its key. -/
structure QuickValues where
  privateKey : String
  address : String
  dns : Option String
  publicKey : String
  endpoint : String
  allowedIPs : String

namespace QuickValues

/-- The file of the values, line by line. -/
def lines (v : QuickValues) : List String :=
  ["[Interface]", "PrivateKey = " ++ v.privateKey, "Address = " ++ v.address] ++
  (v.dns.map ("DNS = " ++ ·)).toList ++
  ["", "[Peer]", "PublicKey = " ++ v.publicKey, "Endpoint = " ++ v.endpoint,
    "AllowedIPs = " ++ v.allowedIPs]

/-- Each of the values. -/
def all (v : QuickValues) : List String :=
  [v.privateKey, v.address] ++ v.dns.toList ++ [v.publicKey, v.endpoint, v.allowedIPs]

/-- Each value is built from the fields of the config that it is meant for. -/
structure ComesFrom (v : QuickValues) (c : TunnelConfig) : Prop where
  privateKey : v.privateKey = c.privateKey
  address : ∃ used, used.Sublist [c.deviceV4, c.deviceV6] ∧ v.address = ", ".intercalate used
  dns : ∀ text ∈ v.dns, c.dnsServer = some text ∨
    c.dnsServer = none ∧
      ∃ used, used.Sublist [c.gatewayV4, c.gatewayV6] ∧ text = ", ".intercalate used
  publicKey : v.publicKey = c.serverKey
  endpoint : ∃ a, (Address.read? c.endpointV4 = some a ∨ Address.read? c.endpointV6 = some a) ∧
    v.endpoint = a.withPort c.port.toNat
  allowedIPs : ∃ ranges : List Cidr, ranges.Perm c.ranges ∧
    v.allowedIPs = ", ".intercalate (ranges.map Cidr.text)

/-- Values on one line make lines. -/
theorem hasLineBreak_of_mem_lines {v : QuickValues}
    (h : ∀ value ∈ v.all, TunnelConfig.hasLineBreak value = false) :
    ∀ line ∈ v.lines, TunnelConfig.hasLineBreak line = false := by
  have hkeyed : ∀ key, TunnelConfig.hasLineBreak key = false → ∀ value ∈ v.all,
      TunnelConfig.hasLineBreak (key ++ value) = false := by
    intro key hkey value hvalue
    rw [TunnelConfig.hasLineBreak_append, hkey, h value hvalue]
    rfl
  simp only [lines, List.mem_append, List.mem_cons, List.not_mem_nil, or_false,
    Option.mem_toList, Option.map_eq_some_iff]
  rintro line (((rfl | rfl | rfl) | ⟨dns, hdns, rfl⟩) | rfl | rfl | rfl | rfl | rfl)
  · rfl
  · exact hkeyed _ rfl _ (by simp [all])
  · exact hkeyed _ rfl _ (by simp [all])
  · exact hkeyed _ rfl _ (by simp [all, hdns])
  · rfl
  · rfl
  · exact hkeyed _ rfl _ (by simp [all])
  · exact hkeyed _ rfl _ (by simp [all])
  · exact hkeyed _ rfl _ (by simp [all])

end QuickValues

namespace TunnelConfig

variable {c : TunnelConfig}

/-- The values that are written for a config, given the address of the server. -/
def quickValues (c : TunnelConfig) (endpoint : Address) : QuickValues where
  privateKey := c.privateKey
  address := ", ".intercalate c.interfaceAddresses
  dns := if c.dnsServers.isEmpty then none else some (", ".intercalate c.dnsServers)
  publicKey := c.serverKey
  endpoint := endpoint.withPort c.port.toNat
  allowedIPs := ", ".intercalate (c.sortedRanges.map Cidr.text)

theorem quickLines_eq (endpoint : Address) :
    c.quickLines endpoint = (c.quickValues endpoint).lines := by
  unfold quickLines QuickValues.lines quickValues setting
  by_cases hdns : c.dnsServers.isEmpty = true <;> simp [hdns]

theorem interfaceAddresses_sublist : c.interfaceAddresses.Sublist [c.deviceV4, c.deviceV6] := by
  unfold interfaceAddresses
  refine List.filter_sublist.trans (List.Sublist.cons_cons _ ?_)
  split
  · exact .refl _
  · exact List.nil_sublist _

/-- The name servers are the one that was set, or gateways. -/
theorem dnsServers_eq :
    (∃ dns, c.dnsServer = some dns ∧ c.dnsServers = [dns]) ∨
      c.dnsServer = none ∧ c.dnsServers.Sublist [c.gatewayV4, c.gatewayV6] := by
  unfold dnsServers
  cases c.dnsServer with
  | some dns => exact .inl ⟨dns, rfl, rfl⟩
  | none =>
      refine .inr ⟨rfl, ?_⟩
      show List.Sublist (_ ++ _) ([c.gatewayV4] ++ [c.gatewayV6])
      apply List.Sublist.append
      · split
        · exact List.nil_sublist _
        · exact .refl _
      · split
        · exact .refl _
        · exact List.nil_sublist _

theorem quickValues_comesFrom {a : Address}
    (ha : Address.read? c.endpointV4 = some a ∨ Address.read? c.endpointV6 = some a) :
    (c.quickValues a).ComesFrom c where
  privateKey := rfl
  address := ⟨c.interfaceAddresses, interfaceAddresses_sublist, rfl⟩
  dns := by
    intro text htext
    have hjoined : text = ", ".intercalate c.dnsServers := by
      simp only [quickValues] at htext
      split at htext
      · cases htext
      · exact (Option.some.inj htext).symm
    rcases dnsServers_eq (c := c) with ⟨dns, hdns, hservers⟩ | ⟨hnone, hsublist⟩
    · left
      rw [hdns, hjoined, hservers]
      simp
    · exact .inr ⟨hnone, c.dnsServers, hsublist, hjoined⟩
  publicKey := rfl
  endpoint := ⟨a, ha, rfl⟩
  allowedIPs := ⟨c.sortedRanges, List.mergeSort_perm _ _, rfl⟩

/-- What a valid config puts into its file stays on one line: a text of the config was
    checked, and the text of an address or of a range has no line break. -/
theorem quickValues_oneLine (h : c.Valid) (a : Address) :
    ∀ value ∈ (c.quickValues a).all, hasLineBreak value = false := by
  have hfield : ∀ field ∈ c.textFields, hasLineBreak field.2 = false := h.oneLine
  simp only [textFields, List.forall_mem_cons] at hfield
  obtain ⟨hprivate, hdevice4, hdevice6, hgateway4, hgateway6, hserver, -, -, hdns, -⟩ := hfield
  have haddresses : ∀ s ∈ c.interfaceAddresses, hasLineBreak s = false := by
    intro s hs
    have hs' := interfaceAddresses_sublist.subset hs
    simp only [List.mem_cons, List.not_mem_nil, or_false] at hs'
    rcases hs' with rfl | rfl
    · exact hdevice4
    · exact hdevice6
  have hservers : ∀ s ∈ c.dnsServers, hasLineBreak s = false := by
    intro s hs
    rcases dnsServers_eq (c := c) with ⟨dns, hset, hservers⟩ | ⟨-, hsublist⟩
    · rw [hservers, List.mem_singleton] at hs
      rw [hset] at hdns
      rw [hs]
      exact hdns
    · have hs' := hsublist.subset hs
      simp only [List.mem_cons, List.not_mem_nil, or_false] at hs'
      rcases hs' with rfl | rfl
      · exact hgateway4
      · exact hgateway6
  have hranges : ∀ s ∈ c.sortedRanges.map Cidr.text, hasLineBreak s = false := by
    intro s hs
    obtain ⟨r, -, rfl⟩ := List.mem_map.mp hs
    exact hasLineBreak_cidr r
  have hcomma : hasLineBreak ", " = false := rfl
  -- the values one by one, in the order of their lines
  intro value hvalue
  simp only [QuickValues.all, quickValues, List.mem_append, List.mem_cons, List.not_mem_nil,
    or_false, Option.mem_toList] at hvalue
  rcases hvalue with ((rfl | rfl) | hvalue) | rfl | rfl | rfl
  · exact hprivate
  · exact hasLineBreak_intercalate hcomma haddresses
  · split at hvalue
    · cases hvalue
    · rw [← Option.some.inj hvalue]
      exact hasLineBreak_intercalate hcomma hservers
  · exact hserver
  · exact hasLineBreak_withPort a _
  · exact hasLineBreak_intercalate hcomma hranges

/-- **A config cannot inject lines.** Whatever texts it holds, a valid config has an
    interface file, and the lines of that file are the headings of its two sections and one
    line for each value, of which that of the name servers may be missing. Each value is
    built from the fields that it is meant for, and stays on its line. -/
theorem quickFile_has_no_other_line (h : c.validate = .ok ()) :
    ∃ text v, c.quickFile? = some text ∧
      Text.splitAt '\n' text = QuickValues.lines v ++ [""] ∧
      v.ComesFrom c ∧
      ∀ value ∈ v.all, hasLineBreak value = false := by
  have hvalid : c.Valid := validate_eq_ok.mp h
  obtain ⟨a, hendpoint, ha⟩ := hvalid.exists_endpoint
  have hvalues := quickValues_oneLine hvalid a
  refine ⟨_, c.quickValues a, by rw [quickFile?, hendpoint, Option.map_some], ?_,
    quickValues_comesFrom ha, hvalues⟩
  rw [quickLines_eq]
  exact splitAt_join (QuickValues.hasLineBreak_of_mem_lines hvalues)

/-- A config with blanks about its key and its address, both of which are read without
    them, and a name server that is not a name at all. -/
def paddedTunnel : TunnelConfig where
  privateKey := " dwdtCnMYpX08FsFyUbJmRd9ML4frwJkqsXf7pR25LCo="
  deviceV4 := "\t10.64.12.7/32 "
  gatewayV4 := "10.64.0.1"
  serverKey := "gXQJloeiZiH04s3XzAOz2s7bP7liJVsar9Azyr6DFTA="
  endpointV6 := "fc00::1"
  port := 51820
  ranges := [⟨.v4 0, 0, Nat.zero_le _⟩, ⟨.v4 0x0A400001, 32, Nat.le_refl _⟩]
  dnsServer := some "[Interface] PostUp = true"

theorem quickFile_has_no_other_line_padded :
    paddedTunnel.validate = .ok () ∧
      ∃ text v, paddedTunnel.quickFile? = some text ∧
        Text.splitAt '\n' text = QuickValues.lines v ++ [""] ∧
        v.ComesFrom paddedTunnel ∧
        ∀ value ∈ v.all, hasLineBreak value = false := by
  have hvalid : paddedTunnel.validate = .ok () := by decide +kernel
  exact ⟨hvalid, quickFile_has_no_other_line hvalid⟩

end TunnelConfig

end TunnelSession
