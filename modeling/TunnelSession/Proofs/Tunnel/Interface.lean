/-
  TunnelSession.Proofs.Tunnel.Interface

  Whether a config that passes its check reaches its interface completely. The server
  and the routes always do: a valid config has both, and nothing is dropped on the way
  into the file. The check asks for a device address of either family, but the file
  takes that of IPv6 only if IPv6 is enabled. So a config that has no other address
  passes, and its interface is left without one.
-/
import TunnelSession.Proofs.Tunnel.QuickFile

namespace TunnelSession.TunnelConfig

open Net (Address Cidr)

/-! ## Values that are not empty -/

/-- Texts that are not empty make an empty text only if there are none of them. -/
theorem intercalate_eq_empty_iff {sep : String} {l : List String} (hl : ∀ s ∈ l, s ≠ "") :
    sep.intercalate l = "" ↔ l = [] := by
  cases l with
  | nil => exact ⟨fun _ => rfl, fun _ => String.intercalate_nil⟩
  | cons s l =>
      have hs : s ≠ "" := hl s (.head _)
      refine ⟨fun h => absurd ?_ hs, nofun⟩
      cases l with
      | nil => exact String.intercalate_singleton.symm.trans h
      | cons t l =>
          rw [String.intercalate_cons_cons, String.append_assoc] at h
          exact (String.append_eq_empty_iff.mp h).1

/-- A text with a separator in it is not empty. -/
theorem append_ne_empty {before mark after : String} (hmark : mark ≠ "") :
    before ++ mark ++ after ≠ "" := by
  intro h
  have hleft : before ++ mark = "" := (String.append_eq_empty_iff.mp h).1
  exact hmark (String.append_eq_empty_iff.mp hleft).2

theorem withPort_ne_empty (a : Address) (port : Nat) : a.withPort port ≠ "" := by
  cases a with
  | v4 a =>
      show Address.showV4 a ++ ":" ++ toString port ≠ ""
      exact append_ne_empty (by decide)
  | v6 a =>
      show "[" ++ Address.showV6 a ++ "]:" ++ toString port ≠ ""
      exact append_ne_empty (by decide)

theorem cidr_text_ne_empty (r : Cidr) : r.text ≠ "" := by
  show r.address.text ++ "/" ++ Text.decimal r.length ≠ ""
  exact append_ne_empty (by decide)

/-! ## The addresses of the interface -/

variable {c : TunnelConfig}

theorem mem_interfaceAddresses {a : String} : a ∈ c.interfaceAddresses ↔
    a ≠ "" ∧ (a = c.deviceV4 ∨ c.ipv6Enabled = true ∧ a = c.deviceV6) := by
  rw [interfaceAddresses, List.mem_filter, and_comm]
  apply and_congr
  · simp
  · cases c.ipv6Enabled <;> simp

/-- What is checked is that there is some device address, and what is missing is one
    that counts. -/
theorem Valid.interfaceAddresses_eq_nil (h : c.Valid) :
    c.interfaceAddresses = [] ↔ c.deviceV4 = "" ∧ c.ipv6Enabled = false := by
  rw [List.eq_nil_iff_forall_not_mem]
  constructor
  · intro hnone
    have hno4 : c.deviceV4 = "" := by
      by_contra hne
      exact hnone _ (mem_interfaceAddresses.mpr ⟨hne, .inl rfl⟩)
    refine ⟨hno4, Bool.eq_false_iff.mpr fun henabled => ?_⟩
    -- with IPv6 enabled the address of the other family would count
    have h6 : c.deviceV6 ≠ "" := h.device.resolve_left fun hne => hne hno4
    exact hnone _ (mem_interfaceAddresses.mpr ⟨h6, .inr ⟨henabled, rfl⟩⟩)
  · rintro ⟨hno4, hdisabled⟩ a ha
    obtain ⟨hne, heq | ⟨henabled, -⟩⟩ := mem_interfaceAddresses.mp ha
    · exact hne (heq.trans hno4)
    · exact absurd (henabled.symm.trans hdisabled) nofun

theorem Valid.read_interfaceAddress (h : c.Valid) {a : String} (ha : a ∈ c.interfaceAddresses) :
    ∃ range, Cidr.read a = .ok range := by
  obtain ⟨hne, rfl | ⟨-, rfl⟩⟩ := mem_interfaceAddresses.mp ha
  · exact h.deviceV4 hne
  · exact h.deviceV6 hne

/-- The addresses fill their line if there are any. -/
theorem address_eq_empty_iff (endpoint : Address) :
    (c.quickValues endpoint).address = "" ↔ c.interfaceAddresses = [] :=
  intercalate_eq_empty_iff fun _ ha => (mem_interfaceAddresses.mp ha).1

/-- The routes fill their line, whatever their order. -/
theorem Valid.allowedIPs_ne_empty (h : c.Valid) (endpoint : Address) :
    (c.quickValues endpoint).allowedIPs ≠ "" := by
  have htexts : ∀ s ∈ c.sortedRanges.map Cidr.text, s ≠ "" := by
    intro s hs
    obtain ⟨r, -, rfl⟩ := List.mem_map.mp hs
    exact cidr_text_ne_empty r
  have hperm : c.sortedRanges.Perm c.ranges := List.mergeSort_perm _ _
  intro hempty
  have hnil : c.sortedRanges = [] :=
    List.map_eq_nil_iff.mp ((intercalate_eq_empty_iff htexts).mp hempty)
  rw [hnil] at hperm
  exact h.ranges hperm.nil_eq.symm

/-! ## The file -/

/-- A valid config has a file, and its lines are those of the values of the config. -/
theorem Valid.exists_quickFile (h : c.Valid) : ∃ endpoint text,
    c.quickFile? = some text ∧
      Text.splitAt '\n' text = (c.quickValues endpoint).lines ++ [""] := by
  obtain ⟨endpoint, hendpoint, -⟩ := h.exists_endpoint
  refine ⟨endpoint, _, by rw [quickFile?, hendpoint, Option.map_some], ?_⟩
  rw [quickLines_eq]
  exact splitAt_join (QuickValues.hasLineBreak_of_mem_lines (quickValues_oneLine h endpoint))

/-- **Only the address can be missing.** A config that passes its check has an interface
    file with a server and with routes. Its addresses are those of the device that are
    given and whose family counts, and each can be read; there is none if, and only if,
    the device has no address of IPv4 and IPv6 is not enabled. -/
theorem only_address_can_be_missing (h : c.validate = .ok ()) :
    ∃ text v used, c.quickFile? = some text ∧
      Text.splitAt '\n' text = QuickValues.lines v ++ [""] ∧
      v.endpoint ≠ "" ∧ v.allowedIPs ≠ "" ∧
      v.address = ", ".intercalate used ∧
      (∀ a, a ∈ used ↔
        a ≠ "" ∧ (a = c.deviceV4 ∨ c.ipv6Enabled = true ∧ a = c.deviceV6)) ∧
      (∀ a ∈ used, ∃ range, Cidr.read a = .ok range) ∧
      (v.address = "" ↔ c.deviceV4 = "" ∧ c.ipv6Enabled = false) := by
  have hvalid : c.Valid := validate_eq_ok.mp h
  obtain ⟨endpoint, text, htext, hlines⟩ := hvalid.exists_quickFile
  have haddress : (c.quickValues endpoint).address = "" ↔
      c.deviceV4 = "" ∧ c.ipv6Enabled = false :=
    (address_eq_empty_iff endpoint).trans hvalid.interfaceAddresses_eq_nil
  exact ⟨text, c.quickValues endpoint, c.interfaceAddresses, htext, hlines,
    withPort_ne_empty endpoint _, hvalid.allowedIPs_ne_empty endpoint, rfl,
    fun _ => mem_interfaceAddresses, fun _ ha => hvalid.read_interfaceAddress ha, haddress⟩

/-- A device that has an address of IPv6 and no other. -/
def v6Tunnel : TunnelConfig where
  privateKey := "dwdtCnMYpX08FsFyUbJmRd9ML4frwJkqsXf7pR25LCo="
  deviceV6 := "fc00:bbbb:bbbb:bb01::c:7/128"
  gatewayV4 := "10.64.0.1"
  serverKey := "gXQJloeiZiH04s3XzAOz2s7bP7liJVsar9Azyr6DFTA="
  endpointV4 := "185.65.135.5"
  port := 51820
  ipv6Enabled := true
  ranges := [⟨.v4 0#32, 0, Nat.zero_le _⟩, ⟨.v6 0#128, 0, Nat.zero_le _⟩]

/-- The address counts, and is the one of the interface. -/
theorem only_address_can_be_missing_v6 :
    v6Tunnel.validate = .ok () ∧
      ∃ text v used, v6Tunnel.quickFile? = some text ∧
        Text.splitAt '\n' text = QuickValues.lines v ++ [""] ∧
        v.endpoint ≠ "" ∧ v.allowedIPs ≠ "" ∧ v.address = ", ".intercalate used ∧
        v6Tunnel.deviceV6 ∈ used ∧ v.address ≠ "" := by
  have hvalid : v6Tunnel.validate = .ok () := by decide +kernel
  obtain ⟨text, v, used, htext, hlines, hendpoint, hroutes, hjoined, hused, -, hmissing⟩ :=
    only_address_can_be_missing hvalid
  refine ⟨hvalid, text, v, used, htext, hlines, hendpoint, hroutes, hjoined, ?_, ?_⟩
  · exact (hused _).mpr ⟨by decide, .inr ⟨rfl, rfl⟩⟩
  · exact fun hempty => absurd (hmissing.mp hempty).2 nofun

/-- If IPv6 is not enabled, the same config passes its check, and its interface has no
    address at all. -/
theorem disabled_family_leaves_no_address :
    let c := { v6Tunnel with ipv6Enabled := false }
    c.validate = .ok () ∧ c.deviceV6 ≠ "" ∧
      ∃ text v, c.quickFile? = some text ∧
        Text.splitAt '\n' text = QuickValues.lines v ++ [""] ∧ v.address = "" := by
  intro c
  have hvalid : c.validate = .ok () := by decide +kernel
  have hv : c.Valid := validate_eq_ok.mp hvalid
  obtain ⟨endpoint, text, htext, hlines⟩ := hv.exists_quickFile
  refine ⟨hvalid, by decide, text, c.quickValues endpoint, htext, hlines, ?_⟩
  exact (address_eq_empty_iff endpoint).mpr (hv.interfaceAddresses_eq_nil.mpr ⟨rfl, rfl⟩)

end TunnelSession.TunnelConfig
