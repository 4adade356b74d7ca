/-
  TunnelSession.Proofs.Wire.RoundTrip

  The JSON form of a range, a tunnel config or a message is read back as that
  range, config or message. The names in each of these objects differ, so that
  a field is found whatever stands beside it.
-/
import TunnelSession.Proofs.Json.RoundTrip
import TunnelSession.Proofs.Net.AddressText
import TunnelSession.Wire.Message
import Mathlib.Algebra.Group.Nat.Defs

namespace TunnelSession

open Net (Address Cidr)

/-! ## Objects with distinct names -/

namespace Json

/-- No two members of the object have one name. -/
def Distinct (members : List (String × Json)) : Prop :=
  (members.map (·.1)).Nodup

theorem settleItems_self {depth : Nat} {items : List Json}
    (h : ∀ v ∈ items, settle depth v = some v) : settleItems depth items = some items := by
  induction items with
  | nil => rfl
  | cons v items ih =>
      rw [settleItems, h v List.mem_cons_self, ih fun w hw => h w (List.mem_cons_of_mem v hw)]
      rfl

theorem settleMembers_self {depth : Nat} {members : List (String × Json)}
    (h : ∀ m ∈ members, settle depth m.2 = some m.2) (hnames : Distinct members) :
    settleMembers depth members = some members := by
  induction members with
  | nil => rfl
  | cons m members ih =>
      obtain ⟨hfresh, hnames⟩ := List.nodup_cons.1 hnames
      have hlast : members.any (·.1 == m.1) = false := by
        rw [List.any_eq_false]
        intro n hn heq
        exact hfresh (List.mem_map.2 ⟨n, hn, eq_of_beq heq⟩)
      rw [settleMembers, h m List.mem_cons_self,
        ih (fun n hn => h n (List.mem_cons_of_mem m hn)) hnames]
      simp only [Option.bind_eq_bind, Option.bind_some, hlast, Bool.false_eq_true, if_false]

/-- Whole numbers of at most 64 bits have a double next to them. -/
theorem settle_ofNat {depth n : Nat} (hn : n < 2 ^ 64) :
    settle depth (ofNat n) = some (ofNat n) := by
  have hlength : (Nat.toDigits 10 n).length ≤ 20 :=
    (Nat.length_toDigits_le_iff (by decide) (by decide)).2 (by omega)
  have hfits : Number.fits (.integer false n) = true := by
    rw [Number.fits, Text.fitsDouble]
    exact if_pos (.inr (by omega))
  rw [ofNat, settle, hfits]
  rfl

/-- With distinct names, the only member of a name is the first. -/
theorem filter_of_distinct {members : List (String × Json)} (h : Distinct members) (name : String) :
    members.filter (·.1 == name) = (members.find? (·.1 == name)).toList := by
  induction members with
  | nil => rfl
  | cons m members ih =>
      obtain ⟨hfresh, hnames⟩ := List.nodup_cons.1 h
      rw [List.filter_cons, List.find?_cons]
      cases hm : m.1 == name with
      | true =>
          have hnone : members.filter (·.1 == name) = [] := by
            refine List.filter_eq_nil_iff.2 fun n hn heq => hfresh (List.mem_map.2 ⟨n, hn, ?_⟩)
            exact (eq_of_beq heq).trans (eq_of_beq hm).symm
          rw [if_pos rfl, hnone]
          rfl
      | false =>
          rw [if_neg Bool.false_ne_true]
          exact ih hnames

/-- With distinct names, every field is what its name stands for. -/
theorem fields?_of_distinct {members : List (String × Json)} (h : Distinct members)
    (names : List String) :
    fields? names (.object members) = some (names.map (member? · (.object members))) := by
  induction names with
  | nil => rfl
  | cons name names ih =>
      rw [fields?] at ih ⊢
      rw [List.mapM_cons, ih, filter_of_distinct h name]
      cases hfind : members.find? (·.1 == name) with
      | none => simp [member?, hfind]
      | some m => simp [member?, hfind]

end Json

/-! ## Ranges -/

theorem Net.Cidr.length_le_128 (r : Cidr) : r.length ≤ 128 := by
  have hwidth : r.address.width ≤ 128 := by
    cases r.address with
    | v4 a => exact (by decide : 32 ≤ 128)
    | v6 a => exact Nat.le_refl 128
  exact Nat.le_trans r.length_le hwidth

theorem Net.Cidr.names_nodup : (["address", "range", "isIpv6"] : List String).Nodup := by
  decide

theorem Net.Cidr.ofJson?_toJson (r : Cidr) : Cidr.ofJson? r.toJson = some r := by
  have hlength : r.length ≤ 255 := Nat.le_trans r.length_le_128 (by decide)
  have hmake : Cidr.make r.address r.length = .ok r := dif_pos r.length_le
  have hfields : r.toJson.fields? ["address", "range", "isIpv6"] =
      some [some (.text r.address.text), some (.ofNat r.length), some (.bool r.isV6)] := by
    rw [Cidr.toJson, Json.fields?_of_distinct]
    · rfl
    · exact Cidr.names_nodup
  rw [Cidr.ofJson?, hfields]
  simp only [Option.bind_eq_bind, Option.bind_some, Json.text?, Json.ofNat, Json.nat?, hlength,
    if_true, Json.orDefault, Json.bool?, Address.read?_text, Cidr.isV6, hmake]
  rfl

/-- Ranges are read back one by one. -/
theorem Net.Cidr.mapM_ofJson? (ranges : List Cidr) :
    (ranges.map Cidr.toJson).mapM Cidr.ofJson? = some ranges := by
  induction ranges with
  | nil => rfl
  | cons r ranges ih => rw [List.map_cons, List.mapM_cons, Cidr.ofJson?_toJson, ih]; rfl

/-! ## Tunnel configs and reports -/

theorem TunnelConfig.names_distinct (c : TunnelConfig) (kind : Json) :
    Json.Distinct (("type", kind) :: c.members) := by
  have hall : (["type", "privateKey", "deviceIpv4Address", "deviceIpv6Address", "serverIpv4Gateway",
      "serverIpv6Gateway", "serverPublicKey", "serverIpv4AddrIn", "serverIpv6AddrIn", "serverPort",
      "ipv6Enabled", "allowedIPAddressRanges", "dnsServer"] : List String).Nodup := by decide
  cases hdns : c.dnsServer with
  | none =>
      rw [Json.Distinct, members, hdns]
      exact (List.dropLast_sublist _).nodup hall
  | some dns =>
      rw [Json.Distinct, members, hdns]
      exact hall

theorem TunnelConfig.ofJson?_members (c : TunnelConfig) (kind : Json) :
    TunnelConfig.ofJson? (.object (("type", kind) :: c.members)) = some c := by
  have hport : c.port.toNat ≤ 65535 := Nat.le_of_lt_succ c.port.toNat_lt
  have hfields : Json.fields? ["privateKey", "deviceIpv4Address", "deviceIpv6Address",
      "serverIpv4Gateway", "serverIpv6Gateway", "serverPublicKey", "serverIpv4AddrIn",
      "serverIpv6AddrIn", "serverPort", "ipv6Enabled", "allowedIPAddressRanges", "dnsServer"]
      (.object (("type", kind) :: c.members)) =
      some [some (.text c.privateKey), some (.text c.deviceV4), some (.text c.deviceV6),
        some (.text c.gatewayV4), some (.text c.gatewayV6), some (.text c.serverKey),
        some (.text c.endpointV4), some (.text c.endpointV6), some (.ofNat c.port.toNat),
        some (.bool c.ipv6Enabled), some (.list (c.ranges.map Cidr.toJson)),
        c.dnsServer.map .text] := by
    rw [Json.fields?_of_distinct (c.names_distinct kind), members]
    cases c.dnsServer with
    | none => rfl
    | some dns => rfl
  have hdns : Json.orNone Json.text? (c.dnsServer.map .text) = some c.dnsServer := by
    cases c.dnsServer with
    | none => rfl
    | some dns => rfl
  have hportRead : Json.nat? 65535 (.ofNat c.port.toNat) = some c.port.toNat := if_pos hport
  rw [ofJson?, hfields]
  -- the texts and the flag are read by definition; three fields are left
  change ((Json.nat? 65535 (.ofNat c.port.toNat)).bind fun port =>
    ((c.ranges.map Cidr.toJson).mapM Cidr.ofJson?).bind fun ranges =>
      (Json.orNone Json.text? (c.dnsServer.map .text)).bind fun dnsServer =>
        some { c with port := UInt16.ofNat port, ranges, dnsServer }) = some c
  rw [hportRead, Cidr.mapM_ofJson?, hdns]
  simp only [Option.bind_some, UInt16.ofNat_toNat]

theorem Net.Cidr.settle_toJson (r : Cidr) (depth : Nat) :
    Json.settle (depth + 1) r.toJson = some r.toJson := by
  have hlength : r.length < 2 ^ 64 := Nat.lt_of_le_of_lt r.length_le_128 (by decide)
  rw [Cidr.toJson, Json.settle, Json.settleMembers_self]
  · rfl
  · intro m hm
    rcases List.mem_cons.1 hm with rfl | hm
    · rfl
    rcases List.mem_cons.1 hm with rfl | hm
    · exact Json.settle_ofNat hlength
    rw [List.mem_singleton.1 hm]
    rfl
  · exact Cidr.names_nodup

/-- The fields of a config settle to themselves; ranges nest two levels deeper. -/
theorem TunnelConfig.settle_members (c : TunnelConfig) (depth : Nat) :
    ∀ m ∈ c.members, Json.settle (depth + 2) m.2 = some m.2 := by
  have hport : c.port.toNat < 2 ^ 64 := Nat.lt_trans c.port.toNat_lt (by decide)
  have hranges : Json.settle (depth + 2) (.list (c.ranges.map Cidr.toJson)) =
      some (.list (c.ranges.map Cidr.toJson)) := by
    rw [Json.settle, Json.settleItems_self]
    · rfl
    · intro v hv
      obtain ⟨r, _, rfl⟩ := List.mem_map.1 hv
      exact r.settle_toJson depth
  intro m hm
  simp only [members, List.mem_append, List.mem_cons, List.not_mem_nil, or_false, List.mem_map] at hm
  -- only the port is a number, and only the ranges hold other values
  rcases hm with (rfl | rfl | rfl | rfl | rfl | rfl | rfl | rfl | rfl | rfl | rfl) | ⟨dns, _, rfl⟩
  case inl.inr.inr.inr.inr.inr.inr.inr.inr.inl => exact Json.settle_ofNat hport
  case inl.inr.inr.inr.inr.inr.inr.inr.inr.inr.inr => exact hranges
  all_goals rfl

theorem StatusReport.names_distinct (s : StatusReport) (kind : Json) :
    Json.Distinct (("type", kind) :: s.members) := by
  have hnames : (["type", "connected", "serverIpv4Gateway", "deviceIpv4Address", "date", "txBytes",
      "rxBytes"] : List String).Nodup := by decide
  exact hnames

theorem StatusReport.ofJson?_members (s : StatusReport) (kind : Json) :
    StatusReport.ofJson? (.object (("type", kind) :: s.members)) = some s := by
  have hcounter : ∀ n : UInt64, counter? (some (.ofNat n.toNat)) = some n := by
    intro n
    have hn : n.toNat ≤ 0xFFFFFFFFFFFFFFFF := Nat.le_of_lt_succ n.toNat_lt
    simp only [counter?, Json.orDefault, Json.ofNat, Json.nat?, hn, if_true, Option.map_some,
      UInt64.ofNat_toNat]
  have hfields : Json.fields? ["connected", "serverIpv4Gateway", "deviceIpv4Address", "date",
      "txBytes", "rxBytes"] (.object (("type", kind) :: s.members)) =
      some [some (.bool s.connected), some (.text s.gatewayV4), some (.text s.deviceV4),
        some (.ofNat s.date.toNat), some (.ofNat s.txBytes.toNat),
        some (.ofNat s.rxBytes.toNat)] := by
    rw [Json.fields?_of_distinct (s.names_distinct kind), members]
    rfl
  rw [ofJson?, hfields]
  simp only [Option.bind_eq_bind, Option.bind_some, hcounter, Json.text?, Json.orDefault,
    Json.bool?]

theorem StatusReport.settle_members (s : StatusReport) (depth : Nat) :
    ∀ m ∈ s.members, Json.settle depth m.2 = some m.2 := by
  intro m hm
  simp only [members, List.mem_cons, List.not_mem_nil, or_false] at hm
  rcases hm with rfl | rfl | rfl | rfl | rfl | rfl
  case inr.inr.inr.inl => exact Json.settle_ofNat s.date.toNat_lt
  case inr.inr.inr.inr.inl => exact Json.settle_ofNat s.txBytes.toNat_lt
  case inr.inr.inr.inr.inr => exact Json.settle_ofNat s.rxBytes.toNat_lt
  all_goals rfl

/-! ## Frames -/

/-- The frame as a value. -/
def FrameParts.json (p : FrameParts) : Json :=
  .object (("type", .text p.kind) :: p.fields)

/-- A frame is read back if its names differ and its payload can be read. -/
theorem readFrame_json {α : Type} {kinds : List String} {payload : String → Json → Option α}
    {p : FrameParts} {message : α} (hnames : Json.Distinct (("type", .text p.kind) :: p.fields))
    (hfields : ∀ m ∈ p.fields, Json.settle 126 m.2 = some m.2) (hkind : p.kind ∈ kinds)
    (hpayload : payload p.kind p.json = some message) :
    readFrame kinds payload (Json.write p.json) = .ok message := by
  have hsettle : Json.settle Json.maxDepth p.json = some p.json := by
    rw [FrameParts.json, Json.maxDepth, Json.settle, Json.settleMembers_self]
    · rfl
    · intro m hm
      rcases List.mem_cons.1 hm with rfl | hm
      · rfl
      · exact hfields m hm
    · exact hnames
  have htype : (p.json.member? "type").bind Json.text? = some p.kind := rfl
  rw [FrameParts.json] at hsettle hpayload htype
  rw [readFrame, FrameParts.json, Json.readSettled?_write hsettle]
  simp only [htype, hkind, if_true, hpayload]

theorem distinct_type (kind : String) : Json.Distinct [("type", .text kind)] :=
  List.nodup_cons.2 ⟨List.not_mem_nil, List.nodup_nil⟩

theorem Request.read_json (r : Request) : Request.read (Json.write r.parts.json) = .ok r := by
  cases r with
  | activate c =>
      refine readFrame_json (c.names_distinct _) (c.settle_members 124)
        (by decide : "activate" ∈ kinds) ?_
      exact congrArg (Option.map activate) (c.ofJson?_members _)
  | deactivate => exact readFrame_json (distinct_type _) (fun _ hm => nomatch hm) (by decide) rfl
  | status => exact readFrame_json (distinct_type _) (fun _ hm => nomatch hm) (by decide) rfl
  | logs => exact readFrame_json (distinct_type _) (fun _ hm => nomatch hm) (by decide) rfl
  | cleanLogs => exact readFrame_json (distinct_type _) (fun _ hm => nomatch hm) (by decide) rfl

theorem Reply.read_json (r : Reply) : Reply.read (Json.write r.parts.json) = .ok r := by
  cases r with
  | status s =>
      refine readFrame_json (s.names_distinct _) (s.settle_members 126)
        (by decide : "status" ∈ kinds) ?_
      exact congrArg (Option.map status) (s.ofJson?_members _)
  | logs text =>
      have hnames : (["type", "logs"] : List String).Nodup := by decide
      refine readFrame_json hnames (fun m hm => ?_) (by decide : "logs" ∈ kinds) rfl
      rw [List.mem_singleton.1 hm]
      rfl
  | connected serverKey =>
      have hnames : (["type", "pubkey"] : List String).Nodup := by decide
      refine readFrame_json hnames (fun m hm => ?_) (by decide : "connected" ∈ kinds) rfl
      rw [List.mem_singleton.1 hm]
      rfl
  | disconnected => exact readFrame_json (distinct_type _) (fun _ hm => nomatch hm) (by decide) rfl
  | backendFailure => exact readFrame_json (distinct_type _) (fun _ hm => nomatch hm) (by decide) rfl

end TunnelSession
