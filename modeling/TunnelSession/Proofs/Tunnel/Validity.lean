/-
  TunnelSession.Proofs.Tunnel.Validity

  What a config that passes its check is known to hold. The check runs through the
  fields and stops at the first fault, so that it passes says of every field at once
  that nothing is wrong with it; a server that can be reached follows.
-/
import TunnelSession.Tunnel.Config

namespace TunnelSession.TunnelConfig

open Net (Address Cidr)

/-! ## One check after the other -/

/-- Checks in a row pass if each of them does. -/
theorem then_eq_ok {ε : Type} {first : Except ε Unit} {rest : Unit → Except ε Unit} :
    (first >>= rest) = .ok () ↔ first = .ok () ∧ rest () = .ok () := by
  cases first with
  | error e => exact ⟨nofun, nofun⟩
  | ok u => exact ⟨fun h => ⟨rfl, h⟩, fun h => h.2⟩

theorem forM_eq_ok {ε α : Type} {f : α → Except ε Unit} {l : List α} :
    l.forM f = .ok () ↔ ∀ x ∈ l, f x = .ok () := by
  induction l with
  | nil => exact ⟨fun _ => nofun, fun _ => rfl⟩
  | cons x l ih =>
      show (f x >>= fun _ => l.forM f) = .ok () ↔ _
      rw [then_eq_ok, ih, List.forall_mem_cons]

theorem check_eq_ok {ok : Bool} {e : ConfigError} : check ok e = .ok () ↔ ok = true := by
  cases ok with
  | false => exact ⟨nofun, nofun⟩
  | true => exact ⟨fun _ => rfl, fun _ => rfl⟩

variable {c : TunnelConfig} {name text : String}

theorem checkLines_eq_ok :
    c.checkLines = .ok () ↔ ∀ field ∈ c.textFields, hasLineBreak field.2 = false := by
  rw [checkLines, forM_eq_ok]
  simp only [check_eq_ok, Bool.not_eq_true']

theorem checkKey_eq_ok :
    checkKey name text = .ok () ↔ text ≠ "" ∧ ∃ key, Key.KeyBytes.read text = .ok key := by
  rw [checkKey, then_eq_ok, check_eq_ok]
  cases Key.KeyBytes.read text <;> simp

theorem checkDevice_eq_ok :
    checkDevice text = .ok () ↔ (text ≠ "" → ∃ range, Cidr.read text = .ok range) := by
  unfold checkDevice
  by_cases htext : text = ""
  · simp [htext]
  · cases Cidr.read text <;> simp [htext]

theorem checkAddress_eq_ok :
    checkAddress text = .ok () ↔ (text ≠ "" → ∃ a, Address.read? text = some a) := by
  rw [checkAddress, check_eq_ok]
  by_cases htext : text = "" <;> simp [htext, Option.isSome_iff_exists]

/-! ## All of them -/

/-- A config that brings its tunnel up completely. -/
structure Valid (c : TunnelConfig) : Prop where
  oneLine : ∀ field ∈ c.textFields, hasLineBreak field.2 = false
  privateKey : c.privateKey ≠ "" ∧ ∃ key, Key.KeyBytes.read c.privateKey = .ok key
  serverKey : c.serverKey ≠ "" ∧ ∃ key, Key.KeyBytes.read c.serverKey = .ok key
  port : c.port ≠ 0
  device : c.deviceV4 ≠ "" ∨ c.deviceV6 ≠ ""
  deviceV4 : c.deviceV4 ≠ "" → ∃ range, Cidr.read c.deviceV4 = .ok range
  deviceV6 : c.deviceV6 ≠ "" → ∃ range, Cidr.read c.deviceV6 = .ok range
  server : c.endpointV4 ≠ "" ∨ c.endpointV6 ≠ ""
  endpointV4 : c.endpointV4 ≠ "" → ∃ a, Address.read? c.endpointV4 = some a
  endpointV6 : c.endpointV6 ≠ "" → ∃ a, Address.read? c.endpointV6 = some a
  gatewayV4 : c.gatewayV4 ≠ "" → ∃ a, Address.read? c.gatewayV4 = some a
  gatewayV6 : c.gatewayV6 ≠ "" → ∃ a, Address.read? c.gatewayV6 = some a
  ranges : c.ranges ≠ []

/-- The check passes exactly the configs that are valid. -/
theorem validate_eq_ok : c.validate = .ok () ↔ c.Valid := by
  simp only [validate, then_eq_ok, checkLines_eq_ok, checkKey_eq_ok, checkDevice_eq_ok,
    checkAddress_eq_ok, check_eq_ok]
  constructor
  · rintro ⟨hlines, hprivate, hserver, hport, hdevice, hdevice4, hdevice6, hendpoint, hendpoint4,
      hendpoint6, hgateway4, hgateway6, hranges⟩
    exact {
      oneLine := hlines
      privateKey := hprivate
      serverKey := hserver
      port := by simpa using hport
      device := by simpa [Classical.or_iff_not_imp_left] using hdevice
      deviceV4 := hdevice4
      deviceV6 := hdevice6
      server := by simpa [Classical.or_iff_not_imp_left] using hendpoint
      endpointV4 := hendpoint4
      endpointV6 := hendpoint6
      gatewayV4 := hgateway4
      gatewayV6 := hgateway6
      ranges := by simpa using hranges }
  · intro h
    have hdevice := h.device
    have hserver := h.server
    refine ⟨h.oneLine, h.privateKey, h.serverKey, ?_, ?_, h.deviceV4, h.deviceV6, ?_, h.endpointV4,
      h.endpointV6, h.gatewayV4, h.gatewayV6, ?_⟩
    · simpa using h.port
    · simpa [Classical.or_iff_not_imp_left] using hdevice
    · simpa [Classical.or_iff_not_imp_left] using hserver
    · simpa using h.ranges

/-- A valid config says where its server is reached. -/
theorem Valid.exists_endpoint (h : c.Valid) :
    ∃ a, c.endpoint = some a ∧
      (Address.read? c.endpointV4 = some a ∨ Address.read? c.endpointV6 = some a) := by
  unfold endpoint
  cases h4 : Address.read? c.endpointV4 with
  | some a => exact ⟨a, rfl, .inl rfl⟩
  | none =>
      -- the IPv4 text is not read, so it is empty, and the other one is not
      have hempty : c.endpointV4 = "" := by
        apply Decidable.byContradiction
        intro hne
        obtain ⟨a, ha⟩ := h.endpointV4 hne
        rw [h4] at ha
        cases ha
      have hother : c.endpointV6 ≠ "" := h.server.resolve_left fun hne => hne hempty
      obtain ⟨a, ha⟩ := h.endpointV6 hother
      exact ⟨a, by rw [ha]; rfl, .inr ha⟩

end TunnelSession.TunnelConfig
