/-
  TunnelSession.Proofs.Control.Attempts

  The attempts to bring a tunnel up, on every run. Whichever input asks for a tunnel,
  the request is valid and of a piece, and goes to a server that may be tried; and from
  there to its end the attempt knows its server, whatever else comes to the connection.
-/
import TunnelSession.Proofs.Control.Bearing
import TunnelSession.Proofs.Net.AddressText
import Mathlib.Data.List.TFAE

namespace TunnelSession

open Controller (Input)

/-! ## Address families -/

namespace Net

theorem isV6_of_mem_routed {f : Family} {excluded : List Cidr} {r : Cidr}
    (h : r ∈ f.routed excluded) : r.isV6 = decide (f = .v6) := by
  obtain ⟨b, -, rfl⟩ := List.mem_map.mp h
  cases f <;> rfl

/-- A range of IPv6 is routed just if there is a gateway of IPv6. -/
theorem exists_v6_mem_allowedRanges {gateway4 : BitVec 32} {gateway6 : Option (BitVec 128)}
    {excluded : List Cidr} :
    (∃ r ∈ allowedRanges gateway4 gateway6 excluded, r.isV6 = true) ↔ gateway6.isSome = true := by
  cases gateway6 with
  | some g => exact ⟨fun _ => rfl, fun _ => ⟨.host (.v6 g), by simp [allowedRanges], rfl⟩⟩
  | none =>
      refine ⟨fun ⟨r, hr, h6⟩ => ?_, nofun⟩
      simp only [allowedRanges, Option.toList_none, List.map_nil, Option.isSome_none,
        Bool.false_eq_true, if_false, List.append_nil, List.cons_append, List.nil_append,
        List.mem_cons] at hr
      rcases hr with rfl | hr
      · cases h6
      · rw [isV6_of_mem_routed hr] at h6
        cases h6

theorem Address.text_ne_empty (a : Address) : a.text ≠ "" := by
  intro htext
  have hempty : read? "" = none := by decide
  have hread := read?_text a
  rw [htext, hempty] at hread
  cases hread

end Net

/-- The config uses the sixth version of the protocol at all of its ends, or at none. -/
def TunnelConfig.Coherent (config : TunnelConfig) : Prop :=
  List.TFAE [config.ipv6Enabled = true, config.deviceV6 ≠ "", config.gatewayV6 ≠ "",
    ∃ r ∈ config.ranges, r.isV6 = true]

theorem Controller.tunnelTo_coherent {c : Controller} {s : Server} {config : TunnelConfig}
    (h : c.tunnelTo s = .ok config) : config.Coherent := by
  unfold tunnelTo at h
  split at h
  · cases h
  · next gateway4 _ =>
    -- all that matters about the gateway is that there is one only if the device has an address
    generalize hgateway6 : (if c.tuning.ipv6Enabled && c.device.addressV6 != "" then
      Net.Address.readV6? s.gatewayV6 else none) = gateway6 at h
    have hdevice : gateway6.isSome = true → c.device.addressV6 ≠ "" := by
      intro hsome hempty
      rw [← hgateway6, hempty] at hsome
      simp at hsome
    obtain ⟨rfl, -⟩ := eq_of_validated h
    refine List.tfae_of_forall (gateway6.isSome = true) _ ?_
    simp only [List.forall_mem_cons]
    refine ⟨trivial, ?_, ?_, Net.exists_v6_mem_allowedRanges, nofun⟩
    · cases gateway6 with
      | none => simp
      | some g => simpa using hdevice rfl
    · cases gateway6 with
      | none => simp
      | some g => simpa using Net.Address.text_ne_empty (.v6 g)

/-! ## Attempts in a run -/

/-- Whether an attempt to bring a tunnel up is under way. -/
def Phase.isAttempt : Phase → Bool
  | connecting | confirming | switching | silentSwitching => true
  | _ => false

theorem Awaited.of_key?_eq_some {a : Awaited} {key : String} (h : a.key? = some key) :
    a = .handshake key ∨ a = .confirmation key := by
  cases a with
  | handshake k => exact .inl (congrArg handshake (Option.some.inj h))
  | confirmation k => exact .inr (congrArg confirmation (Option.some.inj h))
  | nothing | disconnection => cases h

/-- An attempt waits for a server. -/
theorem Stance.Matched.isAttempt_iff {s : Stance} (h : s.Matched) :
    s.phase.isAttempt = true ↔ s.awaited.key? ≠ none := by
  rcases h.cases with ⟨ha, hp⟩ | ⟨⟨key, ha⟩, hp⟩ | ⟨⟨key, ha⟩, hp⟩ | ⟨ha, hp⟩ <;> rw [ha]
  · rcases hp with hp | hp | hp | hp <;> rw [hp] <;> simp [Phase.isAttempt, Awaited.key?]
  · rcases hp with hp | hp | hp <;> rw [hp] <;> simp [Phase.isAttempt, Awaited.key?]
  · rcases hp with hp | hp | hp <;> rw [hp] <;> simp [Phase.isAttempt, Awaited.key?]
  · rcases hp with hp | hp <;> rw [hp] <;> simp [Phase.isAttempt, Awaited.key?]

namespace Controller

variable {c : Controller}

/-- Tunnels that were asked for stay asked for. -/
theorem asked_prefix_meet (h : c.stance.Matched) (x : Happening) :
    c.asked <+: (c.meet x).asked := by
  cases x with
  | measured registry => exact List.prefix_rfl
  | input around i =>
      rcases handle_steers around h i with hkeeps | ⟨d, -, s, config, hlaunches⟩
      · exact hkeeps.asked ▸ List.prefix_rfl
      · exact ⟨[config], hlaunches.asked.symm⟩

theorem asked_prefix_run (h : c.stance.Matched) (happenings : List Happening) :
    c.asked <+: (c.run happenings).asked := by
  induction happenings generalizing c with
  | nil => exact List.prefix_rfl
  | cons x happenings ih => exact (asked_prefix_meet h x).trans (ih (meet_matched h x))

/-- If no other tunnel is asked for, the attempt goes on or is over. -/
theorem meet_attempt (h : c.stance.Matched) (x : Happening) (hasked : (c.meet x).asked = c.asked) :
    (c.meet x).attempt? = none ∨ (c.meet x).attempt? = c.attempt? := by
  cases x with
  | measured registry => exact .inr rfl
  | input around i =>
      rcases handle_steers around h i with hkeeps | ⟨d, -, s, config, hlaunches⟩
      · exact hkeeps.attempt
      · have hone : c.asked ++ [config] = c.asked := hlaunches.asked.symm.trans hasked
        exact absurd hone (by simp)

/-- An attempt lasts until it is over or another one takes its place. -/
theorem run_attempt (h : c.stance.Matched) (happenings : List Happening)
    (hasked : (c.run happenings).asked = c.asked) :
    (c.run happenings).attempt? = none ∨ (c.run happenings).attempt? = c.attempt? := by
  induction happenings generalizing c with
  | nil => exact .inr rfl
  | cons x happenings ih =>
      have hm : (c.meet x).stance.Matched := meet_matched h x
      -- what is asked for only grows, so it was the same in between
      have hfirst : (c.meet x).asked = c.asked := by
        have hback := asked_prefix_run hm happenings
        rw [show ((c.meet x).run happenings).asked = c.asked from hasked] at hback
        exact hback.eq_of_length_le (asked_prefix_meet h x).length_le
      have hlater : ((c.meet x).run happenings).asked = (c.meet x).asked := hasked.trans hfirst.symm
      rcases ih hm hlater with hnone | hsame
      · exact .inl hnone
      · rw [show (c.run (x :: happenings)).attempt? = _ from hsame]
        exact meet_attempt h x hfirst

/-- Every attempt knows its server. On every run, an input asks for no tunnel, or for one
    to a server of the destination that the input is about. The request is valid, uses
    the sixth version of the protocol at all of its ends or at none, and the server was
    not cooling down. From there until the attempt is over or another one takes its
    place, whatever happens, the key of this server is the one that is waited for, and
    it is the current server, one of the current destination. -/
theorem attempts_know_their_server (tuning : ControlTuning) (device : Device)
    (registry : Registry) (before : List Happening) (around : Surroundings) (i : Input) :
    let c := (initial tuning device registry).run before
    let c' := c.handle around i
    c'.asked = c.asked ∨ ∃ d s config,
      c.goal i = some d ∧ s ∈ d.servers ∧ c'.asked = c.asked ++ [config] ∧
      c.tunnelTo s = .ok config ∧ config.validate = .ok () ∧ config.Coherent ∧
      config.serverKey = s.publicKey ∧
      c'.registry.isCooling around.clock s.publicKey = false ∧
      c'.phase.isAttempt = true ∧
      ∀ later : List Happening,
        (c'.run later).asked = c'.asked → (c'.run later).phase.isAttempt = true →
          ((c'.run later).awaited = .handshake config.serverKey ∨
            (c'.run later).awaited = .confirmation config.serverKey) ∧
          (c'.run later).server = some s ∧ (c'.run later).destination = some d := by
  intro c c'
  have hm : c.stance.Matched := run_matched (initial_matched tuning device registry) before
  have hm' : c'.stance.Matched := handle_matched hm i
  rcases handle_steers around hm i with hkeeps | ⟨d, hd, s, config, hlaunches⟩
  · exact .inl hkeeps.asked
  · obtain ⟨hkey, hvalid⟩ := tunnelTo_ok hlaunches.made
    refine .inr ⟨d, s, config, hd, hlaunches.candidate, hlaunches.asked, hlaunches.made, hvalid,
      tunnelTo_coherent hlaunches.made, hkey, hlaunches.usable, ?_, fun later hasked htrying => ?_⟩
    · refine hm'.isAttempt_iff.mpr ?_
      rw [stance_awaited, hlaunches.awaited]
      nofun
    · -- an attempt under way waits for some server, and no other attempt took its place
      have hwaits := (run_matched hm' later).isAttempt_iff.mp htrying
      have hsame : (c'.run later).attempt? = c'.attempt? := by
        rcases run_attempt hm' later hasked with hnone | hsame
        · exact absurd (Option.map_eq_none_iff.mp hnone) hwaits
        · exact hsame
      obtain ⟨hlaterKey, hdestination, hserver⟩ :=
        attempt?_eq_some.mp (hsame.trans hlaunches.attempt)
      rw [hkey]
      exact ⟨Awaited.of_key?_eq_some hlaterKey, hserver, hdestination⟩

/-- The first attempt of a run, which goes to the one server of the city that is left,
    and has its handshake while another server is measured and the user asks for more. -/
theorem attempts_know_their_server_to_the_north :
    let c := (initial {} sampleDevice southCooling).run firstLink
    let c' := c.handle {} (.activate twinCity)
    let later : List Happening := [.measured {}, .input {} (.activate westCity),
      .input {} (.link (.message (.connected northServer.publicKey)))]
    c'.asked ≠ c.asked ∧
      ((c'.run later).asked = c'.asked ∧ (c'.run later).phase.isAttempt = true) ∧
      ∃ d s config, c.goal (.activate twinCity) = some d ∧ s ∈ d.servers ∧
        c'.asked = c.asked ++ [config] ∧ config.validate = .ok () ∧ config.Coherent ∧
        config.serverKey = s.publicKey ∧
        ((c'.run later).awaited = .handshake config.serverKey ∨
          (c'.run later).awaited = .confirmation config.serverKey) ∧
        (c'.run later).server = some s ∧ (c'.run later).destination = some d := by
  intro c c' later
  have hasked : c'.asked ≠ c.asked := by decide +kernel
  have hlater : (c'.run later).asked = c'.asked ∧ (c'.run later).phase.isAttempt = true := by
    decide +kernel
  obtain ⟨d, s, config, hgoal, hmem, hnew, -, hvalid, hcoherent, hkey, -, -, hlasts⟩ :=
    (attempts_know_their_server {} sampleDevice southCooling firstLink {}
      (.activate twinCity)).resolve_left hasked
  obtain ⟨hawaited, hserver, hdestination⟩ := hlasts later hlater.1 hlater.2
  exact ⟨hasked, hlater, d, s, config, hgoal, hmem, hnew, hvalid, hcoherent, hkey, hawaited,
    hserver, hdestination⟩

end Controller

end TunnelSession
