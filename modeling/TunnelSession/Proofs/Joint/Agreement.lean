/-
  TunnelSession.Proofs.Joint.Agreement

  When the link is empty and the connection believes that a tunnel is up, the
  keeper has one up, and it goes to the server that the connection names. This
  holds although no message tells which request it answers: a status that could
  mislead is always followed by the news that the tunnel is down.
-/
import TunnelSession.Proofs.Joint.Basic

namespace TunnelSession

open Controller (Input)
open Daemon (Access Backend Dummy Keeper Log)
open Daemon.Keeper (Outcome)

/-! ## What the replies are worth -/

/-- `Backed up replies`: after each status in the replies that tells of a tunnel, a
    tunnel is up in the end, or the replies tell that it is down. -/
def Backed (up : Prop) : List Reply → Prop
  | [] => True
  | r :: rest =>
    (∀ s, r = .status s → s.connected = true → up ∨ .disconnected ∈ rest) ∧ Backed up rest

/-- New replies back the old ones, if they tell of a tunnel that is gone. -/
theorem Backed.append {up up' : Prop} {old new : List Reply} (h : Backed up old)
    (hnew : Backed up' new) (hkeep : up → up' ∨ .disconnected ∈ new) :
    Backed up' (old ++ new) := by
  induction old with
  | nil => exact hnew
  | cons r old ih =>
      refine ⟨fun s hr hs => ?_, ih h.2⟩
      rcases h.1 s hr hs with hup | hdown
      · exact (hkeep hup).imp_right (List.mem_append_right old)
      · exact .inr (List.mem_append_left new hdown)

namespace Daemon.Keeper.Outcome

variable {up up' : Option TunnelConfig} {r : Request} {said : List Reply}

/-- The tunnel that is up is the one that is asked for, or none is. -/
theorem eq_want_or_none (h : Outcome up r up' said) : up' = r.want up ∨ up' = none := by
  cases h with
  | failed => exact .inr rfl
  | _ => exact .inl rfl

/-- No tunnel goes down in silence. -/
theorem isSome_or_told (h : Outcome up r up' said) (hup : up.isSome = true) :
    up'.isSome = true ∨ .disconnected ∈ said := by
  cases h with
  | started => exact .inl rfl
  | failed | stopped | stoppedBadly => exact .inr (by simp)
  | ignored hnone =>
      rw [hnone] at hup
      cases hup
  | told | read | cleaned => exact .inl hup

theorem backed (h : Outcome up r up' said) : Backed (up'.isSome = true) said := by
  cases h with
  | told s hs => exact ⟨fun s' heq hs' => .inl (hs (by cases heq; exact hs')), trivial⟩
  | started | ignored | cleaned => trivial
  | failed | stopped | read => exact ⟨nofun, trivial⟩
  | stoppedBadly => exact ⟨nofun, nofun, trivial⟩

end Daemon.Keeper.Outcome

namespace Joint

variable {β : Type} {b : Backend β} {user : UInt32} {j : Joint β}

/-! ## The accord -/

/-- What holds of the two at any time. -/
structure Accord (user : UInt32) (j : Joint β) : Prop where
  matched : j.controller.stance.Matched
  aimed : j.controller.stance.Aimed
  within : j.taken ≤ j.controller.sent.length
  notices : j.keeper.notices = []
  owned : j.keeper.OwnedBy user
  /-- A tunnel that is up is the one that was asked for. -/
  config : ∀ config, j.keeper.config? = some config →
    wanted (j.controller.sent.take j.taken) = some config
  backed : Backed (j.keeper.config?.isSome = true) j.said
  /-- A tunnel that is believed to be up is up, or the connection is about to hear
      that it is not. -/
  believed : j.controller.phase = .on →
    j.keeper.config?.isSome = true ∨ .disconnected ∈ j.said

namespace Accord

/-- The connection moves: the keeper and the requests that it has taken stay as they
    are, so only the replies that are left need a look. -/
theorem moved (h : j.Accord user) {i : Input} {c : Controller} {replies : List (Nat × Reply)}
    {lapsed strays : Nat} (hmoves : Moves i j.controller.stance c.stance)
    (hbacked : Backed (j.keeper.config?.isSome = true) (replies.map (·.2)))
    (hbelieved : c.phase = .on →
      j.keeper.config?.isSome = true ∨ .disconnected ∈ replies.map (·.2)) :
    Accord user
      { j with controller := c, replies := replies, lapsed := lapsed, strays := strays } := by
  refine ⟨hmoves.matched h.matched, hmoves.aimed h.aimed, ?_, h.notices, h.owned, ?_, hbacked,
    hbelieved⟩
  · exact Nat.le_trans h.within hmoves.sent_prefix.length_le
  · intro config hc
    exact (congrArg wanted (take_sent h.within hmoves.sent_prefix)).trans (h.config config hc)

theorem own (h : j.Accord user) (around : Surroundings) (i : Input) :
    (j.own around i).Accord user := by
  unfold Joint.own
  split
  · next hcomes =>
    have hi : i.isLink = false := isLink_of_comes hcomes
    have hmoves := Controller.handle_moves around h.matched i
    refine h.moved hmoves h.backed fun hon => ?_
    rcases hmoves.status_of_on hon with hp | ⟨r, hlink, -⟩
    · exact h.believed hp
    · rw [hlink] at hi
      cases hi
  · exact h

theorem hear (h : j.Accord user) (around : Surroundings) : (j.hear around).Accord user := by
  unfold Joint.hear
  split
  · exact h
  · next m r rest hreplies =>
    have hsaid : j.said = r :: rest.map (·.2) := by rw [said, hreplies]; rfl
    have hmoves := Controller.handle_moves around h.matched (.link (.message r))
    have hbacked := h.backed
    rw [hsaid] at hbacked
    refine h.moved hmoves hbacked.2 fun hon => ?_
    rcases hmoves.status_of_on hon with hp | ⟨s, hlink, hs⟩
    · -- a tunnel was believed to be up before
      have hbelieved := h.believed hp
      rw [hsaid] at hbelieved
      rcases hbelieved with hup | hdown
      · exact .inl hup
      · rcases List.mem_cons.mp hdown with hr | hrest
        · -- the news that it is down takes the connection off
          have hoff := Controller.onDisconnected_of_on around h.matched hp
          rw [← hr] at hon
          exact absurd (hon.symm.trans hoff) (by decide)
        · exact .inr hrest
    · -- a status has just told that it is up
      cases hlink
      exact hbacked.1 s rfl hs

/-- The keeper says something, after it has taken some requests. -/
theorem say (h : j.Accord user) {n : Nat} {answer : List Reply} {k : Keeper β}
    (hn : n ≤ j.controller.sent.length) (howned : k.OwnedBy user)
    (hconfig : ∀ config, k.config? = some config →
      wanted (j.controller.sent.take n) = some config)
    (hbacked : Backed (k.config?.isSome = true) (answer ++ k.notices))
    (hkeep : j.keeper.config?.isSome = true →
      k.config?.isSome = true ∨ .disconnected ∈ answer ++ k.notices) :
    ({ j with taken := n }.say answer k).Accord user := by
  have hsaid : ({ j with taken := n }.say answer k).said = j.said ++ (answer ++ k.notices) :=
    said_say _ _ _
  refine ⟨h.matched, h.aimed, hn, rfl, howned, hconfig, ?_, fun hon => ?_⟩
  · rw [hsaid]
    exact h.backed.append hbacked hkeep
  · rw [hsaid]
    rcases h.believed hon with hup | hdown
    · exact (hkeep hup).imp_right (List.mem_append_right j.said)
    · exact .inr (List.mem_append_left _ hdown)

theorem serve (h : j.Accord user) (clock : Nat) : (j.serve b user clock).Accord user := by
  unfold Joint.serve
  split
  · exact h
  · next r hr =>
    have hvalid : ∀ config, r = .activate config → config.validate = .ok () := fun config hc =>
      h.aimed.valid config (hc ▸ List.mem_of_getElem? hr)
    obtain ⟨howned, news, hnotices, hout⟩ :=
      Keeper.request_outcome b clock h.owned hvalid
    rw [h.notices, List.nil_append] at hnotices
    rw [← hnotices] at hout
    refine h.say (List.getElem?_eq_some_iff.mp hr).1 howned (fun config hc => ?_) hout.backed
      hout.isSome_or_told
    rw [take_succ_sent hr, wanted_concat]
    rcases hout.eq_want_or_none with hwant | hnone
    · -- the request asks for the tunnel that it brings up
      rw [hwant] at hc
      cases r with
      | activate | deactivate => exact hc
      | status | logs | cleanLogs => exact h.config config hc
    · rw [hnone] at hc
      cases hc

theorem poll (h : j.Accord user) (clock : Nat) : (j.poll b clock).Accord user := by
  unfold Joint.poll
  split
  · obtain ⟨hconfig, haccess, hnotices, -⟩ :=
      Keeper.checkHandshake_outcome (b := b) j.keeper clock
    refine h.say h.within (fun hactive => ?_) (fun config hc => ?_) ?_ fun hup => ?_
    · rw [haccess]
      refine h.owned ?_
      rw [Keeper.isActive_eq, ← hconfig, ← Keeper.isActive_eq]
      exact hactive
    · exact h.config config (hconfig ▸ hc)
    · rw [h.notices] at hnotices
      rcases hnotices with hnone | ⟨config, -, hconnected⟩
      · rw [hnone]
        trivial
      · rw [hconnected]
        exact ⟨nofun, trivial⟩
    · exact .inl (hconfig ▸ hup)
  · exact h

theorem act (h : j.Accord user) (e : Event) : (j.act b user e).Accord user := by
  cases e with
  | own around i => exact h.own around i
  | measured registry =>
      exact ⟨h.matched, h.aimed, h.within, h.notices, h.owned, h.config, h.backed, h.believed⟩
  | hear around => exact h.hear around
  | serve clock => exact h.serve clock
  | poll clock => exact h.poll clock

end Accord

theorem start_accord (tuning : ControlTuning) (device : Device) (registry : Registry)
    (around : Surroundings) (machine : β) (access : Access) (log : Log) :
    (start tuning device registry around machine access log).Accord user := by
  have hm := Controller.initial_matched tuning device registry
  have hmoves := Controller.handle_moves around hm (.link .ready)
  refine ⟨hmoves.matched hm, hmoves.aimed ⟨nofun, nofun, ?_⟩, Nat.zero_le _, rfl, nofun, nofun,
    trivial, fun hon => ?_⟩
  · rintro key (ha | ha) <;> cases ha
  · -- a new link brings no tunnel up
    rcases hmoves.status_of_on hon with hp | ⟨r, hlink, -⟩
    · cases hp
    · cases hlink

/-- Whenever the link is empty while the connection has a tunnel up, the keeper has
    one up as well, and it goes to the current server of the connection. -/
theorem tunnels_agree (b : Backend β) (user : UInt32) (tuning : ControlTuning) (device : Device)
    (registry : Registry) (around : Surroundings) (machine : β) (access : Access)
    (log : Log) (events : List Event) :
    let j := (start tuning device registry around machine access log).run b user events
    j.requests = [] → j.replies = [] → j.controller.phase = .on →
      ∃ tunnel server, j.keeper.tunnel = some tunnel ∧ j.controller.server = some server ∧
        tunnel.config.serverKey = server.publicKey := by
  intro j hrequests hreplies hon
  have h : j.Accord user :=
    run_keeps (P := Accord user) (fun _ e h => h.act e)
      (start_accord tuning device registry around machine access log) events
  have hup : j.keeper.config?.isSome = true := by
    rcases h.believed hon with hup | hdown
    · exact hup
    · rw [said, hreplies] at hdown
      exact absurd hdown List.not_mem_nil
  obtain ⟨config, hconfig⟩ := Option.isSome_iff_exists.mp hup
  obtain ⟨tunnel, htunnel, rfl⟩ := Option.map_eq_some_iff.mp hconfig
  -- all requests are taken, so the tunnel is the one that was asked for last
  have htaken : j.controller.sent.take j.taken = j.controller.sent :=
    List.take_of_length_le (List.drop_eq_nil_iff.mp hrequests)
  have hwanted := h.config _ hconfig
  rw [htaken] at hwanted
  obtain ⟨server, hserver, hkey⟩ := h.aimed.server _ hwanted
  exact ⟨tunnel, server, htunnel, hserver, hkey⟩

theorem tunnels_agree_on_first_tunnel :
    let j := (start {} plainDevice {} {} {} {} {}).run Dummy.backend 1000 firstTunnel
    (j.requests = [] ∧ j.replies = [] ∧ j.controller.phase = .on) ∧
      ∃ tunnel server, j.keeper.tunnel = some tunnel ∧ j.controller.server = some server ∧
        tunnel.config.serverKey = server.publicKey := by
  have hagree := tunnels_agree Dummy.backend 1000 {} plainDevice {} {} {} {} {} firstTunnel
  generalize hj : (start {} plainDevice {} {} {} {} {}).run Dummy.backend 1000 firstTunnel = j
    at hagree ⊢
  have hready : j.requests = [] ∧ j.replies = [] ∧ j.controller.phase = .on := by
    rw [← hj]
    decide +kernel
  exact ⟨hready, hagree hready.1 hready.2.1 hready.2.2⟩

end Joint

end TunnelSession
