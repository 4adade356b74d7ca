/-
  TunnelSession.Proofs.Joint.Exclusion

  One tunnel at a time. Every client hears of every tunnel, also of those of others, and
  no message tells whose tunnel it is about. Yet when all that was sent has been handled,
  at most one connection believes that a tunnel is up, and it is right: there is one, and
  its user owns it.

  What carries this is that only the owner is told in a status that a tunnel is up, and
  that nobody ceases to be the owner without a notice to all. So a connection that
  believes in a tunnel has it, or is about to hear that it is down.
-/
import TunnelSession.Proofs.Daemon.Ownership
import TunnelSession.Proofs.Joint.Agreement
import TunnelSession.Proofs.Joint.Hub

namespace TunnelSession

open Controller (Input)
open Daemon (Backend Dummy Keeper Log superuser)
open Daemon.Keeper (Course Turn)

/-! ## What the replies are worth -/

theorem Backed.imp {up up' : Prop} {said : List Reply} (h : Backed up said) (himp : up → up') :
    Backed up' said := by
  have happend : Backed up' (said ++ []) := h.append trivial fun hup => .inl (himp hup)
  rwa [List.append_nil] at happend

/-- Nothing is claimed where no status is told. -/
theorem backed_of_not_status {up : Prop} {said : List Reply} (h : ∀ s, .status s ∉ said) :
    Backed up said := by
  induction said with
  | nil => trivial
  | cons r said ih =>
      refine ⟨fun s hr => ?_, ih fun s hs => h s (List.mem_cons_of_mem r hs)⟩
      exact absurd (hr ▸ List.mem_cons_self) (h s)

/-- A report, as far as it tells of a tunnel. A link that is lost is as good as the news
    that the tunnel is down. -/
def LinkEvent.reply? : LinkEvent → Option Reply
  | .ready => none
  | .lost => some .disconnected
  | .message r => some r

/-! ## A client -/

namespace Client

variable {p : Client} {held held' : Prop}

/-- What the connection is still going to hear, the oldest first. -/
def news (p : Client) : List Reply := p.reports.filterMap LinkEvent.reply? ++ p.replies

/-- The user holds a tunnel, or the connection is going to hear that none is up. Without a
    link it counts for nothing what the user holds. -/
def Warranted (held : Prop) (p : Client) : Prop :=
  (p.linked = true ∧ held) ∨ .disconnected ∈ p.news

/-- What holds of a client at any time: what it is still told of a tunnel, and what it
    believes, is so or will be taken back. Whether its user holds a tunnel is given. -/
structure Sound (held : Prop) (p : Client) : Prop where
  matched : p.controller.stance.Matched
  backed : Backed (p.linked = true ∧ held) p.news
  believed : p.controller.phase = .on → p.Warranted held

namespace Sound

/-- The connection handles an input. It comes to believe in a tunnel only by a status, so
    it is enough to look at those who did before, and at what a status tells. -/
theorem handled (h : p.Sound held) (around : Surroundings) (i : Input) {reports : List LinkEvent}
    (hbacked : Backed (p.linked = true ∧ held) ({ p with reports := reports } : Client).news)
    (hstays : p.controller.phase = .on →
      (p.controller.handle (p.reach around) i).phase = .on →
        ({ p with reports := reports } : Client).Warranted held)
    (htold : ∀ s, i = .link (.message (.status s)) → s.connected = true →
      ({ p with reports := reports } : Client).Warranted held) :
    (({ p with reports := reports } : Client).handle around i).Sound held := by
  have hmoves := Controller.handle_moves (p.reach around) h.matched i
  refine ⟨hmoves.matched h.matched, hbacked, fun hon => ?_⟩
  rcases hmoves.status_of_on hon with hp | ⟨s, hstatus, hs⟩
  · exact hstays hp hon
  · exact htold s hstatus hs

theorem own (h : p.Sound held) (around : Surroundings) {i : Input} (hi : i.isLink = false) :
    (p.handle around i).Sound held := by
  refine h.handled around i h.backed (fun hp _ => h.believed hp) fun s hstatus _ => ?_
  rw [hstatus] at hi
  cases hi

/-- The connection handles a report. -/
theorem report {e : LinkEvent} {rest : List LinkEvent} (h : p.Sound held)
    (hreports : p.reports = e :: rest) (around : Surroundings) :
    (({ p with reports := rest } : Client).handle around (.link e)).Sound held := by
  have hnews : p.news = e.reply?.toList ++ ({ p with reports := rest } : Client).news := by
    rw [news, hreports]
    cases e <;> rfl
  have hbacked := h.backed
  have hbelieved := h.believed
  rw [Warranted, hnews] at hbelieved
  rw [hnews] at hbacked
  cases e with
  | ready => exact h.handled around _ hbacked (fun hp _ => hbelieved hp) nofun
  | lost =>
      refine h.handled around _ hbacked.2 (fun hp hon => ?_) nofun
      -- the loss takes the connection off
      have hoff := Controller.onLost_of_on (p.reach around) h.matched hp
      exact absurd (hon.symm.trans hoff) (by decide)
  | message r =>
      refine h.handled around _ hbacked.2 (fun hp hon => ?_) fun s hstatus hs => ?_
      · rcases hbelieved hp with hup | hdown
        · exact .inl hup
        · rcases List.mem_cons.mp hdown with hr | hrest
          · -- so does the news that the tunnel is down
            have hoff := Controller.onDisconnected_of_on (p.reach around) h.matched hp
            rw [← hr] at hon
            exact absurd (hon.symm.trans hoff) (by decide)
          · exact .inr hrest
      · cases hstatus
        exact hbacked.1 s rfl hs

/-- The link goes away, and the connection is going to hear that it has. -/
theorem part (h : p.Sound held) : (p.act .part).Sound held := by
  have hnews : (p.act .part).news = p.reports.filterMap LinkEvent.reply? ++ [.disconnected] := by
    simp [act, news, LinkEvent.reply?]
  have hlast : Reply.disconnected ∈ (p.act .part).news := by
    rw [hnews]
    exact List.mem_append_right _ (List.mem_singleton_self _)
  refine ⟨h.matched, ?_, fun _ => .inr hlast⟩
  -- whatever the reports tell, the loss comes after them
  have hreports {said more : List Reply} (hb : Backed (p.linked = true ∧ held) (said ++ more)) :
      Backed False (said ++ [.disconnected]) := by
    induction said with
    | nil => exact ⟨nofun, trivial⟩
    | cons r said ih =>
        refine ⟨fun s hr hs => .inr ?_, ih hb.2⟩
        exact List.mem_append_right said (List.mem_singleton_self _)
  rw [hnews]
  exact (hreports h.backed).imp False.elim

theorem act (h : p.Sound held) (e : Event) : (p.act e).Sound held := by
  cases e with
  | own around i =>
      rw [Client.act]
      split
      · exact h
      · next hi => exact h.own around (Bool.eq_false_iff.mpr hi)
  | measured registry => exact ⟨h.matched, h.backed, h.believed⟩
  | join =>
      rw [Client.act]
      split
      · exact h
      · next hlinked =>
        have hnews : ({ p with linked := true, reports := p.reports ++ [.ready] } : Client).news =
            p.news := by
          simp [news, LinkEvent.reply?]
        have hno {P : Prop} (hup : p.linked = true ∧ held) : P := absurd hup.1 hlinked
        refine ⟨h.matched, ?_, fun hon => ?_⟩
        · rw [hnews]
          exact h.backed.imp hno
        · rw [Warranted, hnews]
          exact (h.believed hon).imp_left hno
  | part => exact h.part
  | receive =>
      rw [Client.act]
      split
      · exact h
      · next r rest hreplies =>
        have hnews :
            ({ p with replies := rest, reports := p.reports ++ [.message r] } : Client).news =
              p.news := by
          simp [news, hreplies, LinkEvent.reply?]
        refine ⟨h.matched, ?_, fun hon => ?_⟩
        · rw [hnews]
          exact h.backed
        · rw [Warranted, hnews]
          exact h.believed hon
  | hear around =>
      rw [Client.act]
      split
      · exact h
      · next e rest hreports => exact h.report hreports around

/-- The keeper says something. If the user loses the tunnel, that is told. -/
theorem tell {said : List Reply} (h : p.Sound held) (hsaid : Backed held' said)
    (hkeep : held → held' ∨ .disconnected ∈ said) : (p.tell said).Sound held' := by
  cases hlinked : p.linked with
  | true =>
      have htell : p.tell said = { p with replies := p.replies ++ said } := by
        rw [Client.tell, if_pos hlinked]
      have hnews : (p.tell said).news = p.news ++ said := by
        rw [htell, news, news, List.append_assoc]
      have hlinked' : (p.tell said).linked = true := by
        rw [htell]
        exact hlinked
      have hkeep' : p.linked = true ∧ held →
          ((p.tell said).linked = true ∧ held') ∨ .disconnected ∈ said :=
        fun hup => (hkeep hup.2).imp_left fun hheld => ⟨hlinked', hheld⟩
      refine ⟨?_, ?_, fun hon => ?_⟩
      · rw [htell]
        exact h.matched
      · rw [hnews]
        exact h.backed.append (hsaid.imp fun hheld => ⟨hlinked', hheld⟩) hkeep'
      · rw [Warranted, hnews]
        rw [htell] at hon
        rcases h.believed hon with hup | hdown
        · exact (hkeep' hup).imp_right (List.mem_append_right p.news)
        · exact .inr (List.mem_append_left said hdown)
  | false =>
      have htell : p.tell said = p := by
        rw [Client.tell, if_neg (by rw [hlinked]; exact Bool.false_ne_true)]
      have hno {P : Prop} (hup : p.linked = true ∧ held) : P :=
        absurd (hlinked.symm.trans hup.1) Bool.false_ne_true
      rw [htell]
      exact ⟨h.matched, h.backed.imp hno, fun hon => (h.believed hon).imp_left hno⟩

/-- When nothing is under way, a connection that believes in a tunnel has one. -/
theorem held_of_on (h : p.Sound held) (hquiet : p.Quiet) (hon : p.controller.phase = .on) :
    held := by
  obtain ⟨-, hreplies, hreports⟩ := hquiet
  rcases h.believed hon with hup | hdown
  · exact hup.2
  · rw [news, hreplies, hreports] at hdown
    exact absurd hdown List.not_mem_nil

end Sound

end Client

/-! ## The keeper -/

namespace Daemon.Keeper

variable {β : Type} {b : Backend β} {k k' : Keeper β} {t : Turn}

/-- A status is an answer, and never told to all. -/
theorem Course.status_not_mem (h : Course b k t k') (hk : k.notices = []) (s : StatusReport) :
    .status s ∉ k'.notices := by
  have hnone : Reply.status s ∉ k.notices := by
    rw [hk]
    exact List.not_mem_nil
  have hone (r : Reply) (hr : r ≠ .status s) : Reply.status s ∉ k.notices ++ [r] := by
    rw [List.mem_append, List.mem_singleton]
    exact not_or.mpr ⟨hnone, hr.symm⟩
  cases h with
  | stay | raise | leave => exact hnone
  | meet => exact hone _ nofun
  | spurn | decline | fail | close => exact hone _ nofun
  | lower =>
      show Reply.status s ∉ (k.notices ++ Keeper.farewell (k.stopped b).1) ++ [.disconnected]
      cases (k.stopped b).1 <;> simp [hk, Keeper.farewell]

/-- What the keeper says in a turn bears out what it has said before. -/
theorem Course.held_or_disconnected (h : Course b k t k') (hk : k.notices = []) {user : UInt32}
    (hheld : k.HeldBy user) : k'.HeldBy user ∨ .disconnected ∈ k'.notices := by
  rcases h.held_or_told hheld with hstill | ⟨news, hnotices, hlast⟩
  · exact .inl hstill
  · rw [hk, List.nil_append] at hnotices
    exact .inr (hnotices ▸ hlast)

end Daemon.Keeper

/-! ## All of them -/

namespace Hub

variable {β : Type} {b : Backend β} {h : Hub β}

/-- What holds of the keeper and the clients of all users but the superuser at any
    time. -/
structure Fair (h : Hub β) : Prop where
  notices : h.keeper.notices = []
  sound : ∀ user, user ≠ superuser → (h.clients user).Sound (h.keeper.HeldBy user)

namespace Fair

theorem client (hh : h.Fair) (user : UInt32) {p : Client}
    (hp : ∀ held, (h.clients user).Sound held → p.Sound held) : (h.update user p).Fair := by
  refine ⟨hh.notices, fun other hother => ?_⟩
  by_cases heq : other = user
  · rw [heq, clients_update_self]
    exact hp _ (hh.sound user (heq ▸ hother))
  · rw [clients_update_of_ne heq]
    exact hh.sound other hother

/-- The keeper takes a turn. The answers tell of a tunnel only to the user that holds
    it. -/
theorem say (hh : h.Fair) {t : Turn} {k : Keeper β} {answers : UInt32 → List Reply}
    (hcourse : Course b h.keeper t k)
    (hanswers : ∀ user, user ≠ superuser → Backed (k.HeldBy user) (answers user)) :
    (h.say answers k).Fair := by
  refine ⟨rfl, fun user huser => ?_⟩
  have hnotices : Backed (k.HeldBy user) k.notices :=
    backed_of_not_status (hcourse.status_not_mem hh.notices)
  refine (hh.sound user huser).tell ?_ fun hheld => ?_
  · exact (hanswers user huser).append hnotices fun hheld => .inl hheld
  · exact (hcourse.held_or_disconnected hh.notices hheld).imp_right (List.mem_append_right _)

theorem serve (hh : h.Fair) (user : UInt32) (clock : Nat) : (h.serve b user clock).Fair := by
  unfold Hub.serve
  split
  · exact hh
  · next r rest _ =>
    have htaken : (h.update user { h.clients user with requests := rest }).Fair :=
      hh.client user fun held hp => ⟨hp.matched, hp.backed, hp.believed⟩
    refine htaken.say (Keeper.request_course b h.keeper clock (some user) r) fun other hother => ?_
    split
    · next heq =>
      subst heq
      cases hanswer : (h.keeper.request b clock (some other) r).1 with
      | none => trivial
      | some answer =>
          refine ⟨fun s hr hs => .inl ?_, trivial⟩
          exact Keeper.heldBy_of_answer hother (hr ▸ hanswer) hs
    · trivial

theorem act (hh : h.Fair) (e : Event) : (h.act b e).Fair := by
  cases e with
  | client user e => exact hh.client user fun held hp => hp.act e
  | serve user clock => exact hh.serve user clock
  | turn t => exact hh.say (Keeper.turn_course b h.keeper t) fun user _ => trivial

end Fair

theorem start_fair (tuning : UInt32 → ControlTuning) (device : UInt32 → Device)
    (registry : UInt32 → Registry) (machine : β) (log : Log) :
    (start tuning device registry machine log).Fair := by
  refine ⟨rfl, fun user _ => ⟨Controller.initial_matched _ _ _, trivial, ?_⟩⟩
  intro hon
  cases hon

/-- However the users, the timers, the links, the machinery and others interfere: a
    connection with nothing under way believes that a tunnel is up only if its user owns
    the one that is, and no other connection with nothing under way does so as well. -/
theorem on_for_the_owner_alone (b : Backend β) (tuning : UInt32 → ControlTuning)
    (device : UInt32 → Device) (registry : UInt32 → Registry) (machine : β) (log : Log)
    (events : List Event) (user : UInt32) (huser : user ≠ superuser) :
    let h := (start tuning device registry machine log).run b events
    (h.clients user).Quiet → (h.clients user).controller.phase = .on →
      h.keeper.HeldBy user ∧
      ∀ other, other ≠ superuser → (h.clients other).Quiet →
        (h.clients other).controller.phase = .on → other = user := by
  intro h hquiet hon
  have hfair : h.Fair :=
    run_keeps (P := Fair) (fun _ e hh => hh.act e)
      (start_fair tuning device registry machine log) events
  have hheld : h.keeper.HeldBy user := (hfair.sound user huser).held_of_on hquiet hon
  refine ⟨hheld, fun other hother hquiet' hon' => ?_⟩
  have hheld' : h.keeper.HeldBy other := (hfair.sound other hother).held_of_on hquiet' hon'
  exact Option.some.inj (hheld'.2.symm.trans hheld.2)

/-- The same happens to two users. -/
def toBoth (e : Client.Event) : List Event := [.client 1000 e, .client 1001 e]

/-- Both users ask for a tunnel to the same server. The first one gets it, and both hear
    of the handshake and ask for the status, which confirms the tunnel only to the one
    who owns it. -/
def rivalry : List Event :=
  toBoth .join ++ toBoth (.hear {}) ++ [.serve 1000 1, .serve 1001 1] ++
  toBoth .receive ++ toBoth (.hear {}) ++
  toBoth (.own {} (.activate Joint.plainDestination)) ++ [.serve 1000 2, .serve 1001 2] ++
  [.turn (.look 7)] ++ toBoth .receive ++ toBoth (.hear {}) ++
  [.serve 1000 8, .serve 1001 8] ++ toBoth .receive ++ toBoth (.hear {}) ++
  -- the other user gives the server up, and asks in vain for the end of a tunnel
  [.serve 1001 9]

theorem on_for_the_first_of_two_rivals :
    let h := (start (fun _ => {}) (fun _ => Joint.plainDevice) (fun _ => {}) {} {}).run
      Dummy.backend rivalry
    ((1000 : UInt32) ≠ superuser ∧ (h.clients 1000).Quiet ∧ (h.clients 1001).Quiet ∧
      (h.clients 1000).controller.phase = .on ∧
      (h.clients 1001).controller.phase = .disconnecting) ∧
    h.keeper.HeldBy 1000 ∧
      ∀ other, other ≠ superuser → (h.clients other).Quiet →
        (h.clients other).controller.phase = .on → other = 1000 := by
  have halone := on_for_the_owner_alone Dummy.backend (fun _ => {}) (fun _ => Joint.plainDevice)
    (fun _ => {}) {} {} rivalry 1000 (by decide)
  generalize hrun : (start (fun _ => {}) (fun _ => Joint.plainDevice) (fun _ => {}) {} {}).run
    Dummy.backend rivalry = h at halone ⊢
  have hready : (h.clients 1000).Quiet ∧ (h.clients 1001).Quiet ∧
      (h.clients 1000).controller.phase = .on ∧
      (h.clients 1001).controller.phase = .disconnecting := by
    rw [← hrun]
    decide +kernel
  exact ⟨⟨by decide, hready⟩, halone hready.1 hready.2.2.1⟩

end Hub

end TunnelSession
