/-
  TunnelSession.Proofs.Joint.Notices

  What the connection makes of the notices `connected` and `disconnected`, over
  machinery that does not fail. A notice does not tell which order it is about, so
  the connection may take one of an earlier order for that of the latest. How far
  this can go is settled here: a handshake is always one with the server that is
  asked for now, and each end of a tunnel that is taken for another one goes back
  to a wait that ended with its timer.
-/
import TunnelSession.Proofs.Joint.Agreement

namespace TunnelSession

open Controller (Input)
open Daemon (Access Backend Dummy Keeper Log)
open Daemon.Keeper (Outcome)

/-! ## What a reply shows -/

/-- What a reply shows of the tunnel that was asked for when it was said. -/
def Reply.Shows (up : Option TunnelConfig) : Reply → Prop
  | .connected key => up.map (·.serverKey) = some key
  | .status s => s.connected = true → up.isSome = true
  | .backendFailure => False
  | _ => True

namespace Daemon.Keeper.Outcome

variable {up up' : Option TunnelConfig} {r : Request} {said : List Reply}

/-- The end of a tunnel is told at most once, and only if it was asked for, or the
    tunnel that was asked for did not come up. -/
theorem count_disconnected_le (h : Outcome up r up' said) (hwant : up' = r.want up) :
    said.count .disconnected ≤ [r].count .deactivate := by
  cases h with
  | failed config => cases hwant
  | _ => simp

/-- The end of a tunnel that was up is told to the one who asks for it. -/
theorem disconnected_mem (h : Outcome up r up' said) (hr : r = .deactivate)
    (hup : up.isSome = true) : .disconnected ∈ said := by
  cases h with
  | failed | stopped | stoppedBadly => simp
  | ignored hnone =>
      rw [hnone] at hup
      cases hup
  | started | told | read | cleaned => cases hr

theorem shows (h : Outcome up r up' said) (hfailure : .backendFailure ∉ said) :
    ∀ q ∈ said, q.Shows up' := by
  intro q hq
  cases h with
  | started | ignored | cleaned => cases hq
  | failed | stopped | read =>
      rw [List.mem_singleton.mp hq]
      trivial
  | told s hs =>
      rw [List.mem_singleton.mp hq]
      exact hs
  | stoppedBadly => exact absurd (List.mem_cons_self ..) hfailure

end Daemon.Keeper.Outcome

namespace Joint

variable {β : Type} {b : Backend β} {fit : β → Prop} {user : UInt32} {j : Joint β}

/-! ## The account -/

/-- No order was sent after the first `n` requests. -/
def Fresh (j : Joint β) (n : Nat) : Prop := ∀ r ∈ j.controller.sent.drop n, r.isOrder = false

instance (j : Joint β) (n : Nat) : Decidable (j.Fresh n) :=
  inferInstanceAs (Decidable (∀ r ∈ j.controller.sent.drop n, r.isOrder = false))

/-- What holds of the two at any time, if the machinery does not fail. -/
structure Accounted (fit : β → Prop) (user : UInt32) (j : Joint β) : Prop where
  accord : j.Accord user
  orderly : j.controller.stance.Orderly
  machine : fit j.keeper.machine
  /-- The tunnel that is up is just the one that was asked for. -/
  config : j.keeper.config? = wanted (j.controller.sent.take j.taken)
  shown : ∀ n r, (n, r) ∈ j.replies →
    n ≤ j.taken ∧ r.Shows (wanted (j.controller.sent.take n))
  /-- Each end of a tunnel that is told or yet to be told is waited for, or its wait
      ended with its timer. -/
  balance : j.said.count .disconnected + j.requests.count .deactivate + j.strays ≤
    j.controller.stance.due + j.lapsed
  /-- The end of a tunnel that is waited for is still to come. -/
  coming : j.controller.awaited = .disconnection →
    (∃ r ∈ j.requests, r.isOrder = true) ∨ ∃ n, (n, .disconnected) ∈ j.replies ∧ j.Fresh n

/-- What new requests do to those on the link. -/
theorem requests_append {c : Controller} {new : List Request}
    (hn : j.taken ≤ j.controller.sent.length) (hnew : j.controller.sent ++ new = c.sent) :
    c.sent.drop j.taken = j.requests ++ new := by
  rw [← hnew, List.drop_append_of_le_length hn]
  rfl

theorem count_append_eq {c c' : Controller} {new : List Request} (hnew : c.sent ++ new = c'.sent) :
    c'.stance.sent.count .deactivate =
      c.stance.sent.count .deactivate + new.count .deactivate := by
  rw [Controller.stance_sent, Controller.stance_sent, ← hnew, List.count_append]

namespace Accounted

/-- What is asked for once, a first status cannot take over. -/
theorem awaitingFirst_of_shows (h : j.Accounted fit user) {n : Nat} {s : StatusReport}
    (hmem : (n, .status s) ∈ j.replies) (hs : s.connected = true) :
    j.controller.awaitingFirstStatus = false := by
  cases hf : j.controller.awaitingFirstStatus with
  | false => rfl
  | true =>
      have hsome : (wanted (j.controller.sent.take n)).isSome = true := (h.shown n _ hmem).2 hs
      have hquiet : ∀ r ∈ j.controller.sent, r.isOrder = false := (h.orderly.first hf).2
      rw [wanted_eq_none fun r hr => hquiet r (List.mem_of_mem_take hr)] at hsome
      cases hsome

/-- A move of the connection that begins no wait for the end of a tunnel leaves
    those that are yet to be told. -/
theorem coming_of_moves (h : j.Accounted fit user) {c : Controller} {i : Input}
    {new : List Request} (hmoves : Moves i j.controller.stance c.stance)
    (hnew : j.controller.sent ++ new = c.sent) (ha : c.awaited = .disconnection) :
    (∃ r ∈ j.requests ++ new, r.isOrder = true) ∨
      ∃ n, (n, .disconnected) ∈ j.replies ∧ ∀ r ∈ c.sent.drop n, r.isOrder = false := by
  rcases order_or_quiet new with ⟨r, hr, hr'⟩ | hquiet
  · exact .inl ⟨r, List.mem_append_right _ hr, hr'⟩
  · -- nothing new was asked for, so the wait is the old one
    have hold : j.controller.awaited = .disconnection := by
      cases hi : i.endsWait with
      | true => exact (hmoves.no_wait hi).2 ha
      | false =>
          have hcount : new.count .deactivate = 0 :=
            List.count_eq_zero.mpr (deactivate_not_mem hquiet)
          have hbalance := hmoves.balance h.accord.matched hi
          rw [Controller.stance_sent, Controller.stance_sent, ← hnew, List.count_append,
            hcount] at hbalance
          have hdue : c.stance.due = 1 := if_pos ha
          by_contra hne
          have hdue' : j.controller.stance.due = 0 := Stance.due_of_ne hne
          omega
    rcases h.coming hold with ⟨r, hr, hr'⟩ | ⟨n, hn, hfresh⟩
    · exact .inl ⟨r, List.mem_append_left _ hr, hr'⟩
    · refine .inr ⟨n, hn, fun r hr => ?_⟩
      have hle := Nat.le_trans (h.shown n _ hn).1 h.accord.within
      rw [← hnew, List.drop_append_of_le_length hle] at hr
      exact (List.mem_append.mp hr).elim (hfresh r) (hquiet r)

/-- The connection moves: what is left of the replies is as good as before, if the
    account is still balanced and no end of a tunnel that is waited for was lost. -/
theorem moved (h : j.Accounted fit user) {i : Input} {c : Controller}
    {replies : List (Nat × Reply)} {lapsed strays : Nat}
    (hmoves : Moves i j.controller.stance c.stance) (hready : i ≠ .link .ready)
    (hreply : ∀ r, i = .link (.message r) → ∃ n, (n, r) ∈ j.replies)
    (hsub : ∀ x ∈ replies, x ∈ j.replies)
    (hdisconnected : c.awaited = .disconnection →
      ∀ n, (n, .disconnected) ∈ j.replies → (n, .disconnected) ∈ replies)
    (hbalance : ∀ new, j.controller.sent ++ new = c.sent →
      (replies.map (·.2)).count .disconnected +
          (j.requests.count .deactivate + new.count .deactivate) + strays ≤
        c.stance.due + lapsed)
    (haccord : Accord user
      { j with controller := c, replies := replies, lapsed := lapsed, strays := strays }) :
    Accounted fit user
      { j with controller := c, replies := replies, lapsed := lapsed, strays := strays } := by
  obtain ⟨new, hnew⟩ := hmoves.sent_prefix
  have hrequests : c.sent.drop j.taken = j.requests ++ new :=
    requests_append h.accord.within hnew
  refine ⟨haccord, ?_, h.machine, ?_, fun n r hmem => ?_, ?_, fun ha => ?_⟩
  · refine hmoves.orderly h.accord.matched h.accord.aimed h.orderly hready ?_ ?_
    · -- no reply tells of machinery that failed
      intro hi
      obtain ⟨n, hmem⟩ := hreply _ hi
      exact (h.shown n _ hmem).2
    · intro r hi hr
      obtain ⟨n, hmem⟩ := hreply _ hi
      exact h.awaitingFirst_of_shows hmem hr
  · exact h.config.trans (congrArg wanted (take_sent h.accord.within hmoves.sent_prefix)).symm
  · obtain ⟨hle, hshows⟩ := h.shown n r (hsub _ hmem)
    refine ⟨hle, ?_⟩
    rw [take_sent (Nat.le_trans hle h.accord.within) hmoves.sent_prefix]
    exact hshows
  · have hcount : (c.sent.drop j.taken).count .deactivate =
        j.requests.count .deactivate + new.count .deactivate := by
      rw [hrequests, List.count_append]
    have hnewbalance := hbalance new hnew
    rw [← hcount] at hnewbalance
    exact hnewbalance
  · rcases h.coming_of_moves hmoves hnew ha with horder | ⟨n, hn, hfresh⟩
    · rw [← hrequests] at horder
      exact .inl horder
    · exact .inr ⟨n, hdisconnected ha n hn, hfresh⟩

/-- Where the connection moves on its own, a wait for the end of a tunnel ends only
    with its timer. -/
theorem balance_own (h : j.Accounted fit user) {i : Input} {c : Controller} {new : List Request}
    (hmoves : Moves i j.controller.stance c.stance) (hnew : j.controller.sent ++ new = c.sent) :
    j.said.count .disconnected + (j.requests.count .deactivate + new.count .deactivate) +
        j.strays ≤
      c.stance.due + (if i.endsWait = true ∧ j.controller.awaited = .disconnection ∧
        c.awaited ≠ .disconnection then j.lapsed + 1 else j.lapsed) := by
  have hold := h.balance
  have hcount := count_append_eq hnew
  cases hends : i.endsWait with
  | false =>
      have hstep := hmoves.balance h.accord.matched hends
      rw [if_neg fun hended => absurd hended.1 nofun]
      omega
  | true =>
      obtain ⟨hsame, hback⟩ := hmoves.no_wait hends
      by_cases ha' : c.awaited = .disconnection
      · -- the wait goes on
        rw [if_neg fun hended => hended.2.2 ha', Stance.due_of_eq ha']
        rw [Stance.due_of_eq (hback ha')] at hold
        omega
      · by_cases ha : j.controller.awaited = .disconnection
        · rw [if_pos ⟨rfl, ha, ha'⟩]
          rw [Stance.due_of_eq ha] at hold
          omega
        · rw [if_neg fun hended => ha hended.2.1]
          rw [Stance.due_of_ne ha] at hold
          omega

theorem own (h : j.Accounted fit user) (around : Surroundings) (i : Input) :
    (j.own around i).Accounted fit user := by
  have haccord := h.accord.own around i
  unfold Joint.own at haccord ⊢
  split at haccord
  · next hcomes =>
    rw [if_pos hcomes]
    have hi : i.isLink = false := isLink_of_comes hcomes
    have hmoves := Controller.handle_moves around h.accord.matched i
    refine h.moved hmoves ?_ ?_ (fun _ hx => hx) (fun _ _ hn => hn)
      (fun _ hnew => h.balance_own hmoves hnew) haccord
    · rintro rfl
      cases hi
    · rintro r rfl
      cases hi
  · next hcomes =>
    rw [if_neg hcomes]
    exact h

/-- The end of a tunnel that is heard of is waited for, or a stray. -/
theorem balance_hear (h : j.Accounted fit user) {n : Nat} {r : Reply}
    {rest : List (Nat × Reply)} (hreplies : j.replies = (n, r) :: rest) {c : Controller}
    {new : List Request}
    (hmoves : Moves (.link (.message r)) j.controller.stance c.stance)
    (hnew : j.controller.sent ++ new = c.sent) :
    (rest.map (·.2)).count .disconnected +
        (j.requests.count .deactivate + new.count .deactivate) +
        (if r = .disconnected ∧ j.controller.awaited ≠ .disconnection then j.strays + 1
          else j.strays) ≤
      c.stance.due + j.lapsed := by
  have hold := h.balance
  rw [said, hreplies, List.map_cons, List.count_cons] at hold
  have hcount := count_append_eq hnew
  by_cases hr : r = .disconnected
  · have hends : (Input.link (.message r)).endsWait = true := by rw [hr]; rfl
    obtain ⟨hsame, -⟩ := hmoves.no_wait hends
    rw [if_pos (beq_iff_eq.mpr hr)] at hold
    by_cases ha : j.controller.awaited = .disconnection
    · rw [if_neg fun hstray => hstray.2 ha]
      rw [Stance.due_of_eq ha] at hold
      omega
    · rw [if_pos ⟨hr, ha⟩]
      rw [Stance.due_of_ne ha] at hold
      omega
  · have hends : (Input.link (.message r)).endsWait = false := by
      cases r with
      | disconnected => exact absurd rfl hr
      | _ => rfl
    have hstep := hmoves.balance h.accord.matched hends
    rw [if_neg fun hstray => hr hstray.1]
    omega

theorem hear (h : j.Accounted fit user) (around : Surroundings) :
    (j.hear around).Accounted fit user := by
  have haccord := h.accord.hear around
  unfold Joint.hear at haccord ⊢
  split at haccord
  · exact h
  · next n r rest hreplies =>
    have hmoves := Controller.handle_moves around h.accord.matched (.link (.message r))
    refine h.moved hmoves nofun ?_ ?_ ?_ (fun _ hnew => h.balance_hear hreplies hmoves hnew)
      haccord
    · intro q hq
      cases hq
      exact ⟨n, hreplies ▸ List.mem_cons_self ..⟩
    · intro x hx
      exact hreplies ▸ List.mem_cons_of_mem _ hx
    · intro ha m hm
      rw [hreplies] at hm
      rcases List.mem_cons.mp hm with heq | hrest
      · -- the end that was waited for is heard of, so it is no longer waited for
        cases heq
        exact absurd ha (Controller.onDisconnected_awaited_ne h.accord.matched)
      · exact hrest

/-- The keeper says something, after it has taken some requests: it tells the end of
    no more tunnels than it took requests for, and tells that of the last one. -/
theorem say (h : j.Accounted fit user) {n : Nat} {answer : List Reply} {k : Keeper β}
    (hn : j.taken ≤ n) (hmachine : fit k.machine)
    (hconfig : k.config? = wanted (j.controller.sent.take n))
    (hshown : ∀ r ∈ answer ++ k.notices, r.Shows (wanted (j.controller.sent.take n)))
    (hcount : (answer ++ k.notices).count .disconnected +
      (j.controller.sent.drop n).count .deactivate ≤ j.requests.count .deactivate)
    (htold : j.controller.awaited = .disconnection → (∃ r ∈ j.requests, r.isOrder = true) →
      j.Fresh n → .disconnected ∈ answer ++ k.notices)
    (haccord : Accord user ({ j with taken := n }.say answer k)) :
    Accounted fit user ({ j with taken := n }.say answer k) := by
  have hsaid : ({ j with taken := n }.say answer k).said = j.said ++ (answer ++ k.notices) :=
    said_say _ _ _
  refine ⟨haccord, h.orderly, hmachine, hconfig, fun m r hmem => ?_, ?_, fun ha => ?_⟩
  · rcases List.mem_append.mp hmem with hold | hnew
    · exact ⟨Nat.le_trans (h.shown m r hold).1 hn, (h.shown m r hold).2⟩
    · obtain ⟨q, hq, heq⟩ := List.mem_map.mp hnew
      cases heq
      exact ⟨Nat.le_refl _, hshown r hq⟩
  · have hold := h.balance
    rw [hsaid, List.count_append]
    change j.said.count .disconnected + (answer ++ k.notices).count .disconnected +
      (j.controller.sent.drop n).count .deactivate + j.strays ≤
        j.controller.stance.due + j.lapsed
    omega
  · rcases order_or_quiet (j.controller.sent.drop n) with horder | hfresh
    · exact .inl horder
    · refine .inr ?_
      rcases h.coming ha with hrequested | ⟨m, hm, hfresh'⟩
      · refine ⟨n, List.mem_append_right _ (List.mem_map.mpr ⟨_, ?_, rfl⟩), hfresh⟩
        exact htold ha hrequested hfresh
      · exact ⟨m, List.mem_append_left _ hm, hfresh'⟩

theorem serve (hb : b.Steady fit) (h : j.Accounted fit user) (clock : Nat) :
    (j.serve b user clock).Accounted fit user := by
  have haccord := h.accord.serve (b := b) clock
  unfold Joint.serve at haccord ⊢
  split at haccord
  · exact h
  · next r hr =>
    have hvalid : ∀ config, r = .activate config → config.validate = .ok () := fun config hc =>
      h.accord.aimed.valid config (hc ▸ List.mem_of_getElem? hr)
    obtain ⟨-, news, hnotices, hout⟩ :=
      Keeper.request_outcome b clock h.accord.owned hvalid
    obtain ⟨hmachine, hwant, hfailure⟩ :=
      Keeper.request_steady hb clock h.machine h.accord.owned hvalid
    rw [h.accord.notices, List.nil_append] at hnotices
    rw [h.accord.notices] at hfailure
    rw [← hnotices] at hout
    have hconfig : (j.keeper.request b clock (some user) r).2.config? =
        wanted (j.controller.sent.take (j.taken + 1)) := by
      rw [hwant, h.config, take_succ_sent hr, wanted_concat]
    have hrequests := requests_cons hr
    refine h.say (Nat.le_succ _) hmachine hconfig ?_ ?_ ?_ haccord
    · -- what is said shows the tunnel that the request left
      rw [← hconfig]
      exact hout.shows fun hmem => absurd (hfailure hmem) List.not_mem_nil
    · -- the request leaves the link, and its answer enters it
      have hle := hout.count_disconnected_le hwant
      rw [hrequests, List.count_cons, ← List.count_singleton]
      omega
    · rintro ha ⟨q, hq, hqorder⟩ hfresh
      -- only the request that is taken can be an order, and it asks for no tunnel
      have hq' : q = r := by
        rw [hrequests] at hq
        rcases List.mem_cons.mp hq with heq | hrest
        · exact heq
        · exact absurd ((hfresh q hrest).symm.trans hqorder) nofun
      have hnone : wanted (j.controller.sent.take (j.taken + 1)) = none := by
        rw [← wanted_append_quiet hfresh, List.take_append_drop]
        exact h.orderly.down ha
      rw [take_succ_sent hr, wanted_concat] at hnone
      have hdeactivate : r = .deactivate := by
        rw [hq'] at hqorder
        cases r with
        | deactivate => rfl
        | activate => cases hnone
        | status | logs | cleanLogs => cases hqorder
      refine hout.disconnected_mem hdeactivate ?_
      rw [h.config]
      exact h.orderly.paired j.taken (hdeactivate ▸ hr)

theorem poll (hb : b.Steady fit) (h : j.Accounted fit user) (clock : Nat) :
    (j.poll b clock).Accounted fit user := by
  have haccord := h.accord.poll (b := b) clock
  unfold Joint.poll at haccord ⊢
  split at haccord
  · next hwaits =>
    rw [if_pos hwaits]
    obtain ⟨hconfig, -, hnotices, hmachine⟩ :=
      Keeper.checkHandshake_outcome (b := b) j.keeper clock
    rw [h.accord.notices] at hnotices
    refine h.say (Nat.le_refl _) ?_ (hconfig.trans h.config) ?_ ?_ ?_ haccord
    · rcases hmachine with heq | heq
      · rw [heq]
        exact h.machine
      · rw [heq]
        exact hb.status _ _ h.machine
    · intro r hr
      rcases hnotices with hnone | ⟨config, hup, hconnected⟩
      · rw [hnone] at hr
        cases hr
      · rw [hconnected] at hr
        rw [List.mem_singleton.mp hr, ← h.config, hup]
        rfl
    · rcases hnotices with hnone | ⟨config, -, hconnected⟩
      · rw [hnone]
        simp [requests]
      · rw [hconnected]
        simp [requests]
    · rintro - ⟨r, hr, hr'⟩ hfresh
      exact absurd ((hfresh r hr).symm.trans hr') nofun
  · next hwaits =>
    rw [if_neg hwaits]
    exact h

theorem act (hb : b.Steady fit) (h : j.Accounted fit user) (e : Event) :
    (j.act b user e).Accounted fit user := by
  cases e with
  | own around i => exact h.own around i
  | measured registry =>
      exact ⟨h.accord.act (b := b) (.measured registry), h.orderly, h.machine, h.config, h.shown,
        h.balance, h.coming⟩
  | hear around => exact h.hear around
  | serve clock => exact h.serve hb clock
  | poll clock => exact h.poll hb clock

/-- The end of a tunnel that is told after an older order is one more than what is
    waited for. -/
theorem fresh_or_strays_lt (h : j.Accounted fit user) {n : Nat} {rest : List (Nat × Reply)}
    (hreplies : j.replies = (n, .disconnected) :: rest) : j.Fresh n ∨ j.strays < j.lapsed := by
  have hold := h.balance
  have hsaid : j.said.count .disconnected = (rest.map (·.2)).count .disconnected + 1 := by
    rw [said, hreplies, List.map_cons, List.count_cons_self]
  by_cases ha : j.controller.awaited = .disconnection
  · rw [Stance.due_of_eq ha, hsaid] at hold
    rcases h.coming ha with horder | ⟨m, hm, hfresh⟩
    · -- the order that is waited for is still on the link
      have hdown : wanted (j.controller.sent.take j.taken ++ j.requests) = none := by
        rw [requests, List.take_append_drop]
        exact h.orderly.down ha
      have hpos := List.count_pos_iff.mpr (deactivate_mem_of_wanted_eq_none hdown horder)
      exact .inr (by omega)
    · rw [hreplies] at hm
      rcases List.mem_cons.mp hm with heq | hrest
      · cases heq
        exact .inl hfresh
      · -- the one that is waited for comes later, so this one is too many
        have hpos : 0 < (rest.map (·.2)).count .disconnected :=
          List.count_pos_iff.mpr (List.mem_map.mpr ⟨_, hrest, rfl⟩)
        exact .inr (by omega)
  · rw [Stance.due_of_ne ha, hsaid] at hold
    exact .inr (by omega)

end Accounted

theorem start_accounted {machine : β} (hfit : fit machine) (tuning : ControlTuning)
    (device : Device) (registry : Registry) (around : Surroundings) (access : Access)
    (log : Log) :
    (start tuning device registry around machine access log).Accounted fit user := by
  obtain ⟨hphase, hawaited, hquiet⟩ := Controller.initial_onReady tuning device registry around
  have hcount := List.count_eq_zero.mpr (deactivate_not_mem hquiet)
  refine ⟨start_accord tuning device registry around machine access log, ⟨?_, ?_, ?_, ?_⟩, hfit,
    rfl, nofun, ?_, fun ha => ?_⟩
  · exact fun _ => ⟨hphase, hquiet⟩
  · exact fun hon => absurd (hphase.symm.trans hon) nofun
  · exact fun hd => absurd (hawaited.symm.trans hd) nofun
  · exact fun n hn => absurd (List.mem_of_getElem? hn) (deactivate_not_mem hquiet)
  · change 0 + ((Controller.initial tuning device registry).onReady around).sent.count .deactivate
      + 0 ≤ _
    rw [hcount]
    exact Nat.zero_le _
  · exact absurd (hawaited.symm.trans ha) nofun

/-- Over machinery that does not fail, a notice changes the phase or what is waited
    for only in these cases. A handshake is one with the server that is asked for
    now, and was asked for when it was told. The end of a tunnel was told after the
    latest order, or else fewer of them have come unasked than waits have ended
    with their timer. -/
theorem notices_are_accounted_for (hb : b.Steady fit) {machine : β} (hfit : fit machine)
    (user : UInt32) (tuning : ControlTuning) (device : Device) (registry : Registry)
    (around : Surroundings) (access : Access) (log : Log) (events : List Event) :
    let j := (start tuning device registry around machine access log).run b user events
    ∀ now, (j.hear now).controller.phase ≠ j.controller.phase ∨
        (j.hear now).controller.awaited ≠ j.controller.awaited →
      (∀ n key, j.replies.head? = some (n, .connected key) →
        (wanted (j.controller.sent.take n)).map (·.serverKey) = some key ∧
          (wanted j.controller.sent).map (·.serverKey) = some key) ∧
      ∀ n, j.replies.head? = some (n, .disconnected) → j.Fresh n ∨ j.strays < j.lapsed := by
  intro j now hchanged
  have h : j.Accounted fit user :=
    run_keeps (P := Accounted fit user) (fun _ e h => h.act hb e)
      (start_accounted hfit tuning device registry around access log) events
  refine ⟨fun n key hhead => ?_, fun n hhead => ?_⟩
  · obtain ⟨rest, hreplies⟩ := List.head?_eq_some_iff.mp hhead
    have ha : j.controller.awaited = .handshake key := by
      by_contra ha
      have hsame : (j.hear now).controller = j.controller := by
        rw [Joint.hear, hreplies]
        exact if_neg ha
      rw [hsame] at hchanged
      exact hchanged.elim (absurd rfl) (absurd rfl)
    exact ⟨(h.shown n _ (List.mem_of_mem_head? hhead)).2, h.accord.aimed.attempt key (.inl ha)⟩
  · obtain ⟨rest, hreplies⟩ := List.head?_eq_some_iff.mp hhead
    exact h.fresh_or_strays_lt hreplies

/-- The handshake of the first tunnel is that of the server that is asked for, and
    its end, when it is told, answers the latest order. -/
theorem notices_of_first_tunnel :
    (let j := (start {} plainDevice {} {} {} {} {}).run Dummy.backend 1000 firstHandshake
     (j.replies.head? = some (2, .connected plainServer.publicKey) ∧
        (j.hear {}).controller.awaited ≠ j.controller.awaited) ∧
      (wanted (j.controller.sent.take 2)).map (·.serverKey) = some plainServer.publicKey ∧
        (wanted j.controller.sent).map (·.serverKey) = some plainServer.publicKey) ∧
    (let j := (start {} plainDevice {} {} {} {} {}).run Dummy.backend 1000 firstTunnelEnded
     (j.replies.head? = some (4, .disconnected) ∧
        (j.hear {}).controller.awaited ≠ j.controller.awaited) ∧
      (j.Fresh 4 ∨ j.strays < j.lapsed)) := by
  have hfit : Dummy.Fit {} := ⟨rfl, rfl⟩
  have hnotices := notices_are_accounted_for Dummy.steady hfit 1000 {} plainDevice {} {} {} {}
  refine ⟨?_, ?_⟩
  · have hrun := hnotices firstHandshake
    generalize hj : (start {} plainDevice {} {} {} {} {}).run Dummy.backend 1000 firstHandshake = j
      at hrun ⊢
    have hready : j.replies.head? = some (2, .connected plainServer.publicKey) ∧
        (j.hear {}).controller.awaited ≠ j.controller.awaited := by
      rw [← hj]
      decide +kernel
    exact ⟨hready, (hrun {} (.inr hready.2)).1 2 _ hready.1⟩
  · have hrun := hnotices firstTunnelEnded
    generalize hj : (start {} plainDevice {} {} {} {} {}).run Dummy.backend 1000
      firstTunnelEnded = j at hrun ⊢
    have hready : j.replies.head? = some (4, .disconnected) ∧
        (j.hear {}).controller.awaited ≠ j.controller.awaited := by
      rw [← hj]
      decide +kernel
    exact ⟨hready, (hrun {} (.inr hready.2)).2 4 hready.1⟩

/-- A late notice is taken for that of the latest order, though no start or stop
    fails. The end of the first tunnel, whose wait ended with its timer, ends the
    attempt for the next one; and the handshake of a tunnel is taken for that of the
    next one to the same server. -/
theorem notice_of_older_order_is_acted_on :
    (Dummy.backend.Steady Dummy.Fit ∧ Dummy.Fit {}) ∧
    (let j := (start {} plainDevice {} {} {} {} {}).run Dummy.backend 1000 (firstTunnelEnded ++
       [.own {} (.timer ⟨.disconnect, 4⟩), .own {} (.activate plainDestination)])
     j.replies.head? = some (4, .disconnected) ∧ ¬ j.Fresh 4 ∧
       j.controller.phase = .connecting ∧ (j.hear {}).controller.phase = .off) ∧
    (let j := (start {} plainDevice {} {} {} {} {}).run Dummy.backend 1000
       (firstHandshake ++ [.own {} (.changeServer plainDestination false)])
     j.replies.head? = some (2, .connected plainServer.publicKey) ∧ ¬ j.Fresh 2 ∧
       j.controller.awaited = .handshake plainServer.publicKey ∧
       (j.hear {}).controller.awaited = .confirmation plainServer.publicKey) := by
  refine ⟨⟨Dummy.steady, rfl, rfl⟩, ?_⟩
  decide +kernel

end Joint

end TunnelSession
