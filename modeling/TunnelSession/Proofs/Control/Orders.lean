/-
  TunnelSession.Proofs.Control.Orders

  The orders that the connection gives. Every move keeps what is waited for in line
  with the tunnel that the requests ask for: an attempt goes to the server that was
  asked for last, and a tunnel is taken down only where one was asked for.
-/
import TunnelSession.Proofs.Control.Runs

namespace TunnelSession

open Controller (Input)

/-! ## Orders and attempts -/

/-- A stance whose orders are sound: the tunnel that is asked for goes to the
    current server, and so does an attempt that is under way. -/
structure Stance.Aimed (s : Stance) : Prop where
  valid : ∀ config, .activate config ∈ s.sent → config.validate = .ok ()
  server : ∀ config, wanted s.sent = some config →
    ∃ server, s.server = some server ∧ config.serverKey = server.publicKey
  attempt : ∀ key, s.awaited = .handshake key ∨ s.awaited = .confirmation key →
    (wanted s.sent).map (·.serverKey) = some key

/-- A request that leaves the tunnel alone keeps the orders sound. -/
theorem Stance.Aimed.send {s : Stance} (h : s.Aimed) {r : Request} (hr : r.isOrder = false) :
    { s with sent := s.sent ++ [r] }.Aimed := by
  have hw : wanted (s.sent ++ [r]) = wanted s.sent := by
    rw [wanted_concat, want_of_not_isOrder hr]
  refine ⟨fun config hmem => ?_, ?_, ?_⟩
  · rcases List.mem_append.mp hmem with hold | hnew
    · exact h.valid config hold
    · rw [← List.mem_singleton.mp hnew] at hr
      cases hr
  · exact fun config hc => h.server config (hw ▸ hc)
  · exact fun key ha => (congrArg _ hw).trans (h.attempt key ha)

/-- Every move keeps the orders sound. -/
theorem Move.aimed {i : Input} {s s' : Stance} (h : Move i s s') (hs : s.Aimed) : s'.Aimed := by
  cases h with
  | ask r hr => exact hs.send hr
  | mark | plan | divert | learn | adopt => exact ⟨hs.valid, hs.server, hs.attempt⟩
  | rest | confirm => exact ⟨hs.valid, hs.server, fun _ ha => ha.elim (nomatch ·) (nomatch ·)⟩
  | launch p g server config hp hstep ha hg hkey hvalid =>
      -- the new order is the one that is asked for, whatever was before
      refine ⟨fun other hmem => ?_, fun other hother => ⟨server, rfl, ?_⟩, fun key hk => ?_⟩
      · rcases List.mem_append.mp hmem with hold | hnew
        · exact hs.valid other hold
        · cases List.mem_singleton.mp hnew
          exact hvalid
      · rw [wanted_concat] at hother
        cases hother
        exact hkey
      · rw [wanted_concat]
        rcases hk with hk | hk
        · cases hk
          exact congrArg some hkey
        · cases hk
  | shake key g hi ha =>
      have hask := hs.send (r := .status) rfl
      refine ⟨hask.valid, hask.server, fun other ho => ?_⟩
      rcases ho with ho | ho
      · cases ho
      · cases ho
        exact hask.attempt key (.inl ha)
  | takeDown p g next =>
      refine ⟨fun config hmem => ?_, fun config hc => ?_,
        fun _ ha => ha.elim (nomatch ·) (nomatch ·)⟩
      · rcases List.mem_append.mp hmem with hold | hnew
        · exact hs.valid config hold
        · cases List.mem_singleton.mp hnew
      · rw [wanted_concat] at hc
        cases hc

theorem Moves.aimed {i : Input} {s s' : Stance} (h : Moves i s s') (hs : s.Aimed) : s'.Aimed :=
  h.keeps (fun _ _ hmove => hmove.aimed) hs

/-- Requests that were sent stay sent. -/
theorem Move.sent_prefix {i : Input} {s s' : Stance} (h : Move i s s') : s.sent <+: s'.sent := by
  cases h with
  | ask | launch | shake | takeDown => exact List.prefix_append _ _
  | mark | plan | divert | learn | adopt | rest | confirm => exact List.prefix_rfl

theorem Moves.sent_prefix {i : Input} {s s' : Stance} (h : Moves i s s') : s.sent <+: s'.sent :=
  h.keeps (P := fun t => s.sent <+: t.sent) (fun _ _ hmove ih => ih.trans hmove.sent_prefix)
    List.prefix_rfl

/-- The tunnel comes up only when the daemon tells that it is. -/
theorem Move.status_of_on {i : Input} {s s' : Stance} (h : Move i s s') (hon : s'.phase = .on) :
    s.phase = .on ∨ ∃ r : StatusReport, i = .link (.message (.status r)) ∧ r.connected = true := by
  cases h with
  | ask | mark | plan => exact .inl hon
  | adopt r hi hr => exact .inr ⟨r, hi, hr⟩
  | confirm r key g hi hr => exact .inr ⟨r, hi, hr⟩
  | divert | learn => cases hon
  | rest p new g hp => rcases hp with rfl | rfl <;> cases hon
  | launch p g server config hp => rcases hp with rfl | rfl | rfl <;> cases hon
  | takeDown p g next hp => rcases hp with rfl | rfl <;> cases hon
  | shake key g =>
      by_cases hp : s.phase = .connecting
      · simp [hp] at hon
      · rw [Stance.enter, if_neg hp] at hon
        exact .inl hon

theorem Moves.status_of_on {i : Input} {s s' : Stance} (h : Moves i s s') (hon : s'.phase = .on) :
    s.phase = .on ∨ ∃ r : StatusReport, i = .link (.message (.status r)) ∧ r.connected = true := by
  induction h with
  | refl => exact .inl hon
  | tail _ hmove ih => exact (hmove.status_of_on hon).elim ih .inr

/-! ## Tunnels up, tunnels down -/

/-- A stance whose phase shows what was asked for last. -/
structure Stance.Orderly (s : Stance) : Prop where
  /-- Nothing is asked for before the first status. -/
  first : s.awaitingFirst = true → s.phase = .initializing ∧ ∀ r ∈ s.sent, r.isOrder = false
  up : s.phase = .on → (wanted s.sent).isSome = true
  down : s.awaited = .disconnection → wanted s.sent = none
  paired : Paired s.sent

namespace Stance.Orderly

variable {s : Stance}

/-- While a tunnel is up or on its way up, one is asked for. -/
theorem wanted_of_isActive (h : s.Orderly) (hm : s.Matched) (ha : s.Aimed)
    (hs : s.phase.isActive = true) : (wanted s.sent).isSome = true := by
  have hattempt : ∀ key, s.awaited = .handshake key ∨ s.awaited = .confirmation key →
      (wanted s.sent).isSome = true := fun key hk => by
    rw [← Option.isSome_map, ha.attempt key hk]
    rfl
  cases hw : s.awaited with
  | handshake key => exact hattempt key (.inl hw)
  | confirmation key => exact hattempt key (.inr hw)
  | disconnection => exact absurd hw (hm.awaited_ne_of_isActive hs)
  | nothing =>
      have hadm := hm.admits
      rw [hw] at hadm
      refine h.up ?_
      cases hp : s.phase <;> simp_all [Phase.admits, Phase.isActive]

/-- The first status is no longer waited for once the first phase is left. -/
theorem first_of_ne (h : s.Orderly) (hp : s.phase ≠ .initializing) {P : Prop}
    (hf : s.awaitingFirst = true) : P :=
  absurd (h.first hf).1 hp

end Stance.Orderly

/-- A move keeps the orders in line with the phase, unless the link is new, the
    machinery fails, or a tunnel is taken over that was never asked for. -/
theorem Move.orderly {i : Input} {s s' : Stance} (h : Move i s s') (hm : s.Matched)
    (ha : s.Aimed) (hs : s.Orderly) (hready : i ≠ .link .ready)
    (hfailure : i ≠ .link (.message .backendFailure))
    (hadopt : ∀ r, i = .link (.message (.status r)) → r.connected = true →
      s.awaitingFirst = false) : s'.Orderly := by
  cases h with
  | ask r hr =>
      have hw : wanted (s.sent ++ [r]) = wanted s.sent := by
        rw [wanted_concat, want_of_not_isOrder hr]
      refine ⟨fun hf => ⟨(hs.first hf).1, fun q hq => ?_⟩, fun hp => hw ▸ hs.up hp,
        fun hd => hw ▸ hs.down hd, hs.paired.concat fun heq => ?_⟩
      · rcases List.mem_append.mp hq with hold | hnew
        · exact (hs.first hf).2 q hold
        · rw [List.mem_singleton.mp hnew]
          exact hr
      · rw [heq] at hr
        cases hr
  | mark first hi => exact ⟨fun hf => absurd (hi hf) hready, hs.up, hs.down, hs.paired⟩
  | plan => exact ⟨hs.first, hs.up, hs.down, hs.paired⟩
  | divert hd hp => exact ⟨hs.first_of_ne (by simp [hp]), nofun, hs.down, hs.paired⟩
  | learn hi hf hp => exact ⟨fun h => absurd (h.symm.trans hf) nofun, nofun, hs.down, hs.paired⟩
  | adopt r hi hr hf => exact absurd (hf.symm.trans (hadopt r hi hr)) nofun
  | rest p new g hp hnew hg hw hi =>
      refine ⟨fun hf => absurd (hi (hs.first hf).1) hfailure, fun hon => ?_, nofun, hs.paired⟩
      have hon' : p = .on := hon
      rcases hp with rfl | rfl <;> cases hon'
  | launch p g server config hp hstep hd =>
      refine ⟨fun hf => ?_, fun _ => ?_, nofun, hs.paired.concat nofun⟩
      · -- no arrow leads from the first phase to an attempt
        have hinit := (hs.first hf).1
        rw [hinit] at hstep
        rcases hp with rfl | rfl | rfl <;> exact absurd (hstep nofun) nofun
      · rw [wanted_concat]
        rfl
  | shake key g hi hk =>
      have hinit : s.phase ≠ .initializing := hm.phase_ne_initializing (by simp [hk])
      refine ⟨hs.first_of_ne hinit, fun _ => ?_, nofun, hs.paired.concat nofun⟩
      rw [wanted_concat]
      exact hs.wanted_of_isActive hm ha (hm.isActive_of_handshake hk)
  | confirm r key g hi hr hk =>
      have hinit : s.phase ≠ .initializing := hm.phase_ne_initializing (by simp [hk])
      exact ⟨hs.first_of_ne hinit,
        fun _ => hs.wanted_of_isActive hm ha (hm.isActive_of_confirmation hk), nofun, hs.paired⟩
  | takeDown p g next hp hactive =>
      have hinit : s.phase ≠ .initializing := by
        intro h
        rw [h] at hactive
        cases hactive
      refine ⟨hs.first_of_ne hinit, fun hon => ?_, fun _ => wanted_concat _ _,
        hs.paired.concat fun _ => hs.wanted_of_isActive hm ha hactive⟩
      have hon' : p = .on := hon
      rcases hp with rfl | rfl <;> cases hon'

/-- The first status is waited for only from the moment when the link is new. -/
theorem Move.first_of_first {i : Input} {s s' : Stance} (h : Move i s s')
    (hready : i ≠ .link .ready) (hf : s'.awaitingFirst = true) : s.awaitingFirst = true := by
  cases h with
  | mark first hi => exact absurd (hi hf) hready
  | adopt => cases hf
  | _ => exact hf

theorem Moves.orderly {i : Input} {s s' : Stance} (h : Moves i s s') (hm : s.Matched)
    (ha : s.Aimed) (hs : s.Orderly) (hready : i ≠ .link .ready)
    (hfailure : i ≠ .link (.message .backendFailure))
    (hadopt : ∀ r, i = .link (.message (.status r)) → r.connected = true →
      s.awaitingFirst = false) : s'.Orderly := by
  -- what the move asks of a stance has to be carried along the moves
  suffices hall : s'.Matched ∧ s'.Aimed ∧ s'.Orderly ∧
      (s'.awaitingFirst = true → s.awaitingFirst = true) from hall.2.2.1
  refine h.keeps (P := fun t => t.Matched ∧ t.Aimed ∧ t.Orderly ∧
    (t.awaitingFirst = true → s.awaitingFirst = true)) ?_ ⟨hm, ha, hs, id⟩
  rintro t t' hmove ⟨hm, ha, ht, hback⟩
  refine ⟨hmove.matched hm, hmove.aimed ha, hmove.orderly hm ha ht hready hfailure ?_,
    fun hf => hback (hmove.first_of_first hready hf)⟩
  intro r hi hr
  have hfirst := hadopt r hi hr
  cases ht' : t.awaitingFirst with
  | false => rfl
  | true => exact absurd ((hback ht').symm.trans hfirst) nofun

/-! ## Waits for the end of a tunnel -/

/-- How many times the end of a tunnel is waited for: once or not at all. -/
def Stance.due (s : Stance) : Nat := if s.awaited = .disconnection then 1 else 0

theorem Stance.due_of_eq {s : Stance} (h : s.awaited = .disconnection) : s.due = 1 := if_pos h

theorem Stance.due_of_ne {s : Stance} (h : s.awaited ≠ .disconnection) : s.due = 0 := if_neg h

/-- A wait for the end of a tunnel begins with each request for it, and ends
    only with an input that can end it. -/
theorem Move.balance {i : Input} {s s' : Stance} (h : Move i s s') (hm : s.Matched)
    (hi : i.endsWait = false) :
    s'.sent.count .deactivate + s.due = s.sent.count .deactivate + s'.due := by
  cases h with
  | ask r hr =>
      have hne : r ≠ .deactivate := by
        rintro rfl
        cases hr
      simp [Stance.due, List.count_append, hne]
  | mark | plan | divert | learn | adopt => rfl
  | rest p new g hp hnew hg hw =>
      have hne : s.awaited ≠ .disconnection := fun h => absurd ((hw h).symm.trans hi) nofun
      rw [Stance.due_of_ne hne]
      rfl
  | launch p g server config hp hstep hne =>
      rw [Stance.due_of_ne hne]
      simp [Stance.due, List.count_append]
  | shake key g hlink ha =>
      rw [Stance.due_of_ne (by simp [ha])]
      simp [Stance.due, List.count_append]
  | confirm r key g hlink hr ha =>
      rw [Stance.due_of_ne (by simp [ha])]
      rfl
  | takeDown p g next hp hs =>
      rw [Stance.due_of_ne (hm.awaited_ne_of_isActive hs)]
      simp [Stance.due, List.count_append]

theorem Moves.balance {i : Input} {s s' : Stance} (h : Moves i s s') (hm : s.Matched)
    (hi : i.endsWait = false) :
    s'.sent.count .deactivate + s.due = s.sent.count .deactivate + s'.due := by
  refine (h.keeps (P := fun t => t.Matched ∧
    t.sent.count .deactivate + s.due = s.sent.count .deactivate + t.due) ?_ ⟨hm, rfl⟩).2
  rintro t t' hmove ⟨hm, ht⟩
  have hstep := hmove.balance hm hi
  exact ⟨hmove.matched hm, by omega⟩

/-- An input that can end the wait begins no other one. -/
theorem Move.no_wait {i : Input} {s s' : Stance} (h : Move i s s') (hi : i.endsWait = true) :
    s'.sent.count .deactivate = s.sent.count .deactivate ∧
      (s'.awaited = .disconnection → s.awaited = .disconnection) := by
  cases h with
  | ask r hr =>
      have hne : r ≠ .deactivate := by
        rintro rfl
        cases hr
      exact ⟨by simp [List.count_append, hne], id⟩
  | mark | plan | divert | learn | adopt => exact ⟨rfl, id⟩
  | rest | confirm => exact ⟨rfl, nofun⟩
  | launch | shake => exact ⟨by simp [List.count_append], nofun⟩
  | takeDown p g next hp hs hstep hno => exact absurd (hno.symm.trans hi) nofun

theorem Moves.no_wait {i : Input} {s s' : Stance} (h : Moves i s s') (hi : i.endsWait = true) :
    s'.sent.count .deactivate = s.sent.count .deactivate ∧
      (s'.awaited = .disconnection → s.awaited = .disconnection) := by
  refine h.keeps (P := fun t => t.sent.count .deactivate = s.sent.count .deactivate ∧
    (t.awaited = .disconnection → s.awaited = .disconnection)) ?_ ⟨rfl, id⟩
  rintro t t' hmove ⟨hcount, hback⟩
  obtain ⟨hcount', hback'⟩ := hmove.no_wait hi
  exact ⟨hcount'.trans hcount, fun h => hback (hback' h)⟩

namespace Controller

variable {c : Controller} {around : Surroundings}

/-- A new link changes nothing but that a first status is asked for. -/
theorem initial_onReady (tuning : ControlTuning) (device : Device) (registry : Registry)
    (around : Surroundings) :
    let c := (initial tuning device registry).onReady around
    c.phase = .initializing ∧ c.awaited = .nothing ∧ ∀ r ∈ c.sent, r.isOrder = false := by
  intro c
  refine ⟨?_, ?_, ?_⟩ <;> unfold c onReady <;> split
  · rfl
  · rfl
  · rfl
  · rfl
  · rintro r hr
    rw [List.mem_singleton.mp hr]
    rfl
  · exact nofun

/-- What ends a wait leaves no wait for the end of a tunnel behind. -/
theorem Ends.awaited_ne {i : Input} {s₀ s : Stance} (h : Ends i s₀ s) (hi : i.endsWait = true) :
    s.awaited ≠ .disconnection := by
  obtain ⟨s₁, -, hnothing, -, hlater⟩ := h
  intro ha
  rw [(hlater.no_wait hi).2 ha] at hnothing
  cases hnothing

/-- The news that the tunnel is down ends every wait for it. -/
theorem onDisconnected_awaited_ne (h : c.stance.Matched) :
    (c.onDisconnected around).awaited ≠ .disconnection := by
  by_cases ha : c.awaited = .disconnection
  · have hends : Ends (.link (.message .disconnected)) c.stance
        (c.completeDisconnect around).stance :=
      completeDisconnect_ends (.refl _) (fun _ => rfl)
        fun hp => absurd hp (h.phase_ne_initializing (by simp [ha]))
    rw [onDisconnected, ha]
    exact hends.awaited_ne rfl
  · exact fun ha' => ha (((onDisconnected_moves h).no_wait rfl).2 ha')

end Controller

end TunnelSession
