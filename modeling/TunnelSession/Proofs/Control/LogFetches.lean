/-
  TunnelSession.Proofs.Control.LogFetches

  The fetches of the daemon's log. A log that the daemon tells names no fetch, so it must
  be the oldest one without an answer that it is given to, and a fetch must leave the
  queue just once. Of all inputs only three touch the queue: a fetch that was sent joins
  it at the end, a log takes its head away, and the loss of the link empties it. What is
  left of the connection for them is a desk with a queue and the answers that went out.

  A fetch that cannot be sent never joins the queue. It is answered at once, while older
  ones may still wait, so that only the fetches that were sent have their turn.
-/
import TunnelSession.Proofs.Control.Switches

namespace TunnelSession

open Controller (Input Happening)

/-! ## The desk -/

/-- The answer to a fetch that an effect gives. -/
@[simp] def Effect.answer? : Effect → Option (Nat × String)
  | giveLogs ticket text => some (ticket, text)
  | _ => none

/-- The fetches that wait, the oldest first, and the answers that were given, the latest
    last. -/
structure LogDesk where
  waiting : List Nat
  answers : List (Nat × String)

namespace LogDesk

/-- Answers the fetches in a row with an empty text. -/
def giveUp (desk : LogDesk) (tickets : List Nat) : LogDesk :=
  { desk with answers := desk.answers ++ tickets.map (·, "") }

/-- A fetch joins the queue if its request was sent, and is answered at once if not. -/
def fetch (desk : LogDesk) (around : Surroundings) (ticket : Nat) : LogDesk :=
  match around.accepts .logs with
  | .ok () => { desk with waiting := desk.waiting ++ [ticket] }
  | .error _ => desk.giveUp [ticket]

/-- A log is the answer to the fetch that waits longest. -/
def hear (desk : LogDesk) (text : String) : LogDesk :=
  match desk.waiting with
  | ticket :: rest => ⟨rest, desk.answers ++ [(ticket, text)]⟩
  | [] => desk

/-- No fetch waits beyond the loss of the link. -/
def close (desk : LogDesk) : LogDesk :=
  { desk.giveUp desk.waiting with waiting := [] }

/-- What an input does to the desk. -/
def take (desk : LogDesk) (around : Surroundings) : Input → LogDesk
  | .fetchLogs ticket => desk.fetch around ticket
  | .link (.message (.logs text)) => desk.hear text
  | .link .lost => desk.close
  | _ => desk

/-- What a happening does to the desk. -/
def meet (desk : LogDesk) : Happening → LogDesk
  | .input around i => desk.take around i
  | .measured _ => desk

end LogDesk

namespace Controller

/-- The desk of the connection. -/
def desk (c : Controller) : LogDesk := ⟨c.logFetches, c.outbox.filterMap Effect.answer?⟩

/-- The desk is the given one. -/
def AtDesk (desk : LogDesk) (c : Controller) : Prop := c.desk = desk

variable {c : Controller} {desk : LogDesk} {around : Surroundings} {i : Input}

namespace AtDesk

/-! ## Small moves -/

theorem perform (h : AtDesk desk c) (e : Effect) (he : e.answer? = none) :
    AtDesk desk (c.perform e) := by
  have hout : (c.outbox ++ [e]).filterMap Effect.answer? = c.outbox.filterMap Effect.answer? := by
    rw [List.filterMap_append, List.filterMap_cons_none he, List.filterMap_nil, List.append_nil]
  show LogDesk.mk c.logFetches ((c.outbox ++ [e]).filterMap Effect.answer?) = desk
  rw [hout]
  exact h

theorem emit (h : AtDesk desk c) (e : SessionEvent) : AtDesk desk (c.emit e) :=
  h.perform (.emit e) rfl

theorem arm (h : AtDesk desk c) (kind : TimerKind) (delay : Nat) :
    AtDesk desk (c.arm kind delay) :=
  h.perform (.arm ⟨kind, c.generation⟩ delay) rfl

theorem enter (h : AtDesk desk c) (p : Phase) : AtDesk desk (c.enter p) := by
  unfold Controller.enter
  split
  · exact h
  · exact emit (c := { c with phase := p }) h (.phaseChanged p)

theorem emitStability (h : AtDesk desk c) (s : Option Stability) :
    AtDesk desk (c.emitStability s) := by
  cases s with
  | none => exact h
  | some s => exact h.emit (.stabilityChanged s)

theorem stopHealth (h : AtDesk desk c) : AtDesk desk (c.stopHealth around) :=
  emitStability (c := { c with health := (c.health.stop around.now).2 }) h _

theorem startHealth (h : AtDesk desk c) (target : Option Net.Address) :
    AtDesk desk (c.startHealth around target) := by
  cases target <;> exact h

theorem finish (h : AtDesk desk c) : AtDesk desk c.finish :=
  emit (c := { c with finished := true }) h .readyToQuit

theorem finishOff (h : AtDesk desk c) : AtDesk desk (c.finishOff around) := by
  have hidle : AtDesk desk { c.cancelTimers with awaited := .nothing } := h
  unfold Controller.finishOff
  apply enter
  exact hidle.stopHealth

/-! ## Bringing a tunnel up -/

theorem startActivation (h : AtDesk desk c) (d : Destination) (during : Phase) :
    AtDesk desk (c.startActivation around d during).2 := by
  have haimed : AtDesk desk { c with destination := some d } := h
  have hcancelled : AtDesk desk c.cancelTimers := h
  unfold Controller.startActivation
  split
  · exact haimed.finishOff.emit _
  · split
    · exact h.finishOff
    · dsimp only
      split
      · exact hcancelled.finishOff.emit _
      · apply arm
        apply enter
        exact hcancelled.perform (.send _) rfl

theorem reconnect (h : AtDesk desk c) : AtDesk desk (c.reconnect around) := by
  unfold Controller.reconnect
  split
  · exact h.finishOff
  · exact h.startActivation _ .connecting

theorem activate (h : AtDesk desk c) (d : Destination) :
    AtDesk desk (c.activate around d).2 := by
  unfold Controller.activate
  split
  · split
    · exact emit (c := { c with portalSeen := false }) h .blockedByPortal
    · exact h.startActivation d .connecting
  · exact h
  · exact h
  · exact h

theorem activateHeld (h : AtDesk desk c) : AtDesk desk (c.activateHeld around) := by
  unfold Controller.activateHeld
  split
  · exact activate (c := { c with held := none }) h _
  · exact h

/-! ## Taking a tunnel down -/

theorem completeDisconnect (h : AtDesk desk c) : AtDesk desk (c.completeDisconnect around) := by
  have hidle : AtDesk desk { c.cancelTimers with awaited := .nothing } := h
  have hdown : AtDesk desk { ({ c.cancelTimers with awaited := .nothing } : Controller).stopHealth
      around with connectedSince := none, nextStep := .nothing } := hidle.stopHealth
  unfold Controller.completeDisconnect
  dsimp only
  split
  · exact (hdown.enter .off).finish
  · exact (hdown.enter .off).emit _
  · split
    · split
      · exact hdown
      · exact hdown.reconnect
    · exact (hdown.enter .off).activateHeld

theorem beginDisconnect (h : AtDesk desk c) (during : Phase) :
    AtDesk desk (c.beginDisconnect around during) := by
  have hcancelled : AtDesk desk c.cancelTimers := h
  have hentered : AtDesk desk ((c.cancelTimers.stopHealth around).enter during) :=
    hcancelled.stopHealth.enter during
  unfold Controller.beginDisconnect
  dsimp only
  split
  · apply arm
    exact hentered.perform (.send .deactivate) rfl
  · exact hentered.completeDisconnect

theorem giveUpServer (h : AtDesk desk c) (key : String) :
    AtDesk desk (c.giveUpServer around key) := by
  have hcooled : AtDesk desk (c.coolDown around key) := h
  exact (hcooled.emit (.handshakeFailed key)).beginDisconnect .disconnecting

theorem giveUpCity (h : AtDesk desk c) : AtDesk desk (c.giveUpCity around) :=
  beginDisconnect (c := { c with nextStep := .serverUnavailable }) h .disconnecting

/-! ## Requests of the user -/

theorem deactivate (h : AtDesk desk c) : AtDesk desk (c.deactivate around).2 := by
  have hlet : AtDesk desk { c with held := none } := h
  unfold Controller.deactivate
  dsimp only
  split
  · exact hlet
  · exact hlet
  · exact hlet
  · split
    · exact hlet.enter .disconnecting
    · exact hlet.finishOff
  · exact hlet.beginDisconnect .disconnecting

theorem changeServer (h : AtDesk desk c) (d : Destination) (silent : Bool) :
    AtDesk desk (c.changeServer around d silent).2 := by
  unfold Controller.changeServer
  split
  · exact h
  · exact h
  · exact h
  · split <;> exact h
  · exact h.stopHealth.startActivation d _

theorem silentSwitch (h : AtDesk desk c) : AtDesk desk (c.silentSwitch around).2 := by
  unfold Controller.silentSwitch
  split
  · next d s _ _ _ =>
    have hcooled : AtDesk desk (c.coolDown around s.publicKey) := h
    split
    · exact h
    · dsimp only
      split
      · exact hcooled.giveUpCity
      · exact hcooled.changeServer d true
  · exact h

theorem quit (h : AtDesk desk c) : AtDesk desk (c.quit around) := by
  have hlet : AtDesk desk { c with held := none } := h
  have hplanned : AtDesk desk { c with held := none, nextStep := .quit } := h
  unfold Controller.quit
  dsimp only
  split
  · exact hlet.finish
  · exact hlet.finish
  · exact hplanned
  · split
    · exact hplanned
    · exact hlet.finishOff.finish
  · exact hplanned.beginDisconnect .disconnecting

theorem portal (h : AtDesk desk c) (present : Bool) :
    AtDesk desk (c.handle around (.portal present)) := by
  have hseen : AtDesk desk { c with portalSeen := present } := h
  cases present with
  | true =>
      show AtDesk desk (c.portalDetected around)
      unfold Controller.portalDetected
      split
      · exact hseen.beginDisconnect .captivePortal
      · exact hseen
      · exact h
  | false =>
      show AtDesk desk (c.portalGone around)
      unfold Controller.portalGone
      dsimp only
      split
      · exact hseen.reconnect
      · exact hseen

theorem trySend (h : AtDesk desk c) (r : Request) : AtDesk desk (c.trySend around r) := by
  unfold Controller.trySend
  split
  · exact h.perform (.send r) rfl
  · exact h

theorem requestStatus (h : AtDesk desk c) : AtDesk desk (c.requestStatus around) := by
  unfold Controller.requestStatus
  split
  · exact h.trySend .status
  · exact h

/-! ## The link to the daemon -/

theorem onReady (h : AtDesk desk c) : AtDesk desk (c.onReady around) := by
  unfold Controller.onReady
  split
  · exact h.perform (.send .status) rfl
  · exact h

theorem heard (h : AtDesk desk c) (key : String) : AtDesk desk (c.heard key) := by
  have hshaken : AtDesk desk { c.cancelTimers with awaited := .confirmation key } := h
  unfold Controller.heard
  dsimp only
  split
  · exact hshaken.enter .confirming
  · exact hshaken

theorem onConnected (h : AtDesk desk c) (key : String) :
    AtDesk desk (c.onConnected around key) := by
  by_cases ha : c.awaited = .handshake key
  · rw [onConnected_eq ha]
    split
    · exact ((h.heard key).perform (.send .status) rfl).arm .confirm _
    · exact (h.heard key).finishOff.emit _
  · rw [Controller.onConnected, if_neg ha]
    exact h

theorem onDisconnected (h : AtDesk desk c) : AtDesk desk (c.onDisconnected around) := by
  unfold Controller.onDisconnected
  split
  · exact h.completeDisconnect
  · exact h.finishOff
  · exact h.finishOff
  · split
    · exact h
    · exact h
    · exact h
    · exact h.finishOff

theorem settled (h : AtDesk desk c) (s : StatusReport) : AtDesk desk (c.settled around s) := by
  have hsince : AtDesk desk { c with connectedSince := some s.date.toNat } := h
  unfold Controller.settled
  split
  · apply enter
    exact hsince.startHealth _
  · split
    · exact h.enter .off
    · exact h

theorem onFirstStatus (h : AtDesk desk c) (s : StatusReport) :
    AtDesk desk (c.onFirstStatus around s) := by
  have hsettled : AtDesk desk (c.settled around s) := h.settled s
  have hlet : AtDesk desk { c.settled around s with held := none } := hsettled
  rw [onFirstStatus_eq]
  split
  · exact hsettled
  · split
    · exact hlet.activate _
    · exact hlet.changeServer _ false
    · exact hlet

theorem onStatus (h : AtDesk desk c) (s : StatusReport) : AtDesk desk (c.onStatus around s) := by
  unfold Controller.onStatus
  split
  · exact onFirstStatus (c := { c with awaitingFirstStatus := false }) h s
  · split
    · split
      · unfold Controller.confirm
        dsimp only
        apply enter
        exact startHealth
          (c := { c.cancelTimers with awaited := .nothing, connectedSince := _ }) h _
      · exact h.giveUpServer _
    · exact h.emit _

theorem onBackendFailure (h : AtDesk desk c) : AtDesk desk (c.onBackendFailure around) := by
  unfold Controller.onBackendFailure
  split
  · exact h.emit _
  · exact h.finishOff.emit _

/-! ## Timers and probes -/

theorem onTimer (h : AtDesk desk c) (token : TimerToken) :
    AtDesk desk (c.onTimer around token) := by
  unfold Controller.onTimer
  split
  · split
    · exact h.giveUpServer _
    · exact h.giveUpServer _
    · exact h.completeDisconnect
    · exact h
  · exact h

theorem probeTick (h : AtDesk desk c) : AtDesk desk (c.probeTick around) := by
  unfold Controller.probeTick
  split
  · split
    · next target sequence health _ =>
      split
      · exact perform (c := { c with health := health }) h (.probe target sequence) rfl
      · exact h
    · exact h
  · exact h

theorem onProbeReply (h : AtDesk desk c) (r : ProbeReply) : AtDesk desk (c.onProbeReply r) := by
  unfold Controller.onProbeReply
  split
  · split <;> exact h
  · exact h

theorem checkup (h : AtDesk desk c) : AtDesk desk (c.checkup around) := by
  have hlook : AtDesk desk (c.checked around) :=
    emitStability (c := { c with health := (c.health.checkup around.now).2 }) h _
  rw [checkup_eq]
  split
  · exact hlook.silentSwitch
  · exact hlook

end AtDesk

/-! ## The inputs that touch the desk -/

/-- Answers go out in the order in which they are given. -/
theorem desk_perform (c : Controller) (ticket : Nat) (text : String) :
    (c.perform (.giveLogs ticket text)).desk =
      { c.desk with answers := c.desk.answers ++ [(ticket, text)] } := by
  show LogDesk.mk c.logFetches ((c.outbox ++ [_]).filterMap Effect.answer?) = _
  rw [List.filterMap_append]
  rfl

theorem desk_fetchLogs (ticket : Nat) :
    (c.fetchLogs around ticket).desk = c.desk.fetch around ticket := by
  unfold fetchLogs LogDesk.fetch
  cases around.accepts .logs with
  | ok u =>
      have hsent : AtDesk c.desk (c.perform (.send .logs)) := AtDesk.perform rfl _ rfl
      exact congrArg (fun desk : LogDesk => { desk with waiting := c.logFetches ++ [ticket] }) hsent
  | error e => exact desk_perform c ticket ""

theorem desk_onLogs (text : String) : (c.onLogs text).desk = c.desk.hear text := by
  unfold onLogs LogDesk.hear
  cases hqueue : c.logFetches with
  | nil =>
      have hwaiting : c.desk.waiting = [] := hqueue
      rw [hwaiting]
  | cons ticket rest =>
      have hwaiting : c.desk.waiting = ticket :: rest := hqueue
      rw [hwaiting]
      exact desk_perform { c with logFetches := rest } ticket text

theorem desk_dropLogFetches : c.dropLogFetches.desk = c.desk.close := by
  -- along the queue, with the connection generalised: each answer goes out after the last
  have hall : ∀ (tickets : List Nat) (c : Controller),
      (tickets.foldl (fun c ticket => c.perform (.giveLogs ticket "")) c).desk =
        c.desk.giveUp tickets := by
    intro tickets
    induction tickets with
    | nil =>
        intro c
        show c.desk = { c.desk with answers := c.desk.answers ++ [] }
        rw [List.append_nil]
    | cons ticket tickets ih =>
        intro c
        rw [List.foldl_cons, ih, desk_perform]
        simp [LogDesk.giveUp]
  exact hall c.logFetches { c with logFetches := [] }

/-- Whatever else the loss of the link leads to, the queue is empty after it. -/
theorem desk_onLost : (c.onLost around).desk = c.desk.close := by
  -- the queue is emptied first, and what the loss leads to is no fetch and no log
  have hcut : AtDesk c.desk.close c.cutOff := desk_dropLogFetches
  show AtDesk c.desk.close (c.onLost around)
  unfold Controller.onLost
  rw [← cutOff]
  generalize c.cutOff = cut at hcut
  dsimp only
  split
  · split
    · exact AtDesk.emit (c := { cut.enter .off with held := none }) (hcut.enter .off) _
    · exact hcut.enter .off
  · exact hcut
  · split
    · exact hcut.completeDisconnect
    · exact hcut.finishOff.emit _

/-- An input does to the connection's desk what it does to a desk. -/
theorem desk_handle (c : Controller) (around : Surroundings) (i : Input) :
    (c.handle around i).desk = c.desk.take around i := by
  have hdesk : AtDesk c.desk c := rfl
  cases i with
  | fetchLogs ticket => exact desk_fetchLogs ticket
  | link event =>
      cases event with
      | lost => exact desk_onLost
      | ready => exact hdesk.onReady
      | message reply =>
          cases reply with
          | logs text => exact desk_onLogs text
          | connected key => exact hdesk.onConnected key
          | disconnected => exact hdesk.onDisconnected
          | status s => exact hdesk.onStatus s
          | backendFailure => exact hdesk.onBackendFailure
  | activate d => exact hdesk.activate d
  | deactivate => exact hdesk.deactivate
  | changeServer d silent => exact hdesk.changeServer d silent
  | silentSwitch => exact hdesk.silentSwitch
  | quit => exact hdesk.quit
  | portal present => exact hdesk.portal present
  | cleanLogs => exact hdesk.trySend .cleanLogs
  | requestStatus => exact hdesk.requestStatus
  | timer token => exact hdesk.onTimer token
  | probeTick => exact hdesk.probeTick
  | probeReply r => exact hdesk.onProbeReply r
  | checkup => exact hdesk.checkup

theorem desk_meet (c : Controller) (x : Happening) : (c.meet x).desk = c.desk.meet x := by
  cases x with
  | input around i => exact desk_handle c around i
  | measured registry => rfl

/-- Nothing else touches the desk. -/
theorem desk_meet_of_other {x : Happening}
    (hfetch : ∀ around ticket, x ≠ .input around (.fetchLogs ticket))
    (hlogs : ∀ around text, x ≠ .input around (.link (.message (.logs text))))
    (hlost : ∀ around, x ≠ .input around (.link .lost)) : (c.meet x).desk = c.desk := by
  rw [desk_meet]
  cases x with
  | measured registry => rfl
  | input around i =>
      show c.desk.take around i = c.desk
      unfold LogDesk.take
      split
      · exact absurd rfl (hfetch around _)
      · exact absurd rfl (hlogs around _)
      · exact absurd rfl (hlost around)
      · rfl

/-- A log that no fetch waits for changes nothing at all. -/
theorem handle_logs_of_nil (hqueue : c.logFetches = []) (text : String) :
    c.handle around (.link (.message (.logs text))) = c := by
  show c.onLogs text = c
  rw [onLogs, hqueue]

/-! ## The calls of a run -/

namespace Happening

/-- The fetch that an input asks for. -/
def fetch? : Happening → Option Nat
  | input _ (.fetchLogs ticket) => some ticket
  | _ => none

/-- The fetch whose request is sent. -/
def sentFetch? : Happening → Option Nat
  | input around (.fetchLogs ticket) =>
    match around.accepts .logs with
    | .ok () => some ticket
    | .error _ => none
  | _ => none

/-- The fetch whose request cannot be sent. -/
def refusedFetch? : Happening → Option Nat
  | input around (.fetchLogs ticket) =>
    match around.accepts .logs with
    | .ok () => none
    | .error _ => some ticket
  | _ => none

/-- A fetch is sent or refused. -/
theorem sent_or_refused (x : Happening) :
    x.fetch? = x.sentFetch? ∧ x.refusedFetch? = none ∨
      x.fetch? = x.refusedFetch? ∧ x.sentFetch? = none := by
  unfold fetch? sentFetch? refusedFetch?
  split
  · next around ticket => cases around.accepts .logs <;> simp
  · exact .inl ⟨rfl, rfl⟩

theorem not_sent_or_refused {x : Happening} (h : x.fetch? = none) :
    x.sentFetch? = none ∧ x.refusedFetch? = none := by
  rcases x.sent_or_refused with ⟨hsent, hnone⟩ | ⟨hrefused, hnone⟩
  · exact ⟨hsent.symm.trans h, hnone⟩
  · exact ⟨hnone, hrefused.symm.trans h⟩

theorem fetches_perm (happenings : List Happening) :
    (happenings.filterMap fetch?).Perm
      (happenings.filterMap sentFetch? ++ happenings.filterMap refusedFetch?) := by
  induction happenings with
  | nil => exact .refl _
  | cons x happenings ih =>
      rcases x.sent_or_refused with ⟨hsent, hnone⟩ | ⟨hrefused, hnone⟩
      · rw [List.filterMap_cons, List.filterMap_cons (f := sentFetch?),
          List.filterMap_cons_none hnone, hsent]
        cases x.sentFetch? with
        | none => exact ih
        | some ticket => exact ih.cons ticket
      · rw [List.filterMap_cons, List.filterMap_cons (f := refusedFetch?),
          List.filterMap_cons_none hnone, hrefused]
        cases x.refusedFetch? with
        | none => exact ih
        | some ticket => exact (ih.cons ticket).trans List.perm_middle.symm

end Happening

end Controller

/-- What the answers and the queue of a desk come to after a run: some answers were served
    to the fetches that were sent, in the order of these, and the others wait, in the same
    order; all other answers went to the fetches that could not be sent. -/
structure LogDesk.Accounts (desk : LogDesk) (happenings : List Happening)
    (served : List (Nat × String)) : Prop where
  turns : served.map Prod.fst ++ desk.waiting = happenings.filterMap Happening.sentFetch?
  inOrder : served.Sublist desk.answers
  complete : desk.answers.Perm
    (served ++ (happenings.filterMap Happening.refusedFetch?).map (·, ""))

namespace LogDesk.Accounts

theorem map_fst_refusals (tickets : List Nat) :
    (tickets.map (·, "")).map Prod.fst = tickets := by
  rw [List.map_map]
  exact List.map_id tickets

variable {desk : LogDesk} {happenings : List Happening} {served : List (Nat × String)}

/-- More answers may be served to those who wait longest. -/
theorem serve (h : desk.Accounts happenings served) (more : List (Nat × String)) {rest : List Nat}
    (hwaiting : desk.waiting = more.map Prod.fst ++ rest) :
    LogDesk.Accounts ⟨rest, desk.answers ++ more⟩ happenings (served ++ more) where
  turns := by
    rw [← h.turns, hwaiting, List.map_append, List.append_assoc]
  inOrder := h.inOrder.append (.refl more)
  complete := by
    generalize hrefused : (happenings.filterMap Happening.refusedFetch?).map (·, "") = refused
    have hall : desk.answers.Perm (served ++ refused) := hrefused ▸ h.complete
    -- the refusals may come after all that was served
    calc List.Perm (desk.answers ++ more) (served ++ refused ++ more) := hall.append_right more
      List.Perm _ (served ++ more ++ refused) := by
        rw [List.append_assoc, List.append_assoc]
        exact List.perm_append_comm.append_left served

/-- What an input does that asks for no fetch, with the calls as they were. -/
theorem concat {x : Happening} (h : desk.Accounts happenings served) (hsent : x.sentFetch? = none)
    (hrefused : x.refusedFetch? = none) : desk.Accounts (happenings ++ [x]) served where
  turns := by
    rw [List.filterMap_append, List.filterMap_cons_none hsent, List.filterMap_nil, List.append_nil]
    exact h.turns
  inOrder := h.inOrder
  complete := by
    rw [List.filterMap_append, List.filterMap_cons_none hrefused, List.filterMap_nil,
      List.append_nil]
    exact h.complete

theorem fetch (h : desk.Accounts happenings served) (around : Surroundings) (ticket : Nat) :
    (desk.fetch around ticket).Accounts (happenings ++ [.input around (.fetchLogs ticket)])
      served := by
  unfold LogDesk.fetch
  cases haccepts : around.accepts .logs with
  | ok u =>
      have hsent : Happening.sentFetch? (.input around (.fetchLogs ticket)) = some ticket := by
        rw [Happening.sentFetch?, haccepts]
      have hrefused : Happening.refusedFetch? (.input around (.fetchLogs ticket)) = none := by
        rw [Happening.refusedFetch?, haccepts]
      constructor
      · rw [List.filterMap_append, List.filterMap_cons_some hsent, ← h.turns, List.append_assoc]
        rfl
      · exact h.inOrder
      · rw [List.filterMap_append, List.filterMap_cons_none hrefused, List.filterMap_nil,
          List.append_nil]
        exact h.complete
  | error e =>
      have hsent : Happening.sentFetch? (.input around (.fetchLogs ticket)) = none := by
        rw [Happening.sentFetch?, haccepts]
      have hrefused : Happening.refusedFetch? (.input around (.fetchLogs ticket)) =
          some ticket := by
        rw [Happening.refusedFetch?, haccepts]
      constructor
      · rw [List.filterMap_append, List.filterMap_cons_none hsent, List.filterMap_nil,
          List.append_nil]
        exact h.turns
      · exact h.inOrder.trans (List.sublist_append_left _ _)
      · rw [List.filterMap_append, List.filterMap_cons_some hrefused, List.filterMap_nil,
          List.map_append, ← List.append_assoc]
        exact h.complete.append_right [(ticket, "")]

/-- One happening serves those who wait longest, if it serves any. -/
theorem meet (h : desk.Accounts happenings served) (x : Happening) :
    ∃ served', (desk.meet x).Accounts (happenings ++ [x]) served' := by
  cases x with
  | measured registry => exact ⟨served, h.concat rfl rfl⟩
  | input around i =>
      show ∃ served', (desk.take around i).Accounts _ served'
      unfold LogDesk.take
      split
      · next ticket => exact ⟨served, h.fetch around ticket⟩
      · next text =>
        unfold LogDesk.hear
        split
        · next ticket rest hwaiting =>
          exact ⟨_, (h.serve [(ticket, text)] hwaiting).concat rfl rfl⟩
        · exact ⟨served, h.concat rfl rfl⟩
      · have hwaiting : desk.waiting = (desk.waiting.map (·, "")).map Prod.fst ++ [] := by
          rw [map_fst_refusals, List.append_nil]
        exact ⟨_, (h.serve _ hwaiting).concat rfl rfl⟩
      · next hfetch _ _ =>
        have hnone : Happening.fetch? (.input around i) = none := by
          cases i with
          | fetchLogs ticket => exact absurd rfl (hfetch ticket)
          | _ => rfl
        obtain ⟨hsent, hrefused⟩ := Happening.not_sent_or_refused hnone
        exact ⟨served, h.concat hsent hrefused⟩

/-- With the calls told apart by their tickets, each has one answer or waits for one. -/
theorem count_eq (h : desk.Accounts happenings served) (ticket : Nat) :
    (desk.answers.map Prod.fst).count ticket + desk.waiting.count ticket =
      (happenings.filterMap Happening.fetch?).count ticket := by
  have hanswers := h.complete.map Prod.fst
  rw [List.map_append, map_fst_refusals] at hanswers
  -- a call was sent or refused, and one that was sent is served or waits
  rw [(Happening.fetches_perm happenings).count_eq, hanswers.count_eq, ← h.turns,
    List.count_append, List.count_append, List.count_append]
  omega

end LogDesk.Accounts

namespace Controller

theorem run_accounts (tuning : ControlTuning) (device : Device) (registry : Registry)
    (happenings : List Happening) :
    ∃ served,
      ((initial tuning device registry).run happenings).desk.Accounts happenings served := by
  induction happenings using List.reverseRecOn with
  | nil => exact ⟨[], rfl, .refl _, .refl _⟩
  | append_singleton happenings x ih =>
      obtain ⟨served, h⟩ := ih
      -- the last happening is met with the desk that the others left
      have hlast : ((initial tuning device registry).run (happenings ++ [x])).desk =
          ((initial tuning device registry).run happenings).desk.meet x := by
        rw [run_append]
        exact desk_meet _ x
      rw [hlast]
      exact h.meet x

/-- **Log fetches have their turn.** On every run each fetch has had its answer or waits
    for it, just once. Those that were sent are answered in the order in which they were
    asked for, and wait in this order; those that could not be sent are answered in
    between, with an empty text. At any moment a log is the answer to the fetch that waits
    longest, and to nobody if none waits; a fetch that cannot be sent is answered at once;
    the loss of the link answers all that wait, and leaves none; nothing else gives an
    answer or touches the queue. -/
theorem log_fetches_have_their_turn (tuning : ControlTuning) (device : Device)
    (registry : Registry) (happenings : List Happening) :
    let c := (initial tuning device registry).run happenings
    (∃ served, c.desk.Accounts happenings served) ∧
      (∀ ticket, (c.desk.answers.map Prod.fst).count ticket + c.desk.waiting.count ticket =
        (happenings.filterMap Happening.fetch?).count ticket) ∧
      (∀ around ticket, around.accepts .logs = .ok () →
        (c.handle around (.fetchLogs ticket)).desk =
          ⟨c.desk.waiting ++ [ticket], c.desk.answers⟩) ∧
      (∀ around ticket e, around.accepts .logs = .error e →
        (c.handle around (.fetchLogs ticket)).desk =
          ⟨c.desk.waiting, c.desk.answers ++ [(ticket, "")]⟩) ∧
      (∀ around text ticket rest, c.desk.waiting = ticket :: rest →
        (c.handle around (.link (.message (.logs text)))).desk =
          ⟨rest, c.desk.answers ++ [(ticket, text)]⟩) ∧
      (∀ around text, c.desk.waiting = [] →
        c.handle around (.link (.message (.logs text))) = c) ∧
      (∀ around, (c.handle around (.link .lost)).desk =
        ⟨[], c.desk.answers ++ c.desk.waiting.map (·, "")⟩) ∧
      ∀ x : Happening, (∀ around ticket, x ≠ .input around (.fetchLogs ticket)) →
        (∀ around text, x ≠ .input around (.link (.message (.logs text)))) →
        (∀ around, x ≠ .input around (.link .lost)) → (c.meet x).desk = c.desk := by
  intro c
  obtain ⟨served, haccounts⟩ := run_accounts tuning device registry happenings
  refine ⟨⟨served, haccounts⟩, haccounts.count_eq, ?_, ?_, ?_, ?_, ?_, ?_⟩
  · intro around ticket haccepts
    rw [desk_handle, LogDesk.take, LogDesk.fetch, haccepts]
  · intro around ticket e hrefuses
    rw [desk_handle, LogDesk.take, LogDesk.fetch, hrefuses]
    rfl
  · intro around text ticket rest hwaiting
    rw [desk_handle, LogDesk.take, LogDesk.hear, hwaiting]
  · intro around text hwaiting
    exact handle_logs_of_nil hwaiting text
  · intro around
    rw [desk_handle]
    rfl
  · intro x hfetch hlogs hlost
    exact desk_meet_of_other hfetch hlogs hlost

/-- The link refuses the second fetch while the first one waits, so that the second has
    its answer before the first. -/
theorem refused_fetch_is_answered_first :
    let happenings : List Happening := [.input {} (.fetchLogs 0),
      .input { accepts := fun _ => .error .notConnected } (.fetchLogs 1),
      .input {} (.link (.message (.logs "daemon started")))]
    let c := (initial {} sampleDevice {}).run happenings
    happenings.filterMap Happening.fetch? = [0, 1] ∧
      c.desk.answers = [(1, ""), (0, "daemon started")] ∧
      ¬ (c.desk.answers.map Prod.fst).Sublist (happenings.filterMap Happening.fetch?) := by
  decide +kernel

end Controller

end TunnelSession
