/-
  TunnelSession.Proofs.Control.Aimless

  A connection that was never told where to go. It has no destination and holds none, and
  only an input that names one changes this: without a destination there is none to come
  back to and none to switch within. One lemma for each function says that it gives the
  connection no aim.
-/
import TunnelSession.Proofs.Control.Bearing

namespace TunnelSession

open Controller (Input)

/-- The inputs that name a destination. -/
@[simp] def Controller.Input.namesDestination : Input → Bool
  | .activate _ | .changeServer _ _ => true
  | _ => false

namespace Controller

variable {c c' : Controller} {around : Surroundings} {i : Input}

/-- There is nowhere to go, now or later. -/
def Aimless (c : Controller) : Prop := c.destination = none ∧ c.held = none

theorem initial_aimless (tuning : ControlTuning) (device : Device) (registry : Registry) :
    (initial tuning device registry).Aimless :=
  ⟨rfl, rfl⟩

namespace Aimless

/-- What is waited for is no aim. -/
theorem of_bearing {a : Awaited} (h : c.Aimless) (hb : c'.bearing = { c.bearing with awaited := a }) :
    c'.Aimless :=
  ⟨(congrArg Bearing.destination hb).trans h.1, (congrArg Bearing.held hb).trans h.2⟩

theorem letGo (h : c.Aimless) : Aimless { c with held := none } := ⟨h.1, rfl⟩

theorem enter (h : c.Aimless) (p : Phase) : (c.enter p).Aimless :=
  h.of_bearing (bearing_enter c p)

theorem finish (h : c.Aimless) : c.finish.Aimless :=
  h.of_bearing (bearing_finish c)

theorem finishOff (h : c.Aimless) : (c.finishOff around).Aimless :=
  h.of_bearing (bearing_finishOff c around)

/-! ## Taking a tunnel down -/

/-- There is no destination to come back to. -/
theorem reconnect (h : c.Aimless) : (c.reconnect around).Aimless := by
  unfold Controller.reconnect
  rw [h.1]
  exact h.finishOff

theorem activateHeld (h : c.Aimless) : (c.activateHeld around).Aimless := by
  unfold Controller.activateHeld
  rw [h.2]
  exact h

theorem completeDisconnect (h : c.Aimless) : (c.completeDisconnect around).Aimless := by
  have hdown : Aimless { ({ c.cancelTimers with awaited := .nothing } : Controller).stopHealth
      around with connectedSince := none, nextStep := .nothing } :=
    h.of_bearing (a := .nothing) (bearing_stopHealth _ around)
  unfold Controller.completeDisconnect
  dsimp only
  split
  · exact (hdown.enter .off).finish
  · exact hdown.enter .off
  · split
    · split
      · exact hdown
      · exact hdown.reconnect
    · exact (hdown.enter .off).activateHeld

theorem beginDisconnect (h : c.Aimless) (during : Phase) :
    (c.beginDisconnect around during).Aimless := by
  have hstopped : (c.cancelTimers.stopHealth around).Aimless :=
    h.of_bearing (bearing_stopHealth c.cancelTimers around)
  have hentered := hstopped.enter during
  unfold Controller.beginDisconnect
  dsimp only
  split
  · exact hentered
  · exact hentered.completeDisconnect

theorem giveUpServer (h : c.Aimless) (key : String) : (c.giveUpServer around key).Aimless :=
  beginDisconnect (c := (c.coolDown around key).emit (.handshakeFailed key)) h .disconnecting

/-! ## Requests of the user -/

theorem deactivate (h : c.Aimless) : (c.deactivate around).2.Aimless := by
  have hlet := h.letGo
  unfold Controller.deactivate
  dsimp only
  split
  · exact hlet
  · exact hlet
  · exact hlet
  · split
    · exact hlet.enter .disconnecting
    · exact hlet.finishOff
  · exact hlet.beginDisconnect .disconnecting

/-- There is no city to switch within. -/
theorem silentSwitch (h : c.Aimless) : (c.silentSwitch around).2.Aimless := by
  unfold Controller.silentSwitch
  split
  · next d old _ hd _ => exact absurd (hd.symm.trans h.1) nofun
  · exact h

theorem quit (h : c.Aimless) : (c.quit around).Aimless := by
  have hlet := h.letGo
  unfold Controller.quit
  dsimp only
  split
  · exact hlet.finish
  · exact hlet.finish
  · exact hlet
  · split
    · exact hlet
    · exact hlet.finishOff.finish
  · exact beginDisconnect (c := { c with held := none, nextStep := .quit }) hlet .disconnecting

theorem portalDetected (h : c.Aimless) : (c.portalDetected around).Aimless := by
  unfold Controller.portalDetected
  split
  · exact beginDisconnect (c := { c with portalSeen := true }) h .captivePortal
  · exact h
  · exact h

theorem portalGone (h : c.Aimless) : (c.portalGone around).Aimless := by
  unfold Controller.portalGone
  dsimp only
  split
  · exact reconnect (c := { c with portalSeen := false }) h
  · exact h

theorem fetchLogs (h : c.Aimless) (ticket : Nat) : (c.fetchLogs around ticket).Aimless := by
  unfold Controller.fetchLogs
  split <;> exact h

theorem trySend (h : c.Aimless) (r : Request) : (c.trySend around r).Aimless := by
  unfold Controller.trySend
  split <;> exact h

theorem requestStatus (h : c.Aimless) : (c.requestStatus around).Aimless := by
  unfold Controller.requestStatus
  split
  · exact h.trySend .status
  · exact h

/-! ## The link to the daemon -/

theorem onReady (h : c.Aimless) : (c.onReady around).Aimless := by
  unfold Controller.onReady
  split <;> exact h

theorem onLost (h : c.Aimless) : (c.onLost around).Aimless := by
  have hcut : c.cutOff.Aimless := h.of_bearing (bearing_cutOff c)
  unfold Controller.onLost
  rw [← cutOff]
  generalize c.cutOff = cut at hcut
  dsimp only
  split
  · split
    · exact (hcut.enter .off).letGo
    · exact hcut.enter .off
  · exact hcut
  · split
    · exact hcut.completeDisconnect
    · exact hcut.finishOff

theorem heard (h : c.Aimless) (key : String) : (c.heard key).Aimless := by
  have hheard : Aimless { c.cancelTimers with awaited := .confirmation key } := h
  unfold Controller.heard
  dsimp only
  split
  · exact hheard.enter .confirming
  · exact hheard

theorem onConnected (h : c.Aimless) (key : String) : (c.onConnected around key).Aimless := by
  by_cases ha : c.awaited = .handshake key
  · rw [onConnected_eq ha]
    split
    · exact h.heard key
    · exact (h.heard key).finishOff
  · rw [Controller.onConnected, if_neg ha]
    exact h

theorem onDisconnected (h : c.Aimless) : (c.onDisconnected around).Aimless := by
  unfold Controller.onDisconnected
  split
  · exact h.completeDisconnect
  · exact h.finishOff
  · exact h.finishOff
  · split
    · exact h
    · exact h
    · exact h
    · exact h.finishOff

/-- A tunnel that is taken over brings no destination with it. -/
theorem onFirstStatus (h : c.Aimless) (s : StatusReport) : (c.onFirstStatus around s).Aimless := by
  have hsettled : (c.settled around s).Aimless := h.of_bearing (bearing_settled c around s)
  rw [onFirstStatus_eq, hsettled.2]
  exact hsettled

theorem onStatus (h : c.Aimless) (s : StatusReport) : (c.onStatus around s).Aimless := by
  unfold Controller.onStatus
  split
  · exact onFirstStatus (c := { c with awaitingFirstStatus := false }) h s
  · split
    · split
      · unfold Controller.confirm
        dsimp only
        apply enter
        exact h.of_bearing (a := .nothing) (bearing_startHealth _ around _)
      · exact h.giveUpServer _
    · exact h

theorem onLogs (h : c.Aimless) (text : String) : (c.onLogs text).Aimless := by
  unfold Controller.onLogs
  split <;> exact h

theorem onBackendFailure (h : c.Aimless) : (c.onBackendFailure around).Aimless := by
  unfold Controller.onBackendFailure
  split
  · exact h
  · exact h.finishOff

theorem onLink (h : c.Aimless) (e : LinkEvent) : (c.onLink around e).Aimless := by
  unfold Controller.onLink
  split
  · exact h.onReady
  · exact h.onLost
  · exact h.onConnected _
  · exact h.onDisconnected
  · exact h.onStatus _
  · exact h.onLogs _
  · exact h.onBackendFailure

/-! ## Timers and probes -/

theorem onTimer (h : c.Aimless) (token : TimerToken) : (c.onTimer around token).Aimless := by
  unfold Controller.onTimer
  split
  · split
    · exact h.giveUpServer _
    · exact h.giveUpServer _
    · exact h.completeDisconnect
    · exact h
  · exact h

theorem probeTick (h : c.Aimless) : (c.probeTick around).Aimless := by
  unfold Controller.probeTick
  split
  · split
    · split <;> exact h
    · exact h
  · exact h

theorem onProbeReply (h : c.Aimless) (r : ProbeReply) : (c.onProbeReply r).Aimless := by
  unfold Controller.onProbeReply
  split
  · split <;> exact h
  · exact h

theorem checkup (h : c.Aimless) : (c.checkup around).Aimless := by
  have hlook : (c.checked around).Aimless :=
    h.of_bearing (bearing_emitStability { c with health := (c.health.checkup around.now).2 } _)
  rw [checkup_eq]
  split
  · exact hlook.silentSwitch
  · exact hlook

end Aimless

/-- Only an input that names a destination gives the connection one. -/
theorem Aimless.handle (h : c.Aimless) (hi : i.namesDestination = false) :
    (c.handle around i).Aimless := by
  cases i with
  | activate d => cases hi
  | changeServer d silent => cases hi
  | deactivate => exact h.deactivate
  | silentSwitch => exact h.silentSwitch
  | quit => exact h.quit
  | portal present =>
      cases present with
      | true => exact h.portalDetected
      | false => exact h.portalGone
  | fetchLogs ticket => exact h.fetchLogs ticket
  | cleanLogs => exact h.trySend .cleanLogs
  | requestStatus => exact h.requestStatus
  | link e => exact h.onLink e
  | timer token => exact h.onTimer token
  | probeTick => exact h.probeTick
  | probeReply r => exact h.onProbeReply r
  | checkup => exact h.checkup

end Controller

end TunnelSession
