/-
  TunnelSession.Proofs.Daemon.Calls

  What the keeper asks of its machinery. Any machinery can be made to remember what it
  was asked for and what came of it. The keeper does the same over machinery that
  remembers, so that what holds of its calls there holds of every keeper.
-/
import TunnelSession.Proofs.Daemon.Turns

namespace TunnelSession.Daemon

/-- A call of the machinery, with its result. -/
inductive Call
  | start (config : TunnelConfig) (result : Except BackendError Unit)
  | stop (result : Except BackendError Unit)
  | status (clock : Nat) (result : Except BackendError (Option PeerStatus))
  deriving DecidableEq

/-- The call is to bring a tunnel up or down, whether it succeeds or not. -/
def Call.isMove : Call → Bool
  | .start .. | .stop _ => true
  | .status .. => false

/-- The machinery, with all its calls, the latest last. -/
def Backend.recorded {β : Type} (b : Backend β) : Backend (β × List Call) where
  name := b.name
  start m config :=
    let started := b.start m.1 config
    (started.1, started.2, m.2 ++ [.start config started.1])
  stop m :=
    let stopped := b.stop m.1
    (stopped.1, stopped.2, m.2 ++ [.stop stopped.1])
  status m clock :=
    let seen := b.status m.1 clock
    (seen.1, seen.2, m.2 ++ [.status clock seen.1])
  logged m := b.logged m.1

namespace Keeper

variable {β : Type} {b : Backend β} {k : Keeper (β × List Call)}

/-- The calls that the keeper has made. -/
def calls (k : Keeper (β × List Call)) : List Call := k.machine.2

/-- The keeper over machinery that does not remember. -/
def forget (k : Keeper (β × List Call)) : Keeper β := { k with machine := k.machine.1 }

theorem tunnel_forget (k : Keeper (β × List Call)) : k.forget.tunnel = k.tunnel := rfl

theorem isActive_forget (k : Keeper (β × List Call)) : k.forget.isActive = k.isActive := rfl

theorem note_forget (k : Keeper (β × List Call)) (r : LogRecord) :
    k.forget.note r = (k.note r).forget := rfl

theorem authorize_forget (k : Keeper (β × List Call)) (user : Option UInt32) (kind : String) :
    k.forget.authorize user kind =
      ((k.authorize user kind).1, (k.authorize user kind).2.forget) := rfl

/-! ## Nothing depends on the record -/

theorem takeDown_forget (b : Backend β) (k : Keeper (β × List Call)) (cause : String)
    (level : LogLevel) (failed : String) :
    k.forget.takeDown b cause level failed =
      ((k.takeDown b.recorded cause level failed).1,
        (k.takeDown b.recorded cause level failed).2.forget) := by
  obtain ⟨⟨m, calls⟩, access, log, tunnel, notices⟩ := k
  unfold takeDown
  cases tunnel with
  | none => rfl
  | some t =>
      dsimp only [forget, call, note, Backend.recorded]
      rcases b.stop m with ⟨_ | _, m⟩ <;> rfl

theorem makeWay_forget (b : Backend β) (k : Keeper (β × List Call)) :
    k.forget.makeWay b = (k.makeWay b.recorded).forget := by
  unfold makeWay
  rw [tunnel_forget]
  cases k.tunnel with
  | none => rfl
  | some old => exact congrArg Prod.snd (takeDown_forget b k _ _ _)

theorem reject_forget (k : Keeper (β × List Call)) (reason : String) :
    k.forget.reject reason = (k.reject reason).forget := by
  obtain ⟨⟨m, calls⟩, access, log, tunnel, notices⟩ := k
  cases tunnel <;> rfl

theorem bringUp_forget (b : Backend β) (k : Keeper (β × List Call)) (clock : Nat)
    (config : TunnelConfig) :
    k.forget.bringUp b clock config = (k.bringUp b.recorded clock config).forget := by
  obtain ⟨⟨m, calls⟩, access, log, tunnel, notices⟩ := k
  unfold bringUp
  dsimp only [forget, call, note, Backend.recorded]
  rcases b.start m config with ⟨_ | _, m⟩ <;> rfl

theorem activate_forget (b : Backend β) (k : Keeper (β × List Call)) (clock : Nat)
    (config : TunnelConfig) :
    k.forget.activate b clock config = (k.activate b.recorded clock config).forget := by
  unfold activate
  split
  · exact reject_forget k _
  · rw [makeWay_forget]
    exact bringUp_forget b _ clock config

theorem deactivate_forget (b : Backend β) (k : Keeper (β × List Call)) :
    k.forget.deactivate b = (k.deactivate b.recorded).forget := by
  have hnoted : (if k.isActive then k.forget
      else k.forget.note (record .debug "Deactivate requested with no tunnel up")) =
      (if k.isActive then k
        else k.note (record .debug "Deactivate requested with no tunnel up")).forget := by
    split <;> rfl
  unfold deactivate
  rw [isActive_forget, hnoted]
  dsimp only
  rw [takeDown_forget]
  generalize Keeper.takeDown b.recorded _ _ _ _ = down
  obtain ⟨_ | _, k⟩ := down <;> rfl

theorem peer?_forget (b : Backend β) (k : Keeper (β × List Call)) (clock : Nat)
    (t : ActiveTunnel) (level : LogLevel) (failed : String) :
    k.forget.peer? b clock t level failed =
      ((k.peer? b.recorded clock t level failed).1,
        (k.peer? b.recorded clock t level failed).2.forget) := by
  obtain ⟨⟨m, calls⟩, access, log, tunnel, notices⟩ := k
  unfold peer?
  dsimp only [forget, call, Backend.recorded]
  rcases b.status m clock with ⟨_ | _ | _, m⟩ <;> rfl

theorem status_forget (b : Backend β) (k : Keeper (β × List Call)) (clock : Nat) :
    k.forget.status b clock =
      ((k.status b.recorded clock).1, (k.status b.recorded clock).2.forget) := by
  unfold status
  rw [tunnel_forget]
  cases k.tunnel with
  | none => rfl
  | some t =>
      dsimp only
      rw [peer?_forget]
      rcases k.peer? b.recorded clock t _ _ with ⟨_ | p, k'⟩ <;> rfl

theorem checkHandshake_forget (b : Backend β) (k : Keeper (β × List Call)) (clock : Nat) :
    k.forget.checkHandshake b clock = (k.checkHandshake b.recorded clock).forget := by
  unfold checkHandshake
  rw [tunnel_forget]
  cases k.tunnel with
  | none => rfl
  | some t =>
      dsimp only
      rw [note_forget, peer?_forget]
      generalize Keeper.peer? b.recorded _ clock t _ _ = seen
      obtain ⟨_ | p, k'⟩ := seen
      · rfl
      · dsimp only
        split <;> rfl

theorem perform_forget (b : Backend β) (k : Keeper (β × List Call)) (clock : Nat) (r : Request) :
    k.forget.perform b clock r =
      ((k.perform b.recorded clock r).1, (k.perform b.recorded clock r).2.forget) := by
  cases r with
  | activate config => exact congrArg (none, ·) (activate_forget b k clock config)
  | deactivate => exact congrArg (none, ·) (deactivate_forget b k)
  | status =>
      simp only [perform]
      rw [status_forget]
  | logs | cleanLogs => rfl

theorem request_forget (b : Backend β) (k : Keeper (β × List Call)) (clock : Nat)
    (user : Option UInt32) (r : Request) :
    k.forget.request b clock user r =
      ((k.request b.recorded clock user r).1, (k.request b.recorded clock user r).2.forget) := by
  unfold request
  rw [note_forget, authorize_forget]
  rcases (k.note (receipt r.kind)).authorize user r.kind with ⟨_ | _, k'⟩
  · rfl
  · exact perform_forget b k' clock r

theorem invalidActivation_forget (k : Keeper (β × List Call)) (user : Option UInt32)
    (reason : String) :
    k.forget.invalidActivation user reason = (k.invalidActivation user reason).forget := by
  unfold invalidActivation
  rw [authorize_forget]
  rcases k.authorize user "activate" with ⟨_ | _, k'⟩
  · rfl
  · exact reject_forget k' reason

theorem shutdown_forget (b : Backend β) (k : Keeper (β × List Call)) :
    k.forget.shutdown b = (k.shutdown b.recorded).forget := by
  unfold shutdown
  rw [takeDown_forget, isActive_forget]
  split <;> rfl

theorem handle_forget (b : Backend β) (k : Keeper (β × List Call)) (clock : Nat) (d : Demand) :
    k.forget.handle b clock d =
      ((k.handle b.recorded clock d).1, (k.handle b.recorded clock d).2.forget) := by
  cases d with
  | request user r => exact request_forget b k clock user r
  | invalidActivation user reason =>
      exact congrArg (none, ·) (invalidActivation_forget k user reason)
  | shutdown => exact congrArg (none, ·) (shutdown_forget b k)

theorem turn_forget (b : Backend β) (k : Keeper (β × List Call)) (t : Turn) :
    k.forget.turn b t = (k.turn b.recorded t).forget := by
  cases t with
  | handle clock d => exact congrArg Prod.snd (handle_forget b k clock d)
  | look clock =>
      unfold turn
      show (if k.awaitsHandshake then _ else _) = _
      split
      · exact checkHandshake_forget b k clock
      · rfl

/-- Over machinery that remembers its calls, the keeper does as it does over machinery
    that does not. -/
theorem run_forget (b : Backend β) (k : Keeper (β × List Call)) (turns : List Turn) :
    k.forget.run b turns = (k.run b.recorded turns).forget :=
  List.foldl_hom forget (turn_forget b)

end Keeper

end TunnelSession.Daemon
