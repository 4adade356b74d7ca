/-
  TunnelSession.Proofs.Daemon.Strangers

  What users get who have no part in the tunnel that is up: those who are not known,
  and those who neither own it nor are the superuser. Their commands are answered alike
  whatever the state is, and change nothing of the tunnel. But everything that the
  keeper logs is kept with the lines that its clients may ask for, and a command that is
  passed over is logged: that is all that comes of it.
-/
import TunnelSession.Proofs.Daemon.Endings

namespace TunnelSession.Daemon

namespace Keeper

variable {β : Type} {b : Backend β} {k : Keeper β} {user : Option UInt32} {d : Demand}

/-- The user is not known, or neither owns the tunnel nor is the superuser. -/
def IsStranger (k : Keeper β) : Option UInt32 → Prop
  | none => True
  | some uid => uid ≠ superuser ∧ k.access.owner ≠ some uid

instance (k : Keeper β) (user : Option UInt32) : Decidable (k.IsStranger user) :=
  match user with
  | none => .isTrue trivial
  | some uid => inferInstanceAs (Decidable (uid ≠ superuser ∧ k.access.owner ≠ some uid))

/-- The command is a stranger's. -/
def IsStrange (k : Keeper β) : Demand → Prop
  | .request user _ | .invalidActivation user _ => k.IsStranger user
  | .shutdown => False

instance (k : Keeper β) (d : Demand) : Decidable (k.IsStrange d) :=
  match d with
  | .request user _ | .invalidActivation user _ => inferInstanceAs (Decidable (k.IsStranger user))
  | .shutdown => .isFalse id

end Keeper

/-- The answer to a command that its user may not give. -/
def Demand.refusal : Demand → Option Reply
  | .request _ r => Keeper.refusal r
  | .invalidActivation _ _ | .shutdown => none

/-- What is logged about a command that its user may not give while a tunnel is up: that
    it came, who gave it, and that it is passed over. -/
def Demand.traces : Demand → List LogRecord
  | .request user r => Keeper.receipt r.kind ::
      (({} : Access).records user r.kind true ++ [Keeper.disregard r.kind])
  | .invalidActivation user _ =>
      ({} : Access).records user "activate" true ++ [Keeper.disregard "activate"]
  | .shutdown => []

namespace Keeper

variable {β : Type} {b : Backend β} {k : Keeper β} {user : Option UInt32} {d : Demand}

/-! ## A command -/

/-- While a tunnel is up, a stranger may do nothing, and becomes nobody. -/
theorem authorize_stranger (hup : k.isActive = true) (h : k.IsStranger user) (kind : String) :
    k.access.authorize user kind k.isActive = (false, k.access) := by
  obtain heq | ⟨uid, rfl, ⟨-, hruled, -⟩ | ⟨hdown, -⟩ | ⟨hdown, -⟩⟩ :=
    k.access.authorize_cases user kind k.isActive
  · exact heq
  · -- whom the keeper obeys is the superuser or the owner
    rcases hruled with hsuper | howner
    · exact absurd hsuper h.1
    · exact absurd howner h.2
  · exact absurd (hdown.symm.trans hup) Bool.false_ne_true
  · exact absurd (hdown.symm.trans hup) Bool.false_ne_true

/-- A stranger is logged in the same way whoever owns the tunnel. -/
theorem records_stranger (hup : k.isActive = true) (h : k.IsStranger user) (kind : String) :
    k.access.records user kind k.isActive = ({} : Access).records user kind true := by
  rw [hup]
  cases user with
  | none => rfl
  | some uid => simp [Access.records, h.1, h.2]

/-- A stranger's command to a keeper whose tunnel is up is logged and changes nothing, and
    its answer tells nothing of the state. -/
theorem handle_of_stranger (hup : k.isActive = true) (h : k.IsStrange d) (clock : Nat) :
    k.handle b clock d = (d.refusal, { k with log := k.log.noteAll d.traces }) := by
  cases d with
  | request user r =>
      rw [handle, request_of_refused (authorize_stranger hup h r.kind), preamble,
        records_stranger hup h]
      rfl
  | invalidActivation user reason =>
      rw [handle, invalidActivation_of_refused (authorize_stranger hup h "activate"),
        records_stranger hup h]
      rfl
  | shutdown => exact h.elim

/-- With no tunnel up there is nothing to tell, not even for those who are allowed to
    ask. -/
theorem answer_of_down (hdown : k.isActive = false) (clock : Nat) :
    (k.handle b clock (.request user .status)).1 = some (.status {}) := by
  rw [handle]
  rcases h : k.access.authorize user Request.status.kind k.isActive with ⟨_ | _, access⟩
  · rw [request_of_refused h]
    rfl
  · rw [request_of_allowed h, perform, status_of_down b hdown]

/-- On every run, over any machinery and with any logging: while a tunnel is up, the
    commands of strangers leave the keeper as it is, its machinery, owner and notices
    included, but that they are logged, and their answers are those of a refusal. Neither
    these nor the records depend on the state. Up or not, a stranger who asks for the
    status is told the empty one. -/
theorem strangers_leave_only_records (b : Backend β) (machine : β) (log : Log)
    (turns : List Turn) :
    let k := (initial machine log).run b turns
    (∀ clock d, k.isActive = true → k.IsStrange d →
      k.handle b clock d = (d.refusal, { k with log := k.log.noteAll d.traces })) ∧
    ∀ clock user, k.IsStranger user →
      (k.handle b clock (.request user .status)).1 = some (.status {}) := by
  intro k
  refine ⟨fun clock d hup h => handle_of_stranger hup h clock, fun clock user h => ?_⟩
  cases hup : k.isActive with
  | true =>
      have hanswer := handle_of_stranger (b := b) (d := .request user .status) hup h clock
      rw [hanswer]
      rfl
  | false => exact answer_of_down hup clock

/-- While the owner's tunnel is up, a stranger would take it down, and somebody who is not
    known asks for the status. -/
theorem strangers_leave_only_records_on_deactivation :
    let k := (initial {} {}).run Dummy.backend
      [.handle 0 (.request (some 1000) (.activate plainConfig))]
    let d := Demand.request (some 1001) .deactivate
    k.isActive = true ∧
      k.handle Dummy.backend 5 d = (none, { k with log := k.log.noteAll d.traces }) ∧
      (k.handle Dummy.backend 5 (.request none .status)).1 = some (.status {}) := by
  intro k d
  obtain ⟨hhandle, hstatus⟩ := strangers_leave_only_records Dummy.backend {} {}
    [.handle 0 (.request (some 1000) (.activate plainConfig))]
  have hup : k.isActive = true := by decide +kernel
  exact ⟨hup, hhandle 5 d hup (by decide +kernel), hstatus 5 none trivial⟩

/-- With the logging of the program, a stranger who would take the tunnel down adds two
    lines to the log that its owner may ask for. -/
theorem strangers_are_logged :
    let time := "2024-05-01T08:00:00.000000Z"
    let k := (initial {} { format := Log.usualFormat fun _ => time }).run Dummy.backend
      [.handle 0 (.request (some 1000) (.activate plainConfig))]
    let d := Demand.request (some 1001) .deactivate
    k.isActive = true ∧ k.IsStrange d ∧
      (k.handle Dummy.backend 5 d).2.log.lines = k.log.lines ++
        [time ++ "  WARN hop_daemon::access: Command deactivate issued by unexpected user 1001",
          time ++ "  WARN hop_daemon::daemon: Caller is unauthorized. Ignoring deactivate"] := by
  decide +kernel

end Keeper

end TunnelSession.Daemon
