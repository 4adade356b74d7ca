/-
  TunnelSession.Proofs.Daemon.Turns

  The keeper over time: it takes commands from anyone, known or not, and looks for
  handshakes in between, over machinery that does as it likes. What one turn can do
  is said once; what holds on every run follows from that.
-/
import TunnelSession.Proofs.Daemon.Conduct

namespace TunnelSession.Daemon

/-- A command with which a known user asks for a tunnel that cannot be brought up:
    the request cannot be read, or its configuration is not valid. -/
inductive Demand.Unusable (user : UInt32) : Demand → Prop
  | unread (reason : String) : Unusable user (.invalidActivation (some user) reason)
  | invalid (config : TunnelConfig) (h : config.validate ≠ .ok ()) :
      Unusable user (.request (some user) (.activate config))

namespace Access

/-- All that can come of a request: it is refused and leaves no trace, or its user
    may make it. Only a tunnel that is asked for while none is up has a new owner. -/
theorem authorize_cases (a : Access) (user : Option UInt32) (kind : String) (active : Bool) :
    a.authorize user kind active = (false, a) ∨
      ∃ uid, user = some uid ∧
        (active = true ∧ (uid = superuser ∨ a.owner = some uid) ∧
            a.authorize user kind active = (true, a) ∨
          active = false ∧ kind = "activate" ∧
            a.authorize user kind active = (true, ⟨some uid⟩) ∨
          active = false ∧ kind ≠ "activate" ∧
            (kind = "status" ∨ kind = "logs" ∨ uid = superuser) ∧
            a.authorize user kind active = (true, a)) := by
  cases user with
  | none => exact .inl rfl
  | some uid =>
      cases active with
      | true =>
          by_cases hruled : uid = superuser ∨ a.owner = some uid
          · refine .inr ⟨uid, rfl, .inl ⟨rfl, hruled, ?_⟩⟩
            rcases hruled with huser | howner
            · simp [authorize, huser]
            · simp [authorize, howner]
          · refine .inl ?_
            rw [not_or] at hruled
            simp [authorize, hruled.1, hruled.2]
      | false =>
          by_cases hkind : kind = "activate"
          · exact .inr ⟨uid, rfl, .inr (.inl ⟨rfl, hkind, by simp [authorize, hkind]⟩)⟩
          · by_cases hfree : kind = "status" ∨ kind = "logs" ∨ uid = superuser
            · refine .inr ⟨uid, rfl, .inr (.inr ⟨rfl, hkind, hfree, ?_⟩)⟩
              rcases hfree with h | h | h <;> simp [authorize, hkind, h]
            · refine .inl ?_
              simp only [not_or] at hfree
              simp [authorize, hkind, hfree]

end Access

namespace Keeper

variable {β : Type} {b : Backend β} {k : Keeper β} {user : UInt32}

/-! ## Turns -/

/-- Something that the keeper does. Times are in seconds of the wall clock. -/
inductive Turn
  /-- It handles a command. -/
  | handle (clock : Nat) (d : Demand)
  /-- It looks for the handshake that it waits for. -/
  | look (clock : Nat)

/-- What becomes of the keeper with a turn. -/
def turn (b : Backend β) (k : Keeper β) : Turn → Keeper β
  | .handle clock d => (k.handle b clock d).2
  | .look clock => if k.awaitsHandshake then k.checkHandshake b clock else k

/-- What becomes of the keeper with turns, one after the other. -/
def run (b : Backend β) (k : Keeper β) (turns : List Turn) : Keeper β :=
  turns.foldl (turn b) k

/-- A keeper that has not done anything. -/
def initial (machine : β) (log : Log) : Keeper β := { machine, log }

/-- What each turn keeps, a run keeps. -/
theorem run_keeps {P : Keeper β → Prop} (h : ∀ k t, P k → P (k.turn b t)) (hk : P k)
    (turns : List Turn) : P (k.run b turns) := by
  induction turns generalizing k with
  | nil => exact hk
  | cons t turns ih => exact ih (h k t hk)

/-! ## What a turn can do -/

/-- A tunnel is up, and a user who may rule it asks for one that cannot be brought
    up. -/
def Spurns (k : Keeper β) (t : Turn) : Prop :=
  k.isActive = true ∧ ∃ clock user d, t = .handle clock d ∧ d.Unusable user ∧ k.OwnedBy user

/-- What a turn can do, with the state that it leads to. The log may be any. -/
inductive Course (b : Backend β) (k : Keeper β) : Turn → Keeper β → Prop
  /-- A question, a look that shows no handshake, a request that is refused, or one that
      is about the log alone. -/
  | stay (t : Turn) (machine : β) (log : Log)
      (hseen : machine = k.machine ∨ ∃ clock, machine = (b.status k.machine clock).2) :
      Course b k t { k with machine := machine, log := log }
  | meet (clock : Nat) (t : ActiveTunnel) (p : PeerStatus) (machine : β) (log : Log)
      (hup : k.tunnel = some t) (hwait : t.handshakeAt = none)
      (hseen : b.status k.machine clock = (.ok (some p), machine))
      (hkey : p.publicKey = t.config.serverKey) (hshaken : p.lastHandshake ≠ 0) :
      Course b k (.look clock)
        ({ k with
          machine := machine
          log := log
          tunnel := some { t with handshakeAt := some p.lastHandshake } }.tell
            (.connected t.config.serverKey))
  | spurn (t : Turn) (log : Log) (h : k.Spurns t) :
      Course b k t ({ k with log := log }.tell .disconnected)
  | decline (clock : Nat) (user : UInt32) (d : Demand) (log : Log) (hd : d.Unusable user)
      (hdown : k.tunnel = none) :
      Course b k (.handle clock d) ({ k with log := log }.disown.tell .disconnected)
  | raise (clock : Nat) (user : UInt32) (config : TunnelConfig) (machine : β) (log : Log)
      (h : k.OwnedBy user) (hvalid : config.validate = .ok ())
      (hstarted : k.started b config = (.ok (), machine)) :
      Course b k (.handle clock (.request (some user) (.activate config)))
        { k with
          machine := machine
          access := if k.isActive then k.access else ⟨some user⟩
          log := log
          tunnel := some ⟨config, clock, none⟩ }
  | fail (clock : Nat) (user : UInt32) (config : TunnelConfig) (e : BackendError) (machine : β)
      (log : Log) (h : k.OwnedBy user) (hvalid : config.validate = .ok ())
      (hstarted : k.started b config = (.error e, machine)) :
      Course b k (.handle clock (.request (some user) (.activate config)))
        ({ k with machine := machine, tunnel := none, log := log }.disown.tell .disconnected)
  | lower (clock : Nat) (user : UInt32) (log : Log) (h : k.OwnedBy user) :
      Course b k (.handle clock (.request (some user) .deactivate))
        ({ k with
          machine := (k.stopped b).2
          tunnel := none
          log := log
          notices := k.notices ++ farewell (k.stopped b).1 }.disown.tell .disconnected)
  | close (clock : Nat) (log : Log) (hup : k.isActive = true) :
      Course b k (.handle clock .shutdown)
        ({ k with machine := (k.stopped b).2, tunnel := none, log := log }.disown.tell
          .disconnected)
  | leave (clock : Nat) (log : Log) (hdown : k.tunnel = none) :
      Course b k (.handle clock .shutdown) { k with log := log }.disown

/-- While no tunnel is up, anyone may rule it. -/
theorem ownedBy_of_down (h : k.isActive = false) (user : UInt32) : k.OwnedBy user :=
  fun hup => absurd (h.symm.trans hup) Bool.false_ne_true

/-- The course of a request for a tunnel, which makes its user the owner if none
    is up. -/
theorem activate_course (b : Backend β) (clock : Nat) (h : k.OwnedBy user)
    (config : TunnelConfig) (log : Log) :
    Course b k (.handle clock (.request (some user) (.activate config)))
      (({ k with
        access := if k.isActive then k.access else ⟨some user⟩
        log := log } : Keeper β).activate b clock config) := by
  generalize hk' : ({ k with
    access := if k.isActive then k.access else ⟨some user⟩
    log := log } : Keeper β) = k'
  cases hvalid : config.validate with
  | ok _ =>
      cases hstarted : (k'.started b config).1 with
      | ok _ =>
          obtain ⟨log', heq⟩ := activate_of_started hvalid hstarted clock
          rw [← hk'] at hstarted
          rw [heq, ← hk']
          exact .raise clock user config _ log' h hvalid (Prod.ext hstarted rfl)
      | error e =>
          obtain ⟨log', heq⟩ := activate_of_failed hvalid hstarted clock
          rw [← hk'] at hstarted
          rw [heq, ← hk']
          exact .fail clock user config e _ log' h hvalid (Prod.ext hstarted rfl)
  | error e =>
      have hd : Demand.Unusable user (.request (some user) (.activate config)) :=
        .invalid config (by rw [hvalid]; exact nofun)
      rw [activate_of_invalid hvalid]
      cases hup : k.isActive with
      | true =>
          rw [← hk', hup, if_pos rfl, reject_of_up hup]
          exact .spurn _ _ ⟨hup, clock, user, _, rfl, hd, h⟩
      | false =>
          rw [← hk', reject_of_down hup]
          exact .decline clock user _ _ hd (tunnel_eq_none hup)

/-- The course of a request that its user may make and that asks for no tunnel. -/
theorem perform_course (b : Backend β) (clock : Nat) (h : k.OwnedBy user) {r : Request}
    (hr : r.kind ≠ "activate") (log : Log) :
    Course b k (.handle clock (.request (some user) r))
      (({ k with log := log } : Keeper β).perform b clock r).2 := by
  cases r with
  | activate config => exact absurd rfl hr
  | deactivate =>
      obtain ⟨log', heq⟩ := deactivate_eq b { k with log := log }
      rw [perform, heq]
      exact .lower clock user log' h
  | status =>
      obtain ⟨-, machine, log', hframe, hseen⟩ := status_outcome b { k with log := log } clock
      rw [perform]
      dsimp only
      rw [hframe]
      exact .stay _ machine log' (hseen.imp_right fun h => ⟨clock, h⟩)
  | logs => exact .stay _ k.machine log (.inl rfl)
  | cleanLogs => exact .stay _ k.machine log.clear (.inl rfl)

theorem request_course (b : Backend β) (k : Keeper β) (clock : Nat) (user : Option UInt32)
    (r : Request) :
    Course b k (.handle clock (.request user r)) (k.request b clock user r).2 := by
  obtain heq | ⟨uid, rfl, ⟨hup, hruled, heq⟩ | ⟨hdown, hkind, heq⟩ | ⟨hdown, hkind, -, heq⟩⟩ :=
    k.access.authorize_cases user r.kind k.isActive
  · rw [request_of_refused heq]
    exact .stay _ k.machine _ (.inl rfl)
  · -- the user rules the tunnel that is up
    have howned : k.OwnedBy uid := fun _ => hruled
    rw [request_of_allowed heq]
    by_cases hkind : r.kind = "activate"
    · cases r with
      | activate config =>
          have hcourse := activate_course b clock howned config
          rw [if_pos hup] at hcourse
          exact hcourse _
      | _ => exact absurd hkind (by decide)
    · exact perform_course b clock howned hkind _
  · -- the user asks for a tunnel while none is up, and owns what comes of it
    rw [request_of_allowed heq]
    cases r with
    | activate config =>
        have hcourse := activate_course b clock (ownedBy_of_down hdown uid) config
        rw [if_neg (by rw [hdown]; exact Bool.false_ne_true)] at hcourse
        exact hcourse _
    | _ => exact absurd hkind (by decide)
  · rw [request_of_allowed heq]
    exact perform_course b clock (ownedBy_of_down hdown uid) hkind _

theorem invalidActivation_course (b : Backend β) (k : Keeper β) (clock : Nat)
    (user : Option UInt32) (reason : String) :
    Course b k (.handle clock (.invalidActivation user reason))
      (k.invalidActivation user reason) := by
  obtain heq | ⟨uid, rfl, ⟨hup, hruled, heq⟩ | ⟨hdown, -, heq⟩ | ⟨-, hkind, -⟩⟩ :=
    k.access.authorize_cases user "activate" k.isActive
  · rw [invalidActivation_of_refused heq]
    exact .stay _ k.machine _ (.inl rfl)
  · rw [invalidActivation_of_allowed heq, reject_of_up hup]
    exact .spurn _ _ ⟨hup, clock, uid, _, rfl, .unread reason, fun _ => hruled⟩
  · rw [invalidActivation_of_allowed heq, reject_of_down hdown]
    exact .decline clock uid _ _ (.unread reason) (tunnel_eq_none hdown)
  · exact absurd rfl hkind

theorem shutdown_course (b : Backend β) (k : Keeper β) (clock : Nat) :
    Course b k (.handle clock .shutdown) (k.shutdown b) := by
  cases hup : k.isActive with
  | true =>
      obtain ⟨log, heq⟩ := shutdown_of_up b hup
      rw [heq]
      exact .close clock log hup
  | false =>
      obtain ⟨log, heq⟩ := shutdown_of_down b hup
      rw [heq]
      exact .leave clock log (tunnel_eq_none hup)

theorem look_course (b : Backend β) (k : Keeper β) (clock : Nat) :
    Course b k (.look clock) (k.turn b (.look clock)) := by
  rw [turn]
  split
  · next hwait =>
    obtain ⟨machine, log, heq, hseen⟩ | ⟨t, p, log, ht, hseen, hkey, hshaken, heq⟩ :=
      checkHandshake_cases b k clock
    · rw [heq]
      exact .stay _ machine log (hseen.imp_right fun h => ⟨clock, h⟩)
    · have hnone : t.handshakeAt = none := by
        rw [awaitsHandshake, ht] at hwait
        exact Option.isNone_iff_eq_none.mp hwait
      rw [heq]
      exact .meet clock t p _ log ht hnone (Prod.ext hseen rfl) hkey hshaken
  · exact .stay _ k.machine k.log (.inl rfl)

/-- What a turn does is one of the courses. -/
theorem turn_course (b : Backend β) (k : Keeper β) (t : Turn) : Course b k t (k.turn b t) := by
  cases t with
  | handle clock d =>
      cases d with
      | request user r => exact request_course b k clock user r
      | invalidActivation user reason => exact invalidActivation_course b k clock user reason
      | shutdown => exact shutdown_course b k clock
  | look clock => exact look_course b k clock

/-! ## The owner -/

/-- A tunnel has an owner, and there is no owner without a tunnel. -/
def Owned (k : Keeper β) : Prop := k.tunnel.isSome = k.access.owner.isSome

theorem initial_owned (machine : β) (log : Log) : (initial machine log).Owned := rfl

theorem Course.owned {t : Turn} {k' : Keeper β} (h : Course b k t k') (hk : k.Owned) :
    k'.Owned := by
  cases h with
  | stay | spurn => exact hk
  | meet clock t p machine log hup =>
      rw [Owned, hup] at hk
      exact hk
  | raise clock user config machine =>
      cases hup : k.isActive with
      | true => exact hup.symm.trans hk
      | false => rfl
  | decline clock user d log hd hdown | leave clock log hdown => exact congrArg Option.isSome hdown
  | fail | lower | close => rfl

theorem run_owned (b : Backend β) (machine : β) (log : Log) (turns : List Turn) :
    ((initial machine log).run b turns).Owned :=
  run_keeps (P := Owned) (fun k t hk => (turn_course b k t).owned hk) (initial_owned machine log)
    turns

end Keeper

end TunnelSession.Daemon
