/-
  TunnelSession.Proofs.Daemon.Endings

  When the keeper tells that the tunnel is down. It does so whenever a tunnel goes
  down, and then nobody owns one any more. But it also turns down a request for a
  tunnel that cannot be brought up with these words, and if one is up, that one
  stays.
-/
import TunnelSession.Proofs.Daemon.Turns

namespace TunnelSession.Daemon.Keeper

variable {β : Type} {b : Backend β} {k k' : Keeper β} {t : Turn}

/-- What a turn tells comes after what was told before. Nothing that is up goes down
    untold, and the end of a tunnel is told only if none is up and none is owned,
    or if the turn spurns a request. -/
theorem Course.news (h : Course b k t k') :
    ∃ news, k'.notices = k.notices ++ news ∧
      (k.isActive = true → k'.isActive = false → .disconnected ∈ news) ∧
      (.disconnected ∈ news → (k'.tunnel = none ∧ k'.access.owner = none) ∨ k.Spurns t) := by
  cases h with
  -- where nothing is told, what was up is still up
  | stay t machine log =>
      refine ⟨[], (List.append_nil _).symm, fun hup hdown => ?_, nofun⟩
      exact absurd (hdown.symm.trans hup) Bool.false_ne_true
  | raise clock user config machine =>
      exact ⟨[], (List.append_nil _).symm, fun _ hdown => absurd hdown.symm Bool.false_ne_true,
        nofun⟩
  | meet clock tunnel p machine =>
      refine ⟨[.connected tunnel.config.serverKey], rfl,
        fun _ hdown => absurd hdown.symm Bool.false_ne_true, fun hmem => ?_⟩
      cases List.mem_singleton.mp hmem
  | spurn t log hspurns =>
      exact ⟨[.disconnected], rfl, fun _ _ => List.mem_singleton_self _, fun _ => .inr hspurns⟩
  | decline clock user d log hd hdown =>
      exact ⟨[.disconnected], rfl, fun _ _ => List.mem_singleton_self _, fun _ => .inl ⟨hdown, rfl⟩⟩
  | fail | close =>
      exact ⟨[.disconnected], rfl, fun _ _ => List.mem_singleton_self _, fun _ => .inl ⟨rfl, rfl⟩⟩
  | lower clock user =>
      refine ⟨farewell (k.stopped b).1 ++ [.disconnected], ?_, fun _ _ => ?_,
        fun _ => .inl ⟨rfl, rfl⟩⟩
      · exact List.append_assoc k.notices _ [.disconnected]
      · exact List.mem_append_right _ (List.mem_singleton_self _)
  | leave clock log hdown =>
      exact ⟨[], (List.append_nil _).symm, fun hup _ => by simp [isActive, hdown] at hup, nofun⟩

/-- A request that is spurned is answered and logged, and nothing else becomes of it. -/
theorem turn_of_spurns (b : Backend β) (h : k.Spurns t) :
    ∃ log, k.turn b t = ({ k with log := log } : Keeper β).tell .disconnected := by
  obtain ⟨hup, clock, user, d, rfl, hd, hruled⟩ := h
  have hallowed : k.access.authorize (some user) "activate" k.isActive = (true, k.access) := by
    rw [authorize_owner hruled, if_pos hup]
  cases hd with
  | unread reason =>
      rw [turn, handle, invalidActivation_of_allowed hallowed, reject_of_up hup]
      exact ⟨_, rfl⟩
  | invalid config hinvalid =>
      cases hvalidate : config.validate with
      | ok _ => exact absurd hvalidate hinvalid
      | error e =>
          rw [turn, handle, request_of_allowed hallowed, perform, activate_of_invalid hvalidate,
            reject_of_up hup]
          exact ⟨_, rfl⟩

/-- On every run, over any machinery: the end of a tunnel is told in every turn in
    which one goes down. If it is told, no tunnel is up and nobody owns one, unless
    someone who may rule the tunnel that is up has asked for one that cannot be
    brought up. That is always told in these words, and the tunnel, its owner and
    the machinery stay as they are. -/
theorem disconnected_is_told_when_down (b : Backend β) (machine : β) (log : Log)
    (turns : List Turn) (t : Turn) :
    let k := (initial machine log).run b turns
    let k' := k.turn b t
    (∃ news, k'.notices = k.notices ++ news ∧
      (k.isActive = true → k'.isActive = false → .disconnected ∈ news) ∧
      (.disconnected ∈ news → ¬ k.Spurns t → k'.tunnel = none ∧ k'.access.owner = none)) ∧
    (k.Spurns t → k'.tunnel = k.tunnel ∧ k'.access = k.access ∧ k'.machine = k.machine ∧
      k'.notices = k.notices ++ [.disconnected] ∧ k'.isActive = true ∧
      k'.access.owner.isSome = true) := by
  intro k k'
  have howned : k.Owned := run_owned b machine log turns
  refine ⟨?_, fun hspurns => ?_⟩
  · obtain ⟨news, hnotices, hlast, htold⟩ := (turn_course b k t).news
    refine ⟨news, hnotices, hlast, fun hmem hspurns => ?_⟩
    exact (htold hmem).resolve_right hspurns
  · obtain ⟨log', heq⟩ : ∃ log', k' = ({ k with log := log' } : Keeper β).tell .disconnected :=
      turn_of_spurns b hspurns
    have hup : k.tunnel.isSome = true := hspurns.1
    rw [heq]
    exact ⟨rfl, rfl, rfl, rfl, hup, howned.symm.trans hup⟩

/-- A configuration that is valid. -/
def plainConfig : TunnelConfig where
  privateKey := "AAAAAAAAAAAAAAAAAAAAAAAAAAAAAAAAAAAAAAAAAAA="
  deviceV4 := "10.64.12.7/32"
  serverKey := "AAAAAAAAAAAAAAAAAAAAAAAAAAAAAAAAAAAAAAAAAAA="
  endpointV4 := "185.65.135.1"
  port := 51820
  ranges := [.host (.v4 0x0A400001#32)]

/-- A user whose tunnel is up sends a request that cannot be read: the end of the
    tunnel is told, but it is up, and owned as before. -/
theorem disconnected_is_told_while_up :
    let k := (initial {} {}).run Dummy.backend
      [.handle 0 (.request (some 1000) (.activate plainConfig))]
    let k' := k.turn Dummy.backend (.handle 0 (.invalidActivation (some 1000)))
    k'.notices = k.notices ++ [.disconnected] ∧ k'.isActive = true ∧
      k'.access.owner = some 1000 := by
  decide +kernel

end TunnelSession.Daemon.Keeper
