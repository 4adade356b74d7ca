/-
  TunnelSession.Proofs.Daemon.Ownership

  Whose tunnel it is. The owner is written down before the tunnel that was asked for
  is known to come up, so every way in which that can fail has to take it back. On
  every run it does: a tunnel that is up belongs to the user whose request found none
  up, whoever has changed it since, and where none is up nobody owns one.
-/
import TunnelSession.Proofs.Daemon.Endings

namespace TunnelSession.Daemon.Keeper

variable {β : Type} {b : Backend β} {k k' : Keeper β} {t : Turn} {user : UInt32}

/-- A tunnel is up, and it is the user's. -/
def HeldBy (k : Keeper β) (user : UInt32) : Prop :=
  k.isActive = true ∧ k.access.owner = some user

instance (k : Keeper β) (user : UInt32) : Decidable (k.HeldBy user) :=
  inferInstanceAs (Decidable (k.isActive = true ∧ k.access.owner = some user))

/-- A user asks for a tunnel, in a way that can be read. -/
def Turn.ask (user : UInt32) (clock : Nat) (config : TunnelConfig) : Turn :=
  .handle clock (.request (some user) (.activate config))

/-- A tunnel is up that has been up since the user asked for it, and none was up when
    the user did. -/
def RaisedBy (b : Backend β) (k : Keeper β) (turns : List Turn) (user : UInt32) : Prop :=
  ∃ before clock config after,
    turns = before ++ Turn.ask user clock config :: after ∧
    (k.run b before).isActive = false ∧
    ∀ later, later <+: after →
      (k.run b (before ++ Turn.ask user clock config :: later)).isActive = true

theorem run_append (b : Backend β) (k : Keeper β) (turns more : List Turn) :
    k.run b (turns ++ more) = (k.run b turns).run b more := by
  rw [run, List.foldl_append]
  rfl

theorem run_concat (b : Backend β) (k : Keeper β) (turns : List Turn) (t : Turn) :
    k.run b (turns ++ [t]) = (k.run b turns).turn b t := run_append b k turns [t]

/-- Without a tunnel there is no owner, and with one there is. -/
theorem Owned.isActive_iff (hk : k.Owned) :
    k.isActive = true ↔ ∃ user, k.access.owner = some user := by
  rw [isActive, hk]
  exact Option.isSome_iff_exists

/-! ## A turn -/

/-- A tunnel that stays up stays its owner's, also where it is changed for another. -/
theorem Course.owner_of_up (h : Course b k t k') (hup : k.isActive = true)
    (hup' : k'.isActive = true) : k'.access.owner = k.access.owner := by
  cases h with
  | stay | meet | spurn => rfl
  | raise clock user config machine =>
      show (if k.isActive then k.access else ⟨some user⟩).owner = k.access.owner
      rw [if_pos hup]
  | decline clock user d log hd hdown | leave clock log hdown =>
      rw [isActive, hdown] at hup
      cases hup
  | fail | lower | close => cases hup'

/-- Nobody loses a tunnel untold. -/
theorem Course.held_or_told (h : Course b k t k') (hheld : k.HeldBy user) :
    k'.HeldBy user ∨ ∃ news, k'.notices = k.notices ++ news ∧ .disconnected ∈ news := by
  obtain ⟨news, hnotices, hlast, -⟩ := h.news
  cases hup : k'.isActive with
  | true => exact .inl ⟨hup, (h.owner_of_up hheld.1 hup).trans hheld.2⟩
  | false => exact .inr ⟨news, hnotices, hlast hheld.1 hup⟩

/-- Only to its owner and to the superuser does the keeper tell of a tunnel. -/
theorem heldBy_of_answer (huser : user ≠ superuser) {clock : Nat} {r : Request} {s : StatusReport}
    (hanswer : (k.request b clock (some user) r).1 = some (.status s)) (hs : s.connected = true) :
    (k.request b clock (some user) r).2.HeldBy user := by
  obtain heq | ⟨uid, huid, ⟨hup, hruled, heq⟩ | ⟨hdown, hkind, heq⟩ | ⟨hdown, hkind, -, heq⟩⟩ :=
    k.access.authorize_cases (some user) r.kind k.isActive
  · -- a refusal tells of no tunnel
    rw [request_of_refused heq] at hanswer
    cases r with
    | status =>
        cases hanswer
        cases hs
    | activate | deactivate | logs | cleanLogs => cases hanswer
  · obtain rfl := Option.some.inj huid
    have howner : k.access.owner = some user := hruled.resolve_left huser
    rw [request_of_allowed heq] at hanswer ⊢
    cases r with
    | status =>
        obtain ⟨-, machine, log, hframe, -⟩ := status_outcome b
          { k with log := k.log.noteAll (k.preamble (some user) .status) } clock
        rw [perform]
        dsimp only
        rw [hframe]
        exact ⟨hup, howner⟩
    | activate | deactivate | logs | cleanLogs => cases hanswer
  · rw [request_of_allowed heq] at hanswer
    cases r with
    | activate => cases hanswer
    | deactivate | status | logs | cleanLogs => exact absurd hkind (by decide)
  · -- no tunnel is up that could be told of
    rw [request_of_allowed heq] at hanswer
    cases r with
    | status =>
        rw [perform, status_of_down b hdown] at hanswer
        cases hanswer
        cases hs
    | activate | deactivate | logs | cleanLogs => cases hanswer

/-- Only the request of its user brings a tunnel up where none was up. -/
theorem Course.raised (h : Course b k t k') (hdown : k.isActive = false)
    (hup : k'.isActive = true) :
    ∃ user clock config, t = Turn.ask user clock config ∧ k'.access.owner = some user := by
  -- a tunnel that is as it was is down as it was
  have hsame {P : Prop} (heq : k'.isActive = k.isActive) : P :=
    absurd (hdown.symm.trans (heq.symm.trans hup)) Bool.false_ne_true
  cases h with
  | stay | spurn => exact hsame rfl
  | meet clock tunnel p machine log hthere =>
      rw [isActive, hthere] at hdown
      cases hdown
  | raise clock user config machine =>
      refine ⟨user, clock, config, rfl, ?_⟩
      show (if k.isActive then k.access else ⟨some user⟩).owner = some user
      rw [if_neg (Bool.eq_false_iff.mp hdown)]
  | decline | leave => exact hsame rfl
  | fail | lower | close => cases hup

/-! ## A run -/

/-- A tunnel that is up after every turn stays its owner's. -/
theorem run_owner_of_up (hup : k.isActive = true) (after : List Turn)
    (h : ∀ later, later <+: after → (k.run b later).isActive = true) :
    (k.run b after).access.owner = k.access.owner := by
  induction after generalizing k with
  | nil => rfl
  | cons t after ih =>
      have hnext : (k.turn b t).isActive = true := h [t] ⟨after, rfl⟩
      have hrest : ∀ later, later <+: after → ((k.turn b t).run b later).isActive = true := by
        intro later hlater
        exact h (t :: later) ((List.prefix_cons_inj t).mpr hlater)
      calc (k.run b (t :: after)).access.owner
          = ((k.turn b t).run b after).access.owner := rfl
        _ = (k.turn b t).access.owner := ih hnext hrest
        _ = k.access.owner := (turn_course b k t).owner_of_up hup hnext

/-- Whoever raised the tunnel owns it. -/
theorem RaisedBy.owner {turns : List Turn} (h : RaisedBy b k turns user) :
    (k.run b turns).access.owner = some user := by
  obtain ⟨before, clock, config, after, rfl, hdown, hup⟩ := h
  have hraised : ((k.run b before).turn b (Turn.ask user clock config)).isActive = true := by
    rw [← run_concat]
    exact hup [] (List.nil_prefix)
  have howner := run_owner_of_up hraised after fun later hlater => by
    have h := hup later hlater
    rwa [run_append] at h
  rw [run_append]
  refine howner.trans ?_
  -- the request of another user would have been another turn
  obtain ⟨asked, clock', config', heq, howned⟩ := (turn_course b _ _).raised hdown hraised
  cases heq
  exact howned

/-- The tunnel that a turn leaves up was raised as before. -/
theorem RaisedBy.concat {turns : List Turn} (h : RaisedBy b k turns user)
    (hup : (k.run b (turns ++ [t])).isActive = true) : RaisedBy b k (turns ++ [t]) user := by
  obtain ⟨before, clock, config, after, rfl, hdown, hsince⟩ := h
  refine ⟨before, clock, config, after ++ [t], ?_, hdown, fun later hlater => ?_⟩
  · rw [List.append_assoc, List.cons_append]
  · rcases List.prefix_concat_iff.mp hlater with rfl | hearlier
    · rwa [List.append_assoc, List.cons_append] at hup
    · exact hsince later hearlier

/-- Whoever owns a tunnel has raised it. -/
theorem raisedBy_of_owner (hdown : k.isActive = false) (hk : k.Owned) (turns : List Turn)
    (howner : (k.run b turns).access.owner = some user) : RaisedBy b k turns user := by
  -- by the last turn: the tunnel was up before it, and its owner's, or this turn raised it
  have howned (turns : List Turn) : (k.run b turns).Owned :=
    run_keeps (P := Owned) (fun k t hk => (turn_course b k t).owned hk) hk turns
  have hactive (turns : List Turn) (h : (k.run b turns).access.owner = some user) :
      (k.run b turns).isActive = true := (howned turns).isActive_iff.mpr ⟨user, h⟩
  induction turns using List.reverseRecOn with
  | nil => exact absurd (hdown.symm.trans (hactive [] howner)) Bool.false_ne_true
  | append_singleton turns t ih =>
      have hup : (k.run b (turns ++ [t])).isActive = true := hactive _ howner
      have hcourse : Course b (k.run b turns) t (k.run b (turns ++ [t])) := by
        rw [run_concat]
        exact turn_course b _ t
      cases hwas : (k.run b turns).isActive with
      | true =>
          rw [hcourse.owner_of_up hwas hup] at howner
          exact (ih howner).concat hup
      | false =>
          obtain ⟨asked, clock, config, rfl, hasked⟩ := hcourse.raised hwas hup
          obtain rfl : asked = user := Option.some.inj (hasked.symm.trans howner)
          refine ⟨turns, clock, config, [], rfl, hwas, fun later hlater => ?_⟩
          rwa [List.prefix_nil.mp hlater]

/-- On every run, over any machinery: a tunnel is up just when it has an owner, and
    its owner is the user who asked for it when none was up and who has not lost it
    since. No turn takes a tunnel that stays up from its owner. -/
theorem owner_raised_the_tunnel (b : Backend β) (machine : β) (log : Log)
    (turns : List Turn) :
    let k := (initial machine log).run b turns
    (k.isActive = true ↔ ∃ user, k.access.owner = some user) ∧
    (∀ user, k.access.owner = some user ↔ RaisedBy b (initial machine log) turns user) ∧
    ∀ t, k.isActive = true → (k.turn b t).isActive = true →
      (k.turn b t).access.owner = k.access.owner := by
  intro k
  refine ⟨(run_owned b machine log turns).isActive_iff, fun user => ⟨fun howner => ?_, fun h => ?_⟩,
    fun t hup hup' => (turn_course b k t).owner_of_up hup hup'⟩
  · exact raisedBy_of_owner rfl (initial_owned machine log) turns howner
  · exact h.owner

-- the superuser changes a tunnel for another, which is still that of the first user
example :
    let k := (initial {} {}).run Dummy.backend
      [.ask 1000 0 plainConfig, .ask superuser 5 { plainConfig with port := 443 }]
    k.tunnel = some ⟨{ plainConfig with port := 443 }, 5, none⟩ ∧
      k.access.owner = some 1000 := by
  decide +kernel

end TunnelSession.Daemon.Keeper
