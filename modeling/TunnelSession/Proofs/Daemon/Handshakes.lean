/-
  TunnelSession.Proofs.Daemon.Handshakes

  When the keeper tells that a tunnel has shaken hands. It looks at the machinery again
  and again, while tunnels are brought up, changed for others and taken down in
  between, and the machinery may show the peer of a tunnel that is no longer up. What is
  told is always true of the tunnel that is up, and it is told once for every start.

  The history of a keeper has all calls of its machinery and all that it tells. In one
  turn the calls come first: nothing is told before the last of them is back.
-/
import TunnelSession.Proofs.Daemon.Calls
import TunnelSession.Proofs.Daemon.Ownership

namespace TunnelSession.Daemon

/-- Something that can be seen of the keeper from outside. -/
inductive Event
  | called (c : Call)
  | told (r : Reply)
  deriving DecidableEq

/-- The machinery was asked to bring a tunnel up or down. -/
def Event.isMove : Event → Bool
  | .called c => c.isMove
  | .told _ => false

/-- A handshake was told. -/
def Event.isHandshake : Event → Bool
  | .told (.connected _) => true
  | _ => false

namespace Keeper

variable {β : Type} {b : Backend β} {k k' : Keeper (β × List Call)}
  {tunnel tunnel' : Option ActiveTunnel} {calls : List Call} {news : List Reply}

/-- What there is to see of a keeper between two of its states. -/
def since (k k' : Keeper (β × List Call)) : List Event :=
  (k'.calls.drop k.calls.length).map .called ++ (k'.notices.drop k.notices.length).map .told

/-- What there is to see of a keeper in turns, one after the other. -/
def history (b : Backend β) : Keeper (β × List Call) → List Turn → List Event
  | _, [] => []
  | k, t :: turns => k.since (k.turn b.recorded t) ++ history b (k.turn b.recorded t) turns

/-! ## What a turn does -/

/-- What a turn does to the tunnel, with the calls that it makes and the news that it
    tells. -/
inductive Deed (tunnel : Option ActiveTunnel) :
    Option ActiveTunnel → List Call → List Reply → Prop
  | rest (calls : List Call) (news : List Reply) (hcalls : ∀ c ∈ calls, c.isMove = false)
      (hnews : ∀ key, .connected key ∉ news) : Deed tunnel tunnel calls news
  | meet (clock : Nat) (t : ActiveTunnel) (p : PeerStatus) (hup : tunnel = some t)
      (hwait : t.handshakeAt = none) (hkey : p.publicKey = t.config.serverKey)
      (hshaken : p.lastHandshake ≠ 0) :
      Deed tunnel (some { t with handshakeAt := some p.lastHandshake })
        [.status clock (.ok (some p))] [.connected t.config.serverKey]
  | raise (before : List Call) (config : TunnelConfig) (clock : Nat) :
      Deed tunnel (some ⟨config, clock, none⟩) (before ++ [.start config (.ok ())]) []
  | lower (calls : List Call) (news : List Reply) (hnews : ∀ key, .connected key ∉ news) :
      Deed tunnel none calls news

/-- One of the deeds leads from a state to the next. -/
def Does (k k' : Keeper (β × List Call)) : Prop :=
  ∃ calls news, k'.calls = k.calls ++ calls ∧ k'.notices = k.notices ++ news ∧
    Deed k.tunnel k'.tunnel calls news

/-- Without a call, the tunnel stays as it is, and no handshake is told. -/
theorem does_of_told (htunnel : k'.tunnel = k.tunnel) (hcalls : k'.calls = k.calls)
    (hnotices : k'.notices = k.notices ++ news) (hnews : ∀ key, .connected key ∉ news) :
    k.Does k' := by
  refine ⟨[], news, by rw [hcalls, List.append_nil], hnotices, ?_⟩
  rw [htunnel]
  exact .rest [] news nofun hnews

theorem not_connected_disconnected (key : String) :
    Reply.connected key ∉ [Reply.disconnected] := by
  simp

theorem not_connected_farewell (result : Except BackendError Unit) (key : String) :
    Reply.connected key ∉ farewell result ++ [Reply.disconnected] := by
  cases result <;> simp [farewell]

/-- A tunnel is taken down with the calls that this takes. -/
theorem stopped_calls (b : Backend β) (k : Keeper (β × List Call)) :
    ∃ stops, (k.stopped b.recorded).2.2 = k.calls ++ stops := by
  cases hup : k.isActive with
  | true =>
      rw [stopped_of_up b.recorded hup]
      exact ⟨[.stop (b.stop k.machine.1).1], rfl⟩
  | false =>
      rw [stopped_of_down b.recorded hup]
      exact ⟨[], (List.append_nil _).symm⟩

/-- The last call that it takes to bring a tunnel up is its start. -/
theorem started_calls {config : TunnelConfig} {r : Except BackendError Unit}
    {m : β × List Call} (h : k.started b.recorded config = (r, m)) :
    ∃ stops, m.2 = k.calls ++ (stops ++ [Call.start config r]) := by
  obtain ⟨stops, hstops⟩ := stopped_calls b k
  refine ⟨stops, ?_⟩
  cases h
  rw [← List.append_assoc, ← hstops]

theorem looked_calls {clock : Nat} {seen : Except BackendError (Option PeerStatus)}
    {m m' : β × List Call} (h : b.recorded.status m clock = (seen, m')) :
    m'.2 = m.2 ++ [.status clock seen] := by
  cases h
  rfl

/-- What a turn does to the tunnel, whoever asks for it. -/
theorem Course.does {t : Turn} (h : Course b.recorded k t k') : k.Does k' := by
  cases h with
  | stay t m log hseen =>
      obtain rfl | ⟨clock, rfl⟩ := hseen
      · exact does_of_told rfl rfl (List.append_nil _).symm nofun
      · exact ⟨[.status clock (b.status k.machine.1 clock).1], [], rfl, (List.append_nil _).symm,
          .rest _ _ (by simp [Call.isMove]) nofun⟩
  | meet clock t p m log hup hwait hseen hkey hshaken =>
      exact ⟨[.status clock (.ok (some p))], [.connected t.config.serverKey],
        looked_calls hseen, rfl, .meet clock t p hup hwait hkey hshaken⟩
  | spurn | decline => exact does_of_told rfl rfl rfl not_connected_disconnected
  | leave => exact does_of_told rfl rfl (List.append_nil _).symm nofun
  | raise clock user config m log howned hvalid hstarted =>
      obtain ⟨stops, hcalls⟩ := started_calls hstarted
      exact ⟨_, [], hcalls, (List.append_nil _).symm, .raise stops config clock⟩
  | fail clock user config e m log howned hvalid hstarted =>
      obtain ⟨stops, hcalls⟩ := started_calls hstarted
      exact ⟨_, [.disconnected], hcalls, rfl, .lower _ _ not_connected_disconnected⟩
  | lower =>
      obtain ⟨stops, hcalls⟩ := stopped_calls b k
      refine ⟨stops, farewell (k.stopped b.recorded).1 ++ [.disconnected], hcalls, ?_,
        .lower _ _ (not_connected_farewell _)⟩
      exact List.append_assoc k.notices _ [.disconnected]
  | close =>
      obtain ⟨stops, hcalls⟩ := stopped_calls b k
      exact ⟨stops, [.disconnected], hcalls, rfl, .lower _ _ not_connected_disconnected⟩

theorem turn_does (b : Backend β) (k : Keeper (β × List Call)) (t : Turn) :
    k.Does (k.turn b.recorded t) := (turn_course b.recorded k t).does

/-! ## The history -/

theorem since_eq (hcalls : k'.calls = k.calls ++ calls)
    (hnotices : k'.notices = k.notices ++ news) :
    k.since k' = calls.map .called ++ news.map .told := by
  rw [since, hcalls, hnotices, List.drop_left, List.drop_left]

theorem history_concat (b : Backend β) (k : Keeper (β × List Call)) (turns : List Turn)
    (t : Turn) :
    history b k (turns ++ [t]) = history b k turns ++
      (k.run b.recorded turns).since ((k.run b.recorded turns).turn b.recorded t) := by
  induction turns generalizing k with
  | nil => exact List.append_nil _
  | cons u turns ih =>
      rw [List.cons_append, history, ih, history, List.append_assoc]
      rfl

/-- The last move of a history was the start of the tunnel that is up. While its
    handshake is awaited, none has been told since. -/
def Accounts (h : List Event) (tunnel : Option ActiveTunnel) : Prop :=
  ∀ t, tunnel = some t → ∃ earlier later,
    h = earlier ++ .called (.start t.config (.ok ())) :: later ∧
    (∀ e ∈ later, e.isMove = false) ∧
    (t.handshakeAt = none → ∀ e ∈ later, e.isHandshake = false)

theorem isHandshake_of_deed (hnews : ∀ key, .connected key ∉ news) :
    ∀ e ∈ calls.map Event.called ++ news.map .told, e.isHandshake = false := by
  intro e he
  rcases List.mem_append.mp he with hcalled | hsaid
  · obtain ⟨c, -, rfl⟩ := List.mem_map.mp hcalled
    rfl
  · obtain ⟨r, hr, rfl⟩ := List.mem_map.mp hsaid
    cases r with
    | connected key => exact absurd hr (hnews key)
    | _ => rfl

theorem isMove_of_deed (hcalls : ∀ c ∈ calls, c.isMove = false) :
    ∀ e ∈ calls.map Event.called ++ news.map .told, e.isMove = false := by
  intro e he
  rcases List.mem_append.mp he with hcalled | hsaid
  · obtain ⟨c, hc, rfl⟩ := List.mem_map.mp hcalled
    exact hcalls c hc
  · obtain ⟨r, -, rfl⟩ := List.mem_map.mp hsaid
    rfl

/-- As long as there is no other move, a start accounts for the tunnel. -/
theorem Accounts.later {h more : List Event} {t t' : ActiveTunnel} (hk : Accounts h (some t))
    (hconfig : t'.config = t.config) (hmoves : ∀ e ∈ more, e.isMove = false)
    (htold : t'.handshakeAt = none →
      t.handshakeAt = none ∧ ∀ e ∈ more, e.isHandshake = false) :
    Accounts (h ++ more) (some t') := by
  rintro _ ⟨rfl⟩
  obtain ⟨earlier, later, rfl, hlater, htoldLater⟩ := hk t rfl
  refine ⟨earlier, later ++ more, ?_, ?_, fun hwait e he => ?_⟩
  · rw [hconfig, List.append_assoc, List.cons_append]
  · intro e he
    exact (List.mem_append.mp he).elim (hlater e) (hmoves e)
  · obtain ⟨hwaited, hmore⟩ := htold hwait
    exact (List.mem_append.mp he).elim (htoldLater hwaited e) (hmore e)

theorem Deed.accounts {h : List Event} (hdeed : Deed tunnel tunnel' calls news)
    (hk : Accounts h tunnel) :
    Accounts (h ++ (calls.map .called ++ news.map .told)) tunnel' := by
  cases hdeed with
  | rest _ _ hcalls hnews =>
      cases tunnel with
      | none => exact nofun
      | some t =>
          exact hk.later rfl (isMove_of_deed hcalls) fun hwait => ⟨hwait, isHandshake_of_deed hnews⟩
  | meet clock t p hup =>
      subst hup
      -- from now on no handshake is awaited
      exact hk.later rfl (by simp [Event.isMove, Call.isMove]) nofun
  | raise before config clock =>
      rintro _ ⟨rfl⟩
      refine ⟨h ++ before.map .called, [], ?_, nofun, fun _ _ => nofun⟩
      rw [List.map_append, List.map_nil, List.append_nil, ← List.append_assoc]
      rfl
  | lower => exact nofun

/-- While the handshake of the tunnel that is up is awaited, none has been told since the
    last move, whatever part of the history is looked at. -/
theorem Accounts.quiet {h earlier later : List Event} {t : ActiveTunnel}
    (hk : Accounts h (some t)) (hwait : t.handshakeAt = none) (hsplit : h = earlier ++ later)
    (hmoves : ∀ e ∈ later, e.isMove = false) : ∀ e ∈ later, e.isHandshake = false := by
  obtain ⟨before, since, rfl, -, htold⟩ := hk t rfl
  -- the part begins after the start, which would be a move in it
  have hstart : .called (.start t.config (.ok ())) ∉ later := fun hmem =>
    Bool.false_ne_true (hmoves _ hmem).symm
  rcases List.append_eq_append_iff.mp hsplit with ⟨_ | ⟨e, rest⟩, -, hrest⟩ | ⟨rest, -, rfl⟩
  · rw [List.nil_append] at hrest
    exact absurd (hrest ▸ List.mem_cons_self) hstart
  · obtain ⟨rfl, rfl⟩ := List.cons.inj hrest
    exact fun e he => htold hwait e (List.mem_append_right rest he)
  · exact absurd (List.mem_append_right rest List.mem_cons_self) hstart

/-- Between two moves at most one handshake is told. -/
def ToldOnce (h : List Event) : Prop :=
  ∀ earlier later after, h = earlier ++ (later ++ after) →
    (∀ e ∈ later, e.isMove = false) → later.countP Event.isHandshake ≤ 1

/-- More may be told if it has no handshake, or if it has one and there was none since
    the last move. -/
theorem ToldOnce.append {h more : List Event} (hh : ToldOnce h)
    (hmore : more.countP Event.isHandshake = 0 ∨
      more.countP Event.isHandshake ≤ 1 ∧ ∀ earlier later, h = earlier ++ later →
        (∀ e ∈ later, e.isMove = false) → later.countP Event.isHandshake = 0) :
    ToldOnce (h ++ more) := by
  intro earlier later after hsplit hmoves
  rcases List.append_eq_append_iff.mp hsplit with ⟨gap, rfl, rfl⟩ | ⟨last, rfl, hrest⟩
  · -- all of it is new
    simp only [List.countP_append] at hmore
    omega
  · rcases List.append_eq_append_iff.mp hrest with ⟨rest, rfl, rfl⟩ | ⟨new, rfl, rfl⟩
    · exact hh earlier later rest rfl hmoves
    · -- it ends with a part that is new
      have hlast : ∀ e ∈ last, e.isMove = false := fun e he =>
        hmoves e (List.mem_append_left new he)
      rw [List.countP_append] at hmore ⊢
      rcases hmore with hnone | ⟨hone, hquiet⟩
      · have hold := hh earlier last [] (by rw [List.append_nil]) hlast
        omega
      · have hold := hquiet earlier last rfl hlast
        omega

theorem countP_eq_zero_of_quiet {h : List Event} (hquiet : ∀ e ∈ h, e.isHandshake = false) :
    h.countP Event.isHandshake = 0 :=
  List.countP_eq_zero.mpr fun e he => by rw [hquiet e he]; exact Bool.false_ne_true

theorem Deed.toldOnce {h : List Event} (hdeed : Deed tunnel tunnel' calls news)
    (hk : Accounts h tunnel) (hh : ToldOnce h) :
    ToldOnce (h ++ (calls.map .called ++ news.map .told)) := by
  cases hdeed with
  | meet clock t p hup hwait =>
      subst hup
      refine hh.append (.inr ⟨Nat.le_refl 1, fun earlier later hsplit hmoves => ?_⟩)
      exact countP_eq_zero_of_quiet (hk.quiet hwait hsplit hmoves)
  | rest _ _ _ hnews | lower _ _ hnews =>
      exact hh.append (.inl (countP_eq_zero_of_quiet (isHandshake_of_deed hnews)))
  | raise => exact hh.append (.inl (countP_eq_zero_of_quiet (isHandshake_of_deed nofun)))

theorem run_accounts (b : Backend β) (machine : β) (log : Log) (turns : List Turn) :
    Accounts (history b (initial (machine, []) log) turns)
        ((initial (machine, []) log).run b.recorded turns).tunnel ∧
      ToldOnce (history b (initial (machine, []) log) turns) := by
  -- by the last turn, which makes the last part of the history
  induction turns using List.reverseRecOn with
  | nil =>
      refine ⟨nofun, fun earlier later after hnil _ => ?_⟩
      obtain ⟨-, hrest⟩ := List.append_eq_nil_iff.mp hnil.symm
      rw [(List.append_eq_nil_iff.mp hrest).1]
      exact Nat.zero_le 1
  | append_singleton turns t ih =>
      obtain ⟨calls, news, hcalls, hnotices, hdeed⟩ :=
        turn_does b ((initial (machine, []) log).run b.recorded turns) t
      rw [history_concat, since_eq hcalls hnotices, run_concat]
      exact ⟨hdeed.accounts ih.1, hdeed.toldOnce ih.1 ih.2⟩

/-- On every run, over any machinery, with all its calls: between two calls that bring a
    tunnel up or down, at most one handshake is told. If a turn tells of one, then a
    tunnel is up to the server that is told, before the turn and after it. All that
    the turn does is to ask the machinery, which shows the peer of this server with a
    handshake. The last time the machinery was asked to bring a tunnel up or down, it
    has started this one, and no handshake has been told since. -/
theorem handshake_is_told_once (b : Backend β) (machine : β) (log : Log)
    (turns : List Turn) (t : Turn) :
    let k := (initial (machine, []) log).run b.recorded turns
    let k' := k.turn b.recorded t
    (k.forget = (initial machine log).run b turns ∧ k'.forget = k.forget.turn b t) ∧
    (∀ earlier later after,
      history b (initial (machine, []) log) turns = earlier ++ (later ++ after) →
      (∀ e ∈ later, e.isMove = false) → later.countP Event.isHandshake ≤ 1) ∧
    ∀ key, .told (.connected key) ∈ k.since k' →
      ∃ tunnel clock p earlier later,
        k.tunnel = some tunnel ∧ tunnel.config.serverKey = key ∧
        k'.tunnel = some { tunnel with handshakeAt := some p.lastHandshake } ∧
        k.since k' = [.called (.status clock (.ok (some p))), .told (.connected key)] ∧
        p.publicKey = key ∧ p.lastHandshake ≠ 0 ∧
        history b (initial (machine, []) log) turns =
          earlier ++ .called (.start tunnel.config (.ok ())) :: later ∧
        ∀ e ∈ later, e.isMove = false ∧ e.isHandshake = false := by
  intro k k'
  obtain ⟨haccounts, honce⟩ := run_accounts b machine log turns
  refine ⟨⟨(run_forget b (initial (machine, []) log) turns).symm, (turn_forget b k t).symm⟩,
    honce, fun key hmem => ?_⟩
  obtain ⟨calls, news, hcalls, hnotices, hdeed⟩ : k.Does k' := turn_does b k t
  have hnews : .connected key ∈ news := by
    rw [since_eq hcalls hnotices] at hmem
    simpa using hmem
  rw [since_eq hcalls hnotices]
  generalize hafter : k'.tunnel = after at hdeed
  cases hdeed with
  | meet clock tunnel p hup hwait hkey hshaken =>
      obtain rfl : tunnel.config.serverKey = key := by simpa [eq_comm] using hnews
      obtain ⟨earlier, later, hhistory, hmoves, htold⟩ := haccounts tunnel hup
      exact ⟨tunnel, clock, p, earlier, later, hup, rfl, rfl, rfl, hkey, hshaken, hhistory,
        fun e he => ⟨hmoves e he, htold hwait e he⟩⟩
  | rest _ _ _ hsaid => exact absurd hnews (hsaid key)
  | raise => cases hnews
  | lower _ _ hsaid => exact absurd hnews (hsaid key)

/-- The tunnel is changed for one to another server after its handshake was told. The
    machinery is looked at again, and the handshake of the new one is told as well. -/
theorem handshake_is_told_once_after_change :
    let other := { plainConfig with serverKey := "AQAAAAAAAAAAAAAAAAAAAAAAAAAAAAAAAAAAAAAAAAA=" }
    let turns : List Turn := [.ask 1000 0 plainConfig, .look 5, .look 6, .ask 1000 7 other]
    let k := (initial (({} : Dummy), []) {}).run Dummy.backend.recorded turns
    history Dummy.backend (initial ({}, []) {}) turns =
      [.called (.start plainConfig (.ok ())),
        .called (.status 5 (.ok (some ⟨plainConfig.serverKey, 5, 1024, 512⟩))),
        .told (.connected plainConfig.serverKey),
        .called (.stop (.ok ())), .called (.start other (.ok ()))] ∧
    ∃ tunnel, k.tunnel = some tunnel ∧ tunnel.config.serverKey = other.serverKey := by
  intro other turns k
  refine ⟨by decide +kernel, ?_⟩
  obtain ⟨-, -, htold⟩ := handshake_is_told_once Dummy.backend {} {} turns (.look 9)
  obtain ⟨tunnel, -, -, -, -, hup, hkey, -⟩ := htold other.serverKey (by decide +kernel)
  exact ⟨tunnel, hup, hkey⟩

end Keeper

end TunnelSession.Daemon
