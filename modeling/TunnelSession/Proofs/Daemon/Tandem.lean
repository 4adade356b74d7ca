/-
  TunnelSession.Proofs.Daemon.Tandem

  The tunnel that the keeper takes to be up, and the peer that its machinery holds. To
  change a tunnel for another, one peer is taken down and the next one brought up, and
  either may fail. What keeps the two together is that a peer counts as gone with the
  call that is to take it down, whether or not the call fails, and as held only if the
  call that is to bring it up succeeds.

  What the machinery depends on may change at any time, and so from one call of a single
  command to the next: each call may be made to fail or to succeed.
-/
import TunnelSession.Daemon.Quick
import TunnelSession.Proofs.Daemon.Endings

namespace TunnelSession.Daemon

/-! ## Machinery that holds a peer -/

/-- The machinery holds at most one peer, and `peer` is the key of that one. -/
structure Backend.Holds {β : Type} (b : Backend β) (peer : β → Option String) : Prop where
  started : ∀ m config, (b.start m config).1 = .ok () →
    peer (b.start m config).2 = some config.serverKey
  refused : ∀ m config e, (b.start m config).1 = .error e →
    peer (b.start m config).2 = peer m
  stopped : ∀ m, peer (b.stop m).2 = none
  seen : ∀ m clock, peer (b.status m clock).2 = peer m

/-- Something happens to a state from outside, if there is anything left to happen. -/
def befall {β ω : Type} (happen : ω → β → β) : β × List ω → β × List ω
  | (m, []) => (m, [])
  | (m, w :: rest) => (happen w m, rest)

/-- The machinery, while one thing after the other happens to it: the next one comes
    before each call. -/
def Backend.amid {β ω : Type} (b : Backend β) (happen : ω → β → β) : Backend (β × List ω) where
  name := b.name
  start m config :=
    let m := befall happen m
    let started := b.start m.1 config
    (started.1, started.2, m.2)
  stop m :=
    let m := befall happen m
    let stopped := b.stop m.1
    (stopped.1, stopped.2, m.2)
  status m clock :=
    let m := befall happen m
    let seen := b.status m.1 clock
    (seen.1, seen.2, m.2)
  logged m := b.logged m.1

section Amid

variable {β ω : Type} {b : Backend β} {peer : β → Option String} {happen : ω → β → β}

theorem peer_befall (h : ∀ w m, peer (happen w m) = peer m) (m : β × List ω) :
    peer (befall happen m).1 = peer m.1 := by
  obtain ⟨m, _ | ⟨w, rest⟩⟩ := m
  · rfl
  · exact h w m

/-- What leaves the peer alone leaves the machinery what it is. -/
theorem Backend.Holds.amid (hb : b.Holds peer) (h : ∀ w m, peer (happen w m) = peer m) :
    (b.amid happen).Holds (fun m => peer m.1) where
  started m config hstart := hb.started (befall happen m).1 config hstart
  refused m config e hstart :=
    (hb.refused (befall happen m).1 config e hstart).trans (peer_befall h m)
  stopped m := hb.stopped (befall happen m).1
  seen m clock := (hb.seen (befall happen m).1 clock).trans (peer_befall h m)

end Amid

/-! ## Machinery without a tunnel -/

namespace Dummy

/-- The key of the peer in memory. -/
def peerKey (d : Dummy) : Option String := d.peer.map (·.publicKey)

/-- What can be injected: failures, and the delay of the handshake. -/
structure Injection where
  failStart : Bool
  failStop : Bool
  handshakeAfter : Nat

def inject (i : Injection) (d : Dummy) : Dummy :=
  { d with failStart := i.failStart, failStop := i.failStop, handshakeAfter := i.handshakeAfter }

theorem holds : backend.Holds peerKey where
  started d config hstart := by
    simp only [backend, start] at hstart ⊢
    split at hstart
    · cases hstart
    · next h => rw [if_neg h]; rfl
  refused d config e hstart := by
    simp only [backend, start] at hstart ⊢
    split at hstart
    · next h => rw [if_pos h]
    · cases hstart
  stopped d := rfl
  seen d clock := by
    simp only [backend, status]
    split
    · rfl
    · -- a look changes the counters of the peer, and not its key
      show (d.peer.map (look · clock)).map (·.publicKey) = d.peer.map (·.publicKey)
      rw [Option.map_map]
      rfl

end Dummy

/-! ## Machinery of tools -/

namespace Quick

/-- How the system around the tools behaves. -/
structure System where
  writable : Bool
  quickTool : Option ToolOutcome
  showTool : Option ToolOutcome

def within (s : System) (q : Quick) : Quick :=
  { q with writable := s.writable, quickTool := s.quickTool, showTool := s.showTool }

/-- Running the tool does not touch what is known of the peer. -/
theorem peer_runQuick (q : Quick) (action : String) : (q.runQuick action).2.peer = q.peer := by
  unfold runQuick
  dsimp only
  split
  · rfl
  · split <;> rfl

/-- A start has succeeded and the peer is known, or it has failed and nothing else is
    known than before. -/
theorem start_cases (q : Quick) (config : TunnelConfig) :
    (q.start config).1 = .ok () ∧ (q.start config).2.peer = some config.serverKey ∨
      (∃ e, (q.start config).1 = .error e) ∧ (q.start config).2.peer = q.peer := by
  unfold start
  split
  · exact .inr ⟨⟨_, rfl⟩, rfl⟩
  · next content _ =>
    split
    · have hpeer := peer_runQuick { q with file := some content } "up"
      split
      · exact .inl ⟨rfl, rfl⟩
      · next e q' heq =>
        rw [heq] at hpeer
        exact .inr ⟨⟨e, rfl⟩, hpeer⟩
    · exact .inr ⟨⟨_, rfl⟩, rfl⟩

theorem holds : backend.Holds Quick.peer where
  started q config hstart := by
    obtain ⟨-, hpeer⟩ | ⟨⟨e, herror⟩, -⟩ := start_cases q config
    · exact hpeer
    · cases herror.symm.trans hstart
  refused q config e hstart := by
    obtain ⟨hok, -⟩ | ⟨-, hpeer⟩ := start_cases q config
    · cases hok.symm.trans hstart
    · exact hpeer
  stopped q := by
    simp only [backend, stop]
    split
    · next h => exact h
    · have hpeer := peer_runQuick { q with peer := none } "down"
      split
      · next q' heq =>
        rw [heq] at hpeer
        exact hpeer
      · next e q' heq =>
        rw [heq] at hpeer
        exact hpeer
  seen q clock := by
    simp only [backend, status]
    split <;> rfl

end Quick

/-! ## The keeper -/

namespace Keeper

variable {β : Type} {b : Backend β} {peer : β → Option String} {k : Keeper β}

/-- The peer that the machinery holds is that of the tunnel that is up. -/
def InTandem (peer : β → Option String) (k : Keeper β) : Prop :=
  peer k.machine = k.config?.map (·.serverKey)

/-- A tunnel that is taken down leaves no peer, whether or not the machinery fails. -/
theorem stopped_peer (hb : b.Holds peer) (hk : k.InTandem peer) :
    peer (k.stopped b).2 = none := by
  cases hup : k.isActive with
  | true =>
      rw [stopped_of_up b hup]
      exact hb.stopped k.machine
  | false =>
      rw [InTandem, config?, tunnel_eq_none hup] at hk
      rw [stopped_of_down b hup]
      exact hk

/-- Whoever asks for what, and whatever fails. -/
theorem Course.inTandem {t : Turn} {k' : Keeper β} (h : Course b k t k') (hb : b.Holds peer)
    (hk : k.InTandem peer) : k'.InTandem peer := by
  cases h with
  | stay t machine log hseen =>
      obtain rfl | ⟨clock, rfl⟩ := hseen
      · exact hk
      · exact (hb.seen k.machine clock).trans hk
  | meet clock t p machine log hup hwait hseen =>
      have hpeer := hb.seen k.machine clock
      rw [InTandem, config?, hup] at hk
      rw [hseen] at hpeer
      exact hpeer.trans hk
  | spurn | decline | leave => exact hk
  | raise clock user config machine log howned hvalid hstarted =>
      have hpeer := hb.started (k.stopped b).2 config (congrArg Prod.fst hstarted)
      exact (congrArg (fun done => peer done.2) hstarted).symm.trans hpeer
  | fail clock user config e machine log howned hvalid hstarted =>
      -- no peer was held before the start, and none is held after it
      have hpeer := hb.refused (k.stopped b).2 config e (congrArg Prod.fst hstarted)
      exact (congrArg (fun done => peer done.2) hstarted).symm.trans
        (hpeer.trans (stopped_peer hb hk))
  | lower | close => exact stopped_peer hb hk

/-- A keeper that begins without a peer is in tandem with its machinery ever after. -/
theorem run_inTandem (hb : b.Holds peer) {machine : β} (hnone : peer machine = none)
    (log : Log) (turns : List Turn) :
    ((initial machine log).run b turns).InTandem peer := by
  have hfirst : (initial machine log).InTandem peer := hnone
  exact run_keeps (P := InTandem peer) (fun k t hk => (turn_course b k t).inTandem hb hk) hfirst
    turns

theorem InTandem.isActive_iff (hk : k.InTandem peer) :
    k.isActive = true ↔ (peer k.machine).isSome = true := by
  rw [isActive_eq, hk, Option.isSome_map]

/-- On every run, over the machinery without a tunnel and over that of tools, whatever is
    injected or becomes of the tools before each single call: a tunnel is up just if the
    machinery holds a peer, and the key of the peer is that of the server of this
    tunnel. -/
theorem tunnel_and_peer_go_together (log : Log) (turns : List Turn) :
    (∀ injections : List Dummy.Injection,
      let k := (initial (({} : Dummy), injections) log).run (Dummy.backend.amid Dummy.inject) turns
      (k.isActive = true ↔ k.machine.1.peer.isSome = true) ∧
        k.machine.1.peer.map (·.publicKey) = k.config?.map (·.serverKey)) ∧
    ∀ (interface directory : String) (systems : List Quick.System),
      let k := (initial (({ interface, directory } : Quick), systems) log).run
        (Quick.backend.amid Quick.within) turns
      (k.isActive = true ↔ k.machine.1.peer.isSome = true) ∧
        k.machine.1.peer = k.config?.map (·.serverKey) := by
  constructor
  · intro injections k
    have hholds : (Dummy.backend.amid Dummy.inject).Holds (fun m => m.1.peerKey) :=
      Dummy.holds.amid fun _ _ => rfl
    have hk : k.InTandem (fun m => m.1.peerKey) := run_inTandem hholds rfl log turns
    clear_value k
    refine ⟨?_, hk⟩
    rw [hk.isActive_iff, Dummy.peerKey, Option.isSome_map]
  · intro interface directory systems k
    have hholds : (Quick.backend.amid Quick.within).Holds (fun m => m.1.peer) :=
      Quick.holds.amid fun _ _ => rfl
    have hk : k.InTandem (fun m => m.1.peer) := run_inTandem hholds rfl log turns
    clear_value k
    exact ⟨hk.isActive_iff, hk⟩

-- the old tunnel cannot be taken down, but the new one comes up in the same command
example :
    let fine : Quick.System := ⟨true, some {}, some {}⟩
    let stuck : Quick.System := ⟨true, some { code := 1 }, some {}⟩
    let other := { plainConfig with serverKey := "AQAAAAAAAAAAAAAAAAAAAAAAAAAAAAAAAAAAAAAAAAA=" }
    let k := (initial (({} : Quick), [fine, stuck, fine]) {}).run
      (Quick.backend.amid Quick.within)
      [.handle 0 (.request (some 1000) (.activate plainConfig)),
        .handle 7 (.request (some 1000) (.activate other))]
    k.config? = some other ∧ k.machine.1.peer = some other.serverKey ∧
      k.machine.1.calls.map (·.arguments.head?) = [some "up", some "down", some "up"] := by
  decide +kernel

end Keeper

end TunnelSession.Daemon
