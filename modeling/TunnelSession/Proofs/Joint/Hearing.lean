/-
  TunnelSession.Proofs.Joint.Hearing

  The two ends that hear lines: the daemon hears each of its clients, while others come
  and go and speak in between, and a client hears the daemon. What is derived from a
  connection depends on its lines alone, in order and each by itself; so a line that is
  passed over might as well not have been sent.
-/
import TunnelSession.Daemon.Dummy
import TunnelSession.Proofs.Link.Outages
import TunnelSession.Proofs.Wire.Garbage

namespace TunnelSession

open LineBuffer (Line)

/-! ## The daemon -/

namespace Daemon.Host

variable {β : Type} {b : Backend β} {h : Host β} {now clock i j : Nat} {user : Option UInt32}
  {buffer : LineBuffer} {bytes : List UInt8}

/-- Something that comes to the daemon and its clients. -/
inductive Event
  | connect (user : Option UInt32)
  | close (i : Nat)
  | receive (now clock i : Nat) (bytes : List UInt8)
  | settle (now clock : Nat)
  | shutdown (now clock : Nat)
  | takeSent

/-- What becomes of the daemon and its clients with an event. -/
def meet (b : Backend β) (h : Host β) : Event → Host β
  | .connect user => h.connect user
  | .close i => h.close i
  | .receive now clock i bytes => h.receive b now clock i bytes
  | .settle now clock => h.settle b now clock
  | .shutdown now clock => h.shutdown b now clock
  | .takeSent => h.takeSent.2

/-- What becomes of them with events, one after the other. -/
def run (b : Backend β) (h : Host β) (events : List Event) : Host β :=
  events.foldl (meet b) h

/-- What an event brings from a client. -/
def Event.sentBy (i : Nat) : Event → List (List UInt8)
  | .receive _ _ j bytes => if j = i then [bytes] else []
  | _ => []

/-- The commands that are derived from bytes of a client. -/
def hear (h : Host β) (i : Nat) (bytes : List UInt8) : List Demand :=
  match h.clients[i]? with
  | none => []
  | some c =>
    if c.isOpen then (c.buffer.feed bytes).1.filterMap (Demand.ofLine? c.user) else []

/-- The commands that are derived from a connection while events come. -/
def derived (b : Backend β) (i : Nat) : Host β → List Event → List Demand
  | _, [] => []
  | h, e :: events => (e.sentBy i).flatMap (h.hear i) ++ derived b i (h.meet b e) events

/-- A user's connection is open, and of an unfinished line there is what the buffer holds. -/
def Holds (h : Host β) (i : Nat) (user : Option UInt32) (buffer : LineBuffer) : Prop :=
  ∃ sent, h.clients[i]? = some { user := user, buffer := buffer, sent := sent }

/-! ### What an event does to a connection -/

theorem holds_connect (h : Host β) (user : Option UInt32) :
    (h.connect user).Holds h.clients.length user {} :=
  ⟨[], List.getElem?_concat_length⟩

theorem Holds.connect (hh : h.Holds i user buffer) (other : Option UInt32) :
    (h.connect other).Holds i user buffer := by
  obtain ⟨sent, hc⟩ := hh
  have hlt : i < h.clients.length := (List.getElem?_eq_some_iff.mp hc).1
  exact ⟨sent, (List.getElem?_append_left hlt).trans hc⟩

theorem Holds.close (hh : h.Holds i user buffer) (hne : j ≠ i) :
    (h.close j).Holds i user buffer := by
  obtain ⟨sent, hc⟩ := hh
  exact ⟨sent, (List.getElem?_modify_ne _ _ hne).trans hc⟩

/-- All who are open are told, and nothing else changes. -/
theorem Holds.spread (hh : h.Holds i user buffer) : h.spread.Holds i user buffer := by
  obtain ⟨sent, hc⟩ := hh
  refine ⟨sent ++ h.daemon.takeNotices.1, ?_⟩
  rw [Host.spread, List.getElem?_map, hc]
  rfl

theorem Holds.takeSent (hh : h.Holds i user buffer) : h.takeSent.2.Holds i user buffer := by
  obtain ⟨sent, hc⟩ := hh
  refine ⟨[], ?_⟩
  rw [Host.takeSent, List.getElem?_map, hc]
  rfl

theorem Holds.hear (hh : h.Holds i user buffer) (bytes : List UInt8) :
    h.hear i bytes = (buffer.feed bytes).1.filterMap (Demand.ofLine? user) := by
  obtain ⟨sent, hc⟩ := hh
  rw [Host.hear, hc]
  rfl

/-- The daemon handles what it hears of an open connection, answers there, and then tells
    all. -/
theorem receive_of_open {sent : List Reply}
    (hc : h.clients[i]? = some { user := user, buffer := buffer, sent := sent })
    (b : Backend β) (now clock : Nat) (bytes : List UInt8) :
    let handled := demands b now clock h.daemon (h.hear i bytes)
    h.receive b now clock i bytes =
      ({ daemon := handled.2
         clients := h.clients.set i
           { user := user, buffer := (buffer.feed bytes).2, sent := sent ++ handled.1 } } :
        Host β).spread := by
  rw [Holds.hear ⟨sent, hc⟩, receive, hc]
  rfl

theorem Holds.receive (hh : h.Holds i user buffer) (b : Backend β) (now clock : Nat)
    (bytes : List UInt8) : (h.receive b now clock i bytes).Holds i user (buffer.feed bytes).2 := by
  obtain ⟨sent, hc⟩ := hh
  have hlt : i < h.clients.length := (List.getElem?_eq_some_iff.mp hc).1
  rw [receive_of_open hc]
  exact Holds.spread ⟨_, List.getElem?_set_self hlt⟩

/-- What comes from one client is nothing to the connection of another. -/
theorem Holds.receive_other (hh : h.Holds i user buffer) (hne : j ≠ i) (b : Backend β)
    (now clock : Nat) (bytes : List UInt8) :
    (h.receive b now clock j bytes).Holds i user buffer := by
  rw [Host.receive]
  split
  · exact hh
  · split
    · obtain ⟨sent, hc⟩ := hh
      exact Holds.spread ⟨sent, (List.getElem?_set_ne hne).trans hc⟩
    · exact hh

/-- An event takes in what it brings from a connection, and derives from it what it is
    derived from. -/
theorem Holds.meet (hh : h.Holds i user buffer) {e : Event} (he : e ≠ .close i) :
    (h.meet b e).Holds i user (buffer.feedAll (e.sentBy i)).2 ∧
      (e.sentBy i).flatMap (h.hear i) =
        (buffer.feedAll (e.sentBy i)).1.filterMap (Demand.ofLine? user) := by
  cases e with
  | connect other => exact ⟨hh.connect other, rfl⟩
  | close j => exact ⟨hh.close fun heq => he (heq ▸ rfl), rfl⟩
  | receive now clock j bytes =>
      by_cases hj : j = i
      · subst hj
        rw [Event.sentBy, if_pos rfl]
        refine ⟨hh.receive b now clock bytes, ?_⟩
        rw [List.flatMap_singleton, hh.hear, LineBuffer.feedAll, LineBuffer.feedAll,
          List.append_nil]
      · rw [Event.sentBy, if_neg hj]
        exact ⟨hh.receive_other hj b now clock bytes, rfl⟩
  | settle now clock => exact ⟨Holds.spread hh, rfl⟩
  | shutdown now clock => exact ⟨Holds.spread hh, rfl⟩
  | takeSent => exact ⟨hh.takeSent, rfl⟩

/-! ### What events do to it -/

/-- Of an open connection, what is derived is derived from its own bytes in order, whatever
    else happens. -/
theorem Holds.run (hh : h.Holds i user buffer) {events : List Event}
    (hopen : .close i ∉ events) :
    (h.run b events).Holds i user (buffer.feedAll (events.flatMap (·.sentBy i))).2 ∧
      h.derived b i events =
        (buffer.feedAll (events.flatMap (·.sentBy i))).1.filterMap (Demand.ofLine? user) := by
  -- the buffer carries an unfinished line from one event to the next
  induction events generalizing h buffer with
  | nil => exact ⟨hh, rfl⟩
  | cons e events ih =>
      rw [List.mem_cons, not_or] at hopen
      obtain ⟨hmet, hderived⟩ := hh.meet (b := b) (Ne.symm hopen.1)
      obtain ⟨hrun, hlater⟩ := ih hmet hopen.2
      rw [List.flatMap_cons, LineBuffer.feedAll_append, derived, hderived, hlater,
        List.filterMap_append]
      exact ⟨hrun, rfl⟩

/-- The connection is not closed while the events come, and they bring lines from it, cut
    anywhere. -/
def Sends (i : Nat) (events : List Event) (ls : List Line) : Prop :=
  .close i ∉ events ∧ (events.flatMap (·.sentBy i)).flatten = Line.stream ls

/-- What is derived from lines is derived from each by itself, and the connection stays. -/
theorem Holds.sends (hh : h.Holds i user {}) {events : List Event} {ls : List Line}
    (hs : Sends i events ls) :
    h.derived b i events = ls.flatMap (·.demands user) ∧ (h.run b events).Holds i user {} := by
  obtain ⟨hrun, hderived⟩ := hh.run (b := b) hs.1
  rw [LineBuffer.feedAll_lines hs.2] at hrun hderived
  rw [List.filterMap_flatMap] at hderived
  exact ⟨hderived, hrun⟩

end Daemon.Host

/-! ## A client -/

namespace Supervisor

variable {s : Supervisor} {buffer : LineBuffer}

/-- What an input brings from the daemon. -/
def Input.received : Input → List (List UInt8)
  | .receive bytes => [bytes]
  | _ => []

/-- The events that are reported, in order. -/
def reported (signs : List Sign) : List LinkEvent :=
  signs.filterMap fun | .reported e => some e | _ => none

theorem reported_append (signs later : List Sign) :
    reported (signs ++ later) = reported signs ++ reported later :=
  List.filterMap_append

theorem reported_map (events : List LinkEvent) : reported (events.map .reported) = events := by
  rw [reported, List.filterMap_map]
  exact List.filterMap_some

/-- On a connection, an input takes in what it brings, and reports what is derived from it. -/
theorem meet_of_joined (hs : s.stage = .joined buffer) {i : Input}
    (hi : ∀ now, i ≠ .disconnect now) :
    (s.meet i).2.stage = .joined (buffer.feedAll i.received).2 ∧
      reported (s.meet i).1 = (buffer.feedAll i.received).1.filterMap eventOf? := by
  have hconnected : s.isConnected = true := by rw [isConnected, hs]
  cases i with
  | attempt now reachable =>
      -- there is nothing to try while the connection lasts
      rw [meet, attempt, hs]
      exact ⟨hs, rfl⟩
  | receive bytes =>
      rw [meet, receive, hs, reported_map, Input.received, LineBuffer.feedAll, LineBuffer.feedAll,
        List.append_nil]
      exact ⟨rfl, rfl⟩
  | disconnect now => exact absurd rfl (hi now)
  | send r =>
      rw [meet, send, if_pos hconnected]
      exact ⟨hs, rfl⟩
  | write =>
      rw [meet, write?, hs]
      cases s.queue with
      | nil => exact ⟨hs, rfl⟩
      | cons r rest => exact ⟨rfl, rfl⟩

/-- What is reported while a connection lasts is derived from what it brings, in order. -/
theorem run_of_joined (hs : s.stage = .joined buffer) {inputs : List Input}
    (hlast : ∀ now, .disconnect now ∉ inputs) :
    (s.run inputs).2.stage = .joined (buffer.feedAll (inputs.flatMap (·.received))).2 ∧
      reported (s.run inputs).1 =
        (buffer.feedAll (inputs.flatMap (·.received))).1.filterMap eventOf? := by
  induction inputs generalizing s buffer with
  | nil => exact ⟨hs, rfl⟩
  | cons i inputs ih =>
      have hi : ∀ now, i ≠ .disconnect now := fun now heq => hlast now (heq ▸ List.mem_cons_self)
      obtain ⟨hmet, hreported⟩ := meet_of_joined hs hi
      obtain ⟨hrun, hlater⟩ := ih hmet fun now hmem => hlast now (List.mem_cons_of_mem _ hmem)
      rw [List.flatMap_cons, LineBuffer.feedAll_append, run, reported_append, hreported, hlater,
        List.filterMap_append]
      exact ⟨hrun, rfl⟩

/-- The connection lasts while the inputs come, and they bring lines, cut anywhere. -/
def Hears (inputs : List Input) (ls : List Line) : Prop :=
  (∀ now, .disconnect now ∉ inputs) ∧ (inputs.flatMap (·.received)).flatten = Line.stream ls

/-- What is reported of lines is derived from each by itself, and the connection stays. -/
theorem run_of_hears (hs : s.stage = .joined {}) {inputs : List Input} {ls : List Line}
    (h : Hears inputs ls) :
    reported (s.run inputs).1 = ls.flatMap (·.events) ∧
      (s.run inputs).2.stage = .joined {} := by
  obtain ⟨hrun, hreported⟩ := run_of_joined hs h.1
  rw [LineBuffer.feedAll_lines h.2] at hrun hreported
  rw [List.filterMap_flatMap] at hreported
  exact ⟨hreported, hrun⟩

end Supervisor

/-! ## Both ends -/

open Daemon (Backend Dummy Host)

/-- A line that is not too long may be put in anywhere between such lines, however their
    bytes are cut and whatever happens in between. At the daemon, on a connection that is
    new among any others: if the line is garbage, the same commands are derived; if it is
    an activation that cannot be read, there is the one command in its place that says so;
    and either way the connection stays and nothing is left of the lines. At a client, on
    a new connection: if the line is garbage, the same events are reported, and the
    connection stays. -/
theorem garbage_is_invisible {β : Type} (b : Backend β) (h : Host β) (user : Option UInt32)
    (s : Supervisor) (before after : List Line) (g : Line) :
    (∀ plain noisy, Host.Sends h.clients.length plain (before ++ after) →
      Host.Sends h.clients.length noisy (before ++ g :: after) →
      (g.GarbageToDaemon →
        (h.connect user).derived b h.clients.length noisy =
          (h.connect user).derived b h.clients.length plain) ∧
      (g.SpoiltActivation →
        (h.connect user).derived b h.clients.length plain =
            before.flatMap (·.demands user) ++ after.flatMap (·.demands user) ∧
          (h.connect user).derived b h.clients.length noisy =
            before.flatMap (·.demands user) ++
              .invalidActivation user :: after.flatMap (·.demands user)) ∧
      ((h.connect user).run b noisy).Holds h.clients.length user {}) ∧
    (s.stage = .joined {} → ∀ plain noisy, Supervisor.Hears plain (before ++ after) →
      Supervisor.Hears noisy (before ++ g :: after) →
      (g.GarbageToClient →
        Supervisor.reported (s.run noisy).1 = Supervisor.reported (s.run plain).1) ∧
      (s.run noisy).2.stage = .joined {}) := by
  constructor
  · intro plain noisy hplain hnoisy
    have hnew := h.holds_connect user
    obtain ⟨hplain, -⟩ := hnew.sends (b := b) hplain
    obtain ⟨hnoisy, hstays⟩ := hnew.sends (b := b) hnoisy
    rw [List.flatMap_append] at hplain
    rw [List.flatMap_append, List.flatMap_cons] at hnoisy
    refine ⟨fun hg => ?_, fun hg => ⟨hplain, ?_⟩, hstays⟩
    · rw [hnoisy, hplain, Line.demands_of_garbage hg, List.nil_append]
    · rw [hnoisy, Line.demands_of_spoilt hg]
      rfl
  · intro hs plain noisy hplain hnoisy
    obtain ⟨hplain, -⟩ := Supervisor.run_of_hears hs hplain
    obtain ⟨hnoisy, hstays⟩ := Supervisor.run_of_hears hs hnoisy
    refine ⟨fun hg => ?_, hstays⟩
    rw [hnoisy, hplain, List.flatMap_append, List.flatMap_append, List.flatMap_cons,
      Line.events_of_garbage hg, List.nil_append]

/-- A line that asks for the status. -/
def questionLine : Line where
  body := Text.toBytes "\x7b\"type\":\"status\"\x7d"
  whole := by decide +kernel
  fits := by decide +kernel

/-- A line that says that the tunnel is down. -/
def answerLine : Line where
  body := Text.toBytes "\x7b\"type\":\"disconnected\"\x7d"
  whole := by decide +kernel
  fits := by decide +kernel

/-- A line that is not UTF-8. -/
def brokenLine : Line where
  body := [0x37, 0xFF]
  whole := by decide +kernel
  fits := by decide +kernel

/-- A line that asks for a tunnel, but has no keys for it. -/
def keylessLine : Line where
  body := Text.toBytes "\x7b\"type\":\"activate\"\x7d"
  whole := by decide +kernel
  fits := by decide +kernel

theorem brokenLine_garbage : brokenLine.GarbageToDaemon ∧ brokenLine.GarbageToClient :=
  have hdemands : brokenLine.demands none = [] := by decide +kernel
  have hevents : brokenLine.events = [] := by decide +kernel
  ⟨Line.demands_eq_nil_iff.mp hdemands, Line.events_eq_nil_iff.mp hevents⟩

theorem keylessLine_spoilt : keylessLine.SpoiltActivation :=
  have hdemands : keylessLine.demands none = [.invalidActivation none] := by decide +kernel
  Line.demands_eq_invalidActivation_iff.mp hdemands

/-- Two questions with a line between them. One that is broken is passed over, though it
    comes in two pieces, and another client comes and asks in between; an activation
    without keys is taken note of. At a client, between two answers, the broken line is
    passed over as well. -/
theorem garbage_is_invisible_between_questions :
    let h : Host Dummy := { daemon := { keeper := { machine := {} } } }
    let broken : List Host.Event := [.receive 0 0 0 (questionLine.bytes ++ [0x37]),
      .connect none, .receive 5 0 1 questionLine.bytes,
      .receive 9 0 0 ([0xFF, LineBuffer.lineFeed] ++ questionLine.bytes)]
    let keyless : List Host.Event := [.receive 0 0 0 (questionLine.bytes ++ keylessLine.bytes),
      .settle 5 0, .receive 9 0 0 questionLine.bytes]
    let s : Supervisor := { stage := .joined {} }
    let inputs : List Supervisor.Input := [.receive (answerLine.bytes ++ [0x37]), .send .status,
      .receive ([0xFF, LineBuffer.lineFeed] ++ answerLine.bytes)]
    (h.connect (some 1000)).derived Dummy.backend 0 broken =
        [.request (some 1000) .status, .request (some 1000) .status] ∧
      (h.connect (some 1000)).derived Dummy.backend 0 keyless =
        [.request (some 1000) .status, .invalidActivation (some 1000),
          .request (some 1000) .status] ∧
      Supervisor.reported (s.run inputs).1 = [.message .disconnected, .message .disconnected] := by
  intro h broken keyless s inputs
  have hplain : Host.Sends 0 [.receive 0 0 0 (questionLine.bytes ++ questionLine.bytes)]
      ([questionLine] ++ [questionLine]) := ⟨by simp, by decide +kernel⟩
  obtain ⟨hdaemon, -⟩ := garbage_is_invisible Dummy.backend h (some 1000) s [questionLine]
    [questionLine] brokenLine
  obtain ⟨hspoilt, -⟩ := garbage_is_invisible Dummy.backend h (some 1000) s [questionLine]
    [questionLine] keylessLine
  obtain ⟨-, hclient⟩ := garbage_is_invisible Dummy.backend h (some 1000) s [answerLine]
    [answerLine] brokenLine
  obtain ⟨hunseen, -, -⟩ := hdaemon _ broken hplain ⟨by simp [broken], by decide +kernel⟩
  obtain ⟨-, hnoted, -⟩ := hspoilt _ keyless hplain ⟨by simp [keyless], by decide +kernel⟩
  obtain ⟨hunheard, -⟩ := hclient rfl [.receive (answerLine.bytes ++ answerLine.bytes)] inputs
    ⟨by simp, by decide +kernel⟩ ⟨by simp [inputs], by decide +kernel⟩
  refine ⟨(hunseen brokenLine_garbage.1).trans ?_, (hnoted keylessLine_spoilt).2.trans ?_,
    (hunheard brokenLine_garbage.2).trans ?_⟩
  · decide +kernel
  · decide +kernel
  · decide +kernel

end TunnelSession
