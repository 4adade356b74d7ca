/-
  TunnelSession.Proofs.Wire.Garbage

  What either end of a connection makes of a line, whatever stands on it. A line is
  passed over in six cases, among them a payload that cannot be read; only of an
  activation the daemon takes note even then. As each line is judged by itself, those
  that are passed over leave no trace between the others, however the bytes arrive.
-/
import TunnelSession.Daemon.Host
import TunnelSession.Link.Supervisor
import TunnelSession.Proofs.Wire.Lines

namespace TunnelSession

namespace LineBuffer

/-- A line that is not too long, given by the bytes before its line feed. -/
structure Line where
  body : List UInt8
  whole : lineFeed ∉ body
  fits : body.length < maxFrameLength

namespace Line

variable {α : Type} {kinds answered : List String} {payload : String → Json → Option α} {l : Line}

def bytes (l : Line) : List UInt8 := l.body ++ [lineFeed]

/-! ## What stands on a line -/

/-- The text of a line without the blanks around it, if it is UTF-8. -/
def text? (l : Line) : Option String := (Text.ofBytes? l.bytes).map Text.trimmed

/-- The JSON value on a line. -/
def json? (l : Line) : Option Json := l.text?.bind Json.readSettled?

/-- The kind of message that the value on a line names. -/
def kind? (l : Line) : Option String :=
  (l.json?.bind (Json.member? "type")).bind Json.text?

/-- A line that a reader passes over, who takes frames of some kinds. Of the kinds that
    are to be answered, a payload that cannot be read is not passed over. -/
inductive Garbage (kinds : List String) (payload : String → Json → Option α)
    (answered : List String) (l : Line) : Prop
  | notUtf8 (h : l.text? = none)
  | blank (h : l.text? = some "")
  | notObject (h : ∀ members, l.json? ≠ some (.object members))
  | noType (h : l.kind? = none)
  | unknownType {kind : String} (h : l.kind? = some kind) (hkind : kind ∉ kinds)
  | badPayload {kind : String} {frame : Json} (h : l.kind? = some kind) (hkind : kind ∈ kinds)
      (hframe : l.json? = some frame) (hbad : payload kind frame = none) (hanswer : kind ∉ answered)

/-- A line with a frame of a kind whose payload cannot be read. -/
def Spoilt (kinds : List String) (payload : String → Json → Option α) (kind : String)
    (l : Line) : Prop :=
  l.kind? = some kind ∧ kind ∈ kinds ∧ ∃ frame, l.json? = some frame ∧ payload kind frame = none

/-- A line with the frame of a message. -/
def Means (kinds : List String) (payload : String → Json → Option α) (message : α)
    (l : Line) : Prop :=
  ∃ kind frame, l.kind? = some kind ∧ kind ∈ kinds ∧ l.json? = some frame ∧
    payload kind frame = some message

theorem exists_json?_of_kind? {kind : String} (h : l.kind? = some kind) :
    ∃ frame, l.json? = some frame := by
  unfold kind? at h
  cases hframe : l.json? with
  | none => rw [hframe] at h; cases h
  | some frame => exact ⟨frame, rfl⟩

/-- There is no other line. -/
theorem fate (kinds : List String) (payload : String → Json → Option α) (answered : List String)
    (l : Line) :
    l.Garbage kinds payload answered ∨ (∃ kind ∈ answered, l.Spoilt kinds payload kind) ∨
      ∃ message, l.Means kinds payload message := by
  cases h : l.kind? with
  | none => exact .inl (.noType h)
  | some kind =>
      by_cases hkind : kind ∈ kinds
      · obtain ⟨frame, hframe⟩ := exists_json?_of_kind? h
        cases hread : payload kind frame with
        | some message => exact .inr (.inr ⟨message, kind, frame, h, hkind, hframe, hread⟩)
        | none =>
            by_cases hanswer : kind ∈ answered
            · exact .inr (.inl ⟨kind, hanswer, h, hkind, frame, hframe, hread⟩)
            · exact .inl (.badPayload h hkind hframe hread hanswer)
      · exact .inl (.unknownType h hkind)

/-! ## What is heard and read of it -/

theorem readSettled?_empty : Json.readSettled? "" = none := by decide +kernel

theorem heard_bytes (l : Line) : heard l.bytes =
    match l.text? with
    | none => [.error .notUtf8]
    | some text => if text.isEmpty then [] else [.ok text] := by
  have hfits : ¬ maxFrameLength < (l.body ++ [lineFeed]).length := by
    have hbody := l.fits
    rw [List.length_append, List.length_singleton]
    omega
  rw [text?, bytes, heard_line, verdict, judge, if_neg hfits]
  cases Text.ofBytes? (l.body ++ [lineFeed]) <;> rfl

/-- A line that names no kind is not read, and not for its payload. -/
theorem read_of_no_kind (h : l.kind? = none) (payload : String → Json → Option α) :
    ∀ x ∈ heard l.bytes, ∃ e, x.bind (readFrame kinds payload) = .error e ∧
      ∀ kind, e ≠ .invalidPayload kind := by
  rw [heard_bytes]
  unfold kind? json? at h
  cases htext : l.text? with
  | none =>
      intro x hx
      rw [List.mem_singleton.mp hx]
      exact ⟨.notUtf8, rfl, nofun⟩
  | some text =>
      rw [htext, Option.bind_some] at h
      dsimp only
      split
      · nofun
      · intro x hx
        rw [List.mem_singleton.mp hx, Except.bind, readFrame]
        split
        · exact ⟨.notJson, rfl, nofun⟩
        · -- an object, so that it is the type that is missing
          next members hframe =>
          rw [hframe, Option.bind_some] at h
          exact ⟨.missingType, by rw [h], nofun⟩
        · exact ⟨.notObject, rfl, nofun⟩

/-- A line that names a kind is read by its kind and its payload. -/
theorem read_of_kind {kind : String} {frame : Json} (h : l.kind? = some kind)
    (hframe : l.json? = some frame) (kinds : List String) (payload : String → Json → Option α) :
    ∃ text, heard l.bytes = [.ok text] ∧ readFrame kinds payload text =
      if kind ∈ kinds then
        match payload kind frame with
        | some message => .ok message
        | none => .error (.invalidPayload kind)
      else .error (.unknownType kind) := by
  rw [kind?, hframe, Option.bind_some] at h
  obtain ⟨text, htext, hread⟩ := Option.bind_eq_some_iff.mp hframe
  have hsome : text.isEmpty = false := by
    refine Bool.eq_false_iff.mpr fun hempty => ?_
    rw [String.isEmpty_iff.mp hempty, readSettled?_empty] at hread
    cases hread
  refine ⟨text, ?_, ?_⟩
  · rw [heard_bytes, htext]
    simp only [hsome, Bool.false_eq_true, if_false]
  · -- only an object has members
    cases frame with
    | object members => rw [readFrame, hread]; simp only [h]; rfl
    | _ => cases h

theorem Garbage.read (h : l.Garbage kinds payload answered) :
    ∀ x ∈ heard l.bytes, ∃ e, x.bind (readFrame kinds payload) = .error e ∧
      ∀ kind ∈ answered, e ≠ .invalidPayload kind := by
  -- in four of the cases no kind is named
  have hnone (h : l.kind? = none) : ∀ x ∈ heard l.bytes,
      ∃ e, x.bind (readFrame kinds payload) = .error e ∧
        ∀ kind ∈ answered, e ≠ .invalidPayload kind := by
    intro x hx
    obtain ⟨e, hread, hother⟩ := read_of_no_kind h payload x hx
    exact ⟨e, hread, fun kind _ => hother kind⟩
  cases h with
  | notUtf8 h => exact hnone (by rw [kind?, json?, h]; rfl)
  | blank h => exact hnone (by rw [kind?, json?, h, Option.bind_some, readSettled?_empty]; rfl)
  | notObject h =>
      refine hnone ?_
      rw [kind?]
      cases hframe : l.json? with
      | none => rfl
      | some frame =>
          cases frame with
          | object members => exact absurd hframe (h members)
          | _ => rfl
  | noType h => exact hnone h
  | unknownType h hkind =>
      obtain ⟨frame, hframe⟩ := exists_json?_of_kind? h
      obtain ⟨text, hheard, hread⟩ := read_of_kind h hframe kinds payload
      rw [if_neg hkind] at hread
      intro x hx
      rw [hheard, List.mem_singleton] at hx
      exact ⟨.unknownType _, by rw [hx]; exact hread, fun _ _ heq => nomatch heq⟩
  | badPayload h hkind hframe hbad hanswer =>
      obtain ⟨text, hheard, hread⟩ := read_of_kind h hframe kinds payload
      rw [if_pos hkind, hbad] at hread
      intro x hx
      rw [hheard, List.mem_singleton] at hx
      refine ⟨.invalidPayload _, by rw [hx]; exact hread, fun kind hmem heq => hanswer ?_⟩
      rw [FrameError.invalidPayload.inj heq]
      exact hmem

theorem Spoilt.read {kind : String} (h : l.Spoilt kinds payload kind) :
    ∃ text, heard l.bytes = [.ok text] ∧
      readFrame kinds payload text = .error (.invalidPayload kind) := by
  obtain ⟨hkind, hmem, frame, hframe, hbad⟩ := h
  obtain ⟨text, hheard, hread⟩ := read_of_kind hkind hframe kinds payload
  rw [if_pos hmem, hbad] at hread
  exact ⟨text, hheard, hread⟩

theorem Means.read {message : α} (h : l.Means kinds payload message) :
    ∃ text, heard l.bytes = [.ok text] ∧ readFrame kinds payload text = .ok message := by
  obtain ⟨kind, frame, hkind, hmem, hframe, hgood⟩ := h
  obtain ⟨text, hheard, hread⟩ := read_of_kind hkind hframe kinds payload
  rw [if_pos hmem, hgood] at hread
  exact ⟨text, hheard, hread⟩

/-! ## What either end derives from it -/

open Daemon (Demand)

/-- A line that the daemon passes over. -/
abbrev GarbageToDaemon (l : Line) : Prop :=
  l.Garbage Request.kinds Request.ofPayload? ["activate"]

/-- A line that asks for a tunnel, but does not say which. -/
abbrev SpoiltActivation (l : Line) : Prop := l.Spoilt Request.kinds Request.ofPayload? "activate"

/-- A line that a client passes over. -/
abbrev GarbageToClient (l : Line) : Prop := l.Garbage Reply.kinds Reply.ofPayload? []

/-- The commands that the daemon derives from a line. -/
def demands (user : Option UInt32) (l : Line) : List Demand :=
  (heard l.bytes).filterMap (Demand.ofLine? user)

/-- The events that a client derives from a line. -/
def events (l : Line) : List LinkEvent := (heard l.bytes).filterMap Supervisor.eventOf?

variable {user : Option UInt32}

theorem demands_of_garbage (h : l.GarbageToDaemon) : l.demands user = [] := by
  refine List.filterMap_eq_nil_iff.mpr fun x hx => ?_
  obtain ⟨e, hread, hanswer⟩ := h.read x hx
  cases x with
  | error => rfl
  | ok text =>
      have hread : Request.read text = .error e := hread
      rw [Demand.ofLine?, hread]
      split
      · next heq => cases heq
      · next heq => exact absurd (Except.error.inj heq) (hanswer _ (List.mem_singleton_self _))
      · rfl

theorem demands_of_spoilt (h : l.SpoiltActivation) :
    l.demands user = [.invalidActivation user] := by
  obtain ⟨text, hheard, hread⟩ := h.read
  have hread : Request.read text = .error (.invalidPayload "activate") := hread
  rw [demands, hheard, List.filterMap_cons, Demand.ofLine?, hread]
  rfl

theorem demands_of_request {r : Request} (h : l.Means Request.kinds Request.ofPayload? r) :
    l.demands user = [.request user r] := by
  obtain ⟨text, hheard, hread⟩ := h.read
  have hread : Request.read text = .ok r := hread
  rw [demands, hheard, List.filterMap_cons, Demand.ofLine?, hread]
  rfl

/-- The daemon passes over garbage and nothing else. -/
theorem demands_eq_nil_iff : l.demands user = [] ↔ l.GarbageToDaemon := by
  refine ⟨fun h => ?_, demands_of_garbage⟩
  rcases l.fate Request.kinds Request.ofPayload? ["activate"] with
    hgarbage | ⟨kind, hkind, hspoilt⟩ | ⟨r, hr⟩
  · exact hgarbage
  · obtain rfl := List.mem_singleton.mp hkind
    exact absurd ((demands_of_spoilt hspoilt).symm.trans h) (List.cons_ne_nil _ _)
  · exact absurd ((demands_of_request hr).symm.trans h) (List.cons_ne_nil _ _)

/-- The daemon takes note of an activation that cannot be read, and of nothing else. -/
theorem demands_eq_invalidActivation_iff :
    l.demands user = [.invalidActivation user] ↔ l.SpoiltActivation := by
  refine ⟨fun h => ?_, demands_of_spoilt⟩
  rcases l.fate Request.kinds Request.ofPayload? ["activate"] with
    hgarbage | ⟨kind, hkind, hspoilt⟩ | ⟨r, hr⟩
  · exact absurd (h.symm.trans (demands_of_garbage hgarbage)) (List.cons_ne_nil _ _)
  · obtain rfl := List.mem_singleton.mp hkind
    exact hspoilt
  · cases (demands_of_request hr).symm.trans h

theorem events_of_garbage (h : l.GarbageToClient) : l.events = [] := by
  refine List.filterMap_eq_nil_iff.mpr fun x hx => ?_
  obtain ⟨e, hread, -⟩ := h.read x hx
  cases x with
  | error => rfl
  | ok text =>
      have hread : Reply.read text = .error e := hread
      rw [Supervisor.eventOf?, hread]
      rfl

theorem events_of_reply {r : Reply} (h : l.Means Reply.kinds Reply.ofPayload? r) :
    l.events = [.message r] := by
  obtain ⟨text, hheard, hread⟩ := h.read
  have hread : Reply.read text = .ok r := hread
  rw [events, hheard, List.filterMap_cons, Supervisor.eventOf?, hread]
  rfl

/-- A client passes over garbage and nothing else. -/
theorem events_eq_nil_iff : l.events = [] ↔ l.GarbageToClient := by
  refine ⟨fun h => ?_, events_of_garbage⟩
  rcases l.fate Reply.kinds Reply.ofPayload? [] with hgarbage | ⟨kind, hkind, -⟩ | ⟨r, hr⟩
  · exact hgarbage
  · exact absurd hkind List.not_mem_nil
  · exact absurd ((events_of_reply hr).symm.trans h) (List.cons_ne_nil _ _)

-- a blank line, one that is not UTF-8, a number, an object without a type, an unknown type
-- and the name of a reply, between a question and an activation that cannot be read
example :
    (drain ⟨Text.toBytes "\x7b\"type\":\"status\"\x7d\n \t\n" ++ [0xFF, lineFeed] ++
      Text.toBytes "7\n\x7b\x7d\n\x7b\"type\":\"stop\"\x7d\n\x7b\"type\":\"connected\"\x7d\n" ++
      Text.toBytes "\x7b\"type\":\"activate\"\x7d\n"⟩).1.filterMap (Demand.ofLine? (some 7)) =
    [.request (some 7) .status, .invalidActivation (some 7)] := by
  decide +kernel

/-! ## A stream of lines -/

/-- The bytes of lines, one after the other. -/
def stream (ls : List Line) : List UInt8 := linesOf (ls.map body)

theorem lineFeed_not_mem_bodies (ls : List Line) : ∀ b ∈ ls.map body, lineFeed ∉ b :=
  List.forall_mem_map.mpr fun l _ => l.whole

theorem segments_stream (ls : List Line) : segments (stream ls) = ls.map bytes := by
  rw [stream, segments_linesOf (lineFeed_not_mem_bodies ls), List.map_map]
  rfl

theorem short_stream (ls : List Line) : Short (stream ls) := by
  rw [Short, segments_stream]
  refine List.forall_mem_map.mpr fun l _ => ?_
  rw [bytes, List.length_append]
  exact l.fits

theorem drain_stream (ls : List Line) : drain ⟨stream ls⟩ = (ls.flatMap (heard ·.bytes), {}) := by
  refine Prod.ext ?_ (drain_linesOf_left (lineFeed_not_mem_bodies ls))
  rw [drain_heard, segments_stream, List.flatMap_map]

end Line

/-! ## Bytes as they are sent -/

/-- Takes in what is sent, one sending after the other. -/
def feedAll (b : LineBuffer) : List (List UInt8) → List (Except FrameError String) × LineBuffer
  | [] => ([], b)
  | bytes :: later =>
    let fed := b.feed bytes
    let rest := fed.2.feedAll later
    (fed.1 ++ rest.1, rest.2)

theorem takeIn_append (b : LineBuffer) (pieces later : List (List UInt8)) :
    b.takeIn (pieces ++ later) =
      ((b.takeIn pieces).1 ++ ((b.takeIn pieces).2.takeIn later).1,
        ((b.takeIn pieces).2.takeIn later).2) := by
  induction pieces generalizing b with
  | nil => rfl
  | cons piece pieces ih => simp only [List.cons_append, takeIn, ih, List.append_assoc]

theorem feedAll_append (b : LineBuffer) (sendings later : List (List UInt8)) :
    b.feedAll (sendings ++ later) =
      ((b.feedAll sendings).1 ++ ((b.feedAll sendings).2.feedAll later).1,
        ((b.feedAll sendings).2.feedAll later).2) := by
  induction sendings generalizing b with
  | nil => rfl
  | cons bytes sendings ih => simp only [List.cons_append, feedAll, ih, List.append_assoc]

/-- What is sent arrives in pieces. -/
theorem feedAll_eq_takeIn (b : LineBuffer) (sendings : List (List UInt8)) :
    ∃ pieces, pieces.flatten = sendings.flatten ∧ b.feedAll sendings = b.takeIn pieces := by
  induction sendings generalizing b with
  | nil => exact ⟨[], rfl, rfl⟩
  | cons bytes sendings ih =>
      obtain ⟨pieces, hflat, hfeed⟩ := feed_eq_takeIn b bytes
      obtain ⟨later, hlater, hrest⟩ := ih (b.feed bytes).2
      refine ⟨pieces ++ later, ?_, ?_⟩
      · rw [List.flatten_append, hflat, hlater, List.flatten_cons]
      · rw [takeIn_append, ← hfeed, ← hrest]
        rfl

/-- However lines are sent, each is heard as it is, and nothing is left of them. -/
theorem feedAll_lines {sendings : List (List UInt8)} {ls : List Line}
    (h : sendings.flatten = Line.stream ls) :
    feedAll {} sendings = (ls.flatMap (heard ·.bytes), {}) := by
  -- no line is too long, so the pieces that arrive may as well be one
  obtain ⟨pieces, hflat, hfeed⟩ := feedAll_eq_takeIn {} sendings
  rw [h] at hflat
  rw [hfeed, takeIn_eq_drain List.not_mem_nil (by rw [hflat]; exact Line.short_stream ls), hflat]
  exact Line.drain_stream ls

end LineBuffer

end TunnelSession
