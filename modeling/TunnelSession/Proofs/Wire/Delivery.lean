/-
  TunnelSession.Proofs.Wire.Delivery

  Frames come through a stream that is cut anywhere. A frame is a JSON object on
  one line: no byte of the object is a line feed, and nothing of it is a blank that
  could be trimmed. So the lines of the stream are the frames, and each is heard as
  the object that was written.
-/
import TunnelSession.Proofs.Text.Trimming
import TunnelSession.Proofs.Text.Utf8
import TunnelSession.Proofs.Wire.Lines
import TunnelSession.Proofs.Wire.RoundTrip

namespace TunnelSession

/-! ## The bytes of a frame -/

namespace LineBuffer

open Json (writeValue writeMembers)

/-- The object of a frame stands on one line. -/
theorem lineFeed_not_mem_write (v : Json) : lineFeed ∉ Text.toBytes (Json.write v) := by
  rw [Json.write, Text.toBytes_ofList]
  intro h
  obtain ⟨c, hc, hmem⟩ := List.mem_flatMap.1 h
  have hprintable : 0x20 ≤ c.toNat := Json.printable_writeValue v c hc
  refine Text.lineFeed_not_mem_encoded (fun heq => ?_) hmem
  rw [heq] at hprintable
  exact absurd hprintable (by decide)

theorem toBytes_text (p : FrameParts) :
    Text.toBytes p.text = Text.toBytes (Json.write p.json) ++ [lineFeed] := by
  rw [FrameParts.text, Text.toBytes_append]
  rfl

theorem getLast?_writeMembers (members : List (String × Json)) :
    (writeMembers members).getLast? = some '\x7d' := by
  induction members with
  | nil => rw [writeMembers]; rfl
  | cons m members ih => rw [writeMembers, List.getLast?_append, ih]; rfl

/-- A frame is its object and a line feed, and trimming takes the latter away. -/
theorem trimmed_text (p : FrameParts) : Text.trimmed p.text = Json.write p.json := by
  have hvalue : writeValue p.json = '\x7b' :: (Json.writeText "type" ++
      ':' :: writeValue (.text p.kind)) ++ writeMembers p.fields := by
    rw [FrameParts.json, writeValue]
    rfl
  have htext : p.text.toList = [] ++ (writeValue p.json ++ ['\n']) := by
    rw [FrameParts.text, String.toList_append, Json.write, String.toList_ofList]
    rfl
  have hafter : Text.AllBlank ['\n'] := by
    intro c hc
    rw [List.mem_singleton.mp hc]
    rfl
  -- the object begins and ends with a brace
  rw [Text.trimmed, htext, Text.trim_around Text.allBlank_nil hafter, Json.write]
  · rw [hvalue]
    exact Text.stops_cons rfl
  · rw [Text.Stops, List.head?_reverse, hvalue, List.getLast?_append, getLast?_writeMembers]
    intro c hc
    rw [← Option.some.inj hc]
    rfl

/-- A frame that is not too long is heard as its object. -/
theorem heard_frame {p : FrameParts} (h : (Text.toBytes p.text).length ≤ maxFrameLength) :
    heard (Text.toBytes p.text) = [.ok (Json.write p.json)] := by
  have hjudge : judge (Text.toBytes p.text) = .ok (Json.write p.json) := by
    rw [judge, if_neg (Nat.not_lt.2 h), Text.ofBytes?_toBytes]
    exact congrArg Except.ok (trimmed_text p)
  have hsome : (Json.write p.json).isEmpty = false := by
    refine Bool.eq_false_iff.2 fun hempty => ?_
    obtain ⟨c, cs, htext, _⟩ := Json.writeValue_cons p.json
    have hnil := congrArg String.toList (String.isEmpty_iff.1 hempty)
    rw [Json.write, String.toList_ofList, htext] at hnil
    exact List.cons_ne_nil c cs hnil
  rw [toBytes_text, heard_line, ← toBytes_text, verdict, hjudge]
  simp only [hsome, Bool.false_eq_true, if_false]

/-! ## A stream of frames -/

/-- The bytes of frames, one after the other. -/
def stream (ps : List FrameParts) : List UInt8 :=
  ps.flatMap fun p => Text.toBytes p.text

/-- A frame is a line of the stream. -/
theorem stream_eq_linesOf (ps : List FrameParts) :
    stream ps = linesOf (ps.map fun p => Text.toBytes (Json.write p.json)) := by
  simp only [stream, linesOf, List.flatMap_map, toBytes_text]

theorem lineFeed_not_mem_objects (ps : List FrameParts) :
    ∀ body ∈ ps.map (fun p => Text.toBytes (Json.write p.json)), lineFeed ∉ body :=
  List.forall_mem_map.2 fun p _ => lineFeed_not_mem_write p.json

/-- The lines of a stream of frames are the frames. -/
theorem segments_stream (ps : List FrameParts) :
    segments (stream ps) = ps.map fun p => Text.toBytes p.text := by
  rw [stream_eq_linesOf, segments_linesOf (lineFeed_not_mem_objects ps), List.map_map]
  exact List.map_congr_left fun p _ => (toBytes_text p).symm

/-- Of a stream of frames that are not too long, their objects are heard. -/
theorem heard_stream {ps : List FrameParts}
    (h : ∀ p ∈ ps, (Text.toBytes p.text).length ≤ maxFrameLength) :
    (segments (stream ps)).flatMap heard = ps.map fun p => .ok (Json.write p.json) := by
  rw [segments_stream]
  induction ps with
  | nil => rfl
  | cons p ps ih =>
      rw [List.map_cons, List.flatMap_cons, heard_frame (h p List.mem_cons_self),
        ih fun q hq => h q (List.mem_cons_of_mem p hq)]
      rfl

theorem drain_stream_left (ps : List FrameParts) : (drain ⟨stream ps⟩).2 = {} := by
  rw [stream_eq_linesOf]
  exact drain_linesOf_left (lineFeed_not_mem_objects ps)

/-- Frames that are not too long come through, however their bytes are cut. -/
theorem takeIn_stream {ps : List FrameParts} {pieces : List (List UInt8)}
    (h : ∀ p ∈ ps, (Text.toBytes p.text).length ≤ maxFrameLength)
    (hpieces : pieces.flatten = stream ps) :
    takeIn {} pieces = (ps.map fun p => .ok (Json.write p.json), {}) := by
  have hshort : Short (stream ps) := by
    rw [Short, segments_stream]
    exact List.forall_mem_map.2 h
  rw [takeIn_eq_drain List.not_mem_nil (by rw [hpieces]; exact hshort), hpieces]
  exact Prod.ext ((drain_heard _).trans (heard_stream h)) (drain_stream_left ps)

/-! ## Messages -/

/-- Messages come through, however their bytes are cut: if no frame is too long, each
    line that is taken out is read as the message that was sent, in order and
    without a fault, and nothing is left. -/
def ComeThrough {α : Type} (frame : α → String) (read : String → Except FrameError α) : Prop :=
  ∀ (messages : List α) (pieces : List (List UInt8)),
    (∀ m ∈ messages, (Text.toBytes (frame m)).length ≤ maxFrameLength) →
    pieces.flatten = messages.flatMap (fun m => Text.toBytes (frame m)) →
    (takeIn {} pieces).1.map (·.bind read) = messages.map .ok ∧ (takeIn {} pieces).2.pending = 0

theorem comeThrough_of_read {α : Type} {parts : α → FrameParts}
    {read : String → Except FrameError α}
    (hread : ∀ m, read (Json.write (parts m).json) = .ok m) :
    ComeThrough (fun m => (parts m).text) read := by
  intro messages pieces hlength hpieces
  have htaken : takeIn {} pieces =
      ((messages.map parts).map fun p => .ok (Json.write p.json), {}) := by
    refine takeIn_stream (List.forall_mem_map.2 hlength) ?_
    rw [hpieces, stream, List.flatMap_map]
  rw [htaken, List.map_map, List.map_map]
  exact ⟨List.map_congr_left fun m _ => hread m, rfl⟩

/-- Requests and replies come through, however their bytes are cut. -/
theorem messages_come_through :
    ComeThrough Request.frame Request.read ∧ ComeThrough Reply.frame Reply.read :=
  ⟨comeThrough_of_read Request.read_json, comeThrough_of_read Reply.read_json⟩

/-- The bytes of frames, each a piece of its own. -/
def byteByByte (frames : List String) : List (List UInt8) :=
  (frames.flatMap Text.toBytes).map ([·])

theorem flatten_byteByByte (frames : List String) :
    (byteByByte frames).flatten = frames.flatMap Text.toBytes := by
  rw [byteByByte, ← List.flatMap_def, List.flatMap_singleton']

/-- Two requests, and two replies with a character of two bytes among them. -/
theorem messages_come_through_byte_by_byte :
    ((takeIn {} (byteByByte [Request.logs.frame, Request.deactivate.frame])).1.map
          (·.bind Request.read) = [.ok .logs, .ok .deactivate] ∧
        (takeIn {} (byteByByte [Request.logs.frame, Request.deactivate.frame])).2.pending = 0) ∧
      (takeIn {} (byteByByte [(Reply.logs "zoë\n").frame, Reply.disconnected.frame])).1.map
          (·.bind Reply.read) = [.ok (.logs "zoë\n"), .ok .disconnected] ∧
        (takeIn {} (byteByByte [(Reply.logs "zoë\n").frame, Reply.disconnected.frame])).2.pending =
          0 :=
  ⟨messages_come_through.1 [.logs, .deactivate] _ (by decide +kernel) (flatten_byteByByte _),
    messages_come_through.2 [.logs "zoë\n", .disconnected] _ (by decide +kernel)
      (flatten_byteByByte _)⟩

end LineBuffer

end TunnelSession
