/-
  TunnelSession.Proofs.Wire.Limits

  What becomes of frames that are too long. Only the reader knows the limit: whoever
  writes a frame writes all of it. Most frames are short, but a log has as many bytes as
  its lines, and a request for a tunnel as many as its ranges. One within the limit is
  heard as it was written, and one beyond it is lost.
-/
import TunnelSession.Proofs.Control.Handlers
import TunnelSession.Proofs.Net.Count
import TunnelSession.Proofs.Wire.Pieces
import TunnelSession.Proofs.Wire.Sizes

namespace TunnelSession

open Json (escapedLength)

/-! ## Ranges of a request -/

/-- The ranges of a tunnel to a server are those that are not excluded. -/
theorem Controller.tunnelTo_ranges {c : Controller} {server : Server} {config : TunnelConfig}
    (h : c.tunnelTo server = .ok config) :
    ∃ gateway4 gateway6, config.ranges = Net.allowedRanges gateway4 gateway6 c.tuning.excluded := by
  unfold tunnelTo at h
  split at h
  · cases h
  · next gateway4 _ => exact ⟨gateway4, _, congrArg TunnelConfig.ranges (eq_of_validated h).1⟩

/-- A request for a tunnel has the bytes of its texts, at most 27048 for each excluded
    range, and at most 92512 more. -/
theorem Controller.length_frame_tunnelTo_le {c : Controller} {server : Server}
    {config : TunnelConfig} (h : c.tunnelTo server = .ok config) :
    (Text.toBytes (Request.activate config).frame).length ≤
      config.textsLength + 27048 * c.tuning.excluded.length + 92512 := by
  obtain ⟨gateway4, gateway6, hranges⟩ := tunnelTo_ranges h
  have hcount := Net.length_allowedRanges_le gateway4 gateway6 c.tuning.excluded
  have hframe := length_frame_activate_le config
  rw [hranges] at hframe
  omega

/-! ## Lines of a log -/

/-- A log has at most as many bytes as its longest line, taken once for each line, with
    what is around them. -/
theorem length_frame_logs_le {log : Daemon.LogBuffer} {width : Nat}
    (h : ∀ line ∈ log.lines, escapedLength line.toList ≤ width) :
    (Text.toBytes (Reply.logs log.contents).frame).length ≤
      log.lines.length * (width + 2) + 26 := by
  have hlines := List.sum_le_card_nsmul (log.lines.map fun line => escapedLength line.toList + 2)
    (width + 2) (List.forall_mem_map.mpr fun line hline => Nat.add_le_add_right (h line hline) 2)
  rw [List.length_map] at hlines
  rw [length_frame_logs]
  exact Nat.add_le_add_right hlines 26

namespace LineBuffer

/-! ## Frames -/

/-- A frame is heard as its message, in whatever pieces it comes. -/
def IsHeard {α : Type} (frame : String) (read : String → Except FrameError α) (m : α) : Prop :=
  ∀ pieces : List (List UInt8), pieces.flatten = Text.toBytes frame →
    (takeIn {} pieces).1.map (·.bind read) = [.ok m]

/-- The first that is heard of a frame, in whatever pieces it comes, is that it is too
    long. -/
def IsRefused (frame : String) : Prop :=
  ∀ pieces : List (List UInt8), pieces.flatten = Text.toBytes frame →
    (takeIn {} pieces).1.head? = some (.error .tooLong)

section Frame

variable {α : Type} {p : FrameParts} {read : String → Except FrameError α} {m : α}

theorem stream_singleton (p : FrameParts) : stream [p] = Text.toBytes p.text := by
  rw [stream, List.flatMap_singleton]

theorem isHeard_of_short (hread : read (Json.write p.json) = .ok m)
    (hshort : (Text.toBytes p.text).length ≤ maxFrameLength) : IsHeard p.text read m := by
  intro pieces hpieces
  have htaken : takeIn {} pieces = ([.ok (Json.write p.json)], {}) :=
    takeIn_stream (List.forall_mem_singleton.mpr hshort) (hpieces.trans (stream_singleton p).symm)
  rw [htaken, List.map_singleton, ← hread]
  rfl

theorem isRefused_of_long (hlong : maxFrameLength < (Text.toBytes p.text).length) :
    IsRefused p.text := by
  intro pieces hpieces
  obtain ⟨parts, htaken, hparts⟩ :=
    takeIn_heardAs (b := {}) List.not_mem_nil (Nat.zero_le _) pieces
  -- the frame is the only line
  have hsegments : segments ([] ++ pieces.flatten) = [Text.toBytes p.text] := by
    rw [List.nil_append, hpieces, ← stream_singleton, segments_stream, List.map_singleton,
      stream_singleton]
  rw [hsegments] at hparts
  obtain ⟨said, rest, htorn, hrest, rfl⟩ := List.forall₂_cons_left_iff.mp hparts
  cases hrest
  rw [htaken, List.flatten_cons, List.flatten_nil, List.append_nil]
  exact htorn.head? hlong

/-- A frame is heard if it is not too long, and only then. -/
theorem isHeard_iff (hread : read (Json.write p.json) = .ok m) :
    IsHeard p.text read m ↔ (Text.toBytes p.text).length ≤ maxFrameLength := by
  refine ⟨fun hheard => ?_, isHeard_of_short hread⟩
  by_contra hlong
  have hwhole : [Text.toBytes p.text].flatten = Text.toBytes p.text := List.flatten_singleton
  have hfirst := isRefused_of_long (Nat.lt_of_not_le hlong) _ hwhole
  have hmessage := hheard _ hwhole
  -- what is heard first would be the message and the refusal
  cases hsaid : (takeIn {} [Text.toBytes p.text]).1 with
  | nil =>
      rw [hsaid] at hfirst
      cases hfirst
  | cons first rest =>
      rw [hsaid] at hfirst hmessage
      obtain rfl := Option.some.inj hfirst
      cases hmessage

/-- A frame that is too long and comes at once is not heard at all. -/
theorem drain_long_frame (hlong : maxFrameLength < (Text.toBytes p.text).length) :
    (drain ⟨Text.toBytes p.text⟩).1 = [.error .tooLong] := by
  rw [drain_heard, ← stream_singleton, segments_stream, List.map_singleton,
    List.flatMap_singleton, heard_of_long hlong]

end Frame

/-- A log or a request for a tunnel is heard just if it is not too long, and is refused
    if it is. A log of 2000 lines is heard if none of them takes more than 522 bytes, and
    a request if at most 32 ranges are excluded and its texts take at most 65536 bytes. -/
theorem frames_are_heard_up_to_the_limit (log : Daemon.LogBuffer) (c : Controller)
    (server : Server) :
    ((IsHeard (Reply.logs log.contents).frame Reply.read (.logs log.contents) ↔
        (log.lines.map fun line => escapedLength line.toList + 2).sum + 26 ≤ maxFrameLength) ∧
      (maxFrameLength < (log.lines.map fun line => escapedLength line.toList + 2).sum + 26 →
        IsRefused (Reply.logs log.contents).frame) ∧
      (log.lines.length ≤ 2000 → (∀ line ∈ log.lines, escapedLength line.toList ≤ 522) →
        IsHeard (Reply.logs log.contents).frame Reply.read (.logs log.contents))) ∧
    ∀ config, c.tunnelTo server = .ok config →
      (IsHeard (Request.activate config).frame Request.read (.activate config) ↔
        (Text.toBytes (Request.activate config).frame).length ≤ maxFrameLength) ∧
      (maxFrameLength < (Text.toBytes (Request.activate config).frame).length →
        IsRefused (Request.activate config).frame) ∧
      (c.tuning.excluded.length ≤ 32 → config.textsLength ≤ 65536 →
        IsHeard (Request.activate config).frame Request.read (.activate config)) := by
  refine ⟨?_, fun config h => ?_⟩
  · have hsize := length_frame_logs log
    have hheard := isHeard_iff (Reply.read_json (.logs log.contents))
    refine ⟨?_, fun hlong => isRefused_of_long (hsize.symm ▸ hlong), fun hmany hwide => ?_⟩
    · rw [← hsize]
      exact hheard
    · have hframe := length_frame_logs_le hwide
      have hlines : log.lines.length * 524 ≤ 2000 * 524 := Nat.mul_le_mul_right 524 hmany
      refine hheard.mpr ?_
      show (Text.toBytes (Reply.logs log.contents).frame).length ≤ 1048576
      omega
  · have hheard := isHeard_iff (Request.read_json (.activate config))
    refine ⟨hheard, isRefused_of_long, fun hfew hshort => hheard.mpr ?_⟩
    have hframe := Controller.length_frame_tunnelTo_le h
    show (Text.toBytes (Request.activate config).frame).length ≤ 1048576
    omega

theorem length_frame_one_line (line : String) :
    (Text.toBytes (Reply.logs (({} : Daemon.LogBuffer).pushLine line).contents).frame).length =
      escapedLength line.toList + 28 := by
  have hlines : (({} : Daemon.LogBuffer).pushLine line).lines = [line] := rfl
  rw [length_frame_logs, hlines, List.map_singleton, List.sum_singleton]

/-- A log with one line of as many bytes as a frame may have: asked for the log, the
    daemon sends a frame that is too long, and the client hears nothing of it. -/
theorem full_log_is_not_heard :
    let log := ({} : Daemon.LogBuffer).pushLine
      (String.ofList (List.replicate maxFrameLength 'a'))
    maxFrameLength < (Text.toBytes (Reply.logs log.contents).frame).length ∧
      (drain ⟨Text.toBytes (Reply.logs log.contents).frame⟩).1 = [.error .tooLong] := by
  intro log
  have hline : escapedLength (List.replicate maxFrameLength 'a') = maxFrameLength := by
    have hone : Json.escapedSize 'a' = 1 := by decide
    rw [escapedLength, List.map_replicate, hone, List.sum_replicate_nat, Nat.mul_one]
  have hlong : maxFrameLength < (Text.toBytes (Reply.logs log.contents).frame).length := by
    rw [length_frame_one_line, String.toList_ofList, hline]
    exact Nat.lt_add_of_pos_right (by decide)
  exact ⟨hlong, drain_long_frame hlong⟩

end LineBuffer

end TunnelSession
