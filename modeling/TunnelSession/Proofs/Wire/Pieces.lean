/-
  TunnelSession.Proofs.Wire.Pieces

  What is heard of a stream that arrives in pieces. A line that is not too long is
  heard as it is, wherever the stream was cut. One that is too long is reported; but
  bytes that already are too many while their line feed is still to come are given
  up at once, and what then comes of the line is heard as a line of its own.
-/
import TunnelSession.Proofs.Wire.Lines
import Mathlib.Data.List.Forall2

namespace TunnelSession.LineBuffer

/-- What may be heard of a line: parts at its start that are too long are given up
    and reported, and the rest of it is heard. -/
def Torn (segment : List UInt8) (said : List (Except FrameError String)) : Prop :=
  ∃ (parts : List (List UInt8)) (rest : List UInt8), segment = parts.flatten ++ rest ∧
    (∀ part ∈ parts, maxFrameLength < part.length) ∧
    said = List.replicate parts.length (.error .tooLong) ++ heard rest

/-- A line can be heard as it is. -/
theorem torn_heard (segment : List UInt8) : Torn segment (heard segment) :=
  ⟨[], segment, rfl, nofun, rfl⟩

/-- A part that is too long is given up before the rest of its line is heard. -/
theorem Torn.give_up {part segment : List UInt8} {said : List (Except FrameError String)}
    (h : Torn segment said) (hpart : maxFrameLength < part.length) :
    Torn (part ++ segment) (.error .tooLong :: said) := by
  obtain ⟨parts, rest, rfl, hparts, rfl⟩ := h
  refine ⟨part :: parts, rest, ?_, List.forall_mem_cons.mpr ⟨hpart, hparts⟩, rfl⟩
  rw [List.flatten_cons, List.append_assoc]

/-- A line that is not too long is heard as it is. -/
theorem Torn.eq_heard {segment : List UInt8} {said : List (Except FrameError String)}
    (h : Torn segment said) (hshort : segment.length ≤ maxFrameLength) : said = heard segment := by
  obtain ⟨parts, rest, rfl, hparts, rfl⟩ := h
  cases parts with
  | nil => rfl
  | cons part parts =>
      have hpart : maxFrameLength < part.length := hparts part List.mem_cons_self
      simp only [List.flatten_cons, List.length_append] at hshort
      omega

/-- The first that is heard of a line that is too long is that it is. -/
theorem Torn.head? {segment : List UInt8} {said : List (Except FrameError String)}
    (h : Torn segment said) (hlong : maxFrameLength < segment.length) :
    said.head? = some (.error .tooLong) := by
  obtain ⟨parts, rest, rfl, hparts, rfl⟩ := h
  cases parts with
  | nil =>
      have hrest : heard rest = [.error .tooLong] := heard_of_long hlong
      rw [hrest]
      rfl
  | cons part parts => rfl

/-- What is heard of the lines of a stream, one after the other. -/
def HeardAs (bytes : List UInt8) (said : List (Except FrameError String)) : Prop :=
  ∃ parts : List (List (Except FrameError String)),
    said = parts.flatten ∧ List.Forall₂ Torn (segments bytes) parts

theorem HeardAs.line {body later : List UInt8} {said : List (Except FrameError String)}
    (h : HeardAs later said) (hfeed : lineFeed ∉ body) :
    HeardAs (body ++ lineFeed :: later) (heard (body ++ [lineFeed]) ++ said) := by
  obtain ⟨parts, rfl, hparts⟩ := h
  refine ⟨heard (body ++ [lineFeed]) :: parts, rfl, ?_⟩
  rw [segments_line hfeed]
  exact .cons (torn_heard _) hparts

/-- Bytes that are given up before their line feed comes belong to the next line. -/
theorem HeardAs.give_up {bytes later : List UInt8} {said : List (Except FrameError String)}
    (h : HeardAs later said) (hfeed : lineFeed ∉ bytes) (hlong : maxFrameLength < bytes.length) :
    HeardAs (bytes ++ later) (.error .tooLong :: said) := by
  obtain ⟨parts, rfl, hparts⟩ := h
  -- what is given up is all that is left, or the start of the first line after it
  cases hlater : segments later with
  | nil =>
      have hnil : later = [] := by rw [← flatten_segments later, hlater]; rfl
      have hne : bytes ≠ [] := List.ne_nil_of_length_pos (Nat.zero_lt_of_lt hlong)
      rw [hlater] at hparts
      cases hparts
      refine ⟨[[.error .tooLong]], rfl, ?_⟩
      rw [hnil, List.append_nil, segments_of_not_mem hfeed hne, ← heard_of_long hlong]
      exact .cons (torn_heard bytes) .nil
  | cons s rest =>
      rw [hlater] at hparts
      obtain ⟨first, others, htorn, hrest, rfl⟩ := List.forall₂_cons_left_iff.mp hparts
      refine ⟨(.error .tooLong :: first) :: others, rfl, ?_⟩
      rw [segments_append_cons hfeed hlater]
      exact .cons (htorn.give_up hlong) hrest

/-- What is heard of a piece, and then of what is left of it with the bytes after
    it, is heard of the whole. -/
theorem HeardAs.drain {bytes later : List UInt8} {said : List (Except FrameError String)}
    (h : HeardAs ((LineBuffer.drain ⟨bytes⟩).2.bytes ++ later) said) :
    HeardAs (bytes ++ later) ((LineBuffer.drain ⟨bytes⟩).1 ++ said) := by
  induction bytes using line_induction with
  | rest bytes hfeed =>
      rw [drain_of_not_mem hfeed] at h ⊢
      by_cases hlong : maxFrameLength < bytes.length
      · rw [if_pos hlong] at h
        rw [heard_of_long hlong]
        exact h.give_up hfeed hlong
      · rw [if_neg hlong] at h
        rw [heard, if_neg hfeed, if_neg hlong]
        exact h
  | line body rest hfeed ih =>
      rw [drain_line hfeed] at h ⊢
      rw [List.append_assoc, List.append_assoc, List.cons_append]
      exact (ih h).line hfeed

theorem takeIn_heardAs {b : LineBuffer} (hb : lineFeed ∉ b.bytes)
    (hpending : b.pending ≤ maxFrameLength) (pieces : List (List UInt8)) :
    HeardAs (b.bytes ++ pieces.flatten) (b.takeIn pieces).1 := by
  induction pieces generalizing b with
  | nil =>
      rw [List.flatten_nil, List.append_nil]
      by_cases hempty : b.bytes = []
      · rw [hempty]
        exact ⟨[], rfl, .nil⟩
      · refine ⟨[heard b.bytes], ?_, ?_⟩
        · have hshort : ¬ maxFrameLength < b.bytes.length := Nat.not_lt.mpr hpending
          rw [heard, if_neg hb, if_neg hshort]
          rfl
        · rw [segments_of_not_mem hb hempty]
          exact .cons (torn_heard b.bytes) .nil
  | cons piece pieces ih =>
      obtain ⟨hfeed, hshort⟩ := drain_left (b.bytes ++ piece)
      rw [List.flatten_cons, ← List.append_assoc]
      exact (ih hfeed hshort).drain

/-- However a stream is cut into pieces, its lines are heard in turn. Of a line that
    is too long it is heard first that it is; if the stream comes at once, that is
    all, and if it comes in pieces, the end of such a line may be heard after it. All
    other lines are heard as they are, and if there is none that is too long, the
    pieces make no difference at all. -/
theorem pieces_are_heard (pieces : List (List UInt8)) :
    (drain ⟨pieces.flatten⟩).1 = (segments pieces.flatten).flatMap heard ∧
      (∃ parts, (takeIn {} pieces).1 = parts.flatten ∧
        List.Forall₂ (fun s said =>
          Torn s said ∧ (s.length ≤ maxFrameLength → said = heard s) ∧
            (maxFrameLength < s.length →
              heard s = [.error .tooLong] ∧ said.head? = some (.error .tooLong)))
          (segments pieces.flatten) parts) ∧
      (Short pieces.flatten → takeIn {} pieces = drain ⟨pieces.flatten⟩) := by
  refine ⟨drain_heard _, ?_, fun hshort => takeIn_eq_drain List.not_mem_nil hshort⟩
  obtain ⟨parts, htaken, hparts⟩ := takeIn_heardAs (b := {}) List.not_mem_nil (Nat.zero_le _) pieces
  refine ⟨parts, htaken, hparts.imp fun s said h => ?_⟩
  exact ⟨h, h.eq_heard, fun hlong => ⟨heard_of_long hlong, h.head? hlong⟩⟩

/-- Bytes that are one too many for a line. -/
def longPiece : List UInt8 := List.replicate (maxFrameLength + 1) 97

theorem lineFeed_not_mem_longPiece : lineFeed ∉ longPiece :=
  fun h => absurd (List.eq_of_mem_replicate h) (by decide)

theorem longPiece_long : maxFrameLength < longPiece.length := by
  rw [longPiece, List.length_replicate]
  exact Nat.lt_succ_self _

/-- The end of a line that is too long is taken for a frame of its own, if it comes
    after the bytes before it were given up. When all comes at once, it is not. -/
theorem end_of_long_line_is_heard :
    (takeIn {} [longPiece, Text.toBytes Reply.disconnected.frame]).1.map (·.bind Reply.read) =
        [.error .tooLong, .ok .disconnected] ∧
      (takeIn {} [longPiece ++ Text.toBytes Reply.disconnected.frame]).1 = [.error .tooLong] := by
  have hframe : Text.toBytes Reply.disconnected.frame =
      (Text.toBytes Reply.disconnected.frame).dropLast ++ lineFeed :: [] := by
    decide +kernel
  have hbody : lineFeed ∉ (Text.toBytes Reply.disconnected.frame).dropLast := by
    decide +kernel
  have hread : (verdict ((Text.toBytes Reply.disconnected.frame).dropLast ++ [lineFeed])).map
      (·.bind Reply.read) = [.ok .disconnected] := by
    decide +kernel
  generalize (Text.toBytes Reply.disconnected.frame).dropLast = body at hframe hbody hread
  rw [hframe]
  constructor
  · have hlong : drain ⟨longPiece⟩ = ([.error .tooLong], {}) := by
      rw [drain_of_not_mem lineFeed_not_mem_longPiece, heard_of_long longPiece_long,
        if_pos longPiece_long]
    have hframe' : drain ⟨body ++ lineFeed :: []⟩ = (verdict (body ++ [lineFeed]), {}) := by
      rw [drain_line hbody, drain_of_not_mem List.not_mem_nil, heard_line]
      exact congrArg (·, _) (List.append_nil _)
    simp only [takeIn, push, List.nil_append, hlong, hframe', List.append_nil]
    rw [List.map_append, hread]
    rfl
  · have hfeed : lineFeed ∉ longPiece ++ body := fun h =>
      (List.mem_append.mp h).elim lineFeed_not_mem_longPiece hbody
    have hlong : maxFrameLength < (longPiece ++ body ++ [lineFeed]).length := by
      have hpiece := longPiece_long
      rw [List.length_append, List.length_append]
      omega
    have hwhole : drain ⟨longPiece ++ body ++ lineFeed :: []⟩ = ([.error .tooLong], {}) := by
      rw [drain_line hfeed, drain_of_not_mem List.not_mem_nil, heard_of_long hlong]
      rfl
    simp only [takeIn, push, List.nil_append, ← List.append_assoc, hwhole, List.append_nil]

end TunnelSession.LineBuffer
