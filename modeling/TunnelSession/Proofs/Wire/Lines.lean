/-
  TunnelSession.Proofs.Wire.Lines

  A stream of bytes as the lines that it is made of, and what is heard of each of
  them when they are taken out of a buffer. As long as no line is too long, it does
  not matter in which pieces the bytes arrive.
-/
import TunnelSession.Wire.LineBuffer
import Mathlib.Data.List.TakeWhile

namespace TunnelSession.LineBuffer

/-! ## Lines of a stream -/

/-- The lines of a stream, each with its line feed, and what follows the last of
    them if that is not empty. -/
def segments : List UInt8 → List (List UInt8)
  | [] => []
  | b :: rest =>
    if b = lineFeed then [b] :: segments rest
    else match segments rest with
      | [] => [[b]]
      | s :: later => (b :: s) :: later

@[simp] theorem segments_nil : segments [] = [] := rfl

theorem segments_of_not_mem {bytes : List UInt8} (h : lineFeed ∉ bytes) (hne : bytes ≠ []) :
    segments bytes = [bytes] := by
  induction bytes with
  | nil => exact absurd rfl hne
  | cons b rest ih =>
      rw [List.mem_cons, not_or] at h
      cases rest with
      | nil => rw [segments, if_neg (Ne.symm h.1), segments_nil]
      | cons c rest => rw [segments, if_neg (Ne.symm h.1), ih h.2 (List.cons_ne_nil c rest)]

/-- What comes before a line belongs to it. -/
theorem segments_append_cons {bytes rest s : List UInt8} {later : List (List UInt8)}
    (h : lineFeed ∉ bytes) (hrest : segments rest = s :: later) :
    segments (bytes ++ rest) = (bytes ++ s) :: later := by
  induction bytes with
  | nil => exact hrest
  | cons b bytes ih =>
      rw [List.mem_cons, not_or] at h
      rw [List.cons_append, segments, if_neg (Ne.symm h.1), ih h.2]
      rfl

theorem segments_line {body : List UInt8} (h : lineFeed ∉ body) (rest : List UInt8) :
    segments (body ++ lineFeed :: rest) = (body ++ [lineFeed]) :: segments rest :=
  segments_append_cons h (by rw [segments, if_pos rfl])

/-- The lines of a stream are all of it. -/
theorem flatten_segments (bytes : List UInt8) : (segments bytes).flatten = bytes := by
  induction bytes with
  | nil => rfl
  | cons b rest ih =>
      rw [segments]
      split
      · rw [List.flatten_cons, ih]
        rfl
      · split
        · next hnone =>
          rw [hnone] at ih
          rw [← ih]
          rfl
        · next s later hsome =>
          rw [hsome] at ih
          rw [← ih]
          rfl

/-- Induction along the lines of a stream: it holds no line feed, or starts with a
    line. -/
@[elab_as_elim]
theorem line_induction {motive : List UInt8 → Prop}
    (rest : ∀ bytes, lineFeed ∉ bytes → motive bytes)
    (line : ∀ body later, lineFeed ∉ body → motive later → motive (body ++ lineFeed :: later))
    (bytes : List UInt8) : motive bytes := by
  -- a line holds at least its line feed, so what comes after it is shorter
  induction hn : bytes.length using Nat.strongRecOn generalizing bytes with
  | ind n ih =>
      by_cases h : lineFeed ∈ bytes
      · obtain ⟨body, later, rfl, hbody⟩ := List.eq_append_cons_of_mem h
        refine line body later hbody (ih later.length ?_ later rfl)
        rw [← hn, List.length_append, List.length_cons]
        omega
      · exact rest bytes h

/-! ## What is heard of a line -/

/-- What is heard of a line: nothing of a blank one. -/
def verdict (line : List UInt8) : List (Except FrameError String) :=
  match judge line with
  | .error e => [.error e]
  | .ok text => if text.isEmpty then [] else [.ok text]

/-- What is heard of a line or of what follows the last line: nothing of the latter,
    as long as it can still become one. -/
def heard (segment : List UInt8) : List (Except FrameError String) :=
  if lineFeed ∈ segment then verdict segment
  else if maxFrameLength < segment.length then [.error .tooLong] else []

theorem heard_line (body : List UInt8) :
    heard (body ++ [lineFeed]) = verdict (body ++ [lineFeed]) :=
  if_pos (List.mem_append_right _ (List.mem_singleton_self _))

/-- Whatever is too long is reported as such. -/
theorem heard_of_long {segment : List UInt8} (h : maxFrameLength < segment.length) :
    heard segment = [.error .tooLong] := by
  unfold heard verdict judge
  rw [if_pos h, if_pos h]
  exact ite_self _

/-! ## Taking lines out -/

theorem split?_of_not_mem {bytes : List UInt8} (h : lineFeed ∉ bytes) : split? bytes = none := by
  have hall : bytes.dropWhile (· != lineFeed) = [] :=
    List.dropWhile_eq_nil_iff.mpr fun b hb => bne_iff_ne.mpr fun heq => h (heq ▸ hb)
  rw [split?, hall]

theorem split?_line {body : List UInt8} (h : lineFeed ∉ body) (rest : List UInt8) :
    split? (body ++ lineFeed :: rest) = some (body ++ [lineFeed], rest) := by
  have hbody : ∀ b ∈ body, (b != lineFeed) = true :=
    fun b hb => bne_iff_ne.mpr fun heq => h (heq ▸ hb)
  rw [split?, List.dropWhile_append_of_pos hbody, List.takeWhile_append_of_pos hbody]
  simp [List.dropWhile, List.takeWhile]

theorem next_of_not_mem {bytes : List UInt8} (h : lineFeed ∉ bytes) :
    next ⟨bytes⟩ =
      if maxFrameLength < bytes.length then (some (.error .tooLong), {}) else (none, ⟨bytes⟩) := by
  rw [next]
  split
  · rfl
  · next hsome =>
    rw [split?_of_not_mem h] at hsome
    cases hsome

theorem next_line {body : List UInt8} (h : lineFeed ∉ body) (rest : List UInt8) :
    next ⟨body ++ lineFeed :: rest⟩ =
      match judge (body ++ [lineFeed]) with
      | .ok text => if text.isEmpty then next ⟨rest⟩ else (some (.ok text), ⟨rest⟩)
      | .error e => (some (.error e), ⟨rest⟩) := by
  rw [next]
  split
  · next hnone =>
    rw [split?_line h rest] at hnone
    cases hnone
  · next line later hsome =>
    rw [split?_line h rest, Option.some.injEq, Prod.mk.injEq] at hsome
    obtain ⟨rfl, rfl⟩ := hsome
    rfl

theorem drain_of_none {b b' : LineBuffer} (h : b.next = (none, b')) : b.drain = ([], b') := by
  rw [drain]
  split
  · rw [h]
  · next hsome =>
    rw [h] at hsome
    cases hsome

theorem drain_of_some {b b' : LineBuffer} {line : Except FrameError String}
    (h : b.next = (some line, b')) : b.drain = (line :: b'.drain.1, b'.drain.2) := by
  rw [drain]
  split
  · next hnone =>
    rw [h] at hnone
    cases hnone
  · next line' hsome =>
    rw [h] at hsome
    cases hsome
    rw [h]

/-- What is taken out depends only on what comes next. -/
theorem drain_congr {b b' : LineBuffer} (h : b.next = b'.next) : b.drain = b'.drain := by
  cases hb' : b'.next with
  | mk found later =>
      rw [hb'] at h
      cases found with
      | none => rw [drain_of_none h, drain_of_none hb']
      | some line => rw [drain_of_some h, drain_of_some hb']

/-- What holds no line waits for its line feed, unless it is too long. -/
theorem drain_of_not_mem {bytes : List UInt8} (h : lineFeed ∉ bytes) :
    drain ⟨bytes⟩ = (heard bytes, ⟨if maxFrameLength < bytes.length then [] else bytes⟩) := by
  have hnext := next_of_not_mem h
  rw [heard, if_neg h]
  by_cases hlong : maxFrameLength < bytes.length
  · rw [if_pos hlong] at hnext
    rw [drain_of_some hnext, if_pos hlong, if_pos hlong,
      drain_of_none (next_of_not_mem List.not_mem_nil)]
  · rw [if_neg hlong] at hnext
    rw [drain_of_none hnext, if_neg hlong, if_neg hlong]

/-- The first line is heard before the others. -/
theorem drain_line {body : List UInt8} (h : lineFeed ∉ body) (rest : List UInt8) :
    drain ⟨body ++ lineFeed :: rest⟩ =
      (heard (body ++ [lineFeed]) ++ (drain ⟨rest⟩).1, (drain ⟨rest⟩).2) := by
  have hnext := next_line h rest
  rw [heard_line, verdict]
  split at hnext
  · next text hjudge =>
    rw [hjudge]
    dsimp only
    by_cases hblank : text.isEmpty = true
    · rw [if_pos hblank] at hnext
      rw [drain_congr hnext, if_pos hblank]
      rfl
    · rw [if_neg hblank] at hnext
      rw [drain_of_some hnext, if_neg hblank]
      rfl
  · next e hjudge =>
    rw [drain_of_some hnext, hjudge]
    rfl

/-- All lines of a stream that arrives at once are heard in turn, each as it is. -/
theorem drain_heard (bytes : List UInt8) :
    (drain ⟨bytes⟩).1 = (segments bytes).flatMap heard := by
  induction bytes using line_induction with
  | rest bytes h =>
      rw [drain_of_not_mem h]
      by_cases hempty : bytes = []
      · rw [hempty]
        rfl
      · rw [segments_of_not_mem h hempty, List.flatMap_singleton]
  | line body later h ih =>
      rw [drain_line h, segments_line h, List.flatMap_cons, ih]

/-- What is left holds no line feed, and may yet become a line. -/
theorem drain_left (bytes : List UInt8) :
    lineFeed ∉ (drain ⟨bytes⟩).2.bytes ∧ (drain ⟨bytes⟩).2.pending ≤ maxFrameLength := by
  induction bytes using line_induction with
  | rest bytes h =>
      rw [drain_of_not_mem h, pending]
      by_cases hlong : maxFrameLength < bytes.length
      · simp only [if_pos hlong]
        exact ⟨List.not_mem_nil, Nat.zero_le _⟩
      · simp only [if_neg hlong]
        exact ⟨h, Nat.le_of_not_lt hlong⟩
  | line body later h ih =>
      rw [drain_line h]
      exact ih

/-! ## A stream of whole lines -/

/-- Whole lines, one after the other, given by what comes before their line feeds. -/
def linesOf (bodies : List (List UInt8)) : List UInt8 := bodies.flatMap (· ++ [lineFeed])

theorem linesOf_cons (body : List UInt8) (bodies : List (List UInt8)) :
    linesOf (body :: bodies) = body ++ lineFeed :: linesOf bodies := by
  rw [linesOf, List.flatMap_cons, List.append_assoc]
  rfl

theorem segments_linesOf {bodies : List (List UInt8)} (h : ∀ body ∈ bodies, lineFeed ∉ body) :
    segments (linesOf bodies) = bodies.map (· ++ [lineFeed]) := by
  induction bodies with
  | nil => rfl
  | cons body bodies ih =>
      rw [List.forall_mem_cons] at h
      rw [linesOf_cons, segments_line h.1, ih h.2, List.map_cons]

/-- Nothing is left of whole lines. -/
theorem drain_linesOf_left {bodies : List (List UInt8)} (h : ∀ body ∈ bodies, lineFeed ∉ body) :
    (drain ⟨linesOf bodies⟩).2 = {} := by
  induction bodies with
  | nil => rw [linesOf, List.flatMap_nil, drain_of_not_mem List.not_mem_nil]; rfl
  | cons body bodies ih =>
      rw [List.forall_mem_cons] at h
      rw [linesOf_cons, drain_line h.1]
      exact ih h.2

/-! ## Bytes in pieces -/

/-- Takes bytes in as they arrive in pieces: after each of them the lines are taken
    out. -/
def takeIn (b : LineBuffer) : List (List UInt8) → List (Except FrameError String) × LineBuffer
  | [] => ([], b)
  | piece :: later =>
    let drained := (b.push piece).drain
    let rest := drained.2.takeIn later
    (drained.1 ++ rest.1, rest.2)

/-- Bytes that were sent at once are taken in in pieces of the size of a read. -/
theorem feed_eq_takeIn (b : LineBuffer) (bytes : List UInt8) :
    ∃ pieces, pieces.flatten = bytes ∧ b.feed bytes = b.takeIn pieces := by
  fun_induction feed b bytes with
  | case1 b bytes hempty =>
      exact ⟨[], (List.isEmpty_iff.mp hempty).symm, rfl⟩
  | case2 b bytes hsome drained later ih =>
      obtain ⟨pieces, hflat, hlater⟩ := ih
      refine ⟨bytes.take readSize :: pieces, ?_, ?_⟩
      · rw [List.flatten_cons, hflat, List.take_append_drop]
      · rw [takeIn, ← hlater]

/-- No line of a stream is too long, nor is what follows the last one. -/
def Short (bytes : List UInt8) : Prop := ∀ s ∈ segments bytes, s.length ≤ maxFrameLength

/-- What comes before the first line feed is no longer than the first line. -/
theorem Short.length_le {bytes later : List UInt8} (h : Short (bytes ++ later))
    (hfeed : lineFeed ∉ bytes) : bytes.length ≤ maxFrameLength := by
  cases hlater : segments later with
  | nil =>
      have hnil : later = [] := by rw [← flatten_segments later, hlater]; rfl
      by_cases hempty : bytes = []
      · rw [hempty]
        exact Nat.zero_le _
      · refine h bytes ?_
        rw [hnil, List.append_nil, segments_of_not_mem hfeed hempty]
        exact List.mem_singleton_self _
  | cons s rest =>
      have hle : (bytes ++ s).length ≤ maxFrameLength := by
        refine h _ ?_
        rw [segments_append_cons hfeed hlater]
        exact List.mem_cons_self
      rw [List.length_append] at hle
      omega

theorem Short.of_line {body later : List UInt8} (h : Short (body ++ lineFeed :: later))
    (hfeed : lineFeed ∉ body) : Short later := by
  intro s hs
  refine h s ?_
  rw [segments_line hfeed]
  exact List.mem_cons_of_mem _ hs

/-- The lines of a piece can be taken out before the rest of the stream is there, if
    no line is too long. -/
theorem drain_append {bytes later : List UInt8} (h : Short (bytes ++ later)) :
    drain ⟨bytes ++ later⟩ =
        ((drain ⟨bytes⟩).1 ++ ((drain ⟨bytes⟩).2.push later).drain.1,
          ((drain ⟨bytes⟩).2.push later).drain.2) ∧
      Short ((drain ⟨bytes⟩).2.bytes ++ later) := by
  induction bytes using line_induction with
  | rest bytes hfeed =>
      have hshort : ¬ maxFrameLength < bytes.length := Nat.not_lt.mpr (h.length_le hfeed)
      rw [drain_of_not_mem hfeed, if_neg hshort, heard, if_neg hfeed, if_neg hshort]
      exact ⟨rfl, h⟩
  | line body rest hfeed ih =>
      rw [List.append_assoc, List.cons_append] at h
      obtain ⟨hdrain, hshort⟩ := ih (h.of_line hfeed)
      rw [List.append_assoc, List.cons_append, drain_line hfeed, drain_line hfeed, hdrain,
        List.append_assoc]
      exact ⟨rfl, hshort⟩

/-- If no line is too long, it does not matter in which pieces the bytes arrive. -/
theorem takeIn_eq_drain {b : LineBuffer} (hb : lineFeed ∉ b.bytes) {pieces : List (List UInt8)}
    (h : Short (b.bytes ++ pieces.flatten)) :
    b.takeIn pieces = (b.push pieces.flatten).drain := by
  induction pieces generalizing b with
  | nil =>
      have hshort : ¬ maxFrameLength < b.bytes.length := Nat.not_lt.mpr (h.length_le hb)
      rw [takeIn, push, List.flatten_nil, List.append_nil, drain_of_not_mem hb, heard, if_neg hb,
        if_neg hshort, if_neg hshort]
  | cons piece pieces ih =>
      rw [List.flatten_cons, ← List.append_assoc] at h
      obtain ⟨hdrain, hshort⟩ := drain_append h
      rw [takeIn, push, push, List.flatten_cons, ← List.append_assoc, hdrain,
        ih (drain_left _).1 hshort]

end TunnelSession.LineBuffer
