/-
  TunnelSession.Proofs.Daemon.LogLines

  Which lines the log holds. Against the bounded buffer stands the whole log: all lines
  that were appended since it was last cleared, those of a writer at the moment it is
  dropped. The buffer holds its end. That the oldest line gives way just when the
  buffer is full, and never else, needs the buffer never to hold more than it may, which
  holds on every run.
-/
import TunnelSession.Daemon.LogBuffer
import TunnelSession.Proofs.Text.Utf8
import Mathlib.Data.List.DropRight
import Mathlib.Logic.Function.Basic

namespace TunnelSession.Daemon

/-! ## The end of a list -/

section End

variable {α : Type} {xs : List α} {n : Nat}

theorem length_rtake (xs : List α) (n : Nat) : (xs.rtake n).length = min n xs.length := by
  rw [List.rtake, List.length_drop]
  omega

theorem rtake_of_length_le (h : xs.length ≤ n) : xs.rtake n = xs := by
  rw [List.rtake, Nat.sub_eq_zero_of_le h, List.drop_zero]

/-- One more element pushes the first one out of a full end. -/
theorem rtake_concat_of_full (x : α) (h : (xs.rtake n).length = n) (hn : 0 < n) :
    (xs ++ [x]).rtake n = (xs.rtake n).tail ++ [x] := by
  obtain ⟨n, rfl⟩ : ∃ m, n = m + 1 := ⟨n - 1, by omega⟩
  rw [length_rtake] at h
  have hdrop : xs.length - (n + 1) + 1 = xs.length - n := by omega
  rw [List.rtake_concat_succ, List.rtake, List.rtake, List.tail_drop, hdrop]

/-- Nothing is pushed out of an end with room. -/
theorem rtake_concat_of_room (x : α) (h : (xs.rtake n).length ≠ n) :
    (xs ++ [x]).rtake n = xs.rtake n ++ [x] := by
  rw [length_rtake] at h
  have hlength : (xs ++ [x]).length ≤ n := by
    rw [List.length_append, List.length_singleton]
    omega
  rw [rtake_of_length_le hlength, rtake_of_length_le (by omega)]

end End

/-! ## Appending lines -/

namespace LogBuffer

/-- The buffer holds the end of the given lines, as many of them as it has room for. -/
structure Holds (b : LogBuffer) (lines : List String) : Prop where
  room : 0 < b.capacity
  eq_end : b.lines = lines.rtake b.capacity

theorem holds_ofCapacity (n : Nat) : (ofCapacity n).Holds [] where
  room := Nat.lt_of_lt_of_le Nat.one_pos (Nat.le_max_right n 1)
  eq_end := (List.rtake_nil _).symm

theorem Holds.clear {b : LogBuffer} {lines : List String} (h : b.Holds lines) :
    b.clear.Holds [] where
  room := h.room
  eq_end := (List.rtake_nil _).symm

theorem Holds.pushLine {b : LogBuffer} {lines : List String} (h : b.Holds lines) (line : String) :
    (b.pushLine line).Holds (lines ++ [line]) := by
  refine ⟨h.room, ?_⟩
  simp only [LogBuffer.pushLine]
  by_cases hfull : b.lines.length = b.capacity
  · rw [if_pos hfull, h.eq_end]
    rw [h.eq_end] at hfull
    exact (rtake_concat_of_full line hfull h.room).symm
  · rw [if_neg hfull, h.eq_end]
    rw [h.eq_end] at hfull
    exact (rtake_concat_of_room line hfull).symm

theorem Holds.pushLines {b : LogBuffer} {lines : List String} (h : b.Holds lines)
    (more : List String) : (more.foldl LogBuffer.pushLine b).Holds (lines ++ more) := by
  induction more generalizing b lines with
  | nil =>
      rw [List.append_nil]
      exact h
  | cons line more ih =>
      have hnext := ih (h.pushLine line)
      rwa [List.append_assoc] at hnext

theorem Holds.collect {b : LogBuffer} {lines : List String} (h : b.Holds lines) (w : LogWriter) :
    (b.collect w).Holds (lines ++ linesOf w.pending) :=
  h.pushLines (linesOf w.pending)

@[simp] theorem capacity_pushLine (b : LogBuffer) (line : String) :
    (b.pushLine line).capacity = b.capacity := rfl

theorem capacity_collect (b : LogBuffer) (w : LogWriter) :
    (b.collect w).capacity = b.capacity := by
  have hall : ∀ (lines : List String) (b : LogBuffer),
      (lines.foldl pushLine b).capacity = b.capacity := by
    intro lines
    induction lines with
    | nil => exact fun _ => rfl
    | cons line lines ih =>
        intro b
        rw [List.foldl_cons, ih, capacity_pushLine]
  exact hall _ b

end LogBuffer

/-! ## Writers -/

theorem LogWriter.pending_foldl (w : LogWriter) (parts : List (List UInt8)) :
    (parts.foldl LogWriter.write w).pending = w.pending ++ parts.flatten := by
  induction parts generalizing w with
  | nil => rw [List.foldl_nil, List.flatten_nil, List.append_nil]
  | cons part parts ih => rw [List.foldl_cons, ih, LogWriter.write, List.flatten_cons,
      List.append_assoc]

/-- The lines of a text are found in its bytes. -/
theorem LogBuffer.linesOf_toBytes (text : String) :
    linesOf (Text.toBytes text) = (Text.lines text).filter (fun l => !l.isEmpty) := by
  rw [linesOf, Text.ofBytesLossy_toBytes]

/-! ## Runs -/

/-- What happens to a log. Writers go by numbers; a number whose writer was dropped is
    free for a new one. -/
inductive LogEvent
  | push (line : String)
  | clear
  | write (writer : Nat) (part : List UInt8)
  | drop (writer : Nat)

/-- A log and the writers that are open on it. -/
structure LogDesk where
  buffer : LogBuffer
  writers : Nat → LogWriter := fun _ => {}

namespace LogDesk

def meet (d : LogDesk) : LogEvent → LogDesk
  | .push line => { d with buffer := d.buffer.pushLine line }
  | .clear => { d with buffer := d.buffer.clear }
  | .write i part => { d with writers := Function.update d.writers i ((d.writers i).write part) }
  | .drop i =>
    { buffer := d.buffer.collect (d.writers i), writers := Function.update d.writers i {} }

def run (d : LogDesk) (events : List LogEvent) : LogDesk := events.foldl meet d

end LogDesk

/-! ## The whole log -/

namespace LogEvent

/-- The parts that a writer took since it was opened. The latest event comes first. -/
def partsOf (i : Nat) : List LogEvent → List (List UInt8)
  | [] => []
  | .write j part :: earlier =>
    if j = i then partsOf i earlier ++ [part] else partsOf i earlier
  | .drop j :: earlier => if j = i then [] else partsOf i earlier
  | .push _ :: earlier | .clear :: earlier => partsOf i earlier

/-- The lines that were appended since the log was last cleared. The latest event comes
    first. -/
def appended : List LogEvent → List String
  | [] => []
  | .push line :: earlier => appended earlier ++ [line]
  | .clear :: _ => []
  | .write _ _ :: earlier => appended earlier
  | .drop i :: earlier => appended earlier ++ LogBuffer.linesOf (partsOf i earlier).flatten

end LogEvent

open LogEvent (partsOf appended)

/-- The log is as its history tells: it holds the end of what was appended, and every
    writer the parts it took. -/
structure LogDesk.Follows (d : LogDesk) (capacity : Nat) (history : List LogEvent) : Prop where
  capacity_eq : d.buffer.capacity = capacity
  holds : d.buffer.Holds (appended history)
  pending_eq : ∀ i, (d.writers i).pending = (partsOf i history).flatten

namespace LogDesk

variable {d : LogDesk} {capacity : Nat} {history : List LogEvent}

theorem Follows.meet (h : d.Follows capacity history) (e : LogEvent) :
    (d.meet e).Follows capacity (e :: history) := by
  cases e with
  -- lines come to the buffer alone, and parts to one writer alone
  | push line => exact ⟨h.capacity_eq, h.holds.pushLine line, h.pending_eq⟩
  | clear => exact ⟨h.capacity_eq, h.holds.clear, h.pending_eq⟩
  | write i part =>
      refine ⟨h.capacity_eq, h.holds, fun j => ?_⟩
      simp only [LogDesk.meet, partsOf]
      by_cases hj : i = j
      · rw [if_pos hj, ← hj, Function.update_self, LogWriter.write, h.pending_eq i,
          List.flatten_append, List.flatten_singleton]
      · rw [if_neg hj, Function.update_of_ne (Ne.symm hj), h.pending_eq j]
  | drop i =>
      refine ⟨?_, ?_, fun j => ?_⟩
      · simp only [LogDesk.meet, LogBuffer.capacity_collect, h.capacity_eq]
      · have hlines := h.holds.collect (d.writers i)
        rw [h.pending_eq i] at hlines
        simp only [LogDesk.meet, appended]
        exact hlines
      · simp only [LogDesk.meet, partsOf]
        by_cases hj : i = j
        · rw [if_pos hj, ← hj, Function.update_self]
          rfl
        · rw [if_neg hj, Function.update_of_ne (Ne.symm hj), h.pending_eq j]

theorem Follows.run (h : d.Follows capacity history) (events : List LogEvent) :
    (d.run events).Follows capacity (events.reverse ++ history) := by
  induction events generalizing d history with
  | nil => exact h
  | cons e events ih =>
      -- the rest of the run follows a history that has this event as its latest
      rw [List.reverse_cons, List.append_assoc]
      exact ih (h.meet e)

/-- **The latest lines are kept.** Whatever is appended to a log of some capacity, line by
    line or by any number of writers at a time, and however often it is cleared, the
    buffer holds the end of what was appended since: as many lines as the capacity, and
    at least one. Its text is these lines, each with a line feed. What a writer appends
    depends on the bytes it took as a whole, and where these are a text, they are the
    lines of that text that are not empty. -/
theorem latest_lines_are_kept (n : Nat) (events : List LogEvent) :
    let b := (run { buffer := .ofCapacity n } events).buffer
    let kept := (appended events.reverse).rtake (max n 1)
    b.lines = kept ∧
      b.size = min (max n 1) (appended events.reverse).length ∧
      b.contents.toList = kept.flatMap (fun line => line.toList ++ ['\n']) ∧
      (∀ parts, b.write parts = b.collect ⟨parts.flatten⟩) ∧
      ∀ text, LogBuffer.linesOf (Text.toBytes text) =
        (Text.lines text).filter (fun line => !line.isEmpty) := by
  intro b kept
  -- an empty buffer, and no writer that has taken anything
  have hstart : Follows { buffer := .ofCapacity n } (max n 1) [] :=
    ⟨rfl, LogBuffer.holds_ofCapacity n, fun _ => rfl⟩
  have hrun := hstart.run events
  rw [List.append_nil] at hrun
  have hlines : b.lines = kept := by
    rw [hrun.holds.eq_end, hrun.capacity_eq]
  refine ⟨hlines, ?_, ?_, fun parts => ?_, LogBuffer.linesOf_toBytes⟩
  · rw [LogBuffer.size, hlines, length_rtake]
  · rw [LogBuffer.contents, hlines, String.toList_join, List.flatMap_map]
    apply List.flatMap_congr
    intro line _
    rw [String.toList_append]
    rfl
  · have hpending := LogWriter.pending_foldl {} parts
    rw [LogBuffer.write, LogBuffer.collect, hpending]
    rfl

/-- A line that one writer took in two parts, and that of another which is dropped first. -/
example : (run { buffer := .ofCapacity 2 } [.write 0 (Text.toBytes "a\nb"),
    .write 1 (Text.toBytes "c\n"), .drop 1, .write 0 (Text.toBytes "b\n\n"),
    .drop 0]).buffer.lines = ["a", "bb"] := by decide +kernel

end LogDesk

end TunnelSession.Daemon
