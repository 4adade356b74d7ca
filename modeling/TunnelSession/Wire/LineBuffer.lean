/-
  TunnelSession.Wire.LineBuffer

  Takes lines out of a stream of bytes. Bytes arrive in pieces of any size; a
  line that is too long, or is not UTF-8, is reported and passed over, and
  blank lines do not count.
-/
import TunnelSession.Text.Blank
import TunnelSession.Text.Utf8
import TunnelSession.Wire.Message

namespace TunnelSession

/-- The greatest length of a line in bytes, its line feed included. -/
def maxFrameLength : Nat := 1024 * 1024

/-- The bytes that no line has been made of yet. -/
structure LineBuffer where
  bytes : List UInt8 := []
  deriving DecidableEq

namespace LineBuffer

/-- The byte that ends a line. -/
def lineFeed : UInt8 := 10

/-- Appends bytes as they arrive. -/
def push (b : LineBuffer) (bytes : List UInt8) : LineBuffer :=
  ⟨b.bytes ++ bytes⟩

/-- The number of bytes that wait for a line feed. -/
def pending (b : LineBuffer) : Nat := b.bytes.length

/-- The first line with its line feed, and the bytes after it. -/
def split? (bytes : List UInt8) : Option (List UInt8 × List UInt8) :=
  match bytes.dropWhile (· != lineFeed) with
  | [] => none
  | feed :: rest => some (bytes.takeWhile (· != lineFeed) ++ [feed], rest)

theorem length_of_split? {bytes line rest : List UInt8} (h : split? bytes = some (line, rest)) :
    line.length + rest.length = bytes.length ∧ 0 < line.length := by
  unfold split? at h
  split at h
  · simp at h
  · next feed tail hd =>
    simp only [Option.some.injEq, Prod.mk.injEq] at h
    obtain ⟨rfl, rfl⟩ := h
    have := congrArg List.length (List.takeWhile_append_dropWhile (p := (· != lineFeed)) (l := bytes))
    rw [hd] at this
    simp only [List.length_append, List.length_cons, List.length_nil] at this ⊢
    omega

/-- What a complete line turns out to be. -/
def judge (line : List UInt8) : Except FrameError String :=
  if maxFrameLength < line.length then .error .tooLong
  else match Text.ofBytes? line with
    | none => .error .notUtf8
    | some text => .ok (Text.trimmed text)

/-- The next line that is not blank, without the blanks around it, or what is
    wrong with it; nothing while no line is complete. Bytes that can no longer
    become a line are dropped and reported. -/
def next (b : LineBuffer) : Option (Except FrameError String) × LineBuffer :=
  match _h : split? b.bytes with
  | none =>
    if maxFrameLength < b.bytes.length then (some (.error .tooLong), ⟨[]⟩) else (none, b)
  | some (line, rest) =>
    match judge line with
    | .ok text => if text.isEmpty then next ⟨rest⟩ else (some (.ok text), ⟨rest⟩)
    | .error e => (some (.error e), ⟨rest⟩)
  termination_by b.bytes.length
  decreasing_by
    have := length_of_split? _h
    omega

theorem pending_next {b : LineBuffer} {r : Except FrameError String} (h : b.next.1 = some r) :
    b.next.2.pending < b.pending := by
  fun_induction next b with
  | case1 b hs hl => simp only [pending, List.length_nil]; omega
  | case2 b hs hl => simp at h
  | case3 b line rest hs text hj he ih =>
    have := length_of_split? hs
    have := ih h
    simp only [pending] at this ⊢
    omega
  | case4 b line rest hs text hj he =>
    have := length_of_split? hs
    simp only [pending]
    omega
  | case5 b line rest hs e hj =>
    have := length_of_split? hs
    simp only [pending]
    omega

/-- All lines and faults that the bytes hold, in order, and what is left. -/
def drain (b : LineBuffer) : List (Except FrameError String) × LineBuffer :=
  match _h : b.next.1 with
  | none => ([], b.next.2)
  | some line =>
    let (lines, left) := drain b.next.2
    (line :: lines, left)
  termination_by b.pending
  decreasing_by exact pending_next _h

/-- The number of bytes that are read at a time. -/
def readSize : Nat := 4096

/-- Takes bytes that were sent at once. They are read in pieces, and after each piece
    the lines are taken out. -/
def feed (b : LineBuffer) (bytes : List UInt8) : List (Except FrameError String) × LineBuffer :=
  if bytes.isEmpty then ([], b)
  else
    let drained := (b.push (bytes.take readSize)).drain
    let later := feed drained.2 (bytes.drop readSize)
    (drained.1 ++ later.1, later.2)
  termination_by bytes.length
  decreasing_by
    have : bytes ≠ [] := by simpa using ‹¬bytes.isEmpty = true›
    have := List.length_pos_iff.2 this
    simp only [List.length_drop, readSize]
    omega

end LineBuffer

end TunnelSession
