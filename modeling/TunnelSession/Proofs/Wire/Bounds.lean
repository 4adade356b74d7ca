/-
  TunnelSession.Proofs.Wire.Bounds

  What a buffer returns and what it keeps, whatever bytes arrive. The search for a line
  passes over blank lines, each of which costs it a line feed, so it ends; and it returns
  only lines that are trimmed and not empty. Once all lines are taken out no line feed is
  left, and what is left is no longer than a line may be.
-/
import TunnelSession.Proofs.Text.Trimming
import TunnelSession.Proofs.Text.Utf8
import TunnelSession.Proofs.Wire.Lines

namespace TunnelSession.LineBuffer

/-! ## The search for a line -/

/-- How one pass of the search for a line ends. -/
inductive Pass
  /-- The search is over. -/
  | done (found : Option (Except FrameError String)) (left : LineBuffer)
  /-- A blank line was passed over, and what is left is searched again. -/
  | again (left : LineBuffer)

/-- One pass of the search for a line. -/
def pass (b : LineBuffer) : Pass :=
  match split? b.bytes with
  | none =>
    if maxFrameLength < b.bytes.length then .done (some (.error .tooLong)) {} else .done none b
  | some (line, rest) =>
    match judge line with
    | .ok text => if text.isEmpty then .again ⟨rest⟩ else .done (some (.ok text)) ⟨rest⟩
    | .error e => .done (some (.error e)) ⟨rest⟩

/-- The search, if it is over after at most the given number of passes. -/
def search : Nat → LineBuffer → Option (Option (Except FrameError String) × LineBuffer)
  | 0, _ => none
  | passes + 1, b =>
    match b.pass with
    | .done found left => some (found, left)
    | .again left => search passes left

/-- The number of line feeds in a buffer. -/
def feeds (b : LineBuffer) : Nat := b.bytes.count lineFeed

/-- A pass is a step of the search. -/
theorem next_eq_pass (b : LineBuffer) :
    b.next = match b.pass with
      | .done found left => (found, left)
      | .again left => left.next := by
  rw [next, pass]
  split
  · next hnone =>
    simp only [hnone]
    by_cases hlong : maxFrameLength < b.bytes.length
    · simp only [if_pos hlong]
    · simp only [if_neg hlong]
  · next line rest hsome =>
    simp only [hsome]
    cases hjudge : judge line with
    | error e => rfl
    | ok text =>
        simp only
        split <;> rfl

/-- To pass over a blank line takes its line feed away. -/
theorem feeds_of_again {b left : LineBuffer} (h : b.pass = .again left) :
    b.feeds = left.feeds + 1 := by
  obtain ⟨bytes⟩ := b
  by_cases hfeed : lineFeed ∈ bytes
  · obtain ⟨body, rest, rfl, hbody⟩ := List.eq_append_cons_of_mem hfeed
    simp only [pass, split?_line hbody] at h
    have hleft : left = ⟨rest⟩ := by
      split at h
      · split at h
        · exact (Pass.again.inj h).symm
        · cases h
      · cases h
    simp only [feeds, hleft, List.count_append, List.count_eq_zero_of_not_mem hbody,
      List.count_cons_self, Nat.zero_add]
  · simp only [pass, split?_of_not_mem hfeed] at h
    split at h <;> cases h

/-- The search is over after at most one pass for each line feed and one more. -/
theorem search_eq_next {passes : Nat} {b : LineBuffer} (h : b.feeds < passes) :
    b.search passes = some b.next := by
  induction passes generalizing b with
  | zero => omega
  | succ passes ih =>
      rw [search, next_eq_pass]
      cases hpass : b.pass with
      | done found left => rfl
      | again left =>
          have hfeeds := feeds_of_again hpass
          exact ih (by omega)

/-! ## What is returned -/

/-- A line as it is returned: not empty, on one line, and with no white space at either
    end. -/
structure Clean (line : String) : Prop where
  nonempty : line ≠ ""
  first : ∀ c ∈ line.toList.head?, Text.isBlank c = false
  last : ∀ c ∈ line.toList.getLast?, Text.isBlank c = false
  whole : '\n' ∉ line.toList

/-- A good line is the text of its bytes without the blanks around it. -/
theorem trim_of_judge {segment : List UInt8} {text : String} (h : judge segment = .ok text) :
    ∃ line, Text.ofBytes? segment = some line ∧ text.toList = Text.trim line.toList := by
  rw [judge] at h
  split at h
  · cases h
  split at h
  · cases h
  · next line hline =>
    refine ⟨line, hline, ?_⟩
    rw [← Except.ok.inj h, Text.trimmed, String.toList_ofList]

/-- What a line is trimmed to has no line feed: that of the line was its last character,
    and a blank. -/
theorem lineFeed_not_mem_judge {body : List UInt8} {text : String} (hbody : lineFeed ∉ body)
    (h : judge (body ++ [lineFeed]) = .ok text) : '\n' ∉ text.toList := by
  obtain ⟨line, hline, htext⟩ := trim_of_judge h
  obtain ⟨cs, hcs, hclean⟩ := Text.toList_of_line hbody hline
  have hfeed : Text.AllBlank ['\n'] := by
    intro c hc
    rw [List.mem_singleton.mp hc]
    rfl
  rw [htext, hcs, Text.trim_append_blank cs hfeed]
  exact fun hmem => hclean (Text.mem_of_mem_trim hmem)

theorem clean_of_verdict {body : List UInt8} {text : String} (hbody : lineFeed ∉ body)
    (h : .ok text ∈ verdict (body ++ [lineFeed])) : Clean text := by
  rw [verdict] at h
  cases hjudge : judge (body ++ [lineFeed]) with
  | error e =>
      simp only [hjudge, List.mem_singleton] at h
      cases h
  | ok line =>
      simp only [hjudge] at h
      split at h
      · cases h
      · next hsome =>
        obtain rfl : text = line := Except.ok.inj (List.mem_singleton.mp h)
        obtain ⟨line, -, htext⟩ := trim_of_judge hjudge
        refine ⟨fun heq => hsome (String.isEmpty_iff.mpr heq), ?_, ?_,
          lineFeed_not_mem_judge hbody hjudge⟩
        · rw [htext]
          exact Text.stops_trim _
        · rw [htext, ← List.head?_reverse]
          exact Text.stops_reverse_trim _

/-- Every line that is taken out is clean. -/
theorem clean_of_drain {bytes : List UInt8} {text : String} (h : .ok text ∈ (drain ⟨bytes⟩).1) :
    Clean text := by
  induction bytes using line_induction with
  | rest bytes hfeed =>
      -- of what holds no line at most a fault is heard
      simp only [drain_of_not_mem hfeed, heard, if_neg hfeed] at h
      split at h
      · cases List.mem_singleton.mp h
      · cases h
  | line body later hbody ih =>
      rw [drain_line hbody, heard_line] at h
      rcases List.mem_append.mp h with h | h
      · exact clean_of_verdict hbody h
      · exact ih h

theorem clean_of_takeIn {b : LineBuffer} {pieces : List (List UInt8)} {text : String}
    (h : .ok text ∈ (b.takeIn pieces).1) : Clean text := by
  induction pieces generalizing b with
  | nil => cases h
  | cons piece pieces ih =>
      rcases List.mem_append.mp h with h | h
      · exact clean_of_drain h
      · exact ih h

/-! ## What is kept -/

/-- What is left of a buffer from which all lines were taken. -/
structure Drained (b : LineBuffer) : Prop where
  noFeed : lineFeed ∉ b.bytes
  bounded : b.pending ≤ maxFrameLength

theorem drained_takeIn {b : LineBuffer} (hb : b.Drained) (pieces : List (List UInt8)) :
    (b.takeIn pieces).2.Drained := by
  induction pieces generalizing b with
  | nil => exact hb
  | cons piece pieces ih =>
      obtain ⟨hfeed, hshort⟩ := drain_left (b.bytes ++ piece)
      exact ih ⟨hfeed, hshort⟩

/-- Nothing more is found in it. -/
theorem Drained.next {b : LineBuffer} (h : b.Drained) : b.next = (none, b) := by
  have hshort : ¬ maxFrameLength < b.bytes.length := Nat.not_lt.mpr h.bounded
  have hnext := next_of_not_mem h.noFeed
  rwa [if_neg hshort] at hnext

theorem length_heard_le (segment : List UInt8) : (heard segment).length ≤ 1 := by
  rw [heard, verdict]
  repeat' split
  all_goals simp

/-- At most one thing is found for each line feed, and one more. -/
theorem length_drain_le (bytes : List UInt8) :
    (drain ⟨bytes⟩).1.length ≤ bytes.count lineFeed + 1 := by
  induction bytes using line_induction with
  | rest bytes hfeed =>
      have hle := length_heard_le bytes
      rw [drain_of_not_mem hfeed]
      exact Nat.le_trans hle (Nat.le_add_left 1 _)
  | line body later hbody ih =>
      have hle := length_heard_le (body ++ [lineFeed])
      rw [drain_line hbody, List.length_append, List.count_append, List.count_cons_self]
      omega

/-- **The buffer is bounded, and what it returns is clean.** Whatever a buffer holds, the
    search for a line is over after as many passes as there are line feeds, and one more.
    Let bytes arrive in any pieces, and all lines be taken out after each. Every line
    that is returned is not empty, holds no line feed and has no white space at either
    end. What is left holds no line feed and is no longer than a line may be; nothing
    more is found in it; and of the next piece, which alone is added to it, not more
    is found than there are line feeds in that piece, and one more. -/
theorem drained_buffer_is_bounded (pieces : List (List UInt8)) :
    (∀ b : LineBuffer, b.search (b.feeds + 1) = some b.next) ∧
      (∀ text, .ok text ∈ (takeIn {} pieces).1 → Clean text) ∧
      (takeIn {} pieces).2.Drained ∧
      (takeIn {} pieces).2.next = (none, (takeIn {} pieces).2) ∧
      ∀ piece, ((takeIn {} pieces).2.push piece).pending ≤ maxFrameLength + piece.length ∧
        ((takeIn {} pieces).2.push piece).drain.1.length ≤ piece.count lineFeed + 1 := by
  have hdrained : (takeIn {} pieces).2.Drained :=
    drained_takeIn ⟨List.not_mem_nil, Nat.zero_le _⟩ pieces
  refine ⟨fun b => search_eq_next (Nat.lt_succ_self _), fun text h => clean_of_takeIn h, hdrained,
    hdrained.next, fun piece => ⟨?_, ?_⟩⟩
  · have hbounded := hdrained.bounded
    simp only [push, pending, List.length_append] at hbounded ⊢
    omega
  · have hcount : ((takeIn {} pieces).2.bytes ++ piece).count lineFeed = piece.count lineFeed := by
      rw [List.count_append, List.count_eq_zero_of_not_mem hdrained.noFeed, Nat.zero_add]
    rw [← hcount]
    exact length_drain_le _

/-- A line in two pieces, with blank lines about it and the start of another after it. -/
def brokenLine : List (List UInt8) :=
  [Text.toBytes " \n  zoë", Text.toBytes " \r\n\nrest"]

theorem drained_buffer_is_bounded_broken_line :
    .ok "zoë" ∈ (takeIn {} brokenLine).1 ∧ Clean "zoë" ∧ (takeIn {} brokenLine).2.Drained ∧
      (takeIn {} brokenLine).2.next.1 = none := by
  have hheard : .ok "zoë" ∈ (takeIn {} brokenLine).1 := by decide +kernel
  obtain ⟨-, hclean, hdrained, hnext, -⟩ := drained_buffer_is_bounded brokenLine
  exact ⟨hheard, hclean "zoë" hheard, hdrained, by rw [hnext]⟩

end TunnelSession.LineBuffer
