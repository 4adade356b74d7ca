/-
  TunnelSession.Proofs.Toml.Texts

  Every text is read back from the form that is chosen for it. The two forms with
  escapes can hold any text; those without are chosen only for texts that they can
  hold. In the forms of several lines the closing quotes may touch quotes of the text,
  so what matters there is that three of them never follow one another inside it.
-/
import TunnelSession.Proofs.Text.Numerals
import TunnelSession.Toml.Reader
import TunnelSession.Toml.Writer

namespace TunnelSession.Toml

/-! ## Characters -/

theorem isPlain_of_needsEscape {c : Char} (hescape : needsEscape c = false) (hline : c ≠ '\n') :
    isPlain c = true := by
  simp only [needsEscape, Bool.or_eq_false_iff, Bool.and_eq_false_iff, decide_eq_false_iff_not,
    beq_eq_false_iff_ne, bne_eq_false_iff_eq] at hescape
  simp only [isPlain, Bool.or_eq_true, Bool.and_eq_true, beq_iff_eq, decide_eq_true_eq,
    bne_iff_ne]
  obtain ⟨(hlow | htab) | hfeed, hdelete⟩ := hescape
  · exact .inr ⟨Nat.le_of_not_lt hlow, hdelete⟩
  · exact .inl htab
  · exact absurd hfeed hline

theorem toNat_of_needsEscape {c : Char} (h : needsEscape c = true) : c.toNat < 128 := by
  simp only [needsEscape, Bool.or_eq_true, Bool.and_eq_true, decide_eq_true_eq, beq_iff_eq] at h
  omega

/-- A character is read back from its number. -/
theorem numbered?_digits {c : Char} (h : needsEscape c = true) :
    numbered? ['0', '0', (Nat.digitChar (c.toNat / 16)).toUpper,
      (Nat.digitChar (c.toNat % 16)).toUpper] = some c := by
  have hall : ∀ n < 128, numbered? ['0', '0', (Nat.digitChar (n / 16)).toUpper,
      (Nat.digitChar (n % 16)).toUpper] = some (Char.ofNat n) := by decide
  rw [hall c.toNat (toNat_of_needsEscape h), Char.ofNat_toNat]

/-- What a character is written as, if it is no quote. -/
inductive Spelled (long : Bool) (c : Char) : List Char → Prop
  | short (e : Char) (h : shortEscape? e = some c) (hu : e ≠ 'u') (hU : e ≠ 'U') :
      Spelled long c ['\\', e]
  | feed (hlong : long = true) (hc : c = '\n') : Spelled long c [c]
  | numbered (h : needsEscape c = true) : Spelled long c (numbered c)
  | plain (h : isPlain c = true) (hquote : c ≠ '"') (hslash : c ≠ '\\') : Spelled long c [c]

theorem spelled_escapeChar (long : Bool) {c : Char} (hquote : c ≠ '"') :
    Spelled long c (escapeChar long c) := by
  unfold escapeChar
  split
  · exact .short 'b' rfl (by decide) (by decide)
  · exact .short 't' rfl (by decide) (by decide)
  · cases long with
    | true => exact .feed rfl rfl
    | false => exact .short 'n' rfl (by decide) (by decide)
  · exact .short 'f' rfl (by decide) (by decide)
  · exact .short 'r' rfl (by decide) (by decide)
  · exact .short '\\' rfl (by decide) (by decide)
  · next hfeed _ _ hslash =>
      cases hescape : needsEscape c with
      | true => exact .numbered hescape
      | false => exact .plain (isPlain_of_needsEscape hescape hfeed) hquote hslash

/-- No character but a quote is written with a quote at its start. -/
theorem escapeChar_cons (long : Bool) {c : Char} (hquote : c ≠ '"') :
    ∃ d ds, escapeChar long c = d :: ds ∧ d ≠ '"' := by
  have hspelled := spelled_escapeChar long hquote
  generalize escapeChar long c = written at hspelled ⊢
  cases hspelled with
  | short e => exact ⟨'\\', [e], rfl, by decide⟩
  | feed => exact ⟨c, [], rfl, hquote⟩
  | numbered => exact ⟨'\\', _, rfl, by decide⟩
  | plain => exact ⟨c, [], rfl, hquote⟩

/-! ## One line in double quotes -/

theorem readBasic_escapeChar (soFar cs : List Char) {c : Char} (hquote : c ≠ '"') :
    readBasic soFar (escapeChar false c ++ cs) = readBasic (c :: soFar) cs := by
  have hspelled := spelled_escapeChar false hquote
  generalize escapeChar false c = written at hspelled ⊢
  cases hspelled with
  | short e h hu hU =>
      rw [List.cons_append, List.singleton_append, readBasic, h]
      · exact fun _ _ _ _ _ heq => absurd heq hu
      · exact fun _ _ _ _ _ _ _ _ _ heq => absurd heq hU
  | feed hlong => cases hlong
  | numbered h =>
      simp only [numbered, List.cons_append, List.nil_append]
      rw [readBasic, numbered?_digits h]
  | plain h _ hslash =>
      rw [List.singleton_append, readBasic, if_pos h]
      · exact hquote
      · exact fun _ _ _ _ _ heq => absurd heq hslash
      · exact fun _ _ _ _ _ _ _ _ _ heq => absurd heq hslash
      · exact fun _ _ heq => absurd heq hslash

/-- What was read so far is kept with its last character first. -/
theorem reverse_cons_append (c : Char) (soFar cs : List Char) :
    (c :: soFar).reverse ++ cs = soFar.reverse ++ c :: cs := by
  rw [List.reverse_cons, List.append_assoc, List.singleton_append]

/-- A text is read back from one line in double quotes. -/
theorem readBasic_escape (soFar cs rest : List Char) :
    readBasic soFar (escape false 0 0 cs ++ '"' :: rest) =
      some (String.ofList (soFar.reverse ++ cs), rest) := by
  induction cs generalizing soFar with
  | nil => rw [List.append_nil]; rfl
  | cons c cs ih =>
      have hread := ih (c :: soFar)
      rw [reverse_cons_append] at hread
      by_cases hquote : c = '"'
      · -- a backslash and the quote, which is read as a short escape
        rw [hquote] at hread ⊢
        exact hread
      · rw [escape, if_neg hquote, List.append_assoc, readBasic_escapeChar _ _ hquote, hread]

/-! ## Several lines in double quotes -/

/-- A plain character stands for itself, and so does a quote unless it is the first of
    three. -/
theorem readLongBasic_plain (soFar : List Char) {c : Char} {cs : List Char}
    (hplain : isPlain c = true) (hslash : c ≠ '\\')
    (hquote : c = '"' → ¬['"', '"'] <+: cs) :
    readLongBasic soFar false (c :: cs) = readLongBasic (c :: soFar) false cs := by
  have hthree : ∀ rest, c = '"' → cs = '"' :: '"' :: rest → False := by
    intro rest hc hcs
    exact hquote hc ⟨rest, hcs.symm⟩
  rw [readLongBasic, Bool.false_and, if_neg Bool.false_ne_true, if_pos hplain]
  · exact fun _ hc hcs => hthree _ hc hcs
  · exact fun _ hc hcs => hthree _ hc hcs
  · exact hthree
  · exact fun _ _ _ _ _ hc => absurd hc hslash
  · exact fun _ _ _ _ _ _ _ _ _ hc => absurd hc hslash
  · exact fun _ _ hc => absurd hc hslash
  · rintro _ rfl
    exact absurd hplain (by decide)
  · rintro rfl
    exact absurd hplain (by decide)

theorem readLongBasic_escapeChar (soFar cs : List Char) {c : Char} (hquote : c ≠ '"') :
    readLongBasic soFar false (escapeChar true c ++ cs) = readLongBasic (c :: soFar) false cs := by
  have hspelled := spelled_escapeChar true hquote
  generalize escapeChar true c = written at hspelled ⊢
  cases hspelled with
  | short e h hu hU =>
      rw [List.cons_append, List.singleton_append, readLongBasic, h]
      · exact fun _ _ _ _ _ heq => absurd heq hu
      · exact fun _ _ _ _ _ _ _ _ _ heq => absurd heq hU
  | feed _ hc =>
      rw [hc]
      rfl
  | numbered h =>
      simp only [numbered, List.cons_append, List.nil_append]
      rw [readLongBasic, numbered?_digits h]
  | plain h _ hslash =>
      exact readLongBasic_plain soFar h hslash fun hc => absurd hc hquote

/-- After two quotes, and before a character that is none, no quote is written. -/
theorem escape_cons (long : Bool) {most run : Nat} {c : Char} (h : c = '"' → most ≤ run)
    (cs : List Char) : ∃ d ds, escape long most run (c :: cs) = d :: ds ∧ d ≠ '"' := by
  by_cases hquote : c = '"'
  · rw [escape, if_pos hquote, if_neg (Nat.not_lt.mpr (h hquote))]
    exact ⟨'\\', _, rfl, by decide⟩
  · obtain ⟨d, ds, hd, hne⟩ := escapeChar_cons long hquote
    rw [escape, if_neg hquote, hd]
    exact ⟨d, _, rfl, hne⟩

/-- A text that goes on after a quote has at most two with it, as long as it is not a
    second quote that ends it. -/
theorem escape_not_quotes {run : Nat} {cs : List Char} (hrun : run < 2) (hne : cs ≠ [])
    (hlast : ¬(run = 0 ∧ cs = ['"'])) (rest : List Char) :
    ¬['"', '"'] <+: escape true 2 (run + 1) cs ++ rest := by
  rintro ⟨after, hafter⟩
  match cs, hne with
  | c :: cs, _ =>
    by_cases hfirst : c = '"' ∧ run = 0
    · -- one more quote follows here, but not a third
      obtain ⟨rfl, rfl⟩ := hfirst
      cases cs with
      | nil => exact hlast ⟨rfl, rfl⟩
      | cons d cs =>
          obtain ⟨e, es, he, hother⟩ : ∃ e es, escape true 2 2 (d :: cs) = e :: es ∧ e ≠ '"' :=
            escape_cons true (fun _ => Nat.le_refl 2) cs
          rw [escape, if_pos rfl, if_pos (by decide), he] at hafter
          exact hother (List.cons.inj (List.cons.inj hafter).2).1.symm
    · have hmost : c = '"' → 2 ≤ run + 1 := by
        intro hc
        have hzero : run ≠ 0 := fun hzero => hfirst ⟨hc, hzero⟩
        omega
      obtain ⟨d, ds, hd, hother⟩ := escape_cons true hmost cs
      rw [hd] at hafter
      exact hother (List.cons.inj hafter).1.symm

/-- The text goes on with something other than this quote. -/
def EndsQuotes (quote : Char) (rest : List Char) : Prop :=
  ∀ after, rest ≠ quote :: after

/-- A text is read back from several lines in double quotes. -/
theorem readLongBasic_escape (soFar cs : List Char) {run : Nat} (hrun : run ≤ 2)
    {rest : List Char} (hrest : EndsQuotes '"' rest) :
    readLongBasic soFar false (escape true 2 run cs ++ '"' :: '"' :: '"' :: rest) =
      some (String.ofList (soFar.reverse ++ cs), rest) := by
  -- one character at a time; only the last quotes of the text touch the closing ones
  induction cs generalizing soFar run with
  | nil =>
      rw [escape, List.nil_append, List.append_nil, readLongBasic]
      · exact fun _ => hrest _
      · exact hrest
  | cons c cs ih =>
      by_cases hquote : c = '"'
      · subst hquote
        by_cases hraw : run < 2
        · rw [escape, if_pos rfl, if_pos hraw, List.cons_append]
          by_cases hempty : cs = []
          · -- four quotes in a row, the first of which is of the text
            rw [hempty, escape, List.nil_append, readLongBasic, List.reverse_cons]
            exact hrest
          by_cases hlast : run = 0 ∧ cs = ['"']
          · -- five quotes in a row
            obtain ⟨rfl, rfl⟩ := hlast
            rw [← reverse_cons_append]
            show some (String.ofList ('"' :: '"' :: soFar).reverse, rest) = _
            rw [List.reverse_cons]
          · rw [readLongBasic_plain soFar (by decide) (by decide)
              fun _ => escape_not_quotes hraw hempty hlast _, ih _ hraw, reverse_cons_append]
        · -- the third quote in a row is escaped, and a new run begins
          have hread := ih ('"' :: soFar) (Nat.zero_le 2)
          rw [reverse_cons_append] at hread
          rw [escape, if_pos rfl, if_neg hraw]
          exact hread
      · rw [escape, if_neg hquote, List.append_assoc, readLongBasic_escapeChar _ _ hquote,
          ih _ (Nat.zero_le 2), reverse_cons_append]

/-! ## Texts without escapes -/

/-- A text is read back from single quotes if no character of it is a quote or needs an
    escape. -/
theorem readLiteral_append (soFar : List Char) {cs : List Char}
    (hplain : ∀ c ∈ cs, isPlain c = true) (hquote : '\'' ∉ cs) (rest : List Char) :
    readLiteral soFar (cs ++ '\'' :: rest) = some (String.ofList (soFar.reverse ++ cs), rest) := by
  induction cs generalizing soFar with
  | nil => rw [List.append_nil]; rfl
  | cons c cs ih =>
      have hc : c ≠ '\'' := fun hc => hquote (hc ▸ List.mem_cons_self)
      have hcs : '\'' ∉ cs := fun hmem => hquote (List.mem_cons_of_mem c hmem)
      rw [List.cons_append, readLiteral, if_pos (hplain c List.mem_cons_self),
        ih (c :: soFar) (fun d hd => hplain d (List.mem_cons_of_mem c hd)) hcs,
        reverse_cons_append]
      exact hc

/-- A text is read back from several lines in single quotes if it has no three quotes in
    a row and none of its characters needs an escape. -/
theorem readLongLiteral_append (soFar : List Char) {cs : List Char}
    (hplain : ∀ c ∈ cs, isPlain c = true ∨ c = '\n')
    (hquotes : ¬List.replicate 3 '\'' <:+: cs) {rest : List Char} (hrest : EndsQuotes '\'' rest) :
    readLongLiteral soFar (cs ++ '\'' :: '\'' :: '\'' :: rest) =
      some (String.ofList (soFar.reverse ++ cs), rest) := by
  induction cs generalizing soFar with
  | nil =>
      rw [List.nil_append, List.append_nil, readLongLiteral]
      · exact fun _ => hrest _
      · exact hrest
  | cons c cs ih =>
      have hread := ih (c :: soFar) (fun d hd => hplain d (List.mem_cons_of_mem c hd))
        fun hinside => hquotes (hinside.trans (List.suffix_cons c cs).isInfix)
      rw [reverse_cons_append] at hread
      rcases hplain c List.mem_cons_self with hc | rfl
      · by_cases hlast : c = '\'' ∧ (cs = [] ∨ cs = ['\''])
        · -- the quotes of the text touch the closing ones
          obtain ⟨rfl, rfl | rfl⟩ := hlast
          · rw [List.singleton_append, readLongLiteral, List.reverse_cons]
            exact hrest
          · show some (String.ofList ('\'' :: '\'' :: soFar).reverse, rest) = _
            rw [← reverse_cons_append, List.reverse_cons]
        · -- a quote here is no first of three, not even with the closing ones
          have hthree : ∀ after, c = '\'' →
              cs ++ '\'' :: '\'' :: '\'' :: rest = '\'' :: '\'' :: after → False := by
            rintro after rfl hafter
            match cs, hlast, hquotes with
            | [], hlast, _ => exact hlast ⟨rfl, .inl rfl⟩
            | [d], hlast, _ => exact hlast ⟨rfl, .inr (congrArg ([·]) (List.cons.inj hafter).1)⟩
            | d :: e :: cs, _, hquotes =>
              obtain ⟨hd, hafter⟩ := List.cons.inj hafter
              have he : e = '\'' := (List.cons.inj hafter).1
              exact hquotes ⟨[], cs, by rw [hd, he]; rfl⟩
          rw [List.cons_append, readLongLiteral, if_pos hc]
          · exact hread
          · exact fun _ hc hcs => hthree _ hc hcs
          · exact fun _ hc hcs => hthree _ hc hcs
          · exact hthree
          · rintro _ rfl
            exact absurd hc (by decide)
          · rintro rfl
            exact absurd hc (by decide)
      · exact hread

/-! ## The choice of a form -/

/-- One more character of a text in the count of its runs: the length of the run that it
    ends in, and the greatest length so far. -/
def countRun (c : Char) (s : Nat × Nat) (d : Char) : Nat × Nat :=
  if d == c then (s.1 + 1, max s.2 (s.1 + 1)) else (0, s.2)

theorem longestRun_eq (c : Char) (cs : List Char) :
    longestRun c cs = (cs.foldl (countRun c) (0, 0)).2 := rfl

/-- The greatest length only grows. -/
theorem le_foldl_countRun (c : Char) (s : Nat × Nat) (cs : List Char) :
    s.2 ≤ (cs.foldl (countRun c) s).2 := by
  induction cs generalizing s with
  | nil => exact Nat.le_refl _
  | cons d cs ih =>
      have hstep : s.2 ≤ (countRun c s d).2 := by
        unfold countRun
        split
        · exact Nat.le_max_left _ _
        · exact Nat.le_refl _
      exact Nat.le_trans hstep (ih _)

/-- The run at the end is one of those that count. -/
theorem foldl_countRun_run_le (c : Char) {s : Nat × Nat} (h : s.1 ≤ s.2) (cs : List Char) :
    (cs.foldl (countRun c) s).1 ≤ (cs.foldl (countRun c) s).2 := by
  induction cs generalizing s with
  | nil => exact h
  | cons d cs ih =>
      apply ih
      unfold countRun
      split
      · exact Nat.le_max_right _ _
      · exact Nat.zero_le _

theorem foldl_countRun_replicate (c : Char) (k : Nat) {s : Nat × Nat} (h : s.1 ≤ s.2) :
    s.1 + k ≤ ((List.replicate k c).foldl (countRun c) s).2 := by
  induction k generalizing s with
  | zero => exact h
  | succ k ih =>
      have hstep : countRun c s c = (s.1 + 1, max s.2 (s.1 + 1)) := by
        rw [countRun, if_pos (beq_self_eq_true c)]
      have hle := ih (s := countRun c s c) (by rw [hstep]; exact Nat.le_max_right _ _)
      rw [List.replicate_succ, List.foldl_cons]
      rw [hstep] at hle ⊢
      omega

/-- No run inside a text is longer than its longest. -/
theorem le_longestRun {c : Char} {k : Nat} {cs : List Char} (h : List.replicate k c <:+: cs) :
    k ≤ longestRun c cs := by
  obtain ⟨before, after, rfl⟩ := h
  let start := before.foldl (countRun c) (0, 0)
  have hstart : start.1 ≤ start.2 := foldl_countRun_run_le c (Nat.le_refl 0) before
  have hrun := foldl_countRun_replicate c k hstart
  have hafter := le_foldl_countRun c ((List.replicate k c).foldl (countRun c) start) after
  rw [longestRun_eq, List.foldl_append, List.foldl_append]
  calc k
    _ ≤ start.1 + k := Nat.le_add_left k start.1
    _ ≤ ((List.replicate k c).foldl (countRun c) start).2 := hrun
    _ ≤ _ := hafter

theorem not_mem_of_longestRun {c : Char} {cs : List Char} (h : longestRun c cs = 0) : c ∉ cs := by
  intro hmem
  obtain ⟨before, after, rfl⟩ := List.append_of_mem hmem
  have hone : 1 ≤ longestRun c (before ++ c :: after) :=
    le_longestRun ⟨before, after, List.append_assoc before [c] after⟩
  omega

/-- The forms without escapes are chosen for texts that they can hold. -/
theorem quotingFor_spec (cs : List Char) :
    (quotingFor cs = .literal → cs ≠ [] ∧ (∀ c ∈ cs, isPlain c = true) ∧ '\'' ∉ cs) ∧
    (quotingFor cs = .longLiteral →
      (∀ c ∈ cs, isPlain c = true ∨ c = '\n') ∧ ¬List.replicate 3 '\'' <:+: cs) := by
  -- what both conditions say of the characters
  have hclear : (!cs.any needsEscape) = true → ∀ c ∈ cs, isPlain c = true ∨ c = '\n' := by
    intro hescapes c hc
    rw [Bool.not_eq_true', List.any_eq_false] at hescapes
    by_cases hline : c = '\n'
    · exact .inr hline
    · exact .inl (isPlain_of_needsEscape (Bool.eq_false_iff.mpr (hescapes c hc)) hline)
  unfold quotingFor
  simp only [Bool.and_eq_true, decide_eq_true_eq]
  split
  · exact ⟨nofun, nofun⟩
  split
  · next hbasic hliteral =>
      refine ⟨fun _ => ?_, nofun⟩
      obtain ⟨⟨hescapes, hsingle⟩, hlines⟩ := hliteral
      refine ⟨?_, ?_, not_mem_of_longestRun hsingle⟩
      · -- the empty text takes double quotes
        rintro rfl
        exact hbasic (by decide)
      · intro c hc
        rcases hclear hescapes c hc with hplain | rfl
        · exact hplain
        · rw [List.contains_iff_mem.mpr hc] at hlines
          cases hlines
  split
  · exact ⟨nofun, nofun⟩
  split
  · next hlong =>
      refine ⟨nofun, fun _ => ⟨hclear hlong.1, fun hinside => ?_⟩⟩
      have hthree := le_longestRun hinside
      omega
  split
  · exact ⟨nofun, nofun⟩
  · exact ⟨nofun, nofun⟩

/-! ## Every text -/

/-- What comes after a value that was written: the end, or something that can stand there. -/
def Parted (rest : List Char) : Prop :=
  ∀ c ∈ rest.head?, c = '\n' ∨ c = ',' ∨ c = ']'

theorem parted_cons {c : Char} (hc : c = '\n' ∨ c = ',' ∨ c = ']') (rest : List Char) :
    Parted (c :: rest) := by
  intro d hd
  rw [← Option.some.inj hd]
  exact hc

theorem Parted.endsQuotes {rest : List Char} (h : Parted rest) {quote : Char}
    (hquote : quote = '"' ∨ quote = '\'') : EndsQuotes quote rest := by
  rintro after rfl
  rcases hquote with rfl | rfl <;> exact absurd (h _ rfl) (by decide)

/-- The line end that stands before a text of several lines. -/
def startOf (cs : List Char) : List Char :=
  if cs.contains '\n' then ['\n'] else []

/-- That line end is taken away again. -/
theorem dropNewline_start {cs body : List Char}
    (hbody : '\n' ∉ cs → ∀ c ∈ body.head?, isPlain c = true) :
    dropNewline (startOf cs ++ body) = body := by
  rw [startOf]
  by_cases hline : '\n' ∈ cs
  · rw [if_pos (List.contains_iff_mem.mpr hline)]
    rfl
  · have hnone : cs.contains '\n' = false :=
      Bool.eq_false_iff.mpr fun h => hline (List.contains_iff_mem.mp h)
    rw [hnone, if_neg Bool.false_ne_true, List.nil_append, dropNewline]
    have hfirst := hbody hline
    cases body with
    | nil => rfl
    | cons c body =>
        have hplain : isPlain c = true := hfirst c rfl
        have hnewline : newline? (c :: body) = none := by
          rw [newline?]
          · rintro _ heq
            rw [(List.cons.inj heq).1] at hplain
            exact absurd hplain (by decide)
          · rintro _ heq
            rw [(List.cons.inj heq).1] at hplain
            exact absurd hplain (by decide)
        rw [hnewline]
        rfl

/-- A text without line ends is written with a plain character at its start. -/
theorem isPlain_of_escape {cs : List Char} (hline : '\n' ∉ cs) (rest : List Char) :
    ∀ c ∈ (escape true 2 0 cs ++ '"' :: rest).head?, isPlain c = true := by
  intro c hc
  cases cs with
  | nil =>
      rw [← Option.some.inj hc]
      rfl
  | cons d cs =>
      by_cases hquote : d = '"'
      · rw [escape, if_pos hquote, if_pos (by decide)] at hc
        rw [← Option.some.inj hc]
        rfl
      · have hspelled := spelled_escapeChar true hquote
        rw [escape, if_neg hquote] at hc
        generalize escapeChar true d = written at hspelled hc
        cases hspelled with
        | short e => rw [← Option.some.inj hc]; rfl
        | feed _ hd => exact absurd (hd ▸ List.mem_cons_self) hline
        | numbered => rw [← Option.some.inj hc]; rfl
        | plain h => rwa [← Option.some.inj hc]

section Forms

variable {rest : List Char}

theorem readText_basic (cs : List Char) (hrest : EndsQuotes '"' rest) :
    readText ('"' :: escape false 0 0 cs ++ ['"'] ++ rest) = some (String.ofList cs, rest) := by
  rw [List.append_assoc, List.singleton_append, List.cons_append, readText]
  · exact readBasic_escape [] cs rest
  · -- the first quotes are not three
    intro after heq
    cases cs with
    | nil => exact hrest after (List.cons.inj heq).2
    | cons c cs =>
        obtain ⟨d, ds, hd, hne⟩ : ∃ d ds, escape false 0 0 (c :: cs) = d :: ds ∧ d ≠ '"' :=
          escape_cons false (fun _ => Nat.le_refl 0) cs
        rw [hd] at heq
        exact hne (List.cons.inj heq).1

theorem readText_literal {cs : List Char} (hcs : cs ≠ [])
    (hplain : ∀ c ∈ cs, isPlain c = true) (hquote : '\'' ∉ cs) :
    readText ('\'' :: cs ++ ['\''] ++ rest) = some (String.ofList cs, rest) := by
  rw [List.append_assoc, List.singleton_append, List.cons_append, readText]
  · exact readLiteral_append [] hplain hquote rest
  · intro after heq
    cases cs with
    | nil => exact hcs rfl
    | cons c cs => exact hquote ((List.cons.inj heq).1 ▸ List.mem_cons_self)

theorem readText_longBasic (cs : List Char) (hrest : EndsQuotes '"' rest) :
    readText (['"', '"', '"'] ++ startOf cs ++ escape true 2 0 cs ++ ['"', '"', '"'] ++ rest) =
      some (String.ofList cs, rest) := by
  have hstart : dropNewline (startOf cs ++ (escape true 2 0 cs ++ '"' :: '"' :: '"' :: rest)) =
      escape true 2 0 cs ++ '"' :: '"' :: '"' :: rest :=
    dropNewline_start fun hline => isPlain_of_escape hline _
  simp only [List.append_assoc, List.cons_append, List.nil_append, readText]
  rw [hstart]
  exact readLongBasic_escape [] cs (Nat.zero_le 2) hrest

theorem readText_longLiteral {cs : List Char} (hplain : ∀ c ∈ cs, isPlain c = true ∨ c = '\n')
    (hquotes : ¬List.replicate 3 '\'' <:+: cs) (hrest : EndsQuotes '\'' rest) :
    readText (['\'', '\'', '\''] ++ startOf cs ++ cs ++ ['\'', '\'', '\''] ++ rest) =
      some (String.ofList cs, rest) := by
  have hfirst : '\n' ∉ cs →
      ∀ c ∈ (cs ++ '\'' :: '\'' :: '\'' :: rest).head?, isPlain c = true := by
    intro hline c hc
    cases cs with
    | nil =>
        rw [← Option.some.inj hc]
        rfl
    | cons d cs =>
        rw [← Option.some.inj hc]
        rcases hplain d List.mem_cons_self with hd | hd
        · exact hd
        · exact absurd (hd ▸ List.mem_cons_self) hline
  have hstart : dropNewline (startOf cs ++ (cs ++ '\'' :: '\'' :: '\'' :: rest)) =
      cs ++ '\'' :: '\'' :: '\'' :: rest :=
    dropNewline_start hfirst
  simp only [List.append_assoc, List.cons_append, List.nil_append, readText]
  rw [hstart]
  exact readLongLiteral_append [] hplain hquotes hrest

end Forms

/-- **Every text is read back** from the form that is chosen for it, whatever quotes,
    line ends and control characters it has. -/
theorem readText_writeText (s : String) {rest : List Char} (hrest : Parted rest) :
    readText (writeText s ++ rest) = some (s, rest) := by
  have hself : String.ofList s.toList = s := String.ofList_toList
  obtain ⟨hliteral, hlong⟩ := quotingFor_spec s.toList
  have hdouble : EndsQuotes '"' rest := hrest.endsQuotes (.inl rfl)
  have hsingle : EndsQuotes '\'' rest := hrest.endsQuotes (.inr rfl)
  rw [writeText]
  cases hform : quotingFor s.toList with
  | basic =>
      have hread := readText_basic s.toList hdouble
      rwa [hself] at hread
  | literal =>
      obtain ⟨hne, hplain, hquote⟩ := hliteral hform
      have hread : readText ('\'' :: s.toList ++ ['\''] ++ rest) = _ :=
        readText_literal hne hplain hquote
      rwa [hself] at hread
  | longBasic =>
      have hread := readText_longBasic s.toList hdouble
      rwa [hself] at hread
  | longLiteral =>
      obtain ⟨hplain, hquotes⟩ := hlong hform
      have hread := readText_longLiteral hplain hquotes hsingle
      rwa [hself] at hread

/-- A text that takes a form of several lines, and touches its closing quotes. -/
example : writeText "say \"hi\"\n\"\"" = "\"\"\"\nsay \"hi\"\n\"\"\"\"\"".toList := by decide

end TunnelSession.Toml
