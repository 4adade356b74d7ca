/-
  TunnelSession.Proofs.Toml.Values

  A value that was written is read back: a text, a whole number of 64 bits, a truth
  value, or a list of these. Digits are taken for a number and not for a date or a time
  of day, which would need a sign or a colon after some of them.
-/
import TunnelSession.Proofs.Toml.Texts

namespace TunnelSession.Toml

open Text (toDigits_cons ne_of_number)

/-! ## Whole numbers -/

/-- Nothing but decimal digits. -/
def AllDigits (ds : List Char) : Prop := ∀ c ∈ ds, c.isDigit = true

theorem allDigits_toDigits (n : Nat) : AllDigits (Nat.toDigits 10 n) :=
  fun _ hc => Nat.isDigit_of_mem_toDigits (by decide) (by decide) hc

theorem readDigits_append (soFar : List Char) {ds rest : List Char} (hds : AllDigits ds)
    (hrest : Parted rest) :
    readDigits Char.isDigit soFar (ds ++ rest) = (soFar.reverse ++ ds, rest) := by
  induction ds generalizing soFar with
  | nil =>
      rw [List.nil_append, List.append_nil]
      cases rest with
      | nil => rfl
      | cons c rest =>
          rcases hrest c rfl with rfl | rfl | rfl <;> rfl
  | cons d ds ih =>
      have hd : d.isDigit = true := hds d List.mem_cons_self
      rw [List.cons_append, readDigits, if_pos hd, ih (d :: soFar)
        fun c hc => hds c (List.mem_cons_of_mem d hc), reverse_cons_append]
      -- a digit is no underscore
      rintro _ _ rfl
      exact absurd hd (by decide)

/-- The digits of a number are read as they are, for only zero begins with a zero. -/
theorem readWhole_toDigits (n : Nat) {rest : List Char} (hrest : Parted rest) :
    readWhole (Nat.toDigits 10 n ++ rest) = some (Nat.toDigits 10 n, rest) := by
  by_cases hn : n = 0
  · rw [hn]
    rfl
  · have hzero : (Nat.toDigits 10 n).head? ≠ some '0' :=
      Text.head?_toDigits (by decide) (by decide) hn
    have hread := readDigits_append [] (allDigits_toDigits n) hrest
    obtain ⟨d, ds, hds, -⟩ := toDigits_cons n
    rw [hds] at hzero hread ⊢
    rw [List.cons_append, readWhole, ← List.cons_append, hread]
    · rfl
    · intro _ heq
      exact hzero (congrArg some (List.cons.inj heq).1)

theorem readExponent_of_parted {rest : List Char} (h : Parted rest) :
    readExponent rest = none := by
  cases rest with
  | nil => rfl
  | cons c rest => rcases h c rfl with rfl | rfl | rfl <;> rfl

theorem hasForm_integer {n : Int} :
    hasForm (.integer n) = true ↔ -0x8000000000000000 ≤ n ∧ n < 0x8000000000000000 := by
  rw [hasForm, Bool.and_eq_true, decide_eq_true_eq, decide_eq_true_eq]

theorem wholeNumber?_natAbs {n : Int} (h : hasForm (.integer n) = true) :
    wholeNumber? (decide (n < 0)) 10 (Nat.toDigits 10 n.natAbs) = some (.integer n) := by
  obtain ⟨hlow, hhigh⟩ := hasForm_integer.mp h
  have hvalue : Text.valueOf 10 (Nat.toDigits 10 n.natAbs) = n.natAbs :=
    Text.valueOf_toDigits (by decide) (by decide) _
  rw [wholeNumber?, hvalue]
  by_cases hneg : n < 0
  · have habs : -(n.natAbs : Int) = n := by omega
    simp only [hneg, decide_true, if_true, habs]
    exact if_pos (by omega)
  · have habs : (n.natAbs : Int) = n := by omega
    simp only [hneg, decide_false, Bool.false_eq_true, if_false, habs]
    exact if_pos (by omega)

/-- The sign of a number that was written, and the digits after it. -/
theorem readSign_append (negative : Bool) (n : Nat) (rest : List Char) :
    readSign ((if negative then ['-'] else []) ++ (Nat.toDigits 10 n ++ rest)) =
      (negative, Nat.toDigits 10 n ++ rest) := by
  obtain ⟨d, ds, hds, hdigit⟩ := toDigits_cons n
  cases negative with
  | true => rfl
  | false =>
      rw [hds, if_neg Bool.false_ne_true, List.nil_append, List.cons_append, readSign]
      · intro _ heq
        rw [(List.cons.inj heq).1] at hdigit
        exact absurd hdigit (by decide)
      · intro _ heq
        rw [(List.cons.inj heq).1] at hdigit
        exact absurd hdigit (by decide)

theorem readDecimal_writeInteger {n : Int} (h : hasForm (.integer n) = true) {rest : List Char}
    (hrest : Parted rest) : readDecimal (writeInteger n ++ rest) = some (.integer n, rest) := by
  have hsign := readSign_append (decide (n < 0)) n.natAbs rest
  have hwhole := readWhole_toDigits n.natAbs hrest
  have hvalue := wholeNumber?_natAbs h
  have hexponent : readExponent rest = none := readExponent_of_parted hrest
  have hdot : ∀ after, rest ≠ '.' :: after := by
    rintro after rfl
    exact absurd (hrest '.' rfl) (by decide)
  obtain ⟨d, ds, hds, hdigit⟩ := toDigits_cons n.natAbs
  have hfirst : d ≠ 'i' ∧ d ≠ 'n' := by
    constructor <;> rintro rfl <;> exact absurd hdigit (by decide)
  rw [writeInteger, List.append_assoc, readDecimal]
  simp only [decide_eq_true_eq] at hsign
  simp only [hsign]
  rw [hds] at hwhole hvalue ⊢
  simp only [List.cons_append] at hwhole ⊢
  simp only [hwhole, hexponent, hvalue, List.cons.injEq, hfirst.1, hfirst.2, false_and, imp_self,
    implies_true, Option.bind_eq_bind, Option.bind_some]

/-! ## Numbers are no times -/

/-- Nothing but digits and what may come after a value: a part of a date or of a time of
    day does not end in it, for its sign or colon is missing. -/
theorem expect_eq_none {ds rest : List Char} (hds : AllDigits ds) (hrest : Parted rest) {c : Char}
    (hc : c = '-' ∨ c = ':') : expect c (ds ++ rest) = none := by
  have hother : ∀ d ∈ (ds ++ rest).head?, d ≠ c := by
    intro d hd
    cases ds with
    | nil =>
        rcases hrest d hd with rfl | rfl | rfl <;> rcases hc with rfl | rfl <;> decide
    | cons e ds =>
        have hdigit : d.isDigit = true := hds d (Option.some.inj hd ▸ List.mem_cons_self)
        rintro rfl
        rcases hc with rfl | rfl <;> exact absurd hdigit (by decide)
  generalize ds ++ rest = cs at hother
  cases cs with
  | nil => rfl
  | cons d cs => exact if_neg (hother d rfl)

/-- A run of digits ends with those of the number: one that went on would have what
    follows them in it. -/
theorem le_length_of_digits {count : Nat} {ds rest : List Char} (hrest : Parted rest)
    (hlength : count ≤ (ds ++ rest).length)
    (hall : ∀ c ∈ (ds ++ rest).take count, Text.isDigitOf 10 c = true) : count ≤ ds.length := by
  by_contra hlong
  cases rest with
  | nil =>
      rw [List.append_nil] at hlength
      exact hlong hlength
  | cons c rest =>
      have hmem : c ∈ (ds ++ c :: rest).take count := by
        obtain ⟨more, hmore⟩ : ∃ more, count - ds.length = more + 1 :=
          ⟨count - ds.length - 1, by omega⟩
        rw [List.take_append, List.mem_append, hmore, List.take_succ_cons]
        exact .inr List.mem_cons_self
      have hdigit := hall c hmem
      rcases hrest c rfl with rfl | rfl | rfl <;> exact absurd hdigit (by decide)

/-- What is left once a part was read, all of which are digits. -/
theorem readPart_digits {count low high n : Nat} {ds rest after : List Char}
    (hrest : Parted rest) (h : readPart count low high (ds ++ rest) = some (n, after)) :
    after = ds.drop count ++ rest := by
  unfold readPart at h
  split at h
  · next m hm =>
    have hall : ∀ c ∈ (ds ++ rest).take count, Text.isDigitOf 10 c = true := by
      rw [Text.readDigits?] at hm
      split at hm
      · next hdigits => exact List.all_eq_true.mp hdigits.2
      · cases hm
    split at h
    · next hbounds =>
      obtain ⟨-, rfl⟩ := Prod.mk.inj (Option.some.inj h)
      exact List.drop_append_of_le_length (le_length_of_digits hrest hbounds.1 hall)
    · cases h
  · cases h

theorem readPart_minus {count : Nat} (hcount : count ≠ 0) (low high : Nat) (cs : List Char) :
    readPart count low high ('-' :: cs) = none := by
  obtain ⟨count, rfl⟩ := Nat.exists_eq_succ_of_ne_zero hcount
  have hdigits : Text.readDigits? 10 (('-' :: cs).take (count + 1)) = none := by
    rw [List.take_succ_cons, Text.readDigits?]
    refine if_neg fun h => ?_
    exact absurd (List.all_eq_true.mp h.2 '-' List.mem_cons_self) (by decide)
  rw [readPart, hdigits]

/-- A whole number is neither a date nor a time of day. -/
theorem readTime_writeInteger (n : Int) {rest : List Char} (hrest : Parted rest) :
    readTime (writeInteger n ++ rest) = none := by
  rw [writeInteger, List.append_assoc]
  by_cases hneg : n < 0
  · rw [if_pos hneg, List.singleton_append, readTime, readDate, readClock,
      readPart_minus (by decide), readPart_minus (by decide)]
    rfl
  · rw [if_neg hneg, List.nil_append]
    have hdrop : ∀ count, AllDigits ((Nat.toDigits 10 n.natAbs).drop count) := fun count c hc =>
      allDigits_toDigits n.natAbs c (List.mem_of_mem_drop hc)
    -- after four digits a date has a sign, after two a time of day has a colon
    have hdate : readDate (Nat.toDigits 10 n.natAbs ++ rest) = none := by
      rw [readDate]
      cases hyear : readPart 4 0 9999 (Nat.toDigits 10 n.natAbs ++ rest) with
      | none => rfl
      | some part =>
          have hafter := readPart_digits hrest hyear
          simp only [Option.bind_eq_bind, Option.bind_some, hafter,
            expect_eq_none (hdrop 4) hrest (.inl rfl)]
          rfl
    have hclock : readClock (Nat.toDigits 10 n.natAbs ++ rest) = none := by
      rw [readClock]
      cases hhour : readPart 2 0 23 (Nat.toDigits 10 n.natAbs ++ rest) with
      | none => rfl
      | some part =>
          have hafter := readPart_digits hrest hhour
          simp only [Option.bind_eq_bind, Option.bind_some, hafter,
            expect_eq_none (hdrop 2) hrest (.inr rfl)]
          rfl
    rw [readTime, hdate, hclock]

/-! ## Values that hold no others -/

/-- A value that holds no others and has a form. -/
inductive Single : Toml → Prop
  | text (s : String) : Single (.text s)
  | integer (n : Int) : Single (.integer n)
  | bool (b : Bool) : Single (.bool b)

/-- A value that can stand in an entry: one that holds no others, or a list of such. -/
inductive Plain : Toml → Prop
  | single {v : Toml} (h : Single v) : Plain v
  | list {items : List Toml} (h : ∀ v ∈ items, Single v) : Plain (.list items)

/-- What begins a number begins nothing else, if it is no zero before a letter. -/
theorem readValue_of_number {c : Char} (hc : c = '-' ∨ c.isDigit = true) (fuel depth : Nat)
    {cs : List Char} (hzero : c = '0' → Parted cs) (htime : readTime (c :: cs) = none) :
    readValue (fuel + 1) depth (c :: cs) = readDecimal (c :: cs) := by
  have hother : ∀ {d : Char} {ds : List Char}, c :: cs = d :: ds → d ≠ '-' → d.isDigit = false →
      False := by
    intro d ds heq hminus hdigit
    exact ne_of_number hc d hminus hdigit (List.cons.inj heq).1
  have hradix : ∀ {d : Char} {ds : List Char}, c :: cs = '0' :: d :: ds →
      d = '\n' ∨ d = ',' ∨ d = ']' := by
    intro d ds heq
    obtain ⟨hc, rfl⟩ := List.cons.inj heq
    exact hzero hc d rfl
  rw [readValue, htime]
  -- it is no quote, bracket or letter, and no prefix of another base
  · exact fun _ heq => hother heq (by decide) (by decide)
  · exact fun _ heq => hother heq (by decide) (by decide)
  · exact fun _ heq => hother heq (by decide) (by decide)
  · exact fun _ heq => hother heq (by decide) (by decide)
  · exact fun _ heq => hother heq (by decide) (by decide)
  · exact fun _ heq => hother heq (by decide) (by decide)
  · exact fun _ heq => absurd (hradix heq) (by decide)
  · exact fun _ heq => absurd (hradix heq) (by decide)
  · exact fun _ heq => absurd (hradix heq) (by decide)

/-- The text of a whole number begins with a zero only if that is all of it. -/
theorem writeInteger_cons (n : Int) :
    ∃ c cs, writeInteger n = c :: cs ∧ (c = '-' ∨ c.isDigit = true) ∧ (c = '0' → cs = []) := by
  obtain ⟨d, ds, hds, hdigit⟩ := toDigits_cons n.natAbs
  by_cases hneg : n < 0
  · exact ⟨'-', Nat.toDigits 10 n.natAbs, by rw [writeInteger, if_pos hneg]; rfl, .inl rfl,
      fun hc => absurd hc (by decide)⟩
  · refine ⟨d, ds, by rw [writeInteger, if_neg hneg, hds]; rfl, .inr hdigit, ?_⟩
    rintro rfl
    by_cases hn : n.natAbs = 0
    · rw [hn] at hds
      exact (List.cons.inj hds).2.symm
    · have hzero : (Nat.toDigits 10 n.natAbs).head? ≠ some '0' :=
        Text.head?_toDigits (by decide) (by decide) hn
      rw [hds] at hzero
      exact absurd rfl hzero

/-- No text of a value begins with space, the end of a line, of a list or a comment. -/
theorem writeSingle_cons {v : Toml} (h : Single v) :
    ∃ c cs, writeSingle v = c :: cs ∧ isSpace c = false ∧ c ≠ '\n' ∧ c ≠ '\r' ∧ c ≠ '#' ∧
      c ≠ ']' := by
  cases h with
  | text s =>
      rw [writeSingle, writeText]
      cases quotingFor s.toList with
      | basic | longBasic => exact ⟨'"', _, rfl, by decide⟩
      | literal | longLiteral => exact ⟨'\'', _, rfl, by decide⟩
  | integer n =>
      obtain ⟨c, cs, hcs, hc, -⟩ := writeInteger_cons n
      have hother := ne_of_number hc
      refine ⟨c, cs, hcs, ?_, hother _ (by decide) (by decide), hother _ (by decide) (by decide),
        hother _ (by decide) (by decide), hother _ (by decide) (by decide)⟩
      rw [isSpace, Bool.or_eq_false_iff, beq_eq_false_iff_ne, beq_eq_false_iff_ne]
      exact ⟨hother _ (by decide) (by decide), hother _ (by decide) (by decide)⟩
  | bool b =>
      cases b with
      | true => exact ⟨'t', _, rfl, by decide⟩
      | false => exact ⟨'f', _, rfl, by decide⟩

theorem writeValue_single {v : Toml} (h : Single v) : writeValue v = writeSingle v := by
  cases h <;> rfl

theorem readValue_writeText (s : String) (fuel depth : Nat) {rest : List Char}
    (hrest : Parted rest) :
    readValue (fuel + 1) depth (writeText s ++ rest) = some (.text s, rest) := by
  have hread := readText_writeText s hrest
  have hquote : ∃ c cs, writeText s ++ rest = c :: cs ∧ (c = '"' ∨ c = '\'') := by
    rw [writeText]
    cases quotingFor s.toList with
    | basic | longBasic => exact ⟨'"', _, rfl, .inl rfl⟩
    | literal | longLiteral => exact ⟨'\'', _, rfl, .inr rfl⟩
  obtain ⟨c, cs, hcs, rfl | rfl⟩ := hquote
  · rw [hcs] at hread ⊢
    rw [readValue, hread]
    rfl
  · rw [hcs] at hread ⊢
    rw [readValue, hread]
    rfl

theorem readValue_writeSingle {v : Toml} (hv : Single v) (hform : hasForm v = true)
    (fuel depth : Nat) {rest : List Char} (hrest : Parted rest) :
    readValue (fuel + 1) depth (writeSingle v ++ rest) = some (v, rest) := by
  cases hv with
  | text s => exact readValue_writeText s fuel depth hrest
  | integer n =>
      obtain ⟨c, cs, hcs, hc, hzero⟩ := writeInteger_cons n
      have htime := readTime_writeInteger n hrest
      have hread := readDecimal_writeInteger hform hrest
      rw [writeSingle]
      rw [hcs, List.cons_append] at htime hread ⊢
      rw [readValue_of_number hc fuel depth _ htime, hread]
      intro heq
      rw [hzero heq]
      exact hrest
  | bool b => cases b <;> rfl

/-! ## Lists -/

/-- A value is where an item of a list begins. -/
theorem skipFiller_writeSingle {v : Toml} (hv : Single v) (rest : List Char) :
    skipFiller false (writeSingle v ++ rest) = some (writeSingle v ++ rest) ∧
      ∀ after, writeSingle v ++ rest ≠ ']' :: after := by
  obtain ⟨c, cs, hcs, hspace, hfeed, hreturn, hcomment, hend⟩ := writeSingle_cons hv
  rw [hcs, List.cons_append]
  constructor
  · rw [skipFiller, if_neg Bool.false_ne_true, hspace, if_neg Bool.false_ne_true, if_neg]
    · exact fun h => hcomment (eq_of_beq h)
    · exact hfeed
    · exact fun _ h => absurd h hreturn
  · exact fun after heq => hend (List.cons.inj heq).1

/-- A value and what comes after it, as the items of a list. -/
theorem readItems_writeSingle {v : Toml} (hv : Single v) (hform : hasForm v = true)
    (fuel depth : Nat) {cs rest : List Char} (hrest : Parted rest)
    (hcs : skipFiller false cs = some (writeSingle v ++ rest)) :
    readItems (fuel + 2) depth cs =
      (skipFiller false rest).bind fun after =>
        match after with
        | ',' :: after => (readItems (fuel + 1) depth after).bind fun r => some (v :: r.1, r.2)
        | ']' :: after => some ([v], after)
        | _ => none := by
  have hread := readValue_writeSingle hv hform fuel depth hrest
  have hend := (skipFiller_writeSingle hv rest).2
  rw [readItems, hcs]
  -- an item is not taken for the end of the list, by `hend`
  simp only [Option.bind_eq_bind, Option.bind_some]
  rw [hread]
  rfl

/-- The lines of the items of a list. -/
def itemLines (items : List Toml) : List Char :=
  items.flatMap fun v => [' ', ' ', ' ', ' '] ++ writeSingle v ++ [',', '\n']

theorem readItems_itemLines {items : List Toml} (hitems : ∀ v ∈ items, Single v)
    (hform : ∀ v ∈ items, hasForm v = true) {fuel : Nat} (hfuel : items.length < fuel)
    (depth : Nat) (rest : List Char) :
    readItems fuel depth ('\n' :: (itemLines items ++ ']' :: rest)) = some (items, rest) := by
  induction items generalizing fuel with
  | nil =>
      obtain ⟨fuel, rfl⟩ : ∃ f, fuel = f + 1 := ⟨fuel - 1, by omega⟩
      rw [readItems]
      rfl
  | cons v items ih =>
      rw [List.length_cons] at hfuel
      obtain ⟨fuel, rfl⟩ : ∃ f, fuel = f + 2 := ⟨fuel - 2, by omega⟩
      have hleft : items.length < fuel + 1 := by omega
      have hmore := ih (fun w hw => hitems w (List.mem_cons_of_mem v hw))
        (fun w hw => hform w (List.mem_cons_of_mem v hw)) hleft
      have hv : Single v := hitems v List.mem_cons_self
      have hafter : Parted (',' :: '\n' :: (itemLines items ++ ']' :: rest)) :=
        parted_cons (.inr (.inl rfl)) _
      have hline : skipFiller false ('\n' :: (itemLines (v :: items) ++ ']' :: rest)) =
          some (writeSingle v ++ ',' :: '\n' :: (itemLines items ++ ']' :: rest)) := by
        have hskip := (skipFiller_writeSingle hv
          (',' :: '\n' :: (itemLines items ++ ']' :: rest))).1
        rw [itemLines, List.flatMap_cons, ← itemLines]
        simp only [List.append_assoc, List.cons_append, List.nil_append]
        exact hskip
      rw [readItems_writeSingle hv (hform v List.mem_cons_self) fuel depth hafter hline]
      show (readItems (fuel + 1) depth ('\n' :: (itemLines items ++ ']' :: rest))).bind _ = _
      rw [hmore]
      rfl

theorem length_le_itemLines (items : List Toml) : items.length ≤ (itemLines items).length := by
  induction items with
  | nil => exact Nat.le_refl 0
  | cons v items ih =>
      rw [itemLines, List.flatMap_cons, ← itemLines]
      simp only [List.length_append, List.length_cons]
      omega

theorem readValue_bracket (fuel depth : Nat) (cs : List Char) :
    readValue (fuel + 1) (depth + 1) ('[' :: cs) =
      (readItems fuel depth cs).map fun r => (.list r.1, r.2) := by
  rw [readValue, if_neg (Nat.succ_ne_zero depth)]
  rfl

theorem readValue_list {items : List Toml} (hitems : ∀ v ∈ items, Single v)
    (hform : ∀ v ∈ items, hasForm v = true) {fuel depth : Nat}
    (hfuel : (writeValue (.list items)).length ≤ fuel) (rest : List Char) :
    readValue (fuel + 1) (depth + 1) (writeValue (.list items) ++ rest) =
      some (.list items, rest) := by
  rw [writeValue] at hfuel ⊢
  match items, hitems, hform, hfuel with
  | [], _, _, hfuel =>
    have hpos : 1 ≤ fuel := Nat.le_trans (by decide) hfuel
    obtain ⟨fuel, rfl⟩ : ∃ f, fuel = f + 1 := ⟨fuel - 1, by omega⟩
    show readValue (fuel + 2) (depth + 1) ('[' :: ']' :: rest) = _
    rw [readValue_bracket, readItems]
    rfl
  | [v], hitems, hform, hfuel =>
    have hv : Single v := hitems v List.mem_cons_self
    have hlength : ('[' :: (writeSingle v ++ [] ++ [']'])).length ≤ fuel := hfuel
    rw [List.append_nil, List.length_cons, List.length_append, List.length_singleton] at hlength
    obtain ⟨fuel, rfl⟩ : ∃ f, fuel = f + 2 := ⟨fuel - 2, by omega⟩
    have hafter : Parted (']' :: rest) := parted_cons (.inr (.inr rfl)) _
    have hread := readItems_writeSingle hv (hform v List.mem_cons_self) fuel depth hafter
      (skipFiller_writeSingle hv _).1
    show readValue (fuel + 3) (depth + 1) ('[' :: (writeSingle v ++ [] ++ [']']) ++ rest) = _
    rw [List.append_nil, List.cons_append, List.append_assoc, List.singleton_append,
      readValue_bracket, hread]
    rfl
  | v :: w :: items, hitems, hform, hfuel =>
    have htext : (List.map writeSingle (v :: w :: items)).flatMap
        (fun t => [' ', ' ', ' ', ' '] ++ t ++ [',', '\n']) = itemLines (v :: w :: items) :=
      List.flatMap_map _ _ _
    have hlong : ¬(v :: w :: items).length < 2 := by
      rw [List.length_cons, List.length_cons]
      omega
    have hcount := length_le_itemLines (v :: w :: items)
    rw [if_neg hlong, htext] at hfuel ⊢
    rw [List.length_append, List.length_cons, List.length_cons] at hfuel
    have hlines : (v :: w :: items).length < fuel := by omega
    have hread := readItems_itemLines hitems hform hlines depth rest
    rw [List.cons_append, List.cons_append, List.cons_append, List.cons_append, List.append_assoc,
      List.singleton_append, readValue_bracket, hread]
    rfl

/-- **Every value of an entry is read back**, given fuel for each of its characters. -/
theorem readValue_writeValue {v : Toml} (hv : Plain v) (hform : hasEntryForm v = true)
    {fuel depth : Nat} (hdepth : depth ≠ 0) (hfuel : (writeValue v).length ≤ fuel)
    {rest : List Char} (hrest : Parted rest) :
    readValue (fuel + 1) depth (writeValue v ++ rest) = some (v, rest) := by
  cases hv with
  | single h =>
      have hsingle : hasForm v = true := by cases h <;> exact hform
      rw [writeValue_single h]
      exact readValue_writeSingle h hsingle fuel depth hrest
  | list hitems =>
      obtain ⟨depth, rfl⟩ := Nat.exists_eq_succ_of_ne_zero hdepth
      exact readValue_list hitems (List.all_eq_true.mp hform) hfuel rest

end TunnelSession.Toml
