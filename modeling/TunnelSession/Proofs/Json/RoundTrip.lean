/-
  TunnelSession.Proofs.Json.RoundTrip

  A value that was written is read back. What may follow a value in a text is
  the end or a separator; each kind of value is read up to there, and a list or
  an object is read back if what it holds is.
-/
import TunnelSession.Json.Reader
import TunnelSession.Json.Writer
import TunnelSession.Proofs.Text.Numerals

namespace TunnelSession.Json

open Text (Stops stops_cons toDigits_cons ne_of_number)

/-- The text ends, or goes on with what separates values. -/
def Parted (rest : List Char) : Prop :=
  ∀ c ∈ rest.head?, c = ',' ∨ c = ']' ∨ c = '\x7d'

theorem parted_nil : Parted [] :=
  fun _ hc => nomatch hc

theorem parted_cons {c : Char} (hc : c = ',' ∨ c = ']' ∨ c = '\x7d') (rest : List Char) :
    Parted (c :: rest) := by
  intro d hd
  rw [← Option.some.inj hd]
  exact hc

/-! ## Texts -/

theorem unit?_control : ∀ n < 32,
    unit? '0' '0' (Nat.digitChar (n / 16)) (Nat.digitChar (n % 16)) = some n := by
  decide

/-- A control character is not half of a pair. -/
theorem unit_control (p : PartText) {c : Char} (hc : c.toNat < 0x20) :
    p.unit c.toNat = p.char c := by
  have hhigh : isHighUnit c.toNat = false := by
    rw [isHighUnit, Bool.and_eq_false_iff]
    exact .inl (decide_eq_false (by omega))
  have hlow : isLowUnit c.toNat = false := by
    rw [isLowUnit, Bool.and_eq_false_iff]
    exact .inl (decide_eq_false (by omega))
  rw [PartText.unit, hhigh, hlow, Char.ofNat_toNat]
  rfl

/-- An escaped character is read as that character. -/
theorem readText_escapeChar (p : PartText) (c : Char) (cs : List Char) :
    readText p (escapeChar c ++ cs) = readText (p.char c) cs := by
  unfold escapeChar
  split
  -- a short escape is read as it stands; what is left is a code unit or the character
  all_goals try rfl
  split
  · next hc =>
      have hunit := unit?_control c.toNat hc
      simp only [List.cons_append, List.nil_append]
      rw [readText, hunit]
      simp only [unit_control p hc]
  · next hquote hslash _ _ _ _ _ hc =>
      rw [List.cons_append, List.nil_append, readText]
      · rw [if_neg hc]
      · exact hquote
      · exact fun _ _ _ _ _ h => absurd h hslash
      · exact fun _ _ h => absurd h hslash

theorem readText_written (p : PartText) (cs rest : List Char) :
    readText p (cs.flatMap escapeChar ++ '"' :: rest) =
      some ((cs.foldl PartText.char p).finish, rest) := by
  induction cs generalizing p with
  | nil => rfl
  | cons c cs ih =>
      rw [List.flatMap_cons, List.append_assoc, readText_escapeChar, ih]
      rfl

theorem finish_foldl_char (cs : List Char) :
    (cs.foldl PartText.char {}).finish = some (String.ofList cs) := by
  have hfold : ∀ p : PartText, p.whole = true → p.high = none →
      (cs.foldl PartText.char p).finish = some (String.ofList (p.soFar.reverse ++ cs)) := by
    induction cs with
    | nil =>
        intro p hwhole hhigh
        rw [List.foldl_nil, PartText.finish, hwhole, hhigh, List.append_nil]
        rfl
    | cons c cs ih =>
        intro p hwhole hhigh
        have hnext : (p.char c).whole = true := by
          rw [PartText.char, hwhole, hhigh]
          rfl
        rw [List.foldl_cons, ih (p.char c) hnext rfl, PartText.char, List.reverse_cons,
          List.append_assoc]
        rfl
  exact hfold {} rfl rfl

/-- A text is read back after its opening quote. -/
theorem readText_writeText (s : String) (rest : List Char) :
    readText {} (s.toList.flatMap escapeChar ++ '"' :: rest) = some (some s, rest) := by
  rw [readText_written, finish_foldl_char, String.ofList_toList]

/-! ## Numbers -/

/-- The minus sign of a negative number. -/
def sign (negative : Bool) : List Char :=
  if negative then ['-'] else []

theorem Parted.stops {rest : List Char} (h : Parted rest) : Stops Char.isDigit rest := by
  intro c hc
  rcases h c hc with rfl | rfl | rfl <;> rfl

theorem digitsOf_toDigits (n : Nat) {rest : List Char} (hrest : Stops Char.isDigit rest) :
    digitsOf (Nat.toDigits 10 n ++ rest) = (Nat.toDigits 10 n, rest) := by
  have hdigits : ∀ c ∈ Nat.toDigits 10 n, c.isDigit = true := fun _ hc =>
    Nat.isDigit_of_mem_toDigits (by decide) (by decide) hc
  rw [digitsOf, Text.takeWhile_append_stop hdigits hrest, Text.dropWhile_append_stop hdigits hrest]

theorem readExponent_of_parted {rest : List Char} (h : Parted rest) :
    readExponent rest = some (none, rest) := by
  cases rest with
  | nil => rfl
  | cons c rest => rcases h c rfl with rfl | rfl | rfl <;> rfl

theorem readExponent_written (e : Int) {rest : List Char} (h : Stops Char.isDigit rest) :
    readExponent ('e' :: (sign (e < 0) ++ (Nat.toDigits 10 e.natAbs ++ rest))) =
      some (some e, rest) := by
  obtain ⟨d, ds, hds, hdigit⟩ := toDigits_cons e.natAbs
  have hvalue : Text.valueOf 10 (Nat.toDigits 10 e.natAbs) = e.natAbs :=
    Text.valueOf_toDigits (by decide) (by decide) _
  have hne : (Nat.toDigits 10 e.natAbs).isEmpty = false := by rw [hds]; rfl
  by_cases he : e < 0
  · have hmagnitude : -(e.natAbs : Int) = e := by omega
    simp only [sign, he, decide_true, if_true, List.cons_append, List.nil_append, readExponent,
      digitsOf_toDigits _ h, hne, hvalue, hmagnitude]
    rfl
  · have hmagnitude : (e.natAbs : Int) = e := by omega
    have hminus : d ≠ '-' := fun heq => absurd (heq ▸ hdigit) (by decide)
    have hplus : d ≠ '+' := fun heq => absurd (heq ▸ hdigit) (by decide)
    have hread := digitsOf_toDigits e.natAbs h
    rw [hds] at hread hne hvalue ⊢
    simp only [sign, he, decide_false, Bool.false_eq_true, if_false, List.nil_append,
      List.cons_append] at hread ⊢
    simp only [readExponent, hread, hne, hvalue, hmagnitude, Bool.false_eq_true, if_false,
      List.cons.injEq, hminus, hplus, false_and, imp_self, implies_true]

/-- The number that digits denote, with the exponent that follows them if any. -/
def numberOf (negative : Bool) (n : Nat) : Option Int → Number
  | none => .integer negative n
  | some e => .scaled negative n e

theorem readNumber_digits (negative : Bool) (n : Nat) {tail rest : List Char}
    {exponent : Option Int} (htail : Stops Char.isDigit tail) (hdot : tail.head? ≠ some '.')
    (hexponent : readExponent tail = some (exponent, rest)) :
    readNumber (sign negative ++ (Nat.toDigits 10 n ++ tail)) =
      some (numberOf negative n exponent, rest) := by
  obtain ⟨d, ds, hds, hdigit⟩ := toDigits_cons n
  have hne : (Nat.toDigits 10 n).isEmpty = false := by rw [hds]; rfl
  have hlead : (decide (1 < (Nat.toDigits 10 n).length) &&
      (Nat.toDigits 10 n).head? == some '0') = false := by
    rw [Bool.and_eq_false_iff, decide_eq_false_iff_not, beq_eq_false_iff_ne]
    exact Text.no_leading_zero (by decide) (by decide)
  have hplaces : readPlaces tail = some ([], tail) := by
    cases tail with
    | nil => rfl
    | cons c tail =>
        rw [readPlaces]
        exact fun _ heq => hdot (congrArg List.head? heq)
  have hvalue : Text.valueOf 10 (Nat.toDigits 10 n) = n :=
    Text.valueOf_toDigits (by decide) (by decide) _
  have hnumber : ∀ negative, (if (([] : List Char).isEmpty && exponent.isNone) = true then
      some (Number.integer negative n, rest)
      else some (Number.scaled negative n (exponent.getD 0 - ([] : List Char).length), rest)) =
      some (numberOf negative n exponent, rest) := by
    intro negative
    cases exponent with
    | none => rfl
    | some e => simp [numberOf]
  have hread := digitsOf_toDigits n htail
  have hminus : d ≠ '-' := fun heq => absurd (heq ▸ hdigit) (by decide)
  rw [hds] at hread hne hlead hvalue ⊢
  cases negative with
  | false =>
      simp only [sign, Bool.false_eq_true, if_false, List.nil_append, List.cons_append] at hread ⊢
      simp only [readNumber, hread, hne, hlead, hplaces, hexponent, Bool.or_false,
        Bool.false_eq_true, if_false, Option.bind_eq_bind, Option.bind_some, List.append_nil, hvalue,
        List.cons.injEq, hminus, false_and, imp_self, implies_true]
      exact hnumber false
  | true =>
      simp only [sign, if_true, List.nil_append, List.cons_append] at hread ⊢
      simp only [readNumber, hread, hne, hlead, hplaces, hexponent, Bool.or_false,
        Bool.false_eq_true, if_false, Option.bind_eq_bind, Option.bind_some, List.append_nil, hvalue]
      exact hnumber true

theorem readNumber_writeNumber (n : Number) {rest : List Char} (h : Parted rest) :
    readNumber (writeNumber n ++ rest) = some (n, rest) := by
  cases n with
  | integer negative n =>
      have hdot : rest.head? ≠ some '.' := by
        intro hdot
        rcases h '.' hdot with h | h | h <;> exact absurd h (by decide)
      have hread := readNumber_digits negative n h.stops hdot (readExponent_of_parted h)
      rw [writeNumber, List.append_assoc]
      exact hread
  | scaled negative digits exponent =>
      have hread : readNumber (sign negative ++ (Nat.toDigits 10 digits ++
          'e' :: (sign (exponent < 0) ++ (Nat.toDigits 10 exponent.natAbs ++ rest)))) =
          some (numberOf negative digits (some exponent), rest) :=
        readNumber_digits negative digits (stops_cons rfl)
          (fun hdot => absurd (Option.some.inj hdot) (by decide))
          (readExponent_written exponent h.stops)
      have htext : writeNumber (.scaled negative digits exponent) ++ rest =
          sign negative ++ (Nat.toDigits 10 digits ++
            'e' :: (sign (exponent < 0) ++ (Nat.toDigits 10 exponent.natAbs ++ rest))) := by
        simp [writeNumber, sign]
      rw [htext]
      exact hread

/-! ## Values -/

/-- The value is read back from its text, whatever separates it from the next. -/
def ReadsBack (v : Json) : Prop :=
  ∀ fuel rest, Parted rest → 2 * (writeValue v).length ≤ fuel →
    readValue fuel (writeValue v ++ rest) = some (v, rest)

/-- The characters that may stand between tokens. -/
def isSpace (c : Char) : Bool :=
  c == ' ' || c == '\n' || c == '\t' || c == '\r'

theorem skipSpace_cons {c : Char} (cs : List Char) (hc : isSpace c = false) :
    skipSpace (c :: cs) = c :: cs :=
  List.dropWhile_cons_of_neg (p := isSpace) (Bool.not_eq_true _ ▸ hc)

theorem writeNumber_cons (n : Number) :
    ∃ c cs, writeNumber n = c :: cs ∧ (c = '-' ∨ c.isDigit = true) := by
  cases n with
  | integer negative n =>
      obtain ⟨d, ds, hds, hdigit⟩ := toDigits_cons n
      cases negative with
      | true => exact ⟨'-', _, rfl, .inl rfl⟩
      | false => exact ⟨d, ds, hds, .inr hdigit⟩
  | scaled negative digits exponent =>
      obtain ⟨d, ds, hds, hdigit⟩ := toDigits_cons digits
      cases negative with
      | true => exact ⟨'-', _, rfl, .inl rfl⟩
      | false => exact ⟨d, _, by rw [writeNumber, hds]; rfl, .inr hdigit⟩

theorem isSpace_of_number {c : Char} (hc : c = '-' ∨ c.isDigit = true) : isSpace c = false := by
  have hother := ne_of_number hc
  simp only [isSpace, Bool.or_eq_false_iff, beq_eq_false_iff_ne]
  exact ⟨⟨⟨hother _ (by decide) (by decide), hother _ (by decide) (by decide)⟩,
    hother _ (by decide) (by decide)⟩, hother _ (by decide) (by decide)⟩

/-- What begins a number begins nothing else. -/
theorem readValue_of_number {c : Char} (cs : List Char) (fuel : Nat)
    (hc : c = '-' ∨ c.isDigit = true) :
    readValue (fuel + 1) (c :: cs) = (readNumber (c :: cs)).map (fun r => (.number r.1, r.2)) := by
  have hother := ne_of_number hc
  have hbrace := hother '\x7b' (by decide) (by decide)
  have hbracket := hother '[' (by decide) (by decide)
  have hquote := hother '"' (by decide) (by decide)
  have htrue := hother 't' (by decide) (by decide)
  have hfalse := hother 'f' (by decide) (by decide)
  have hnull := hother 'n' (by decide) (by decide)
  -- all alternatives of the reader but the last ask for one of these characters
  simp only [readValue, skipSpace_cons cs (isSpace_of_number hc), List.cons.injEq, hbrace, hbracket,
    hquote, htrue, hfalse, hnull, false_and, imp_self, implies_true]

/-- A value begins neither with a space nor with the end of a list. -/
theorem writeValue_cons (v : Json) :
    ∃ c cs, writeValue v = c :: cs ∧ isSpace c = false ∧ c ≠ ']' := by
  cases v with
  | null => exact ⟨'n', _, by rw [writeValue], rfl, by decide⟩
  | unreadable => exact ⟨'n', _, by rw [writeValue], rfl, by decide⟩
  | bool b =>
      cases b with
      | true => exact ⟨'t', _, by rw [writeValue], rfl, by decide⟩
      | false => exact ⟨'f', _, by rw [writeValue], rfl, by decide⟩
  | number n =>
      obtain ⟨c, cs, htext, hc⟩ := writeNumber_cons n
      exact ⟨c, cs, by rw [writeValue, htext], isSpace_of_number hc,
        ne_of_number hc _ (by decide) (by decide)⟩
  | text s => exact ⟨'"', _, by rw [writeValue]; rfl, rfl, by decide⟩
  | list items =>
      cases items with
      | nil => exact ⟨'[', _, by rw [writeValue], rfl, by decide⟩
      | cons v items => exact ⟨'[', _, by rw [writeValue]; rfl, rfl, by decide⟩
  | object members =>
      cases members with
      | nil => exact ⟨'\x7b', _, by rw [writeValue], rfl, by decide⟩
      | cons m members => exact ⟨'\x7b', _, by rw [writeValue]; rfl, rfl, by decide⟩

/-- No text is empty, so there is fuel for a step. -/
theorem ReadsBack.of_step {v : Json}
    (h : ∀ fuel rest, Parted rest → 2 * (writeValue v).length ≤ fuel + 1 →
      readValue (fuel + 1) (writeValue v ++ rest) = some (v, rest)) : ReadsBack v := by
  intro fuel rest hrest hfuel
  cases fuel with
  | zero =>
      obtain ⟨c, cs, htext, _⟩ := writeValue_cons v
      rw [htext, List.length_cons] at hfuel
      omega
  | succ fuel => exact h fuel rest hrest hfuel

/-! ## Lists and objects -/

theorem parted_writeItems (items : List Json) (rest : List Char) :
    Parted (writeItems items ++ rest) := by
  cases items with
  | nil => rw [writeItems]; exact parted_cons (.inr (.inl rfl)) _
  | cons v items => rw [writeItems]; exact parted_cons (.inl rfl) _

theorem parted_writeMembers (members : List (String × Json)) (rest : List Char) :
    Parted (writeMembers members ++ rest) := by
  cases members with
  | nil => rw [writeMembers]; exact parted_cons (.inr (.inr rfl)) _
  | cons m members => rw [writeMembers]; exact parted_cons (.inl rfl) _

/-- Items that are read back one by one are read back in a list. -/
theorem readItems_writeItems {v : Json} {items : List Json} (hv : ReadsBack v)
    (hitems : ∀ w ∈ items, ReadsBack w) {fuel : Nat} (rest : List Char)
    (hfuel : 2 * ((writeValue v).length + (writeItems items).length) ≤ fuel) :
    readItems fuel (writeValue v ++ (writeItems items ++ rest)) = some (v :: items, rest) := by
  -- each item costs one unit of fuel, and its text has a separator that pays for it
  induction items generalizing v fuel with
  | nil =>
      rw [writeItems, List.length_singleton] at hfuel
      obtain ⟨fuel, rfl⟩ : ∃ f, fuel = f + 1 := ⟨fuel - 1, by omega⟩
      have hread := hv fuel (writeItems [] ++ rest) (parted_writeItems [] rest) (by omega)
      rw [readItems, hread, writeItems]
      rfl
  | cons w items ih =>
      rw [writeItems, List.length_append, List.length_cons] at hfuel
      obtain ⟨fuel, rfl⟩ : ∃ f, fuel = f + 1 := ⟨fuel - 1, by omega⟩
      have hread := hv fuel (writeItems (w :: items) ++ rest) (parted_writeItems _ rest) (by omega)
      have hleft : 2 * ((writeValue w).length + (writeItems items).length) ≤ fuel := by omega
      have hmore := ih (hitems w List.mem_cons_self)
        (fun u hu => hitems u (List.mem_cons_of_mem w hu)) hleft
      have htext : skipSpace (writeItems (w :: items) ++ rest) =
          ',' :: (writeValue w ++ (writeItems items ++ rest)) := by
        rw [writeItems, List.append_assoc]
        rfl
      rw [readItems, hread]
      simp only [Option.bind_eq_bind, Option.bind_some, htext, hmore]

/-- The text of a name, or of a text, and what follows it. -/
theorem writeText_append (s : String) (rest : List Char) :
    writeText s ++ rest = '"' :: (s.toList.flatMap escapeChar ++ '"' :: rest) := by
  simp [writeText]

/-- Members whose values are read back one by one are read back in an object. -/
theorem readMembers_writeMembers {k : String} {v : Json} {members : List (String × Json)}
    (hv : ReadsBack v) (hmembers : ∀ m ∈ members, ReadsBack m.2) {fuel : Nat} (rest : List Char)
    (hfuel : 2 * ((writeValue v).length + (writeMembers members).length) ≤ fuel) :
    readMembers fuel (writeText k ++ ':' :: (writeValue v ++ (writeMembers members ++ rest))) =
      some (((k, v) :: members).map (fun m => (some m.1, m.2)), rest) := by
  induction members generalizing k v fuel with
  | nil =>
      rw [writeMembers, List.length_singleton] at hfuel
      obtain ⟨fuel, rfl⟩ : ∃ f, fuel = f + 1 := ⟨fuel - 1, by omega⟩
      have hread := hv fuel (writeMembers [] ++ rest) (parted_writeMembers [] rest) (by omega)
      rw [writeMembers] at hread ⊢
      rw [writeText_append, readMembers, skipSpace_cons _ (by decide)]
      simp only [readText_writeText, Option.bind_eq_bind, Option.bind_some]
      rw [skipSpace_cons _ (by decide)]
      simp only [hread, Option.bind_some]
      rfl
  | cons m members ih =>
      obtain ⟨k', w⟩ := m
      rw [writeMembers] at hfuel
      simp only [List.length_append, List.length_cons] at hfuel
      obtain ⟨fuel, rfl⟩ : ∃ f, fuel = f + 1 := ⟨fuel - 1, by omega⟩
      have hread := hv fuel (writeMembers ((k', w) :: members) ++ rest)
        (parted_writeMembers _ rest) (by omega)
      have hleft : 2 * ((writeValue w).length + (writeMembers members).length) ≤ fuel := by omega
      have hmore := ih (k := k') (hmembers (k', w) List.mem_cons_self)
        (fun u hu => hmembers u (List.mem_cons_of_mem _ hu)) hleft
      have htext : skipSpace (writeMembers ((k', w) :: members) ++ rest) =
          ',' :: (writeText k' ++ ':' :: (writeValue w ++ (writeMembers members ++ rest))) := by
        rw [writeMembers, List.append_assoc, List.append_assoc]
        exact skipSpace_cons _ (by decide)
      rw [writeText_append, readMembers, skipSpace_cons _ (by decide)]
      simp only [readText_writeText, Option.bind_eq_bind, Option.bind_some]
      rw [skipSpace_cons _ (by decide)]
      simp only [hread, Option.bind_some, htext, hmore]
      rfl

theorem readsBack_list {items : List Json} (h : ∀ v ∈ items, ReadsBack v) :
    ReadsBack (.list items) := by
  refine .of_step fun fuel rest _ hfuel => ?_
  cases items with
  | nil =>
      rw [writeValue]
      rfl
  | cons v items =>
      rw [writeValue, List.length_append, List.length_cons] at hfuel
      have hleft : 2 * ((writeValue v).length + (writeItems items).length) ≤ fuel := by omega
      have hread := readItems_writeItems (h v List.mem_cons_self)
        (fun w hw => h w (List.mem_cons_of_mem v hw)) rest hleft
      -- the first item is not mistaken for the end of the list
      obtain ⟨c, cs, htext, hspace, hend⟩ := writeValue_cons v
      rw [htext] at hread
      rw [writeValue, htext, List.append_assoc, List.cons_append, readValue,
        skipSpace_cons _ (by decide)]
      simp only [List.cons_append] at hread ⊢
      rw [skipSpace_cons _ hspace]
      simp only [hread, Option.map_some, List.cons.injEq, hend, false_and, imp_self, implies_true]

/-- Members whose names could all be read are an object. -/
theorem ofMembers_named (members : List (String × Json)) :
    ofMembers (members.map (fun m => (some m.1, m.2))) = .object members := by
  have hnames : (members.map (fun m => (some m.1, m.2))).mapM
      (fun m : Option String × Json => m.1.map (fun k => (k, m.2))) = some members := by
    induction members with
    | nil => rfl
    | cons m members ih => rw [List.map_cons, List.mapM_cons, ih]; rfl
  rw [ofMembers, hnames]

theorem readsBack_object {members : List (String × Json)} (h : ∀ m ∈ members, ReadsBack m.2) :
    ReadsBack (.object members) := by
  refine .of_step fun fuel rest _ hfuel => ?_
  cases members with
  | nil =>
      rw [writeValue]
      rfl
  | cons m members =>
      obtain ⟨k, v⟩ := m
      rw [writeValue] at hfuel
      simp only [List.length_append, List.length_cons] at hfuel
      have hleft : 2 * ((writeValue v).length + (writeMembers members).length) ≤ fuel := by omega
      have hv : ReadsBack v := h (k, v) List.mem_cons_self
      have hread := readMembers_writeMembers (k := k) hv
        (fun m hm => h m (List.mem_cons_of_mem _ hm)) rest hleft
      have htext : writeValue (.object ((k, v) :: members)) ++ rest =
          '\x7b' :: (writeText k ++ ':' :: (writeValue v ++ (writeMembers members ++ rest))) := by
        rw [writeValue]
        simp only [List.cons_append, List.append_assoc]
      rw [htext, readValue, skipSpace_cons _ (by decide)]
      rw [writeText_append] at hread ⊢
      simp only
      rw [skipSpace_cons _ (by decide)]
      simp only [hread, Option.map_some, ofMembers_named, List.cons.injEq, Char.reduceEq, false_and,
        imp_self, implies_true]

/-! ## Whole values -/

theorem settle_item {depth : Nat} {items : List Json} (h : (settleItems depth items).isSome) :
    ∀ v ∈ items, (settle depth v).isSome := by
  induction items with
  | nil => exact fun v hv => nomatch hv
  | cons w items ih =>
      rw [settleItems] at h
      obtain ⟨_, hsettled⟩ := Option.isSome_iff_exists.1 h
      obtain ⟨_, hw, hsettled⟩ := Option.bind_eq_some_iff.1 hsettled
      obtain ⟨_, hitems, _⟩ := Option.bind_eq_some_iff.1 hsettled
      intro v hv
      rcases List.mem_cons.1 hv with rfl | hv
      · exact Option.isSome_of_eq_some hw
      · exact ih (Option.isSome_of_eq_some hitems) v hv

theorem settle_member {depth : Nat} {members : List (String × Json)}
    (h : (settleMembers depth members).isSome) : ∀ m ∈ members, (settle depth m.2).isSome := by
  induction members with
  | nil => exact fun m hm => nomatch hm
  | cons w members ih =>
      rw [settleMembers] at h
      obtain ⟨_, hsettled⟩ := Option.isSome_iff_exists.1 h
      obtain ⟨_, hw, hsettled⟩ := Option.bind_eq_some_iff.1 hsettled
      obtain ⟨_, hmembers, _⟩ := Option.bind_eq_some_iff.1 hsettled
      intro m hm
      rcases List.mem_cons.1 hm with rfl | hm
      · exact Option.isSome_of_eq_some hw
      · exact ih (Option.isSome_of_eq_some hmembers) m hm

/-- A value that can be used as a whole is read back. -/
theorem readsBack_of_settle : ∀ (v : Json) {depth : Nat}, (settle depth v).isSome → ReadsBack v
  | .null, _, _ => by
      refine .of_step fun fuel rest _ _ => ?_
      rw [writeValue]
      rfl
  | .unreadable, _, h => by
      rw [settle] at h
      exact nomatch h
  | .bool b, _, _ => by
      refine .of_step fun fuel rest _ _ => ?_
      cases b with
      | true => rw [writeValue]; rfl
      | false => rw [writeValue]; rfl
  | .number n, _, _ => by
      refine .of_step fun fuel rest hrest _ => ?_
      obtain ⟨c, cs, htext, hc⟩ := writeNumber_cons n
      have hread := readNumber_writeNumber n hrest
      rw [htext, List.cons_append] at hread
      rw [writeValue, htext, List.cons_append, readValue_of_number _ _ hc, hread]
      rfl
  | .text s, _, _ => by
      refine .of_step fun fuel rest _ _ => ?_
      rw [writeValue, writeText_append, readValue, skipSpace_cons _ (by decide)]
      simp only [readText_writeText, Option.map_some, ofText]
  | .list items, 0, h => by
      rw [settle] at h
      exact nomatch h
  | .list items, depth + 1, h => by
      rw [settle, Option.isSome_map] at h
      exact readsBack_list fun v hv => readsBack_of_settle v (settle_item h v hv)
  | .object members, 0, h => by
      rw [settle] at h
      exact nomatch h
  | .object members, depth + 1, h => by
      rw [settle, Option.isSome_map] at h
      exact readsBack_object fun m hm => readsBack_of_settle m.2 (settle_member h m hm)
termination_by v => sizeOf v
decreasing_by
  · have := List.sizeOf_lt_of_mem hv
    simp only [list.sizeOf_spec]
    omega
  · have := List.sizeOf_lt_of_mem hm
    obtain ⟨k, v⟩ := m
    simp only [object.sizeOf_spec, Prod.mk.sizeOf_spec] at this ⊢
    omega

/-- A value that can be used as a whole is read back from its text. -/
theorem read?_write {v : Json} (hsettled : (settle maxDepth v).isSome) :
    read? (write v) = some v := by
  have hfuel : 2 * (writeValue v).length ≤ 2 * (write v).length + 2 := by
    rw [write, String.length_ofList]
    omega
  have hread := readsBack_of_settle v hsettled _ [] parted_nil hfuel
  rw [List.append_nil] at hread
  have htext : (write v).toList = writeValue v := String.toList_ofList
  rw [read?, htext, hread]
  rfl

theorem readSettled?_write {v w : Json} (h : settle maxDepth v = some w) :
    readSettled? (write v) = some w := by
  have hsettled : (settle maxDepth v).isSome := by rw [h]; rfl
  rw [readSettled?, read?_write hsettled]
  exact h

/-! ## One line -/

/-- The text holds no control characters. -/
def Printable (cs : List Char) : Prop :=
  ∀ c ∈ cs, 0x20 ≤ c.toNat

theorem printable_of_all {cs : List Char} (h : cs.all (fun c => decide (0x20 ≤ c.toNat)) = true) :
    Printable cs :=
  fun c hc => of_decide_eq_true (List.all_eq_true.1 h c hc)

theorem Printable.append {cs ds : List Char} (hcs : Printable cs) (hds : Printable ds) :
    Printable (cs ++ ds) :=
  fun c hc => (List.mem_append.1 hc).elim (hcs c) (hds c)

theorem Printable.cons {c : Char} {cs : List Char} (hc : 0x20 ≤ c.toNat) (hcs : Printable cs) :
    Printable (c :: cs) :=
  fun d hd => (List.mem_cons.1 hd).elim (fun h => h ▸ hc) (hcs d)

theorem printable_nil : Printable [] :=
  fun _ hc => nomatch hc

theorem printable_escapeChar (c : Char) : Printable (escapeChar c) := by
  have hdigit : ∀ n < 16, 0x20 ≤ (Nat.digitChar n).toNat := by decide
  unfold escapeChar
  split
  all_goals try exact printable_of_all rfl
  split
  · next hc =>
      have hplain : Printable ['\\', 'u', '0', '0'] := printable_of_all rfl
      exact hplain.append (.cons (hdigit _ (by omega)) (.cons (hdigit _ (by omega)) printable_nil))
  · next hc => exact .cons (Nat.le_of_not_lt hc) printable_nil

theorem printable_writeText (s : String) : Printable (writeText s) := by
  have hbody : Printable (s.toList.flatMap escapeChar) := fun c hc =>
    let ⟨d, _, hd⟩ := List.mem_flatMap.1 hc
    printable_escapeChar d c hd
  exact ((Printable.cons (by decide) hbody).append (.cons (by decide) printable_nil))

theorem printable_toDigits (n : Nat) : Printable (Nat.toDigits 10 n) := by
  intro c hc
  have hdigit := Nat.isDigit_of_mem_toDigits (by decide) (by decide) hc
  have hlow : '0'.val ≤ c.val := (Bool.and_eq_true_iff.1 hdigit).1 |> of_decide_eq_true
  exact Nat.le_trans (by decide) (UInt32.le_iff_toNat_le.1 hlow)

theorem printable_sign (negative : Bool) : Printable (if negative then ['-'] else []) := by
  cases negative with
  | true => exact .cons (by decide) printable_nil
  | false => exact printable_nil

theorem printable_writeNumber (n : Number) : Printable (writeNumber n) := by
  cases n with
  | integer negative n => exact (printable_sign negative).append (printable_toDigits n)
  | scaled negative digits exponent =>
      rw [writeNumber]
      refine Printable.append (.append (.append (printable_sign negative)
        (printable_toDigits digits)) (.cons (by decide) ?_)) (printable_toDigits _)
      split
      · exact .cons (by decide) printable_nil
      · exact printable_nil

theorem printable_writeItems {items : List Json} (h : ∀ v ∈ items, Printable (writeValue v)) :
    Printable (writeItems items) := by
  induction items with
  | nil => rw [writeItems]; exact .cons (by decide) printable_nil
  | cons v items ih =>
      rw [writeItems]
      exact (Printable.cons (by decide) (h v List.mem_cons_self)).append
        (ih fun w hw => h w (List.mem_cons_of_mem v hw))

theorem printable_writeMembers {members : List (String × Json)}
    (h : ∀ m ∈ members, Printable (writeValue m.2)) : Printable (writeMembers members) := by
  induction members with
  | nil => rw [writeMembers]; exact .cons (by decide) printable_nil
  | cons m members ih =>
      rw [writeMembers]
      exact ((Printable.cons (by decide) (printable_writeText m.1)).append
        (.cons (by decide) (h m List.mem_cons_self))).append
        (ih fun w hw => h w (List.mem_cons_of_mem m hw))

/-- A written value holds no control characters, so it stands on one line. -/
theorem printable_writeValue : ∀ v : Json, Printable (writeValue v)
  | .null => by rw [writeValue]; exact printable_of_all rfl
  | .unreadable => by rw [writeValue]; exact printable_of_all rfl
  | .bool true => by rw [writeValue]; exact printable_of_all rfl
  | .bool false => by rw [writeValue]; exact printable_of_all rfl
  | .number n => by rw [writeValue]; exact printable_writeNumber n
  | .text s => by rw [writeValue]; exact printable_writeText s
  | .list [] => by rw [writeValue]; exact printable_of_all rfl
  | .list (v :: items) => by
      rw [writeValue]
      exact (Printable.cons (by decide) (printable_writeValue v)).append
        (printable_writeItems fun w hw => printable_writeValue w)
  | .object [] => by rw [writeValue]; exact printable_of_all rfl
  | .object ((k, v) :: members) => by
      rw [writeValue]
      exact ((Printable.cons (by decide) (printable_writeText k)).append
        (.cons (by decide) (printable_writeValue v))).append
        (printable_writeMembers fun m hm => printable_writeValue m.2)
termination_by v => sizeOf v
decreasing_by
  · simp only [list.sizeOf_spec, List.cons.sizeOf_spec]
    omega
  · have := List.sizeOf_lt_of_mem hw
    simp only [list.sizeOf_spec, List.cons.sizeOf_spec]
    omega
  · simp only [object.sizeOf_spec, List.cons.sizeOf_spec, Prod.mk.sizeOf_spec]
    omega
  · have := List.sizeOf_lt_of_mem hm
    obtain ⟨k, w⟩ := m
    simp only [object.sizeOf_spec, List.cons.sizeOf_spec, Prod.mk.sizeOf_spec] at this ⊢
    omega

end TunnelSession.Json
