/-
  TunnelSession.Proofs.Toml.Documents

  A document that was written is read back, line by line: the entries that are no
  tables, and then section after section. What the reader has so far is described by
  the entries of the table that is open, to which each line adds one. The result has
  the tables after the other entries, so that it is the written table up to the order
  of its entries, and a lookup finds the same in both.
-/
import TunnelSession.Proofs.Toml.Values

namespace TunnelSession.Toml

open Text (Stops stops_cons)

/-- The keys of a table. -/
def keys (entries : List (String × Toml)) : List String := entries.map (·.1)

/-- With distinct keys, that of an entry is not among those before it. -/
theorem not_mem_keys {before after : List (String × Toml)} {e : String × Toml}
    (h : (keys (before ++ e :: after)).Nodup) : e.1 ∉ keys before := by
  intro hmem
  rw [keys, List.map_append, List.nodup_append] at h
  exact h.2.2 e.1 hmem e.1 (List.mem_map.mpr ⟨e, List.mem_cons_self, rfl⟩) rfl

/-! ## Tables -/

theorem lookup_eq_none {entries : List (String × Toml)} {key : String}
    (h : key ∉ keys entries) : lookup entries key = none := by
  rw [lookup, Option.map_eq_none_iff, List.find?_eq_none]
  intro e he heq
  exact h (List.mem_map.mpr ⟨e, he, eq_of_beq heq⟩)

/-- With distinct keys, an entry is found by its key wherever it stands. -/
theorem lookup_eq_some {entries : List (String × Toml)} (hkeys : (keys entries).Nodup)
    {e : String × Toml} (he : e ∈ entries) : lookup entries e.1 = some e.2 := by
  induction entries with
  | nil => cases he
  | cons f entries ih =>
      obtain ⟨hfresh, hkeys⟩ := List.nodup_cons.mp hkeys
      rw [lookup, List.find?_cons]
      rcases List.mem_cons.mp he with rfl | he
      · rw [beq_self_eq_true]
        rfl
      · have hne : (f.1 == e.1) = false := by
          apply beq_false_of_ne
          intro heq
          exact hfresh (List.mem_map.mpr ⟨e, he, heq.symm⟩)
        rw [hne]
        exact ih hkeys he

/-- With distinct keys, the order of the entries makes no difference to a lookup. -/
theorem lookup_of_perm {entries others : List (String × Toml)} (h : entries.Perm others)
    (hkeys : (keys entries).Nodup) (key : String) : lookup entries key = lookup others key := by
  have hothers : (keys others).Nodup := (h.map _).nodup_iff.mp hkeys
  by_cases hmem : key ∈ keys entries
  · obtain ⟨e, he, rfl⟩ := List.mem_map.mp hmem
    rw [lookup_eq_some hkeys he, lookup_eq_some hothers (h.mem_iff.mp he)]
  · have hmissing : key ∉ keys others := fun hkey => hmem ((h.map _).mem_iff.mpr hkey)
    rw [lookup_eq_none hmem, lookup_eq_none hmissing]

theorem assign_single {entries : List (String × Toml)} {key : String} (h : key ∉ keys entries)
    (v : Toml) :
    assign [key] v (.table .header entries) = some (.table .header (entries ++ [(key, v)])) := by
  show addKey false key v (.table .header entries) = _
  rw [addKey, lookup_eq_none h]
  rfl

/-- The last entry is the one that a path goes through. -/
theorem within_last {entries : List (String × Toml)} {name : String} (h : name ∉ keys entries)
    (inner : List (String × Toml)) (f : Toml → Option Toml) :
    within false f [name] (.table .header (entries ++ [(name, .table .header inner)])) =
      (f (.table .header inner)).map fun v => .table .header (entries ++ [(name, v)]) := by
  have hother : ∀ e ∈ entries, (e.1 == name) = false := fun e he =>
    beq_false_of_ne fun heq => h (List.mem_map.mpr ⟨e, he, heq⟩)
  have hfound : lookup (entries ++ [(name, .table .header inner)]) name =
      some (.table .header inner) := by
    have hnone : entries.find? (·.1 == name) = none :=
      List.find?_eq_none.mpr fun e he => Bool.eq_false_iff.mp (hother e he)
    rw [lookup, List.find?_append, hnone, Option.none_or, List.find?_singleton,
      if_pos (beq_self_eq_true name)]
    rfl
  have hput : ∀ v, put (entries ++ [(name, .table .header inner)]) name v =
      entries ++ [(name, v)] := by
    intro v
    have hany : (entries ++ [(name, Toml.table .header inner)]).any (·.1 == name) = true :=
      List.any_eq_true.mpr ⟨_, List.mem_append_right _ List.mem_cons_self, beq_self_eq_true name⟩
    have hkept : entries.map (fun e => if e.1 == name then (name, v) else e) = entries := by
      rw [List.map_congr_left fun e he => if_neg (Bool.eq_false_iff.mp (hother e he)), List.map_id']
    rw [put, if_pos hany, List.map_append, hkept, List.map_singleton,
      if_pos (beq_self_eq_true name)]
  rw [within, hfound]
  simp only [Bool.false_eq_true, if_false, within, hput]

/-! ## Keys -/

/-- A key that stands without quotes. -/
structure BareKey (key : String) : Prop where
  ne_nil : key.toList ≠ []
  bare : ∀ c ∈ key.toList, isBareKeyChar c = true

instance (key : String) : Decidable (BareKey key) :=
  decidable_of_iff (key.toList ≠ [] ∧ key.toList.all isBareKeyChar = true)
    ⟨fun h => ⟨h.1, List.all_eq_true.mp h.2⟩, fun h => ⟨h.ne_nil, List.all_eq_true.mpr h.bare⟩⟩

theorem ne_of_isBareKeyChar {c : Char} (hc : isBareKeyChar c = true) (d : Char)
    (hd : isBareKeyChar d = false) : c ≠ d := by
  rintro rfl
  rw [hd] at hc
  cases hc

theorem isSpace_of_isBareKeyChar {c : Char} (hc : isBareKeyChar c = true) : isSpace c = false := by
  rw [isSpace, Bool.or_eq_false_iff, beq_eq_false_iff_ne, beq_eq_false_iff_ne]
  exact ⟨ne_of_isBareKeyChar hc _ rfl, ne_of_isBareKeyChar hc _ rfl⟩

theorem skipSpace_cons {c : Char} (hc : isSpace c = false) (cs : List Char) :
    skipSpace (c :: cs) = c :: cs :=
  List.dropWhile_cons_of_neg (Bool.eq_false_iff.mp hc)

theorem BareKey.exists_cons {key : String} (h : BareKey key) :
    ∃ c cs, key.toList = c :: cs ∧ isBareKeyChar c = true := by
  obtain ⟨c, cs, hcs⟩ := List.exists_cons_of_ne_nil h.ne_nil
  exact ⟨c, cs, hcs, h.bare c (hcs ▸ List.mem_cons_self)⟩

theorem readKeyPart_bare {key : String} (hkey : BareKey key) {rest : List Char}
    (hrest : Stops isBareKeyChar rest) :
    readKeyPart (key.toList ++ rest) = some (key, rest) := by
  have htake := Text.takeWhile_append_stop hkey.bare hrest
  obtain ⟨c, cs, hcs, hc⟩ := hkey.exists_cons
  have hself : String.ofList (c :: cs) = key := by rw [← hcs, String.ofList_toList]
  rw [hcs] at htake ⊢
  rw [List.cons_append, readKeyPart, ← List.cons_append, htake, List.drop_left, hself]
  · rfl
  · exact fun _ heq => absurd (List.cons.inj heq).1 (ne_of_isBareKeyChar hc _ rfl)
  · exact fun _ heq => absurd (List.cons.inj heq).1 (ne_of_isBareKeyChar hc _ rfl)

/-- A key without dots is read as its only part. -/
theorem readKey_bare {key : String} (hkey : BareKey key) {left : Nat} (hleft : left ≠ 0)
    {rest : List Char} (hrest : Stops isBareKeyChar rest)
    (hdot : ∀ after, skipSpace rest ≠ '.' :: after) :
    readKey left (key.toList ++ rest) = some ([key], skipSpace rest) := by
  obtain ⟨left, rfl⟩ := Nat.exists_eq_succ_of_ne_zero hleft
  have hpart := readKeyPart_bare hkey hrest
  have hspace : skipSpace (key.toList ++ rest) = key.toList ++ rest := by
    obtain ⟨c, cs, hcs, hc⟩ := hkey.exists_cons
    rw [hcs, List.cons_append, skipSpace_cons (isSpace_of_isBareKeyChar hc)]
  rw [readKey, hspace, hpart]
  simp only [Option.bind_eq_bind, Option.bind_some]

/-! ## Lines -/

/-- The line of an entry. -/
def entryLine (e : String × Toml) : List Char :=
  e.1.toList ++ [' ', '=', ' '] ++ writeValue e.2 ++ ['\n']

/-- The line of a header, and the blank one before it. -/
def headerLines (name : String) : List Char :=
  ['\n', '['] ++ name.toList ++ [']', '\n']

/-- A document in progress, by the entries of the table that is open: an entry with a new
    key comes to them. -/
def Grows (d : List (String × Toml) → PartDocument) : Prop :=
  ∀ es key v, key ∉ keys es → ∃ grown,
    within false (assign [key] v) (d es).header (d es).content = some grown ∧
      ⟨grown, (d es).header⟩ = d (es ++ [(key, v)])

/-- The document with no section so far. -/
def atTop (entries : List (String × Toml)) : PartDocument :=
  ⟨.table .header entries, []⟩

/-- The document with its last section open, after some other entries. -/
def inSection (before : List (String × Toml)) (name : String) (inner : List (String × Toml)) :
    PartDocument :=
  ⟨.table .header (before ++ [(name, .table .header inner)]), [name]⟩

theorem grows_atTop : Grows atTop :=
  fun _ _ v h => ⟨_, assign_single h v, rfl⟩

theorem grows_inSection {before : List (String × Toml)} {name : String}
    (hname : name ∉ keys before) : Grows (inSection before name) := by
  intro es key v h
  refine ⟨_, ?_, rfl⟩
  rw [inSection, within_last hname, assign_single h v]
  rfl

/-- A blank line changes nothing. -/
theorem readLine_blank (d : PartDocument) (rest : List Char) :
    readLine d ('\n' :: rest) = some (d, rest) := rfl

theorem writeValue_cons {v : Toml} (hv : Plain v) :
    ∃ c cs, writeValue v = c :: cs ∧ isSpace c = false := by
  cases hv with
  | single h =>
      obtain ⟨c, cs, hcs, hspace, -⟩ := writeSingle_cons h
      exact ⟨c, cs, by rw [writeValue_single h, hcs], hspace⟩
  | @list items =>
      rw [writeValue]
      by_cases hshort : items.length < 2
      · rw [if_pos hshort]
        exact ⟨'[', _, rfl, rfl⟩
      · rw [if_neg hshort]
        exact ⟨'[', _, rfl, rfl⟩

theorem readEntry_entryLine {d : List (String × Toml) → PartDocument} (hd : Grows d)
    {es : List (String × Toml)} {e : String × Toml} (hkey : BareKey e.1) (hv : Plain e.2)
    (hform : hasEntryForm e.2 = true) (hfresh : e.1 ∉ keys es) (rest : List Char) :
    readEntry (d es) (entryLine e ++ rest) = some (d (es ++ [e]), rest) := by
  have hread : readKey (depthLimit - 1)
      (e.1.toList ++ ([' ', '=', ' '] ++ (writeValue e.2 ++ '\n' :: rest))) =
        some ([e.1], skipSpace ([' ', '=', ' '] ++ (writeValue e.2 ++ '\n' :: rest))) :=
    readKey_bare hkey (by decide) (stops_cons rfl)
      fun after heq => absurd (List.cons.inj heq).1 (by decide)
  have hvalue : skipSpace (' ' :: (writeValue e.2 ++ '\n' :: rest)) =
      writeValue e.2 ++ '\n' :: rest := by
    obtain ⟨c, cs, hcs, hspace⟩ := writeValue_cons hv
    rw [hcs, List.cons_append]
    exact skipSpace_cons hspace _
  have hafter : Parted ('\n' :: rest) := parted_cons (.inl rfl) rest
  have hfuel : (writeValue e.2).length ≤
      2 * (' ' :: (writeValue e.2 ++ '\n' :: rest)).length + 1 := by
    rw [List.length_cons, List.length_append]
    omega
  have hdepth : depthLimit - 1 ≠ 0 := by decide
  have hreadValue := readValue_writeValue hv hform hdepth hfuel hafter
  have htext : entryLine e ++ rest =
      e.1.toList ++ ([' ', '=', ' '] ++ (writeValue e.2 ++ '\n' :: rest)) := by
    simp only [entryLine, List.append_assoc, List.singleton_append]
  have hequals : expect '=' (skipSpace ([' ', '=', ' '] ++ (writeValue e.2 ++ '\n' :: rest))) =
      some (' ' :: (writeValue e.2 ++ '\n' :: rest)) := rfl
  have hend : endLine? ('\n' :: rest) = some rest := rfl
  obtain ⟨grown, hgrown, hdocument⟩ := hd es e.1 e.2 hfresh
  rw [readEntry, htext, hread]
  simp only [Option.bind_eq_bind, Option.bind_some, hequals, hvalue, hreadValue, hgrown,
    hend, hdocument]

/-- What begins a key begins no header, comment or end of a line. -/
theorem readLine_of_isBareKeyChar {c : Char} (hc : isBareKeyChar c = true) (d : PartDocument)
    (cs : List Char) : readLine d (c :: cs) = readEntry d (c :: cs) := by
  have hother := ne_of_isBareKeyChar hc
  have hspace : skipSpace (c :: cs) = c :: cs := skipSpace_cons (isSpace_of_isBareKeyChar hc) cs
  have hbracket : c ≠ '[' := hother '[' rfl
  have hend : endLine? (c :: cs) = none := by
    have hcomment : c ≠ '#' := hother '#' rfl
    have hfeed : c ≠ '\n' := hother '\n' rfl
    have hreturn : c ≠ '\r' := hother '\r' rfl
    simp only [endLine?, hspace, newline?, hcomment, hfeed, hreturn, List.isEmpty_cons,
      List.cons.injEq, false_and, imp_self, implies_true, Bool.false_eq_true, if_false]
  simp only [readLine, hspace, hbracket, hend, List.cons.injEq, false_and, imp_self, implies_true]

theorem readLine_entryLine {d : List (String × Toml) → PartDocument} (hd : Grows d)
    {es : List (String × Toml)} {e : String × Toml} (hkey : BareKey e.1) (hv : Plain e.2)
    (hform : hasEntryForm e.2 = true) (hfresh : e.1 ∉ keys es) (rest : List Char) :
    readLine (d es) (entryLine e ++ rest) = some (d (es ++ [e]), rest) := by
  have hread := readEntry_entryLine hd hkey hv hform hfresh rest
  obtain ⟨c, cs, hcs, hc⟩ := hkey.exists_cons
  have htext : ∃ more, entryLine e ++ rest = c :: more := by
    rw [entryLine, hcs]
    exact ⟨_, rfl⟩
  obtain ⟨more, hmore⟩ := htext
  rw [hmore] at hread ⊢
  rw [readLine_of_isBareKeyChar hc, hread]

/-- A header opens a table if there is none with its name. -/
theorem readLine_header {before : List (String × Toml)} {name : String} (hname : BareKey name)
    (hfresh : name ∉ keys before) (header : List String) (rest : List Char) :
    readLine ⟨.table .header before, header⟩ ('[' :: (name.toList ++ ']' :: '\n' :: rest)) =
      some (inSection before name [], rest) := by
  have hread : readKey (depthLimit - 1) (name.toList ++ ']' :: '\n' :: rest) =
      some ([name], skipSpace (']' :: '\n' :: rest)) :=
    readKey_bare hname (by decide) (stops_cons rfl)
      fun after heq => absurd (List.cons.inj heq).1 (by decide)
  have hopen : openTable [name] (.table .header before) =
      some (.table .header (before ++ [(name, .table .header [])])) := by
    simp only [openTable, List.getLast?_singleton, List.dropLast_singleton, within,
      lookup_eq_none hfresh]
  have hclose : expect ']' (skipSpace (']' :: '\n' :: rest)) = some ('\n' :: rest) := rfl
  have hend : endLine? ('\n' :: rest) = some rest := rfl
  obtain ⟨c, cs, hcs, hc⟩ := hname.exists_cons
  have hbracket : c ≠ '[' := ne_of_isBareKeyChar hc '[' rfl
  have hline : readLine ⟨.table .header before, header⟩
      ('[' :: (name.toList ++ ']' :: '\n' :: rest)) =
        readHeader ⟨.table .header before, header⟩ false (name.toList ++ ']' :: '\n' :: rest) := by
    have hspace : skipSpace ('[' :: (name.toList ++ ']' :: '\n' :: rest)) =
        '[' :: (name.toList ++ ']' :: '\n' :: rest) := skipSpace_cons rfl _
    rw [hcs, List.cons_append] at hspace ⊢
    simp only [readLine, hspace, List.cons.injEq, hbracket, false_and, imp_self,
      implies_true]
  rw [hline, readHeader, hread]
  simp only [Option.bind_eq_bind, Option.bind_some, hclose, Bool.false_eq_true, if_false, hopen,
    hend]
  rfl

/-! ## Runs of lines -/

/-- Reading lines leads from one place of a text to another, and to more of its document. -/
inductive Leads : PartDocument → List Char → PartDocument → List Char → Prop
  | refl (d : PartDocument) (cs : List Char) : Leads d cs d cs
  | line {d d' d'' : PartDocument} {cs cs' cs'' : List Char}
      (hread : readLine d cs = some (d', cs')) (hshort : cs'.length < cs.length)
      (hrest : Leads d' cs' d'' cs'') : Leads d cs d'' cs''

theorem Leads.trans {d d' d'' : PartDocument} {cs cs' cs'' : List Char}
    (h : Leads d cs d' cs') (h' : Leads d' cs' d'' cs'') : Leads d cs d'' cs'' := by
  induction h with
  | refl => exact h'
  | line hread hshort _ ih => exact .line hread hshort (ih h')

/-- A run to the end of the text gives the document. -/
theorem Leads.readLines {d d' : PartDocument} {cs : List Char} {fuel : Nat}
    (h : Leads d cs d' []) (hfuel : cs.length ≤ fuel) :
    readLines fuel d cs = some d'.content := by
  generalize hend : ([] : List Char) = rest at h
  induction h generalizing fuel with
  | refl d cs =>
      rw [← hend]
      cases fuel <;> rfl
  | @line d d' d'' cs cs' cs'' hread hshort _ ih =>
      obtain ⟨fuel, rfl⟩ : ∃ f, fuel = f + 1 := ⟨fuel - 1, by omega⟩
      match cs, hread, hshort with
      | c :: cs, hread, hshort =>
        have hleft : cs'.length ≤ fuel := by
          rw [List.length_cons] at hfuel hshort
          omega
        rw [Toml.readLines, hread]
        · exact ih hleft hend
        · exact fun heq => nomatch heq

/-- The entries that a table can be written of, line by line. -/
structure IsSheet (entries : List (String × Toml)) : Prop where
  bare : ∀ e ∈ entries, BareKey e.1
  plain : ∀ e ∈ entries, Plain e.2
  hasForm : ∀ e ∈ entries, hasEntryForm e.2 = true

theorem IsSheet.tail {e : String × Toml} {entries : List (String × Toml)}
    (h : IsSheet (e :: entries)) : IsSheet entries where
  bare f hf := h.bare f (List.mem_cons_of_mem e hf)
  plain f hf := h.plain f (List.mem_cons_of_mem e hf)
  hasForm f hf := h.hasForm f (List.mem_cons_of_mem e hf)

theorem leads_entryLines {d : List (String × Toml) → PartDocument} (hd : Grows d)
    {es added : List (String × Toml)} (hadded : IsSheet added) (hkeys : (keys (es ++ added)).Nodup)
    (rest : List Char) : Leads (d es) (added.flatMap entryLine ++ rest) (d (es ++ added)) rest := by
  induction added generalizing es with
  | nil =>
      rw [List.append_nil]
      exact .refl _ _
  | cons e added ih =>
      have hsplit : es ++ e :: added = (es ++ [e]) ++ added := by
        rw [List.append_assoc, List.singleton_append]
      have hfresh : e.1 ∉ keys es := not_mem_keys hkeys
      rw [hsplit] at hkeys ⊢
      rw [List.flatMap_cons, List.append_assoc]
      refine .line (readLine_entryLine hd (hadded.bare e List.mem_cons_self)
        (hadded.plain e List.mem_cons_self) (hadded.hasForm e List.mem_cons_self) hfresh _) ?_
        (ih hadded.tail hkeys)
      -- the line has a character at least, so that the text gets shorter
      rw [entryLine]
      simp only [List.length_append, List.length_cons]
      omega

/-! ## Documents -/

/-- Whether a value is a table, which a document has a section for. -/
def isTable : Toml → Bool
  | .table _ _ => true
  | _ => false

/-- The entries that are no tables. -/
def singles (entries : List (String × Toml)) : List (String × Toml) :=
  entries.filter fun e => !isTable e.2

/-- The entries that are tables. -/
def sections (entries : List (String × Toml)) : List (String × Toml) :=
  entries.filter fun e => isTable e.2

/-- A value that is a table of entries without tables. -/
inductive IsSection : Toml → Prop
  | mk {inner : List (String × Toml)} (hkeys : (keys inner).Nodup)
      (bare : ∀ e ∈ inner, BareKey e.1) (plain : ∀ e ∈ inner, Plain e.2) :
      IsSection (.table .header inner)

/-- The entries that a document can be written of. -/
structure IsDocument (entries : List (String × Toml)) : Prop where
  distinct : (keys entries).Nodup
  bare : ∀ e ∈ entries, BareKey e.1
  values : ∀ e ∈ entries, Plain e.2 ∨ IsSection e.2

theorem isTable_of_plain {v : Toml} (h : Plain v) : isTable v = false := by
  cases h with
  | single h => cases h <;> rfl
  | list => rfl

theorem singles_cons (e : String × Toml) (entries : List (String × Toml)) :
    singles (e :: entries) = if !isTable e.2 then e :: singles entries else singles entries :=
  List.filter_cons

theorem sections_cons (e : String × Toml) (entries : List (String × Toml)) :
    sections (e :: entries) = if isTable e.2 then e :: sections entries else sections entries :=
  List.filter_cons

/-- Tables have no line among the entries. -/
theorem flatMap_writeEntry (entries : List (String × Toml)) :
    entries.flatMap writeEntry = (singles entries).flatMap entryLine := by
  induction entries with
  | nil => rfl
  | cons e entries ih =>
      rw [List.flatMap_cons, ih, singles_cons]
      obtain ⟨key, v⟩ := e
      cases v <;> rfl

theorem singles_of_plain {entries : List (String × Toml)} (h : ∀ e ∈ entries, Plain e.2) :
    singles entries = entries :=
  List.filter_eq_self.mpr fun e he => by rw [isTable_of_plain (h e he)]; rfl

/-- Entries that are no tables have no section. -/
theorem flatMap_writeSection (entries : List (String × Toml)) :
    entries.flatMap writeSection = (sections entries).flatMap writeSection := by
  induction entries with
  | nil => rfl
  | cons e entries ih =>
      rw [List.flatMap_cons, ih, sections_cons]
      obtain ⟨key, v⟩ := e
      cases v <;> rfl

theorem writeSection_eq {name : String} {inner : List (String × Toml)}
    (h : ∀ e ∈ inner, Plain e.2) (origin : Origin) :
    writeSection (name, .table origin inner) = headerLines name ++ inner.flatMap entryLine := by
  show headerLines name ++ inner.flatMap writeEntry = _
  rw [flatMap_writeEntry, singles_of_plain h]

theorem leads_writeSection {before inner : List (String × Toml)} {name : String}
    (hname : BareKey name) (hfresh : name ∉ keys before) (hinner : IsSheet inner)
    (hkeys : (keys inner).Nodup) (header : List String) (rest : List Char) :
    Leads ⟨.table .header before, header⟩ (writeSection (name, .table .header inner) ++ rest)
      (inSection before name inner) rest := by
  have hstart : (keys ([] ++ inner)).Nodup := hkeys
  have hentries := leads_entryLines (grows_inSection hfresh) hinner hstart rest
  have htext : writeSection (name, .table .header inner) ++ rest =
      '\n' :: '[' :: (name.toList ++ ']' :: '\n' :: (inner.flatMap entryLine ++ rest)) := by
    rw [writeSection_eq hinner.plain]
    simp only [headerLines, List.append_assoc, List.cons_append, List.nil_append]
  rw [htext]
  refine .line (readLine_blank _ _) (Nat.lt_succ_self _) ?_
  refine .line (readLine_header hname hfresh header _) ?_ hentries
  simp only [List.length_append, List.length_cons]
  omega

/-- Section after section is read, whatever is open before. -/
theorem leads_sections {before tables : List (String × Toml)}
    (hkeys : (keys (before ++ tables)).Nodup) (hbare : ∀ e ∈ tables, BareKey e.1)
    (hsection : ∀ e ∈ tables, IsSection e.2) (hform : ∀ e ∈ tables, canWrite e.2 = true)
    (header : List String) (rest : List Char) :
    ∃ last, Leads ⟨.table .header before, header⟩ (tables.flatMap writeSection ++ rest)
      ⟨.table .header (before ++ tables), last⟩ rest := by
  induction tables generalizing before header with
  | nil =>
      rw [List.append_nil]
      exact ⟨header, .refl _ _⟩
  | cons e tables ih =>
      have hsplit : before ++ e :: tables = (before ++ [e]) ++ tables := by
        rw [List.append_assoc, List.singleton_append]
      have hfresh : e.1 ∉ keys before := not_mem_keys hkeys
      rw [hsplit] at hkeys ⊢
      obtain ⟨name, v⟩ := e
      have hv : IsSection v := hsection _ List.mem_cons_self
      have hwrite : canWrite v = true := hform _ List.mem_cons_self
      cases hv with
      | @mk inner hinner bare plain =>
          have hsheet : IsSheet inner := ⟨bare, plain, List.all_eq_true.mp hwrite⟩
          obtain ⟨last, hlast⟩ := ih hkeys (fun f hf => hbare f (List.mem_cons_of_mem _ hf))
            (fun f hf => hsection f (List.mem_cons_of_mem _ hf))
            (fun f hf => hform f (List.mem_cons_of_mem _ hf)) [name]
          refine ⟨last, ?_⟩
          rw [List.flatMap_cons, List.append_assoc]
          -- this section is open at the start of the next, which is read as from any header
          have hfirst := leads_writeSection (hbare _ List.mem_cons_self) hfresh hsheet hinner
            header (tables.flatMap writeSection ++ rest)
          exact hfirst.trans hlast

theorem perm_singles_sections (entries : List (String × Toml)) :
    (singles entries ++ sections entries).Perm entries :=
  List.perm_append_comm.trans
    (List.filter_append_perm (fun e : String × Toml => isTable e.2) entries)

theorem IsDocument.plain_of_mem_singles {entries : List (String × Toml)} (h : IsDocument entries)
    {e : String × Toml} (he : e ∈ singles entries) : Plain e.2 := by
  obtain ⟨he, hsingle⟩ := List.mem_filter.mp he
  rcases h.values e he with hplain | hsection
  · exact hplain
  · obtain ⟨key, v⟩ := e
    cases hsection
    cases hsingle

theorem IsDocument.isSection_of_mem_sections {entries : List (String × Toml)}
    (h : IsDocument entries) {e : String × Toml} (he : e ∈ sections entries) : IsSection e.2 := by
  obtain ⟨he, htable⟩ := List.mem_filter.mp he
  rcases h.values e he with hplain | hsection
  · rw [isTable_of_plain hplain] at htable
    cases htable
  · exact hsection

theorem hasEntryForm_of_canWrite {v : Toml} (hv : Plain v) (h : canWrite v = true) :
    hasEntryForm v = true := by
  cases hv with
  | single hv => cases hv <;> exact h
  | list => exact h

/-- A document begins with a key or an empty line, and with no byte order mark. -/
theorem no_byteOrderMark {entries tables : List (String × Toml)}
    (hbare : ∀ e ∈ entries, BareKey e.1) (htables : ∀ e ∈ tables, IsSection e.2)
    (rest : List Char) :
    entries.flatMap entryLine ++ tables.flatMap writeSection ≠ '\uFEFF' :: rest := by
  intro heq
  match entries, hbare with
  -- a mark would be in a key, or in place of the line feed before a header
  | e :: entries, hbare =>
    obtain ⟨c, cs, hcs, hc⟩ := (hbare e List.mem_cons_self).exists_cons
    rw [List.flatMap_cons, entryLine, hcs] at heq
    exact ne_of_isBareKeyChar hc '\uFEFF' (by decide) (List.cons.inj heq).1
  | [], _ =>
    match tables, htables with
    | [], _ => exact absurd heq (List.cons_ne_nil _ _).symm
    | (name, v) :: tables, htables =>
      have hv : IsSection v := htables _ List.mem_cons_self
      cases hv
      exact absurd (List.cons.inj heq).1 (by decide)

/-- **A document that was written is read back**: the same entries, with the tables after
    the others. -/
theorem read?_write? {entries : List (String × Toml)} (h : IsDocument entries) {text : String}
    (hwrite : write? entries = some text) :
    read? text = some (.table .header (singles entries ++ sections entries)) := by
  have hperm := perm_singles_sections entries
  have hkeys : (keys (singles entries ++ sections entries)).Nodup :=
    (hperm.map _).nodup_iff.mpr h.distinct
  have hsingles : ∀ e ∈ singles entries, e ∈ entries := fun e he => (List.mem_filter.mp he).1
  have hsections : ∀ e ∈ sections entries, e ∈ entries := fun e he => (List.mem_filter.mp he).1
  rw [write?] at hwrite
  split at hwrite
  · next hforms =>
    have hform : ∀ e ∈ entries, canWrite e.2 = true := List.all_eq_true.mp hforms
    have hsheet : IsSheet (singles entries) := by
      refine ⟨fun e he => h.bare e (hsingles e he), fun e he => h.plain_of_mem_singles he, ?_⟩
      intro e he
      exact hasEntryForm_of_canWrite (h.plain_of_mem_singles he) (hform e (hsingles e he))
    have htop : Leads (atTop [])
        ((singles entries).flatMap entryLine ++ (sections entries).flatMap writeSection)
        (atTop (singles entries)) ((sections entries).flatMap writeSection) := by
      apply leads_entryLines grows_atTop hsheet
      rw [keys, List.map_append] at hkeys
      exact (List.nodup_append.mp hkeys).1
    obtain ⟨last, htables⟩ := leads_sections hkeys (fun e he => h.bare e (hsections e he))
      (fun e he => h.isSection_of_mem_sections he) (fun e he => hform e (hsections e he)) [] []
    rw [List.append_nil] at htables
    have hlines := (htop.trans htables).readLines (Nat.le_refl _)
    have hmark := no_byteOrderMark hsheet.bare fun e he => h.isSection_of_mem_sections he
    rw [← Option.some.inj hwrite, read?, String.toList_ofList, flatMap_writeEntry,
      flatMap_writeSection]
    split
    · next heq => exact absurd heq (hmark _)
    · -- each line takes a character at least, so there is fuel for all of them
      exact hlines
  · cases hwrite

end TunnelSession.Toml
