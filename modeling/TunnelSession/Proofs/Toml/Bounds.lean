/-
  TunnelSession.Proofs.Toml.Bounds

  Every whole number in a document that is read has 64 bits, wherever it stands: the
  reader refuses longer ones, and building tables moves values but makes none. So
  what was read can be written again.
-/
import TunnelSession.Toml.Reader
import TunnelSession.Toml.Writer

namespace TunnelSession.Toml

/-- Every whole number in a value has 64 bits. -/
inductive Sized : Toml → Prop
  | text (s : String) : Sized (.text s)
  | integer {n : Int} (h : hasForm (.integer n) = true) : Sized (.integer n)
  | real : Sized .real
  | bool (b : Bool) : Sized (.bool b)
  | time : Sized .time
  | list {items : List Toml} (h : ∀ v ∈ items, Sized v) : Sized (.list items)
  | table (origin : Origin) {entries : List (String × Toml)} (h : ∀ e ∈ entries, Sized e.2) :
      Sized (.table origin entries)
  | tables {items : List Toml} (h : ∀ v ∈ items, Sized v) : Sized (.tables items)

/-! ## Results -/

/-- If there is a result, it has the property. -/
def Gives {α : Type} (p : α → Prop) (result : Option α) : Prop :=
  ∀ x, result = some x → p x

section Gives

variable {α β : Type} {p : α → Prop} {q : β → Prop} {o : Option α} {f : α → Option β}

theorem gives_none : Gives p none :=
  fun _ h => nomatch h

theorem gives_some {x : α} (h : p x) : Gives p (some x) := by
  intro y heq
  rw [← Option.some.inj heq]
  exact h

theorem Gives.bind (h : Gives p o) (hf : ∀ x, p x → Gives q (f x)) : Gives q (o.bind f) := by
  cases o with
  | none => exact gives_none
  | some x => exact hf x (h x rfl)

/-- Whatever comes before, the last step gives the property. -/
theorem gives_bind (hf : ∀ x, Gives q (f x)) : Gives q (o.bind f) := by
  cases o with
  | none => exact gives_none
  | some x => exact hf x

theorem Gives.map {g : α → β} (h : Gives p o) (hg : ∀ x, p x → q (g x)) : Gives q (o.map g) := by
  cases o with
  | none => exact gives_none
  | some x => exact gives_some (hg x (h x rfl))

end Gives

/-! ## Tables -/

/-- Every value of the entries is sized. -/
def AllSized (entries : List (String × Toml)) : Prop := ∀ e ∈ entries, Sized e.2

theorem AllSized.lookup {entries : List (String × Toml)} (h : AllSized entries) {key : String}
    {v : Toml} (hv : lookup entries key = some v) : Sized v := by
  obtain ⟨e, he, rfl⟩ := Option.map_eq_some_iff.mp hv
  exact h e (List.mem_of_find?_eq_some he)

theorem AllSized.append {entries : List (String × Toml)} (h : AllSized entries) {v : Toml}
    (hv : Sized v) (key : String) : AllSized (entries ++ [(key, v)]) := by
  intro e he
  rcases List.mem_append.mp he with he | he
  · exact h e he
  · rw [List.mem_singleton.mp he]
    exact hv

theorem AllSized.put {entries : List (String × Toml)} (h : AllSized entries) {v : Toml}
    (hv : Sized v) (key : String) : AllSized (put entries key v) := by
  rw [Toml.put]
  split
  · intro e he
    obtain ⟨f, hf, rfl⟩ := List.mem_map.mp he
    split
    · exact hv
    · exact h f hf
  · exact h.append hv key

theorem allSized_of_sized {origin : Origin} {entries : List (String × Toml)}
    (h : Sized (.table origin entries)) : AllSized entries := by
  cases h with
  | table _ h => exact h

theorem sized_empty (origin : Origin) : Sized (.table origin []) :=
  .table origin fun _ he => absurd he List.not_mem_nil

theorem sized_of_mem_tables {items : List Toml} (h : Sized (.tables items)) :
    ∀ v ∈ items, Sized v := by
  cases h with
  | tables h => exact h

/-- Changing a table on a path changes nothing but the tables on it. -/
theorem gives_within {dotted : Bool} {f : Toml → Option Toml}
    (hf : ∀ t, Sized t → Gives Sized (f t)) (path : List String) {t : Toml} (ht : Sized t) :
    Gives Sized (within dotted f path t) := by
  induction path generalizing t with
  | nil =>
      rw [within.eq_def]
      exact hf t ht
  | cons key path ih =>
      cases t with
      | table origin entries =>
          have hentries : AllSized entries := allSized_of_sized ht
          have hput : ∀ v, Sized v → Sized (.table origin (put entries key v)) :=
            fun v hv => .table origin (hentries.put hv key)
          rw [within]
          -- by what stands under the key: the path goes on in a new table, in the table
          -- that is there, or in the last of a list of tables
          split
          · exact (ih (sized_empty _)).map hput
          · exact gives_none
          · next inner hfound =>
            split
            · exact gives_none
            · exact (ih (hentries.lookup hfound)).map hput
          · next o inner _ _ hfound => exact (ih (hentries.lookup hfound)).map hput
          · next items hfound =>
            have hitems := sized_of_mem_tables (hentries.lookup hfound)
            split
            · next last hlast =>
              refine (ih (hitems last (List.mem_of_getLast? hlast))).map fun v hv => hput _ ?_
              refine .tables fun w hw => ?_
              rcases List.mem_append.mp hw with hw | hw
              · exact hitems w (List.dropLast_subset items hw)
              · rw [List.mem_singleton.mp hw]
                exact hv
            · exact gives_none
          · exact gives_none
      | _ => exact gives_none

theorem gives_addKey {v : Toml} (hv : Sized v) (dotted : Bool) (key : String) {t : Toml}
    (ht : Sized t) : Gives Sized (addKey dotted key v t) := by
  cases t with
  | table origin entries =>
      rw [addKey]
      split
      · exact gives_some (.table origin ((allSized_of_sized ht).append hv key))
      · exact gives_none
  | _ => exact gives_none

theorem gives_assign {v : Toml} (hv : Sized v) (key : List String) {t : Toml} (ht : Sized t) :
    Gives Sized (assign key v t) := by
  rw [assign]
  split
  · exact gives_none
  · exact gives_within (fun t ht => gives_addKey hv _ _ ht) _ ht

theorem gives_openTable (path : List String) {t : Toml} (ht : Sized t) :
    Gives Sized (openTable path t) := by
  rw [openTable]
  split
  · exact gives_none
  · refine gives_within (fun t ht => ?_) _ ht
    split
    · next origin entries =>
      have hentries : AllSized entries := allSized_of_sized ht
      split
      · exact gives_some (.table origin (hentries.append (sized_empty _) _))
      · next inner hfound =>
        have hinner : AllSized inner := allSized_of_sized (hentries.lookup hfound)
        exact gives_some (.table origin (hentries.put (.table .header hinner) _))
      · exact gives_none
    · exact gives_none

theorem gives_appendTable (path : List String) {t : Toml} (ht : Sized t) :
    Gives Sized (appendTable path t) := by
  rw [appendTable]
  split
  · exact gives_none
  · refine gives_within (fun t ht => ?_) _ ht
    split
    · next origin entries =>
      have hentries : AllSized entries := allSized_of_sized ht
      split
      · refine gives_some (.table origin (hentries.append (.tables fun v hv => ?_) _))
        rw [List.mem_singleton.mp hv]
        exact sized_empty _
      · next items hfound =>
        have hitems := sized_of_mem_tables (hentries.lookup hfound)
        refine gives_some (.table origin (hentries.put (.tables fun v hv => ?_) _))
        rcases List.mem_append.mp hv with hv | hv
        · exact hitems v hv
        · rw [List.mem_singleton.mp hv]
          exact sized_empty _
      · exact gives_none
    · exact gives_none

/-! ## Values -/

/-- The value of a result is sized. -/
def SizedFirst (r : Toml × List Char) : Prop := Sized r.1

theorem gives_wholeNumber (negative : Bool) (radix : Nat) (ds : List Char) :
    Gives Sized (wholeNumber? negative radix ds) := by
  rw [wholeNumber?]
  split
  · split
    · refine gives_some (.integer ?_)
      rw [hasForm, Bool.and_eq_true, decide_eq_true_eq, decide_eq_true_eq]
      omega
    · exact gives_none
  · split
    · refine gives_some (.integer ?_)
      rw [hasForm, Bool.and_eq_true, decide_eq_true_eq, decide_eq_true_eq]
      omega
    · exact gives_none

theorem gives_real (negative : Bool) (ds : List Char) (exponent : Int) :
    Gives Sized (real? negative ds exponent) := by
  rw [real?]
  split
  · exact gives_some .real
  · exact gives_none

theorem gives_readRadix (radix : Nat) (cs : List Char) : Gives SizedFirst (readRadix radix cs) := by
  rw [readRadix]
  simp only [Option.bind_eq_bind]
  split
  · exact gives_none
  · exact (gives_wholeNumber false radix _).bind fun v hv => gives_some hv

theorem gives_readDecimal (cs : List Char) : Gives SizedFirst (readDecimal cs) := by
  rw [readDecimal]
  simp only [Option.bind_eq_bind]
  split
  · exact gives_some .real
  · exact gives_some .real
  · refine gives_bind fun r => ?_
    split
    · split
      · exact gives_none
      · exact (gives_real _ _ _).bind fun v hv => gives_some hv
    · split
      · exact (gives_real _ _ _).bind fun v hv => gives_some hv
      · exact (gives_wholeNumber _ _ _).bind fun v hv => gives_some hv

/-- Values, items and entries are sized, whatever the fuel. -/
theorem gives_readValue (fuel : Nat) :
    (∀ depth cs, Gives SizedFirst (readValue fuel depth cs)) ∧
    (∀ depth cs, Gives (fun r => ∀ v ∈ r.1, Sized v) (readItems fuel depth cs)) ∧
    (∀ depth soFar cs, Sized soFar → Gives SizedFirst (readEntries fuel depth soFar cs)) := by
  -- the three readers call one another, each time with less fuel
  induction fuel with
  | zero => exact ⟨fun _ _ => gives_none, fun _ _ => gives_none, fun _ _ _ _ => gives_none⟩
  | succ fuel ih =>
      obtain ⟨ihValue, ihItems, ihEntries⟩ := ih
      refine ⟨fun depth cs => ?_, fun depth cs => ?_, fun depth soFar cs hsoFar => ?_⟩
      · rw [readValue.eq_def]
        simp only
        have hquoted : ∀ cs, Gives SizedFirst ((readText cs).map fun r => (.text r.1, r.2)) :=
          fun cs => Gives.map (p := fun _ => True) (fun _ _ => trivial) fun r _ => .text r.1
        split
        · exact hquoted _
        · exact hquoted _
        · split
          · exact gives_none
          · exact (ihItems _ _).map fun r hr => .list hr
        · split
          · exact gives_none
          · split
            · exact gives_some (sized_empty _)
            · exact ihEntries _ _ _ (sized_empty _)
        · exact gives_some (.bool true)
        · exact gives_some (.bool false)
        · exact gives_readRadix 16 _
        · exact gives_readRadix 8 _
        · exact gives_readRadix 2 _
        · split
          · exact gives_some .time
          · exact gives_readDecimal _
      · rw [readItems]
        simp only [Option.bind_eq_bind]
        refine gives_bind fun cs => ?_
        split
        · exact gives_some fun v hv => absurd hv List.not_mem_nil
        · refine (ihValue depth _).bind fun r hr => gives_bind fun cs => ?_
          split
          · refine (ihItems depth _).bind fun rs hrs => gives_some fun v hv => ?_
            rcases List.mem_cons.mp hv with rfl | hv
            · exact hr
            · exact hrs v hv
          · refine gives_some fun v hv => ?_
            rw [List.mem_singleton.mp hv]
            exact hr
          · exact gives_none
      · rw [readEntries]
        simp only [Option.bind_eq_bind]
        refine gives_bind fun k => gives_bind fun cs => (ihValue depth _).bind fun r hr =>
          (gives_assign hr _ hsoFar).bind fun grown hgrown => ?_
        split
        · exact ihEntries depth grown _ hgrown
        · exact gives_some hgrown
        · exact gives_none

/-! ## Documents -/

/-- What is known of a document in progress. -/
def SizedDocument (r : PartDocument × List Char) : Prop := Sized r.1.content

theorem gives_readHeader {d : PartDocument} (hd : Sized d.content) (repeated : Bool)
    (cs : List Char) : Gives SizedDocument (readHeader d repeated cs) := by
  rw [readHeader]
  simp only [Option.bind_eq_bind]
  refine gives_bind fun k => gives_bind fun cs => ?_
  cases repeated with
  | true =>
      simp only [if_true]
      exact gives_bind fun cs => (gives_appendTable k.1 hd).bind fun opened hopened =>
        gives_bind fun rest => gives_some hopened
  | false =>
      simp only [Bool.false_eq_true, if_false]
      exact gives_bind fun cs => (gives_openTable k.1 hd).bind fun opened hopened =>
        gives_bind fun rest => gives_some hopened

theorem gives_readEntry {d : PartDocument} (hd : Sized d.content) (cs : List Char) :
    Gives SizedDocument (readEntry d cs) := by
  rw [readEntry]
  simp only [Option.bind_eq_bind]
  refine gives_bind fun k => gives_bind fun rest => ((gives_readValue _).1 _ _).bind fun r hr => ?_
  have hgrown : Gives Sized (within false (assign k.1 r.1) d.header d.content) :=
    gives_within (fun t ht => gives_assign hr k.1 ht) d.header hd
  exact hgrown.bind fun grown hgrown => gives_bind fun rest => gives_some hgrown

theorem gives_readLine {d : PartDocument} (hd : Sized d.content) (cs : List Char) :
    Gives SizedDocument (readLine d cs) := by
  rw [readLine]
  split
  · exact gives_readHeader hd true _
  · exact gives_readHeader hd false _
  · split
    · exact gives_some hd
    · exact gives_readEntry hd _

theorem gives_readLines (fuel : Nat) {d : PartDocument} (hd : Sized d.content) (cs : List Char) :
    Gives Sized (readLines fuel d cs) := by
  induction fuel generalizing d cs with
  | zero =>
      cases cs with
      | nil => exact gives_some hd
      | cons c cs => exact gives_none
  | succ fuel ih =>
      cases cs with
      | nil => exact gives_some hd
      | cons c cs => exact (gives_readLine hd _).bind fun r hr => ih hr r.2

/-- **Every whole number that is read has 64 bits.** -/
theorem sized_of_read? {s : String} {t : Toml} (h : read? s = some t) : Sized t := by
  rw [read?] at h
  exact gives_readLines _ (sized_empty _) _ t h

end TunnelSession.Toml
