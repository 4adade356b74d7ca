/-
  TunnelSession.Proofs.Toml.Records

  Records as tables: a field that has no value is left out, so that the keys of the
  table are some of the names of the fields, and each field is found again by its name,
  or missed, in whatever order the entries stand.
-/
import TunnelSession.Proofs.Toml.Bounds
import TunnelSession.Proofs.Toml.Documents
import Mathlib.Data.List.Nodup

namespace TunnelSession.Toml

/-! ## Fields by name -/

/-- The names and values of a record's fields, those without a value included. -/
abbrev Fields := List (String × Option Toml)

/-- The entries of the fields that have a value. -/
def present (fields : Fields) : List (String × Toml) :=
  fields.filterMap fun f => f.2.map (f.1, ·)

theorem keys_present_sublist (fields : Fields) :
    (keys (present fields)).Sublist (fields.map (·.1)) := by
  induction fields with
  | nil => exact .slnil
  | cons f fields ih =>
      obtain ⟨name, v⟩ := f
      cases v with
      | none => exact ih.cons name
      | some v => exact ih.cons_cons name

theorem mem_present {fields : Fields} {e : String × Toml} :
    e ∈ present fields ↔ (e.1, some e.2) ∈ fields := by
  rw [present, List.mem_filterMap]
  constructor
  · rintro ⟨⟨name, v⟩, hf, he⟩
    obtain ⟨w, hw, rfl⟩ := Option.map_eq_some_iff.mp he
    cases hw
    exact hf
  · intro h
    exact ⟨_, h, rfl⟩

/-- With distinct names, a lookup finds the value of a field, or none if it has none. -/
theorem lookup_present {fields : Fields} (hnames : (fields.map (·.1)).Nodup)
    {f : String × Option Toml} (hf : f ∈ fields) : lookup (present fields) f.1 = f.2 := by
  have hkeys : (keys (present fields)).Nodup := hnames.sublist (keys_present_sublist fields)
  obtain ⟨name, v⟩ := f
  cases v with
  | some v => exact lookup_eq_some hkeys (e := (name, v)) (mem_present.mpr hf)
  | none =>
      apply lookup_eq_none
      intro hkey
      obtain ⟨⟨key, w⟩, he, rfl⟩ := List.mem_map.mp hkey
      -- the field would have two values
      have hsame : (key, some w) = ((key, none) : String × Option Toml) :=
        List.inj_on_of_nodup_map hnames (mem_present.mp he) hf rfl
      cases hsame

/-- **A record is taken apart into its fields again**, however its entries are ordered. -/
theorem fields?_of_perm {fields : Fields} (hnames : (fields.map (·.1)).Nodup)
    {entries : List (String × Toml)} (h : entries.Perm (present fields)) (origin : Origin) :
    (Toml.table origin entries).fields? (fields.map (·.1)) = some (fields.map (·.2)) := by
  have hkeys : (keys entries).Nodup :=
    (h.map _).nodup_iff.mpr (hnames.sublist (keys_present_sublist fields))
  rw [fields?, List.map_map]
  refine congrArg some (List.map_congr_left fun f hf => ?_)
  show lookup entries f.1 = f.2
  rw [lookup_of_perm h hkeys, lookup_present hnames hf]

/-- A whole number is one that a field can hold, and has a form in a file. -/
def Fits (most n : Nat) : Prop := n ≤ most ∧ n < 0x8000000000000000

instance (most n : Nat) : Decidable (Fits most n) :=
  inferInstanceAs (Decidable (n ≤ most ∧ n < 0x8000000000000000))

/-- The value of a field, if it has one, holds no others and has a form. -/
def Simple (field : Option Toml) : Prop :=
  ∀ v, field = some v → Single v ∧ hasForm v = true

theorem simple_text (s : String) : Simple (some (.text s)) := by
  rintro _ ⟨⟩
  exact ⟨.text s, rfl⟩

theorem simple_bool (b : Bool) : Simple (some (.bool b)) := by
  rintro _ ⟨⟩
  exact ⟨.bool b, rfl⟩

theorem simple_number {most n : Nat} (h : Fits most n) : Simple (some (.integer n)) := by
  rintro _ ⟨⟩
  have hform : n < 0x8000000000000000 := h.2
  refine ⟨.integer n, ?_⟩
  rw [hasForm_integer]
  omega

/-- The fields of a section: names that can stand as keys, and values that hold no others. -/
structure IsFlat (fields : Fields) : Prop where
  distinct : (fields.map (·.1)).Nodup
  bare : ∀ name ∈ fields.map (·.1), BareKey name
  simple : ∀ f ∈ fields, Simple f.2

theorem IsFlat.isSection {fields : Fields} (h : IsFlat fields) :
    IsSection (.table .header (present fields)) := by
  refine .mk (h.distinct.sublist (keys_present_sublist fields)) (fun e he => ?_) fun e he => ?_
  · exact h.bare e.1 (List.mem_map.mpr ⟨_, mem_present.mp he, rfl⟩)
  · exact .single (h.simple _ (mem_present.mp he) e.2 rfl).1

theorem IsFlat.canWrite {fields : Fields} (h : IsFlat fields) :
    canWrite (.table .header (present fields)) = true := by
  refine List.all_eq_true.mpr fun e he => ?_
  obtain ⟨hsingle, hform⟩ := h.simple _ (mem_present.mp he) e.2 rfl
  -- a list has its form item by item, but no field of a section is one
  cases hv : e.2 with
  | list items =>
      rw [hv] at hsingle
      cases hsingle
  | _ =>
      rw [hv] at hform
      exact hform

/-! ## Records with sections -/

/-- The value of a field, if it has one, can stand in a document, and has a form there. -/
def CanStand (field : Option Toml) : Prop :=
  ∀ v, field = some v → (Plain v ∨ IsSection v) ∧ canWrite v = true

theorem Simple.canStand {field : Option Toml} (h : Simple field) : CanStand field := by
  intro v hv
  obtain ⟨hsingle, hform⟩ := h v hv
  refine ⟨.inl (.single hsingle), ?_⟩
  cases hsingle <;> exact hform

theorem IsFlat.canStand {fields : Fields} (h : IsFlat fields) :
    CanStand (some (.table .header (present fields))) := by
  rintro _ ⟨⟩
  exact ⟨.inr h.isSection, h.canWrite⟩

/-- A list of texts can stand in a document. -/
theorem canStand_texts (texts : List String) : CanStand (some (.list (texts.map .text))) := by
  rintro _ ⟨⟩
  constructor
  · refine .inl (.list fun v hv => ?_)
    obtain ⟨s, -, rfl⟩ := List.mem_map.mp hv
    exact .text s
  · refine List.all_eq_true.mpr fun v hv => ?_
    obtain ⟨s, -, rfl⟩ := List.mem_map.mp hv
    rfl

/-- A field that may have no value can stand in a document if it can with each value. -/
theorem canStand_map {α : Type} {f : α → Toml} (h : ∀ x, CanStand (some (f x))) (o : Option α) :
    CanStand (o.map f) := by
  intro v hv
  obtain ⟨x, -, rfl⟩ := Option.map_eq_some_iff.mp hv
  exact h x _ rfl

/-- The fields of a document: names that can stand as keys, and values that can stand
    there. -/
structure IsRecord (fields : Fields) : Prop where
  distinct : (fields.map (·.1)).Nodup
  bare : ∀ name ∈ fields.map (·.1), BareKey name
  canStand : ∀ f ∈ fields, CanStand f.2

/-- **A record is written, and read back from its text.** -/
theorem IsRecord.read_written {fields : Fields} (h : IsRecord fields) :
    ∃ text t, write? (present fields) = some text ∧ read? text = some t ∧
      t.fields? (fields.map (·.1)) = some (fields.map (·.2)) := by
  have hentry : ∀ e ∈ present fields,
      BareKey e.1 ∧ (Plain e.2 ∨ IsSection e.2) ∧ Toml.canWrite e.2 = true := by
    intro e he
    have hfield := mem_present.mp he
    exact ⟨h.bare e.1 (List.mem_map.mpr ⟨_, hfield, rfl⟩), h.canStand _ hfield e.2 rfl⟩
  have hdocument : IsDocument (present fields) :=
    ⟨h.distinct.sublist (keys_present_sublist fields), fun e he => (hentry e he).1,
      fun e he => (hentry e he).2.1⟩
  have hforms : (present fields).all (fun e => Toml.canWrite e.2) = true :=
    List.all_eq_true.mpr fun e he => (hentry e he).2.2
  obtain ⟨text, hwrite⟩ : ∃ text, write? (present fields) = some text := ⟨_, if_pos hforms⟩
  exact ⟨text, _, hwrite, read?_write? hdocument hwrite,
    fields?_of_perm h.distinct (perm_singles_sections _) .header⟩

/-! ## Whole numbers -/

theorem nat?_ofNat {most n : Nat} (h : Fits most n) : nat? most (.integer n) = some n := by
  rw [nat?, if_pos ⟨Int.natCast_nonneg n, Int.ofNat_le.mpr h.1⟩, Int.toNat_natCast]

/-- A number that is read has a form in a file. -/
theorem gives_nat {most : Nat} {t : Toml} (ht : Sized t) :
    Gives (Fits most) (nat? most t) := by
  cases ht with
  | integer h =>
      have hbounds := hasForm_integer.mp h
      rw [nat?]
      split
      · next hmost => exact gives_some ⟨by omega, by omega⟩
      · exact gives_none
  | _ => exact gives_none

theorem gives_orDefault {α : Type} {p : α → Prop} {default_ : α} {read : Toml → Option α}
    (hdefault : p default_) (hread : ∀ t, Sized t → Gives p (read t)) {field : Option Toml}
    (hfield : ∀ t, field = some t → Sized t) : Gives p (orDefault default_ read field) := by
  cases field with
  | none => exact gives_some hdefault
  | some t => exact hread t (hfield t rfl)

/-- A number that is read from a field, or its default, has a form in a file. -/
theorem gives_number {most default_ : Nat} (hdefault : Fits most default_)
    {field : Option Toml} (hfield : ∀ t, field = some t → Sized t) :
    Gives (Fits most) (orDefault default_ (nat? most) field) :=
  gives_orDefault hdefault (fun _ ht => gives_nat ht) hfield

/-- The fields of a value are as sized as the value. -/
theorem gives_fields {t : Toml} (ht : Sized t) (names : List String) :
    Gives (fun fields => ∀ field ∈ fields, ∀ v, field = some v → Sized v) (t.fields? names) := by
  have hitems : ∀ items : List Toml, (∀ v ∈ items, Sized v) →
      ∀ field ∈ (items.map some ++ List.replicate names.length none).take names.length,
        ∀ v, field = some v → Sized v := by
    rintro items hitems _ hfield v rfl
    rcases List.mem_append.mp (List.mem_of_mem_take hfield) with hv | hv
    · obtain ⟨w, hw, heq⟩ := List.mem_map.mp hv
      rw [← Option.some.inj heq]
      exact hitems w hw
    · cases List.eq_of_mem_replicate hv
  cases ht with
  | table origin h =>
      refine gives_some fun field hfield v hv => ?_
      obtain ⟨name, -, hname⟩ := List.mem_map.mp hfield
      exact AllSized.lookup h (hname.trans hv)
  | list h => exact gives_some (hitems _ h)
  | tables h => exact gives_some (hitems _ h)
  | time =>
      refine gives_some fun field hfield v hv => ?_
      obtain ⟨name, -, hname⟩ := List.mem_map.mp hfield
      cases hname.trans hv
  | _ => exact gives_none

end TunnelSession.Toml
