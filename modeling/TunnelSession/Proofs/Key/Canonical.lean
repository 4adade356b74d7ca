/-
  TunnelSession.Proofs.Key.Canonical

  A key has one text. Blanks around the text do not count, and what is left of it must
  be the base64 form of 32 bytes, character by character: the reader takes no other
  padding, no other alphabet and no stray bits, so keys may be compared by their texts
  once these are trimmed. Keys of either kind are read the same way.
-/
import TunnelSession.Key.Basic
import TunnelSession.Proofs.Text.Base64
import TunnelSession.Proofs.Text.Trimming

namespace TunnelSession.Key

/-- The text of some bytes. -/
def written (bytes : List UInt8) : String :=
  String.ofList (Text.Base64.encode bytes)

/-! ## The text of bytes -/

variable {s : String} {bytes : List UInt8}

theorem trimmed_eq_written_iff :
    Text.trimmed s = written bytes ↔ Text.trim s.toList = Text.Base64.encode bytes :=
  String.ofList_inj

/-- The text of bytes has no blanks. -/
theorem stops_encode : Text.Stops Text.isBlank (Text.Base64.encode bytes) :=
  fun _ hc => Text.Base64.isBlank_of_mem_encode (List.mem_of_mem_head? hc)

theorem stops_encode_reverse : Text.Stops Text.isBlank (Text.Base64.encode bytes).reverse :=
  fun _ hc => Text.Base64.isBlank_of_mem_encode (List.mem_reverse.mp (List.mem_of_mem_head? hc))

theorem trimmed_written (bytes : List UInt8) : Text.trimmed (written bytes) = written bytes := by
  rw [trimmed_eq_written_iff, written, String.toList_ofList]
  exact Text.trim_eq_self stops_encode stops_encode_reverse

/-! ## Reading a key -/

namespace KeyBytes

theorem base64_eq_written (k : KeyBytes) : k.base64 = written k.bytes := rfl

/-- The text of bytes is read, if there are 32 of them. -/
theorem read_of_written (h : Text.trimmed s = written bytes) :
    KeyBytes.read s =
      if h32 : bytes.length = 32 then .ok ⟨bytes, h32⟩ else .error .invalidLength := by
  have hread : Text.Base64.decode? (Text.trim s.toList) = some bytes := by
    rw [Text.Base64.decode?_eq_some_iff]
    exact trimmed_eq_written_iff.mp h
  unfold KeyBytes.read
  rw [hread]

/-- No other text is read. -/
theorem read_of_not_written (h : ∀ bytes, Text.trimmed s ≠ written bytes) :
    KeyBytes.read s = .error .invalidBase64 := by
  have hread : Text.Base64.decode? (Text.trim s.toList) = none := by
    apply Option.eq_none_iff_forall_ne_some.mpr
    intro bytes hbytes
    rw [Text.Base64.decode?_eq_some_iff] at hbytes
    exact h bytes (trimmed_eq_written_iff.mpr hbytes)
  unfold KeyBytes.read
  rw [hread]

theorem read_eq_ok_iff {k : KeyBytes} : KeyBytes.read s = .ok k ↔ Text.trimmed s = k.base64 := by
  constructor
  · intro hread
    -- whatever is read is the form of some bytes, and what these are says the rest
    by_cases hwritten : ∃ bytes, Text.trimmed s = written bytes
    · obtain ⟨bytes, hbytes⟩ := hwritten
      rw [read_of_written hbytes] at hread
      split at hread
      · cases hread
        exact hbytes
      · cases hread
    · rw [read_of_not_written (not_exists.mp hwritten)] at hread
      cases hread
  · intro htext
    rw [read_of_written (htext.trans k.base64_eq_written), dif_pos k.length_eq]

theorem read_eq_invalidLength_iff :
    KeyBytes.read s = .error .invalidLength ↔
      ∃ bytes, bytes.length ≠ 32 ∧ Text.trimmed s = written bytes := by
  constructor
  · intro hread
    by_cases hwritten : ∃ bytes, Text.trimmed s = written bytes
    · obtain ⟨bytes, hbytes⟩ := hwritten
      refine ⟨bytes, fun h32 => ?_, hbytes⟩
      rw [read_of_written hbytes, dif_pos h32] at hread
      cases hread
    · rw [read_of_not_written (not_exists.mp hwritten)] at hread
      cases hread
  · rintro ⟨bytes, hlength, hbytes⟩
    rw [read_of_written hbytes, dif_neg hlength]

theorem read_eq_invalidBase64_iff :
    KeyBytes.read s = .error .invalidBase64 ↔ ∀ bytes, Text.trimmed s ≠ written bytes := by
  constructor
  · intro hread bytes hbytes
    rw [read_of_written hbytes] at hread
    split at hread <;> cases hread
  · exact read_of_not_written

end KeyBytes

/-! ## Keys of either kind -/

/-- A kind of keys with one text for each, read as it is written. -/
structure Canonical {κ : Type} (read : String → Except KeyError κ) (base64 : κ → String)
    (bytesOf : κ → List UInt8) : Prop where
  /-- Any 32 bytes are those of a key, and of no other. -/
  exists_key : ∀ bytes, bytes.length = 32 ↔ ∃ k, bytesOf k = bytes
  bytes_injective : ∀ k k', bytesOf k = bytesOf k' → k = k'
  base64_eq : ∀ k, base64 k = written (bytesOf k)
  read_eq_ok : ∀ s k, read s = .ok k ↔ Text.trimmed s = base64 k
  read_base64 : ∀ k, read (base64 k) = .ok k
  /-- Two texts of one key differ in the blanks around them alone. -/
  trimmed_eq : ∀ s s' k k', read s = .ok k → read s' = .ok k' → bytesOf k = bytesOf k' →
    Text.trimmed s = Text.trimmed s'
  read_eq_invalidLength : ∀ s, read s = .error .invalidLength ↔
    ∃ bytes, bytes.length ≠ 32 ∧ Text.trimmed s = written bytes
  read_eq_invalidBase64 : ∀ s, read s = .error .invalidBase64 ↔
    ∀ bytes, Text.trimmed s ≠ written bytes

/-- A kind of keys that is nothing but its bytes is read as these are. -/
theorem canonical_of_bytes {κ : Type} {mk : KeyBytes → κ} {key : κ → KeyBytes}
    (hkey : ∀ k, key (mk k) = k) (hmk : ∀ k, mk (key k) = k) :
    Canonical (fun s => (KeyBytes.read s).map mk) (fun k => (key k).base64)
      (fun k => (key k).bytes) := by
  have hmap : ∀ s k, (KeyBytes.read s).map mk = .ok k ↔ KeyBytes.read s = .ok (key k) := by
    intro s k
    cases KeyBytes.read s with
    | error e => exact ⟨nofun, nofun⟩
    | ok k' =>
        constructor
        · intro h
          rw [← hkey k', Except.ok.inj h]
        · intro h
          rw [Except.ok.inj h]
          exact congrArg Except.ok (hmk k)
  have herror : ∀ s e, (KeyBytes.read s).map mk = .error e ↔ KeyBytes.read s = .error e := by
    intro s e
    cases KeyBytes.read s with
    | error e' =>
        exact ⟨fun h => congrArg _ (Except.error.inj h), fun h => congrArg _ (Except.error.inj h)⟩
    | ok k' => exact ⟨nofun, nofun⟩
  have hok : ∀ s k, (KeyBytes.read s).map mk = .ok k ↔ Text.trimmed s = (key k).base64 :=
    fun s k => (hmap s k).trans KeyBytes.read_eq_ok_iff
  exact {
    exists_key := by
      intro bytes
      constructor
      · intro h32
        exact ⟨mk ⟨bytes, h32⟩, by rw [hkey]⟩
      · rintro ⟨k, rfl⟩
        exact (key k).length_eq
    bytes_injective := by
      intro k k' hbytes
      have hkeys : key k = key k' := by
        cases hk : key k
        cases hk' : key k'
        simpa [hk, hk'] using hbytes
      rw [← hmk k, hkeys, hmk]
    base64_eq := fun k => rfl
    read_eq_ok := hok
    read_base64 := fun k => (hok _ k).mpr (trimmed_written _)
    trimmed_eq := by
      intro s s' k k' hs hs' hbytes
      rw [(hok s k).mp hs, (hok s' k').mp hs', KeyBytes.base64_eq_written, hbytes]
      rfl
    read_eq_invalidLength := fun s => (herror s _).trans KeyBytes.read_eq_invalidLength_iff
    read_eq_invalidBase64 := fun s => (herror s _).trans KeyBytes.read_eq_invalidBase64_iff }

/-- **Key text is canonical.** A text is read as a key exactly if it is the base64 form of
    the key's 32 bytes with blanks around it, for public and for private keys. What is
    the base64 form of another number of bytes is of invalid length, and everything else
    is no base64. -/
theorem key_text_is_canonical :
    Canonical PublicKey.read PublicKey.base64 (fun k => k.key.bytes) ∧
      Canonical PrivateKey.read PrivateKey.base64 (fun k => k.key.bytes) :=
  ⟨canonical_of_bytes (fun _ => rfl) (fun _ => rfl),
    canonical_of_bytes (fun _ => rfl) (fun _ => rfl)⟩

/-- The last character of a text may hold bits of no byte; they must be zero. -/
example :
    (PublicKey.read " AQ==\t" = .error .invalidLength ∧
      PublicKey.read "AR==" = .error .invalidBase64 ∧
      PublicKey.read "AQ" = .error .invalidBase64) := by
  decide

end TunnelSession.Key
