/-
  TunnelSession.Proofs.Text.Utf8

  The bytes of a text are those of its characters, one after the other, and only a
  line feed has the byte of a line feed among its own. Strict reading takes them back
  to the text. So does lossy reading: it replaces only what is no character.
-/
import TunnelSession.Text.Utf8
import Mathlib.Data.List.Basic

namespace TunnelSession.Text

/-! ## The bytes of characters -/

theorem toBytes_ofList (cs : List Char) :
    toBytes (String.ofList cs) = cs.flatMap String.utf8EncodeChar := by
  rw [toBytes, String.toUTF8_eq_toByteArray, String.toByteArray_ofList, List.utf8Encode,
    List.toList_data_toByteArray]

theorem toBytes_append (s t : String) : toBytes (s ++ t) = toBytes s ++ toBytes t := by
  rw [← String.ofList_toList (s := s), ← String.ofList_toList (s := t), ← String.ofList_append,
    toBytes_ofList, toBytes_ofList, toBytes_ofList, List.flatMap_append]

theorem toBytes_eq (s : String) : toBytes s = s.toList.flatMap String.utf8EncodeChar := by
  rw [← toBytes_ofList, String.ofList_toList]

/-- Only a line feed has the byte of a line feed in it. -/
theorem lineFeed_not_mem_encoded {c : Char} (hc : c ≠ '\n') :
    (10 : UInt8) ∉ String.utf8EncodeChar c := by
  have hne : ∀ n : Nat, n % 256 ≠ 10 → (10 : UInt8) ≠ UInt8.ofNat n := by
    intro n hn heq
    apply hn
    rw [← UInt8.toNat_ofNat', ← heq]
    rfl
  have hc' : c.val.toNat ≠ 10 := by
    intro heq
    apply hc
    apply Char.ext
    apply UInt32.toNat_inj.mp
    exact heq
  simp only [String.utf8EncodeChar]
  -- a character of one byte is that byte; all bytes of a longer one are at least 0x80
  split
  · exact fun h => hne _ (by omega) (List.mem_singleton.1 h)
  split
  · simp only [List.mem_cons, List.not_mem_nil, or_false]
    rintro (h | h) <;> exact hne _ (by omega) h
  split
  · simp only [List.mem_cons, List.not_mem_nil, or_false]
    rintro (h | h | h) <;> exact hne _ (by omega) h
  · simp only [List.mem_cons, List.not_mem_nil, or_false]
    rintro (h | h | h | h) <;> exact hne _ (by omega) h

/-! ## Strict reading -/

theorem toBytes_of_ofBytes? {bytes : List UInt8} {s : String} (h : ofBytes? bytes = some s) :
    toBytes s = bytes := by
  simp only [ofBytes?, String.fromUTF8?] at h
  split at h
  · rw [← Option.some.inj h]
    simp [toBytes, String.fromUTF8, String.toUTF8]
  · cases h

/-- The text of a line ends with its line feed and holds no other. -/
theorem toList_of_line {body : List UInt8} {s : String} (hbody : 10 ∉ body)
    (h : ofBytes? (body ++ [10]) = some s) : ∃ cs, s.toList = cs ++ ['\n'] ∧ '\n' ∉ cs := by
  have hbytes : s.toList.flatMap String.utf8EncodeChar = body ++ [10] := by
    rw [← toBytes_eq, toBytes_of_ofBytes? h]
  have hfeed : '\n' ∈ s.toList := by
    by_contra hnone
    have hmem : (10 : UInt8) ∈ s.toList.flatMap String.utf8EncodeChar := by
      rw [hbytes]
      exact List.mem_append_right _ (List.mem_singleton_self _)
    obtain ⟨c, hc, hin⟩ := List.mem_flatMap.mp hmem
    exact lineFeed_not_mem_encoded (fun heq => hnone (heq ▸ hc)) hin
  obtain ⟨before, after, hsplit, hbefore⟩ := List.eq_append_cons_of_mem hfeed
  have hone : String.utf8EncodeChar '\n' = [10] := rfl
  rw [hsplit, List.flatMap_append, List.flatMap_cons, hone, List.singleton_append] at hbytes
  -- the first line feed of the text is the one at the end of the bytes
  obtain ⟨-, -, hafter⟩ := (List.append_cons_inj_of_notMem hbody List.not_mem_nil).mp hbytes.symm
  have hnil : after = [] := by
    cases after with
    | nil => rfl
    | cons c after =>
        rw [List.flatMap_cons, eq_comm, List.append_eq_nil_iff] at hafter
        exact absurd hafter.1 String.utf8EncodeChar_ne_nil
  exact ⟨before, by rw [hsplit, hnil], hbefore⟩

/-! ## Lossy reading -/

section Lossy

variable {read : List Char} {p : Pending} {b v : Nat}

/-- A byte that completes the character in progress. -/
theorem byte_last (howed : p.owed = 1) (hlow : p.low ≤ b) (hhigh : b ≤ p.high) (hb : b < 256) :
    LossyReader.byte { read, pending := some p } (UInt8.ofNat b) =
      { read := Char.ofNat (p.value * 64 + (b - 0x80)) :: read } := by
  have hbyte : (UInt8.ofNat b).toNat = b := UInt8.toNat_ofNat_of_lt' hb
  simp only [LossyReader.byte, hbyte]
  rw [if_pos ⟨hlow, hhigh⟩, if_pos howed]

/-- A byte that continues the character in progress, which owes more. -/
theorem byte_next {owed : Nat} (howed : p.owed = owed + 2) (hlow : p.low ≤ b) (hhigh : b ≤ p.high)
    (hb : b < 256) :
    LossyReader.byte { read, pending := some p } (UInt8.ofNat b) =
      { read, pending := some { owed := owed + 1, value := p.value * 64 + (b - 0x80) } } := by
  have hbyte : (UInt8.ofNat b).toNat = b := UInt8.toNat_ofNat_of_lt' hb
  simp only [LossyReader.byte, hbyte]
  rw [if_pos ⟨hlow, hhigh⟩, if_neg (by omega), howed]
  rfl

/-- A byte that begins a character of several bytes. -/
theorem byte_first (hp : Pending.ofFirst b = some p) (hfirst : 0x80 ≤ b) (hb : b < 256) :
    LossyReader.byte { read } (UInt8.ofNat b) = { read, pending := some p } := by
  have hbyte : (UInt8.ofNat b).toNat = b := UInt8.toNat_ofNat_of_lt' hb
  simp only [LossyReader.byte, hbyte, LossyReader.first]
  rw [if_neg (by omega), hp]

theorem ofFirst_two (hlow : 0x7F < v) (hhigh : v ≤ 0x7FF) :
    Pending.ofFirst (v / 64 % 32 + 192) = some { owed := 1, value := v / 64 } := by
  have hvalue : v / 64 % 32 + 192 - 0xC0 = v / 64 := by omega
  rw [Pending.ofFirst, if_neg (by omega), if_pos (by omega), hvalue]

/-- The bounds of the second byte leave out numbers that have a shorter form, and those
    that are no characters. -/
theorem ofFirst_three (hlow : 0x7FF < v) (hhigh : v ≤ 0xFFFF)
    (hvalid : v < 0xD800 ∨ 0xDFFF < v) :
    ∃ p, Pending.ofFirst (v / 4096 % 16 + 224) = some p ∧ p.owed = 2 ∧ p.value = v / 4096 ∧
      p.low ≤ v / 64 % 64 + 128 ∧ v / 64 % 64 + 128 ≤ p.high := by
  simp only [Pending.ofFirst]
  rw [if_neg (by omega), if_neg (by omega)]
  split
  · exact ⟨_, rfl, rfl, by simp only; omega, by simp only; omega, by simp only; omega⟩
  split
  · exact ⟨_, rfl, rfl, by simp only; omega, by simp only; omega, by simp only; omega⟩
  rw [if_pos (by omega)]
  exact ⟨_, rfl, rfl, by simp only; omega, by simp only; omega, by simp only; omega⟩

theorem ofFirst_four (hlow : 0xFFFF < v) (hhigh : v < 0x110000) :
    ∃ p, Pending.ofFirst (v / 262144 % 8 + 240) = some p ∧ p.owed = 3 ∧ p.value = v / 262144 ∧
      p.low ≤ v / 4096 % 64 + 128 ∧ v / 4096 % 64 + 128 ≤ p.high := by
  simp only [Pending.ofFirst]
  rw [if_neg (by omega), if_neg (by omega), if_neg (by omega), if_neg (by omega),
    if_neg (by omega)]
  split
  · exact ⟨_, rfl, rfl, by simp only; omega, by simp only; omega, by simp only; omega⟩
  split
  · exact ⟨_, rfl, rfl, by simp only; omega, by simp only; omega, by simp only; omega⟩
  rw [if_pos (by omega)]
  exact ⟨_, rfl, rfl, by simp only; omega, by simp only; omega, by simp only; omega⟩

/-- The bytes of a character are read as that character. -/
theorem foldl_byte_encoded (read : List Char) (c : Char) :
    (String.utf8EncodeChar c).foldl LossyReader.byte { read } = { read := c :: read } := by
  have hvalid : c.val.toNat < 0xD800 ∨ 0xDFFF < c.val.toNat ∧ c.val.toNat < 0x110000 := c.valid
  have hback : ∀ n, n = c.val.toNat → Char.ofNat n = c := by
    intro n hn
    rw [hn]
    exact Char.ofNat_toNat c
  simp only [String.utf8EncodeChar]
  generalize c.val.toNat = v at *
  -- one case for each number of bytes
  split
  · have hlt : v < 256 := by omega
    have hbyte : (UInt8.ofNat v).toNat = v := UInt8.toNat_ofNat_of_lt' hlt
    simp only [List.foldl_cons, List.foldl_nil, LossyReader.byte, hbyte, LossyReader.first]
    rw [if_pos (by omega), hback v rfl]
  split
  · simp only [List.foldl_cons, List.foldl_nil]
    rw [byte_first (ofFirst_two (by omega) (by omega)) (by omega) (by omega),
      byte_last rfl (by simp only; omega) (by simp only; omega) (by omega),
      hback _ (by simp only; omega)]
  split
  · obtain ⟨p, hp, howed, hvalue, hlow, hhigh⟩ :=
      ofFirst_three (v := v) (by omega) (by omega) (by omega)
    simp only [List.foldl_cons, List.foldl_nil]
    rw [byte_first hp (by omega) (by omega), byte_next howed hlow hhigh (by omega),
      byte_last rfl (by simp only; omega) (by simp only; omega) (by omega),
      hback _ (by simp only; omega)]
  · obtain ⟨p, hp, howed, hvalue, hlow, hhigh⟩ := ofFirst_four (v := v) (by omega) (by omega)
    simp only [List.foldl_cons, List.foldl_nil]
    rw [byte_first hp (by omega) (by omega), byte_next howed hlow hhigh (by omega),
      byte_next rfl (by simp only; omega) (by simp only; omega) (by omega),
      byte_last rfl (by simp only; omega) (by simp only; omega) (by omega),
      hback _ (by simp only; omega)]

end Lossy

theorem ofBytesLossy_toBytes (s : String) : ofBytesLossy (toBytes s) = s := by
  have hread : ∀ (cs read : List Char),
      (cs.flatMap String.utf8EncodeChar).foldl LossyReader.byte { read } =
        { read := cs.reverse ++ read } := by
    intro cs
    induction cs with
    | nil => exact fun _ => rfl
    | cons c cs ih =>
        intro read
        rw [List.flatMap_cons, List.foldl_append, foldl_byte_encoded, ih, List.reverse_cons,
          List.append_assoc]
        rfl
  rw [ofBytesLossy, toBytes_eq, hread]
  simp only [Option.isSome_none, Bool.false_eq_true, if_false, List.append_nil,
    List.reverse_reverse, String.ofList_toList]

end TunnelSession.Text
