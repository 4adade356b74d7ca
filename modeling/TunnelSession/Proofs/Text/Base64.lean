/-
  TunnelSession.Proofs.Text.Base64

  The canonical form of base64 is one-to-one: every sequence of bytes is read back from
  its form, and nothing else is read. Three bytes fill four characters; where a group is
  not full, the bits that are left over are zero and the characters that are left over
  are pads, so that no text but the written one stands for the bytes.
-/
import TunnelSession.Text.Base64
import TunnelSession.Text.Blank

namespace TunnelSession.Text.Base64

/-! ## Symbols -/

variable {a b c d : Char} {x y z : Nat} {bytes : List UInt8}

theorem value?_symbol (hx : x < 64) : value? (symbol x) = some x := by
  have hall : ∀ x < 64, value? (symbol x) = some x := by decide
  exact hall x hx

/-- The alphabet is a part of ASCII. -/
theorem toNat_lt_of_value? (h : value? c = some x) : c.toNat < 128 := by
  have hbound : ∀ d : Char, c ≤ d → d.toNat < 128 → c.toNat < 128 :=
    fun d hle hd => Nat.lt_of_le_of_lt hle hd
  unfold value? at h
  split at h
  · next hc => exact hbound 'Z' hc.2 (by decide)
  · split at h
    · next hc => exact hbound 'z' hc.2 (by decide)
    · split at h
      · next hc => exact hbound '9' hc.2 (by decide)
      · split at h
        · next hc => exact hc ▸ by decide
        · split at h
          · next hc => exact hc ▸ by decide
          · cases h

/-- A character of the alphabet is the symbol of its value. -/
theorem symbol_of_value? (h : value? c = some x) : x < 64 ∧ symbol x = c := by
  have hall : ∀ n < 128, (value? (Char.ofNat n)).all
      (fun x => x < 64 && symbol x == Char.ofNat n) = true := by decide
  have hc := hall c.toNat (toNat_lt_of_value? h)
  rw [Char.ofNat_toNat, h] at hc
  simpa using hc

theorem symbol_ne_pad (hx : x < 64) : symbol x ≠ '=' := by
  intro heq
  have hread := value?_symbol hx
  rw [heq] at hread
  cases hread

/-- No symbol is a blank, and neither is the pad. -/
theorem isBlank_symbol (hx : x < 64) : isBlank (symbol x) = false := by
  have hall : ∀ x < 64, isBlank (symbol x) = false := by decide
  exact hall x hx

/-! ## Groups -/

theorem readOne?_symbol (x : UInt8) :
    readOne? (symbol (x.toNat * 16 / 64)) (symbol (x.toNat * 16 % 64)) = some [x] := by
  have hx : x.toNat < 256 := x.toNat_lt
  have hjoin : x.toNat * 16 / 64 * 64 + x.toNat * 16 % 64 = x.toNat * 16 := by omega
  simp only [readOne?, value?_symbol (show x.toNat * 16 / 64 < 64 by omega),
    value?_symbol (show x.toNat * 16 % 64 < 64 by omega), Option.bind_eq_bind, Option.bind_some,
    hjoin]
  rw [if_pos (by omega), Nat.mul_div_cancel _ (by decide), UInt8.ofNat_toNat]

theorem readTwo?_symbol (x y : UInt8) :
    let n := (x.toNat * 256 + y.toNat) * 4
    readTwo? (symbol (n / 4096)) (symbol (n / 64 % 64)) (symbol (n % 64)) = some [x, y] := by
  intro n
  have hx : x.toNat < 256 := x.toNat_lt
  have hy : y.toNat < 256 := y.toNat_lt
  have hjoin : (n / 4096 * 64 + n / 64 % 64) * 64 + n % 64 = n := by omega
  simp only [readTwo?, value?_symbol (show n / 4096 < 64 by omega),
    value?_symbol (show n / 64 % 64 < 64 by omega), value?_symbol (show n % 64 < 64 by omega),
    Option.bind_eq_bind, Option.bind_some, hjoin]
  rw [if_pos (by omega)]
  have hfirst : UInt8.ofNat (n / 1024) = x := UInt8.toNat_inj.mp (by simp; omega)
  have hsecond : UInt8.ofNat (n / 4) = y := UInt8.toNat_inj.mp (by simp; omega)
  rw [hfirst, hsecond]

theorem readThree?_symbol (x y z : UInt8) :
    let n := (x.toNat * 256 + y.toNat) * 256 + z.toNat
    readThree? (symbol (n / 262144)) (symbol (n / 4096 % 64)) (symbol (n / 64 % 64))
      (symbol (n % 64)) = some [x, y, z] := by
  intro n
  have hx : x.toNat < 256 := x.toNat_lt
  have hy : y.toNat < 256 := y.toNat_lt
  have hz : z.toNat < 256 := z.toNat_lt
  have hjoin : ((n / 262144 * 64 + n / 4096 % 64) * 64 + n / 64 % 64) * 64 + n % 64 = n := by omega
  simp only [readThree?, value?_symbol (show n / 262144 < 64 by omega),
    value?_symbol (show n / 4096 % 64 < 64 by omega),
    value?_symbol (show n / 64 % 64 < 64 by omega), value?_symbol (show n % 64 < 64 by omega),
    Option.bind_eq_bind, Option.bind_some, hjoin]
  have hfirst : UInt8.ofNat (n / 65536) = x := UInt8.toNat_inj.mp (by simp; omega)
  have hsecond : UInt8.ofNat (n / 256) = y := UInt8.toNat_inj.mp (by simp; omega)
  have hthird : UInt8.ofNat n = z := UInt8.toNat_inj.mp (by simp; omega)
  rw [hfirst, hsecond, hthird]

/-- A group with two pads that is read is the written form of its byte. -/
theorem encode_of_readOne? (h : readOne? a b = some bytes) : encode bytes = [a, b, '=', '='] := by
  simp only [readOne?, Option.bind_eq_bind, Option.bind_eq_some_iff] at h
  obtain ⟨x, hx, y, hy, hbytes⟩ := h
  obtain ⟨hx64, rfl⟩ := symbol_of_value? hx
  obtain ⟨hy64, rfl⟩ := symbol_of_value? hy
  split at hbytes
  · next hzero =>
    cases hbytes
    have hback : (UInt8.ofNat ((x * 64 + y) / 16)).toNat * 16 = x * 64 + y := by
      simp
      omega
    simp only [encode, hback]
    rw [show (x * 64 + y) / 64 = x by omega, show (x * 64 + y) % 64 = y by omega]
  · cases hbytes

theorem encode_of_readTwo? (h : readTwo? a b c = some bytes) : encode bytes = [a, b, c, '='] := by
  simp only [readTwo?, Option.bind_eq_bind, Option.bind_eq_some_iff] at h
  obtain ⟨x, hx, y, hy, z, hz, hbytes⟩ := h
  obtain ⟨hx64, rfl⟩ := symbol_of_value? hx
  obtain ⟨hy64, rfl⟩ := symbol_of_value? hy
  obtain ⟨hz64, rfl⟩ := symbol_of_value? hz
  split at hbytes
  · next hzero =>
    cases hbytes
    generalize hn : (x * 64 + y) * 64 + z = n at hzero
    have hback : ((UInt8.ofNat (n / 1024)).toNat * 256 + (UInt8.ofNat (n / 4)).toNat) * 4 = n := by
      simp
      omega
    simp only [encode, hback]
    rw [show n / 4096 = x by omega, show n / 64 % 64 = y by omega, show n % 64 = z by omega]
  · cases hbytes

/-- A full group that is read is the written form of its bytes, whatever follows. -/
theorem encode_of_readThree? (h : readThree? a b c d = some bytes) (rest : List UInt8) :
    encode (bytes ++ rest) = a :: b :: c :: d :: encode rest := by
  simp only [readThree?, Option.bind_eq_bind, Option.bind_eq_some_iff] at h
  obtain ⟨x, hx, y, hy, z, hz, w, hw, hbytes⟩ := h
  obtain ⟨hx64, rfl⟩ := symbol_of_value? hx
  obtain ⟨hy64, rfl⟩ := symbol_of_value? hy
  obtain ⟨hz64, rfl⟩ := symbol_of_value? hz
  obtain ⟨hw64, rfl⟩ := symbol_of_value? hw
  cases hbytes
  generalize hn : ((x * 64 + y) * 64 + z) * 64 + w = n
  have hback : ((UInt8.ofNat (n / 65536)).toNat * 256 + (UInt8.ofNat (n / 256)).toNat) * 256 +
      (UInt8.ofNat n).toNat = n := by
    simp
    omega
  simp only [List.cons_append, List.nil_append, encode, hback]
  rw [show n / 262144 = x by omega, show n / 4096 % 64 = y by omega,
    show n / 64 % 64 = z by omega, show n % 64 = w by omega]

/-! ## Texts -/

theorem decode?_encode (bytes : List UInt8) : decode? (encode bytes) = some bytes := by
  induction bytes using encode.induct with
  | case1 => rfl
  | case2 x => exact readOne?_symbol x
  | case3 x y =>
      have hpad : symbol ((x.toNat * 256 + y.toNat) * 4 % 64) ≠ '=' := symbol_ne_pad (by omega)
      rw [encode, decode?]
      · exact readTwo?_symbol x y
      · exact hpad
  | case4 x y z rest ih =>
      have hpad : symbol (((x.toNat * 256 + y.toNat) * 256 + z.toNat) % 64) ≠ '=' :=
        symbol_ne_pad (by omega)
      rw [encode, decode?]
      · simp only [readThree?_symbol x y z, ih]
        rfl
      · exact fun _ heq _ => hpad heq
      · exact fun heq _ => hpad heq

/-- Only the written form of some bytes is read. -/
theorem encode_of_decode? {cs : List Char} (h : decode? cs = some bytes) : encode bytes = cs := by
  induction cs using decode?.induct generalizing bytes with
  | case1 => cases h; rfl
  | case2 a b => exact encode_of_readOne? h
  | case3 a b c hc =>
      rw [decode?] at h
      · exact encode_of_readTwo? h
      · exact hc
  | case4 a b c d rest h1 h2 ih =>
      rw [decode?] at h
      · simp only [Option.bind_eq_bind, Option.bind_eq_some_iff] at h
        obtain ⟨group, hgroup, others, hothers, hbytes⟩ := h
        cases hbytes
        rw [encode_of_readThree? hgroup, ih hothers]
      · exact h1
      · exact h2
  | case5 cs hnil hone htwo hthree =>
      rw [decode?] at h
      · cases h
      · exact hnil
      · exact hone
      · exact htwo
      · exact hthree

theorem decode?_eq_some_iff {cs : List Char} : decode? cs = some bytes ↔ cs = encode bytes := by
  constructor
  · intro h
    exact (encode_of_decode? h).symm
  · intro h
    rw [h, decode?_encode]

theorem mem_encode (hc : c ∈ encode bytes) : c = '=' ∨ ∃ x < 64, c = symbol x := by
  induction bytes using encode.induct with
  | case1 => cases hc
  | case2 x =>
      have hx : x.toNat < 256 := x.toNat_lt
      simp only [encode, List.mem_cons, List.not_mem_nil, or_false] at hc
      rcases hc with hc | hc | hc | hc
      · exact .inr ⟨_, by omega, hc⟩
      · exact .inr ⟨_, by omega, hc⟩
      · exact .inl hc
      · exact .inl hc
  | case3 x y =>
      have hx : x.toNat < 256 := x.toNat_lt
      have hy : y.toNat < 256 := y.toNat_lt
      simp only [encode, List.mem_cons, List.not_mem_nil, or_false] at hc
      rcases hc with hc | hc | hc | hc
      · exact .inr ⟨_, by omega, hc⟩
      · exact .inr ⟨_, by omega, hc⟩
      · exact .inr ⟨_, by omega, hc⟩
      · exact .inl hc
  | case4 x y z rest ih =>
      have hx : x.toNat < 256 := x.toNat_lt
      have hy : y.toNat < 256 := y.toNat_lt
      have hz : z.toNat < 256 := z.toNat_lt
      simp only [encode, List.mem_cons] at hc
      rcases hc with hc | hc | hc | hc | hc
      · exact .inr ⟨_, by omega, hc⟩
      · exact .inr ⟨_, by omega, hc⟩
      · exact .inr ⟨_, by omega, hc⟩
      · exact .inr ⟨_, by omega, hc⟩
      · exact ih hc

theorem isBlank_of_mem_encode (hc : c ∈ encode bytes) : isBlank c = false := by
  rcases mem_encode hc with rfl | ⟨x, hx, rfl⟩
  · rfl
  · exact isBlank_symbol hx

end TunnelSession.Text.Base64
