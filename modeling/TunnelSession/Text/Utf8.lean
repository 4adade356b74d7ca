/-
  TunnelSession.Text.Utf8

  Bytes and texts. Reading is strict or lossy: strict reading refuses a byte
  string that is not UTF-8, lossy reading puts U+FFFD in the place of every
  maximal run of bytes that begins a character and cannot be completed.
-/

namespace TunnelSession.Text

/-- The UTF-8 bytes of a text. -/
def toBytes (s : String) : List UInt8 :=
  s.toUTF8.data.toList

/-- The text with the given UTF-8 bytes, if there is one. -/
def ofBytes? (bytes : List UInt8) : Option String :=
  String.fromUTF8? ⟨bytes.toArray⟩

theorem ofBytes?_toBytes (s : String) : ofBytes? (toBytes s) = some s := by
  have h : (⟨(toBytes s).toArray⟩ : ByteArray) = s.toUTF8 := by
    simp [toBytes]
  rw [ofBytes?, h]
  exact dif_pos (show s.toUTF8.IsValidUTF8 from s.isValidUTF8)

/-! ## Lossy reading -/

/-- A character of which some bytes have been read: how many are owed, the
    bounds of the next one, and the value so far. -/
structure Pending where
  owed : Nat
  low : Nat := 0x80
  high : Nat := 0xBF
  value : Nat

/-- What a first byte begins: a character of one byte, a longer one, or
    nothing. -/
def Pending.ofFirst (b : Nat) : Option Pending :=
  if b < 0xC2 then none
  else if b < 0xE0 then some { owed := 1, value := b - 0xC0 }
  else if b = 0xE0 then some { owed := 2, low := 0xA0, value := 0 }
  else if b = 0xED then some { owed := 2, high := 0x9F, value := 0xD }
  else if b < 0xF0 then some { owed := 2, value := b - 0xE0 }
  else if b = 0xF0 then some { owed := 3, low := 0x90, value := 0 }
  else if b < 0xF4 then some { owed := 3, value := b - 0xF0 }
  else if b = 0xF4 then some { owed := 3, high := 0x8F, value := 4 }
  else none

/-- The mark that stands for bytes that are no character. -/
def replacement : Char := '\uFFFD'

/-- The state of lossy reading: the characters read, the latest first, and
    the character in progress. -/
structure LossyReader where
  read : List Char := []
  pending : Option Pending := none

/-- Reads a byte that begins a character. -/
def LossyReader.first (r : LossyReader) (b : Nat) : LossyReader :=
  if b < 0x80 then { read := Char.ofNat b :: r.read }
  else match Pending.ofFirst b with
    | some p => { read := r.read, pending := some p }
    | none => { read := replacement :: r.read }

/-- Reads one byte. A byte that does not continue the character in progress
    ends it as unreadable and is read again as a first byte. -/
def LossyReader.byte (r : LossyReader) (byte : UInt8) : LossyReader :=
  let b := byte.toNat
  match r.pending with
  | none => r.first b
  | some p =>
    if p.low ≤ b ∧ b ≤ p.high then
      let value := p.value * 64 + (b - 0x80)
      if p.owed = 1 then { read := Char.ofNat value :: r.read }
      else { read := r.read, pending := some { owed := p.owed - 1, value := value } }
    else
      { read := replacement :: r.read : LossyReader }.first b

/-- The text of a byte string, unreadable parts replaced. -/
def ofBytesLossy (bytes : List UInt8) : String :=
  let r := bytes.foldl LossyReader.byte {}
  let out := if r.pending.isSome then replacement :: r.read else r.read
  String.ofList out.reverse

end TunnelSession.Text
