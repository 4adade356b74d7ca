/-
  TunnelSession.Text.Base64

  Base64 with the standard alphabet in its one canonical form: padded to a
  multiple of four characters, and with zero bits where the padding begins.
-/

namespace TunnelSession.Text.Base64

/-! ## Symbols -/

/-- The character for a value below 64. -/
def symbol (v : Nat) : Char :=
  if v < 26 then Char.ofNat (v + 'A'.toNat)
  else if v < 52 then Char.ofNat (v - 26 + 'a'.toNat)
  else if v < 62 then Char.ofNat (v - 52 + '0'.toNat)
  else if v = 62 then '+'
  else '/'

/-- The value of a character of the alphabet. -/
def value? (c : Char) : Option Nat :=
  if 'A' ≤ c ∧ c ≤ 'Z' then some (c.toNat - 'A'.toNat)
  else if 'a' ≤ c ∧ c ≤ 'z' then some (c.toNat - 'a'.toNat + 26)
  else if '0' ≤ c ∧ c ≤ '9' then some (c.toNat - '0'.toNat + 52)
  else if c = '+' then some 62
  else if c = '/' then some 63
  else none

/-! ## Groups -/

/-- Three bytes are four characters; one or two bytes at the end are padded. -/
def encode : List UInt8 → List Char
  | [] => []
  | [a] =>
    let n := a.toNat * 16
    [symbol (n / 64), symbol (n % 64), '=', '=']
  | [a, b] =>
    let n := (a.toNat * 256 + b.toNat) * 4
    [symbol (n / 4096), symbol (n / 64 % 64), symbol (n % 64), '=']
  | a :: b :: c :: rest =>
    let n := (a.toNat * 256 + b.toNat) * 256 + c.toNat
    symbol (n / 262144) :: symbol (n / 4096 % 64) :: symbol (n / 64 % 64) :: symbol (n % 64) ::
      encode rest

/-- The bytes of a group that ends in two pads. -/
def readOne? (a b : Char) : Option (List UInt8) := do
  let n := (← value? a) * 64 + (← value? b)
  if n % 16 = 0 then some [UInt8.ofNat (n / 16)] else none

/-- The bytes of a group that ends in one pad. -/
def readTwo? (a b c : Char) : Option (List UInt8) := do
  let n := ((← value? a) * 64 + (← value? b)) * 64 + (← value? c)
  if n % 4 = 0 then some [UInt8.ofNat (n / 1024), UInt8.ofNat (n / 4)] else none

/-- The bytes of a group without a pad. -/
def readThree? (a b c d : Char) : Option (List UInt8) := do
  let n := (((← value? a) * 64 + (← value? b)) * 64 + (← value? c)) * 64 + (← value? d)
  some [UInt8.ofNat (n / 65536), UInt8.ofNat (n / 256), UInt8.ofNat n]

/-- The bytes that a text encodes, if it is the canonical form of some. -/
def decode? : List Char → Option (List UInt8)
  | [] => some []
  | [a, b, '=', '='] => readOne? a b
  | [a, b, c, '='] => readTwo? a b c
  | a :: b :: c :: d :: rest => do
    let group ← readThree? a b c d
    let others ← decode? rest
    some (group ++ others)
  | _ => none

end TunnelSession.Text.Base64
