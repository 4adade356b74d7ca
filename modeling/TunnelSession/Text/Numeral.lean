/-
  TunnelSession.Text.Numeral

  Numbers as texts: decimal and hexadecimal numerals read within a bound, and
  reals written with a fixed number of places.
-/

namespace TunnelSession.Text

/-! ## Reading -/

/-- The value of a digit in a radix up to 16. -/
def digitValue? (radix : Nat) (c : Char) : Option Nat :=
  let v :=
    if '0' ≤ c ∧ c ≤ '9' then some (c.toNat - '0'.toNat)
    else if 'a' ≤ c ∧ c ≤ 'f' then some (c.toNat - 'a'.toNat + 10)
    else if 'A' ≤ c ∧ c ≤ 'F' then some (c.toNat - 'A'.toNat + 10)
    else none
  v.filter (· < radix)

/-- Whether a character is a digit of the radix. -/
def isDigitOf (radix : Nat) (c : Char) : Bool :=
  (digitValue? radix c).isSome

/-- The value of a run of digits, the first the most significant. Characters
    that are no digits count as zero. -/
def valueOf (radix : Nat) (ds : List Char) : Nat :=
  ds.foldl (fun n c => n * radix + (digitValue? radix c).getD 0) 0

/-- The number that a non-empty run of digits denotes. -/
def readDigits? (radix : Nat) (ds : List Char) : Option Nat :=
  if ds ≠ [] ∧ ds.all (isDigitOf radix) then some (valueOf radix ds) else none

/-- A decimal number of at most `most`. Leading zeros and one plus sign are
    allowed, a minus sign is not. -/
def readBounded? (most : Nat) (s : String) : Option Nat :=
  let ds := match s.toList with
    | '+' :: rest => rest
    | cs => cs
  (readDigits? 10 ds).filter (· ≤ most)

/-! ## Size -/

/-- The least number that is too large for a double: half a step above the
    largest one. -/
def doubleLimit : Nat := Nat.pow 2 1024 - Nat.pow 2 970

/-- Whether a number, given as digits times a power of ten, has a finite double
    next to it. The count of its digits decides, except near the limit. -/
def fitsDouble (digits : Nat) (exponent : Int) : Bool :=
  let size : Int := (Nat.toDigits 10 digits).length + exponent
  if digits = 0 ∨ size ≤ 308 then true
  else if 309 < size then false
  else digits * Nat.pow 10 exponent.toNat < doubleLimit * Nat.pow 10 (-exponent).toNat

/-! ## Writing -/

/-- The decimal numeral of a number. -/
def decimal (n : Nat) : String :=
  String.ofList (Nat.toDigits 10 n)

/-- The decimal digits of `n`, filled with zeros on the left to `width`. -/
def padZeros (width n : Nat) : List Char :=
  let ds := Nat.toDigits 10 n
  List.replicate (width - ds.length) '0' ++ ds

/-- The quotient rounded to the nearest whole number, a half to the even one. -/
def roundHalfEven (num den : Nat) : Nat :=
  let q := num / den
  let r := num % den
  if 2 * r < den then q
  else if den < 2 * r then q + 1
  else q + q % 2

/-- A real as a fraction: its sign, numerator and denominator. -/
structure Fraction where
  negative : Bool
  num : Nat
  den : Nat

/-- The exact value of a finite double. -/
def Fraction.ofFloat? (x : Float) : Option Fraction :=
  let bits := x.toBits.toNat
  let hidden := 0x10000000000000
  let negative := bits / 0x8000000000000000 == 1
  let exponent := bits / hidden % 2048
  let field := bits % hidden
  if exponent = 2047 then none
  else
    let (m, e) := if exponent = 0 then (field, 1) else (field + hidden, exponent)
    if 1075 ≤ e then some ⟨negative, m * Nat.pow 2 (e - 1075), 1⟩
    else some ⟨negative, m, Nat.pow 2 (1075 - e)⟩

/-- A double with a fixed number of decimal places: its exact value rounded,
    a half to the even neighbour. -/
def fixedPlaces (places : Nat) (x : Float) : String :=
  match Fraction.ofFloat? x with
  | some f =>
    let one := Nat.pow 10 places
    let scaled := roundHalfEven (f.num * one) f.den
    let whole := Nat.toDigits 10 (scaled / one)
    let part := if places = 0 then [] else '.' :: padZeros places (scaled % one)
    String.ofList ((if f.negative then ['-'] else []) ++ whole ++ part)
  | none =>
    if x.isNaN then "NaN" else if x < 0 then "-inf" else "inf"

end TunnelSession.Text
