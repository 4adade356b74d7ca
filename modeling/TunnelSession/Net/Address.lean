/-
  TunnelSession.Net.Address

  Internet addresses of both families and their texts. Reading accepts the
  dotted and the colon forms without a zone; writing gives the shortest colon
  form, in which the first longest run of zero groups is left out.
-/
import TunnelSession.Text.Numeral

namespace TunnelSession.Net

/-- An address of one of the two families. -/
inductive Address
  | v4 (bits : BitVec 32)
  | v6 (bits : BitVec 128)
  deriving DecidableEq

namespace Address

/-- The number of bits of an address of its family. -/
def width : Address → Nat
  | v4 _ => 32
  | v6 _ => 128

/-- The address as a number. -/
def toNat : Address → Nat
  | v4 b => b.toNat
  | v6 b => b.toNat

def isV6 : Address → Bool
  | v4 _ => false
  | v6 _ => true

/-! ## Reading -/

/-- Reads a number at the start of a text: all digits there, at most `most` of
    them, without a leading zero unless `zeros` allows one. -/
def readNumber (radix most : Nat) (zeros : Bool) (cs : List Char) :
    Option (Nat × List Char) :=
  let ds := cs.takeWhile (Text.isDigitOf radix)
  if ds.isEmpty || most < ds.length || (!zeros && 1 < ds.length && ds.head? == some '0') then none
  else some (Text.valueOf radix ds, cs.drop ds.length)

/-- Reads a number below 256 in decimal. -/
def readOctet (cs : List Char) : Option (Nat × List Char) :=
  (readNumber 10 3 false cs).filter (·.1 < 256)

/-- Reads the given character. -/
def expect (c : Char) : List Char → Option (List Char)
  | d :: rest => if d = c then some rest else none
  | [] => none

/-- Reads four octets with dots between them. -/
def readV4 (cs : List Char) : Option (BitVec 32 × List Char) := do
  let (a, cs) ← readOctet cs
  let cs ← expect '.' cs
  let (b, cs) ← readOctet cs
  let cs ← expect '.' cs
  let (c, cs) ← readOctet cs
  let cs ← expect '.' cs
  let (d, cs) ← readOctet cs
  some (BitVec.ofNat 32 (((a * 256 + b) * 256 + c) * 256 + d), cs)

/-- Groups of 16 bits read from a text, and whether the last two stood in the
    dotted form. -/
structure Groups where
  groups : List Nat
  dotted : Bool
  rest : List Char

/-- Reads up to the given number of groups, with colons between them. Two
    groups may stand in the dotted form, which ends the reading. -/
def readGroups (first : Bool) : Nat → List Char → Groups
  | 0, cs => ⟨[], false, cs⟩
  | left + 1, cs =>
    match (if first then some cs else expect ':' cs) with
    | none => ⟨[], false, cs⟩
    | some body =>
      match (if left = 0 then none else readV4 body) with
      | some (a, rest) => ⟨[a.toNat / 65536, a.toNat % 65536], true, rest⟩
      | none =>
        match readNumber 16 4 true body with
        | none => ⟨[], false, cs⟩
        | some (g, rest) =>
          let more := readGroups false left rest
          ⟨g :: more.groups, more.dotted, more.rest⟩

/-- The number with the given groups of 16 bits. -/
def ofGroups (groups : List Nat) : BitVec 128 :=
  BitVec.ofNat 128 (groups.foldl (fun n g => n * 65536 + g) 0)

/-- Reads eight groups, or fewer around one double colon that stands for at
    least one zero group. -/
def readV6 (cs : List Char) : Option (BitVec 128 × List Char) :=
  let head := readGroups true 8 cs
  if head.groups.length = 8 then some (ofGroups head.groups, head.rest)
  else if head.dotted then none
  else do
    let rest ← expect ':' head.rest
    let rest ← expect ':' rest
    let tail := readGroups true (7 - head.groups.length) rest
    let zeros := List.replicate (8 - head.groups.length - tail.groups.length) 0
    some (ofGroups (head.groups ++ zeros ++ tail.groups), tail.rest)

/-- The IPv4 address that is the whole text. -/
def readV4? (s : String) : Option (BitVec 32) :=
  match readV4 s.toList with
  | some (a, []) => some a
  | _ => none

/-- The IPv6 address that is the whole text. -/
def readV6? (s : String) : Option (BitVec 128) :=
  match readV6 s.toList with
  | some (a, []) => some a
  | _ => none

/-- The address of either family that is the whole text. -/
def read? (s : String) : Option Address :=
  match readV4? s with
  | some a => some (v4 a)
  | none => (readV6? s).map v6

/-! ## Writing -/

/-- Four decimal octets with dots between them. -/
def showV4 (a : BitVec 32) : String :=
  let n := a.toNat
  ".".intercalate
    [Text.decimal (n / 16777216), Text.decimal (n / 65536 % 256), Text.decimal (n / 256 % 256),
      Text.decimal (n % 256)]

/-- The eight groups of an address, the highest first. -/
def groupsOf (a : BitVec 128) : List Nat :=
  [7, 6, 5, 4, 3, 2, 1, 0].map (fun i => a.toNat >>> (16 * i) % 65536)

/-- A run of groups: where it starts and how many it holds. -/
structure Run where
  start : Nat
  size : Nat

/-- The longest run of zero groups, the first of those equally long, given the
    run in progress and the longest so far. -/
def longestZeros (current best : Run) (at_ : Nat) : List Nat → Run
  | [] => best
  | g :: rest =>
    if g = 0 then
      let current := if current.size = 0 then ⟨at_, 1⟩ else ⟨current.start, current.size + 1⟩
      longestZeros current (if best.size < current.size then current else best) (at_ + 1) rest
    else longestZeros ⟨0, 0⟩ best (at_ + 1) rest

/-- Groups in hexadecimal with colons between them. -/
def showGroups (groups : List Nat) : String :=
  ":".intercalate (groups.map (fun g => String.ofList (Nat.toDigits 16 g)))

/-- The text of an IPv6 address. An address whose upper 96 bits are those of a
    mapped IPv4 address shows the rest in the dotted form; otherwise a double
    colon stands for the longest run of at least two zero groups. -/
def showV6 (a : BitVec 128) : String :=
  if a.toNat >>> 32 = 0xFFFF then
    "::ffff:" ++ showV4 (BitVec.ofNat 32 a.toNat)
  else
    let groups := groupsOf a
    let zeros := longestZeros ⟨0, 0⟩ ⟨0, 0⟩ 0 groups
    if 1 < zeros.size then
      showGroups (groups.take zeros.start) ++ "::" ++
        showGroups (groups.drop (zeros.start + zeros.size))
    else showGroups groups

/-- The text of an address. -/
def text : Address → String
  | v4 a => showV4 a
  | v6 a => showV6 a

/-- The text of an address with a port; colon forms stand in brackets. -/
def withPort (a : Address) (port : Nat) : String :=
  match a with
  | v4 b => s!"{showV4 b}:{port}"
  | v6 b => s!"[{showV6 b}]:{port}"

end Address

end TunnelSession.Net
