/-
  TunnelSession.Net.Carve

  The ranges that go through a tunnel: everything but the local networks,
  multicast and what the user excludes. Holes are cut out of the interval of
  all addresses of a family, and what remains is split into aligned ranges.
  The gateway lies inside a local network, so its own route is added in front.
-/
import TunnelSession.Net.Cidr

namespace TunnelSession.Net

/-! ## Intervals -/

/-- The numbers from `first` to `last`, both included. -/
structure Span where
  first : Nat
  last : Nat
  deriving DecidableEq, Repr

/-- The addresses of a range as numbers. -/
def Cidr.span (r : Cidr) : Span :=
  let size := Nat.pow 2 r.hostBits
  let first := r.address.toNat / size * size
  ⟨first, first + (size - 1)⟩

/-- What is left of an interval without a hole. -/
def Span.without (s hole : Span) : List Span :=
  if hole.last < s.first ∨ s.last < hole.first then [s]
  else
    (if s.first < hole.first then [⟨s.first, hole.first - 1⟩] else []) ++
      (if hole.last < s.last then [⟨hole.last + 1, s.last⟩] else [])

/-- The intervals left when the holes are cut out one after another. -/
def cut (spans holes : List Span) : List Span :=
  holes.foldl (fun left hole => left.flatMap (·.without hole)) spans

/-! ## Aligned blocks -/

/-- The largest `k` up to the bound such that the block of `2 ^ k` numbers from
    `first` on is aligned and ends at `last` or before. -/
def blockBits (first last : Nat) : Nat → Nat
  | 0 => 0
  | k + 1 =>
    if Nat.pow 2 (k + 1) ∣ first ∧ first + Nat.pow 2 (k + 1) ≤ last + 1 then k + 1
    else blockBits first last k

/-- The size, in bits, of the largest aligned block at the start of an interval. -/
def Span.headBits (bits : Nat) (s : Span) : Nat :=
  blockBits s.first s.last bits

/-- The aligned blocks of an interval in ascending order, each as large as it
    can be: where it starts and the number of bits in which its members differ. -/
def Span.blocks (bits : Nat) (s : Span) : List (Nat × Nat) :=
  if s.first + Nat.pow 2 (s.headBits bits) ≤ s.last then
    (s.first, s.headBits bits) :: blocks bits ⟨s.first + Nat.pow 2 (s.headBits bits), s.last⟩
  else [(s.first, s.headBits bits)]
  termination_by s.last + 1 - s.first
  decreasing_by
    have : 0 < Nat.pow 2 (s.headBits bits) := Nat.two_pow_pos (s.headBits bits)
    omega

/-! ## Families -/

/-- The two address families. -/
inductive Family
  | v4
  | v6
  deriving DecidableEq, Repr

def Family.width : Family → Nat
  | .v4 => 32
  | .v6 => 128

/-- The address of a family with the given number. -/
def Family.address : Family → Nat → Address
  | .v4, n => .v4 (BitVec.ofNat 32 n)
  | .v6, n => .v6 (BitVec.ofNat 128 n)

def Address.family : Address → Family
  | .v4 _ => .v4
  | .v6 _ => .v6

theorem Family.width_address (f : Family) (n : Nat) : (f.address n).width = f.width := by
  cases f <;> rfl

/-- The range of a block: its first number and the bits in which members
    differ. -/
def Family.block (f : Family) (b : Nat × Nat) : Cidr :=
  ⟨f.address b.1, f.width - b.2, by rw [f.width_address]; exact Nat.sub_le _ _⟩

/-- The local networks and the multicast block of a family, which no tunnel
    carries. -/
def Family.localBlocks : Family → List Cidr
  | .v4 => [
      ⟨.v4 0x0A000000#32, 8, by decide⟩,
      ⟨.v4 0xAC100000#32, 12, by decide⟩,
      ⟨.v4 0xC0A80000#32, 16, by decide⟩,
      ⟨.v4 0xE0000000#32, 4, by decide⟩]
  | .v6 => [
      ⟨.v6 0xFC000000000000000000000000000000#128, 7, by decide⟩,
      ⟨.v6 0xFF000000000000000000000000000000#128, 8, by decide⟩]

/-- The ranges of a family that are neither local nor excluded, in ascending
    order. -/
def Family.routed (f : Family) (excluded : List Cidr) : List Cidr :=
  let holes := (f.localBlocks ++ excluded).filter (fun r => r.address.family == f)
  let spans := cut [⟨0, Nat.pow 2 f.width - 1⟩] (holes.map Cidr.span)
  (spans.flatMap (·.blocks f.width)).map f.block

/-! ## Routes of a tunnel -/

/-- The ranges routed through a tunnel: the gateways' own routes, then the
    routed ranges of IPv4, then those of IPv6 if there is an IPv6 gateway. -/
def allowedRanges (gateway4 : BitVec 32) (gateway6 : Option (BitVec 128))
    (excluded : List Cidr) : List Cidr :=
  let hosts := .host (.v4 gateway4) :: (gateway6.toList.map (fun g => .host (.v6 g)))
  hosts ++ Family.v4.routed excluded ++
    (if gateway6.isSome then Family.v6.routed excluded else [])

end TunnelSession.Net
