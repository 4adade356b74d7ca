/-
  TunnelSession.Net.Cidr

  Ranges of addresses that share their first bits, in the notation
  address/length. The bits after the shared ones may be set; they do not
  matter to what the range contains, but they are kept.
-/
import TunnelSession.Net.Address
import TunnelSession.Text.Blank

namespace TunnelSession.Net

/-- An address and the number of its bits that a member shares. -/
structure Cidr where
  address : Address
  length : Nat
  length_le : length ≤ address.width
  deriving DecidableEq

/-- Why a text or a pair is no range. -/
inductive CidrError
  | invalidAddress (text : String)
  | invalidLength (address : Address) (length : Nat)
  deriving DecidableEq

namespace Cidr

/-- The range of an address and a length, which the family bounds. -/
def make (address : Address) (length : Nat) : Except CidrError Cidr :=
  if h : length ≤ address.width then .ok ⟨address, length, h⟩
  else .error (.invalidLength address length)

/-- The range that holds one address. -/
def host (address : Address) : Cidr :=
  ⟨address, address.width, Nat.le_refl _⟩

def isV6 (r : Cidr) : Bool := r.address.isV6

/-- The number of bits that members may differ in. -/
def hostBits (r : Cidr) : Nat := r.address.width - r.length

/-- Whether an address is of the range's family and shares its first bits. -/
def contains (r : Cidr) (a : Address) : Bool :=
  r.address.isV6 == a.isV6 && r.address.toNat >>> r.hostBits == a.toNat >>> r.hostBits

/-! ## Text -/

/-- The notation address/length. -/
def text (r : Cidr) : String :=
  s!"{r.address.text}/{Text.decimal r.length}"

/-- Reads the notation. Blanks around the text do not count, and an address
    alone is the range that holds just it. -/
def read (s : String) : Except CidrError Cidr :=
  let s := Text.trimmed s
  let cs := s.toList
  if '/' ∈ cs then
    let address := cs.takeWhile (· != '/')
    let length := cs.drop (address.length + 1)
    match Address.read? (String.ofList address), Text.readBounded? 255 (String.ofList length) with
    | some a, some n => make a n
    | _, _ => .error (.invalidAddress s)
  else match Address.read? s with
    | some a => .ok (host a)
    | none => .error (.invalidAddress s)

end Cidr

end TunnelSession.Net
