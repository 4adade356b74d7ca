/-
  TunnelSession.Key.Basic

  The keys of a tunnel as they travel through settings, catalogs and frames:
  32 bytes written in base64. A private key never shows itself.
-/
import TunnelSession.Key.Curve
import TunnelSession.Text.Base64
import TunnelSession.Text.Blank

namespace TunnelSession.Key

/-- The 32 bytes of a key. -/
structure KeyBytes where
  bytes : List UInt8
  length_eq : bytes.length = 32
  deriving DecidableEq

/-- Why a text is no key. -/
inductive KeyError
  | invalidBase64
  | invalidLength
  deriving DecidableEq, Repr

def KeyError.message : KeyError → String
  | .invalidBase64 => "Invalid base64 encoding"
  | .invalidLength => "Invalid key length (expected 32 bytes)"

/-- Reads a key. Blanks around the text do not count; between them stands the
    canonical base64 form of exactly 32 bytes. -/
def KeyBytes.read (s : String) : Except KeyError KeyBytes :=
  match Text.Base64.decode? (Text.trim s.toList) with
  | none => .error .invalidBase64
  | some bytes =>
    if h : bytes.length = 32 then .ok ⟨bytes, h⟩ else .error .invalidLength

/-- The base64 form of a key. -/
def KeyBytes.base64 (k : KeyBytes) : String :=
  String.ofList (Text.Base64.encode k.bytes)

/-- The first eight characters of a key's text, enough to tell keys apart in a
    message. -/
def short (text : String) : String :=
  String.ofList (text.toList.take 8)

/-! ## Public keys -/

/-- The key of a peer. -/
structure PublicKey where
  key : KeyBytes
  deriving DecidableEq

def PublicKey.read (s : String) : Except KeyError PublicKey :=
  (KeyBytes.read s).map PublicKey.mk

def PublicKey.base64 (k : PublicKey) : String := k.key.base64

/-- Whether two keys are the same point. Different bytes can name one point:
    the highest bit does not count, and neither do multiples of the prime. -/
def PublicKey.samePoint (a b : PublicKey) : Bool :=
  Curve.element a.key.bytes == Curve.element b.key.bytes

/-- A public key as a message shows it. -/
def PublicKey.shown (k : PublicKey) : String :=
  s!"PublicKey({short k.base64}...)"

/-! ## Private keys -/

/-- The key of this device. The bytes are kept as they were given; clamping is
    a part of the multiplication. -/
structure PrivateKey where
  key : KeyBytes
  deriving DecidableEq

def PrivateKey.read (s : String) : Except KeyError PrivateKey :=
  (KeyBytes.read s).map PrivateKey.mk

def PrivateKey.base64 (k : PrivateKey) : String := k.key.base64

theorem Curve.length_toBytes (count n : Nat) : (Curve.toBytes count n).length = count := by
  induction count generalizing n with
  | zero => rfl
  | succ count ih => simp [Curve.toBytes, ih]

/-- The public key that belongs to a private key. -/
def PrivateKey.publicKey (k : PrivateKey) : PublicKey :=
  ⟨Curve.publicOf k.key.bytes, Curve.length_toBytes 32 _⟩

/-- A private key as a message shows it. -/
def PrivateKey.shown (_ : PrivateKey) : String :=
  "PrivateKey([redacted])"

/-- A key pair as a message shows it, by its public half alone. -/
def PrivateKey.shownPair (k : PrivateKey) : String :=
  "KeyPair \x7b public: " ++ k.publicKey.shown ++ " \x7d"

end TunnelSession.Key
