/-
  TunnelSession.Json.Reader

  Reads a JSON text. The reader is strict about the grammar and lenient about
  what only a user of the value can judge: repeated members, numbers of any
  size, and escapes that name half a character.
-/
import TunnelSession.Json.Basic

namespace TunnelSession.Json

/-- Drops the white space that may stand between tokens. -/
def skipSpace (cs : List Char) : List Char :=
  cs.dropWhile (fun c => c == ' ' || c == '\n' || c == '\t' || c == '\r')

/-! ## Texts -/

/-- The character of a short escape. -/
def shortEscape? : Char → Option Char
  | '"' => some '"'
  | '\\' => some '\\'
  | '/' => some '/'
  | 'b' => some '\x08'
  | 'f' => some '\x0C'
  | 'n' => some '\n'
  | 'r' => some '\r'
  | 't' => some '\t'
  | _ => none

/-- The code unit written in four hexadecimal digits. -/
def unit? (a b c d : Char) : Option Nat :=
  Text.readDigits? 16 [a, b, c, d]

/-- The first code unit of a pair. -/
def isHighUnit (n : Nat) : Bool := 0xD800 ≤ n && n < 0xDC00

/-- The second code unit of a pair. -/
def isLowUnit (n : Nat) : Bool := 0xDC00 ≤ n && n < 0xE000

/-- The character of a pair of code units. -/
def pairChar (high low : Nat) : Char :=
  Char.ofNat (0x10000 + (high - 0xD800) * 0x400 + (low - 0xDC00))

/-- A text in progress: its characters, the latest first, whether all escapes so
    far named characters, and a first code unit that waits for its second. -/
structure PartText where
  soFar : List Char := []
  whole : Bool := true
  high : Option Nat := none

/-- Appends a character. -/
def PartText.char (p : PartText) (c : Char) : PartText :=
  { soFar := c :: p.soFar, whole := p.whole && p.high.isNone }

/-- Appends a code unit. -/
def PartText.unit (p : PartText) (n : Nat) : PartText :=
  if isHighUnit n then { p with whole := p.whole && p.high.isNone, high := some n }
  else if isLowUnit n then
    match p.high with
    | some h => { soFar := pairChar h n :: p.soFar, whole := p.whole }
    | none => { p with whole := false }
  else p.char (Char.ofNat n)

/-- The text, if every escape in it named a character. -/
def PartText.finish (p : PartText) : Option String :=
  if p.whole && p.high.isNone then some (String.ofList p.soFar.reverse) else none

/-- Reads a text after its opening quote. -/
def readText (p : PartText) : List Char → Option (Option String × List Char)
  | '"' :: rest => some (p.finish, rest)
  | '\\' :: 'u' :: a :: b :: c :: d :: rest =>
    match unit? a b c d with
    | some n => readText (p.unit n) rest
    | none => none
  | '\\' :: e :: rest =>
    match shortEscape? e with
    | some c => readText (p.char c) rest
    | none => none
  | c :: rest => if c.toNat < 0x20 then none else readText (p.char c) rest
  | [] => none

/-! ## Numbers -/

/-- The digits at the start of a text, and what follows them. -/
def digitsOf (cs : List Char) : List Char × List Char :=
  (cs.takeWhile Char.isDigit, cs.dropWhile Char.isDigit)

/-- Reads the exponent of a number, if one is there. -/
def readExponent : List Char → Option (Option Int × List Char)
  | 'e' :: cs | 'E' :: cs =>
    let (negative, cs) := match cs with
      | '-' :: cs => (true, cs)
      | '+' :: cs => (false, cs)
      | cs => (false, cs)
    let (ds, rest) := digitsOf cs
    if ds.isEmpty then none
    else
      let n : Int := Text.valueOf 10 ds
      some (some (if negative then -n else n), rest)
  | cs => some (none, cs)

/-- Reads the decimal places of a number, if there are any. -/
def readPlaces : List Char → Option (List Char × List Char)
  | '.' :: cs =>
    let (ds, rest) := digitsOf cs
    if ds.isEmpty then none else some (ds, rest)
  | cs => some ([], cs)

/-- Reads a number. -/
def readNumber (cs : List Char) : Option (Number × List Char) := do
  let (negative, cs) := match cs with
    | '-' :: cs => (true, cs)
    | cs => (false, cs)
  let (whole, cs) := digitsOf cs
  if whole.isEmpty || (1 < whole.length && whole.head? == some '0') then none
  else
    let (places, cs) ← readPlaces cs
    let (exponent, cs) ← readExponent cs
    if places.isEmpty && exponent.isNone then
      some (.integer negative (Text.valueOf 10 whole), cs)
    else
      some (.scaled negative (Text.valueOf 10 (whole ++ places))
        (exponent.getD 0 - places.length), cs)

/-! ## Values -/

/-- The value of a text, which may be unreadable. -/
def ofText : Option String → Json
  | some s => .text s
  | none => .unreadable

/-- The object of members, which is unreadable if one of the names is. -/
def ofMembers (members : List (Option String × Json)) : Json :=
  match members.mapM (fun m => m.1.map (fun k => (k, m.2))) with
  | some members => .object members
  | none => .unreadable

mutual

/-- Reads a value at the start of a text. The fuel bounds the steps. -/
def readValue : Nat → List Char → Option (Json × List Char)
  | 0, _ => none
  | fuel + 1, cs =>
    match skipSpace cs with
    | '\x7b' :: rest =>
      match skipSpace rest with
      | '\x7d' :: rest => some (.object [], rest)
      | rest => (readMembers fuel rest).map (fun r => (ofMembers r.1, r.2))
    | '[' :: rest =>
      match skipSpace rest with
      | ']' :: rest => some (.list [], rest)
      | rest => (readItems fuel rest).map (fun r => (.list r.1, r.2))
    | '"' :: rest => (readText {} rest).map (fun r => (ofText r.1, r.2))
    | 't' :: 'r' :: 'u' :: 'e' :: rest => some (.bool true, rest)
    | 'f' :: 'a' :: 'l' :: 's' :: 'e' :: rest => some (.bool false, rest)
    | 'n' :: 'u' :: 'l' :: 'l' :: rest => some (.null, rest)
    | rest => (readNumber rest).map (fun r => (.number r.1, r.2))

/-- Reads the items of a list that is not empty, and its end. -/
def readItems : Nat → List Char → Option (List Json × List Char)
  | 0, _ => none
  | fuel + 1, cs => do
    let (v, cs) ← readValue fuel cs
    match skipSpace cs with
    | ',' :: cs =>
      let (vs, cs) ← readItems fuel cs
      some (v :: vs, cs)
    | ']' :: cs => some ([v], cs)
    | _ => none

/-- Reads the members of an object that is not empty, and its end. -/
def readMembers : Nat → List Char → Option (List (Option String × Json) × List Char)
  | 0, _ => none
  | fuel + 1, cs =>
    match skipSpace cs with
    | '"' :: cs => do
      let (k, cs) ← readText {} cs
      match skipSpace cs with
      | ':' :: cs =>
        let (v, cs) ← readValue fuel cs
        match skipSpace cs with
        | ',' :: cs =>
          let (ms, cs) ← readMembers fuel cs
          some ((k, v) :: ms, cs)
        | '\x7d' :: cs => some ([(k, v)], cs)
        | _ => none
      | _ => none
    | _ => none

end

/-- The value that a text holds, with nothing but space around it. A step takes
    at least one character for every two units of fuel. -/
def read? (s : String) : Option Json :=
  match readValue (2 * s.length + 2) s.toList with
  | some (v, rest) => if (skipSpace rest).isEmpty then some v else none
  | none => none

/-- The self-contained value that a text holds: the last of repeated members
    counts, and all of it must be usable. -/
def readSettled? (s : String) : Option Json :=
  (read? s).bind (settle maxDepth)

end TunnelSession.Json
