/-
  TunnelSession.Json.Writer

  Writes a JSON value on one line, without spaces. Only quotes, backslashes and
  control characters are escaped.
-/
import TunnelSession.Json.Basic

namespace TunnelSession.Json

/-- A character inside a text. -/
def escapeChar (c : Char) : List Char :=
  match c with
  | '"' => ['\\', '"']
  | '\\' => ['\\', '\\']
  | '\x08' => ['\\', 'b']
  | '\x0C' => ['\\', 'f']
  | '\n' => ['\\', 'n']
  | '\r' => ['\\', 'r']
  | '\t' => ['\\', 't']
  | c =>
    if c.toNat < 0x20 then
      ['\\', 'u', '0', '0', Nat.digitChar (c.toNat / 16), Nat.digitChar (c.toNat % 16)]
    else [c]

/-- A text between quotes. -/
def writeText (s : String) : List Char :=
  '"' :: s.toList.flatMap escapeChar ++ ['"']

/-- A number. -/
def writeNumber : Number → List Char
  | .integer negative n => (if negative then ['-'] else []) ++ Nat.toDigits 10 n
  | .scaled negative digits exponent =>
    (if negative then ['-'] else []) ++ Nat.toDigits 10 digits ++ 'e' ::
      (if exponent < 0 then ['-'] else []) ++ Nat.toDigits 10 exponent.natAbs

mutual

/-- A value. One that cannot be used is written as null. -/
def writeValue : Json → List Char
  | .null | .unreadable => ['n', 'u', 'l', 'l']
  | .bool true => ['t', 'r', 'u', 'e']
  | .bool false => ['f', 'a', 'l', 's', 'e']
  | .number n => writeNumber n
  | .text s => writeText s
  | .list [] => ['[', ']']
  | .list (v :: rest) => '[' :: writeValue v ++ writeItems rest
  | .object [] => ['\x7b', '\x7d']
  | .object ((k, v) :: rest) => '\x7b' :: writeText k ++ ':' :: writeValue v ++ writeMembers rest

/-- The items after the first, and the end of the list. -/
def writeItems : List Json → List Char
  | [] => [']']
  | v :: rest => ',' :: writeValue v ++ writeItems rest

/-- The members after the first, and the end of the object. -/
def writeMembers : List (String × Json) → List Char
  | [] => ['\x7d']
  | (k, v) :: rest => ',' :: writeText k ++ ':' :: writeValue v ++ writeMembers rest

end

/-- The text of a value. -/
def write (v : Json) : String :=
  String.ofList (writeValue v)

end TunnelSession.Json
