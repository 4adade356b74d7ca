/-
  TunnelSession.Toml.Writer

  Writes a table as a TOML document. A text takes the plainest of the quoting
  forms that can hold it; a list of two items or more has a line for each.
-/
import TunnelSession.Text.Numeral
import TunnelSession.Toml.Basic

namespace TunnelSession.Toml

/-! ## Texts -/

/-- The length of the longest run of a character. -/
def longestRun (c : Char) (cs : List Char) : Nat :=
  (cs.foldl (fun (run, best) d =>
    if d == c then (run + 1, max best (run + 1)) else (0, best)) (0, 0)).2

/-- Whether a character can be written only by an escape: a control character
    other than tab and line feed. -/
def needsEscape (c : Char) : Bool :=
  (c.toNat < 0x20 && c != '\t' && c != '\n') || c.toNat == 0x7F

/-- The four quoting forms. -/
inductive Quoting
  | basic
  | literal
  | longBasic
  | longLiteral
  deriving DecidableEq, Repr

/-- The plainest form for a text: one without escapes if there is any, and on one
    line if it can be. -/
def quotingFor (cs : List Char) : Quoting :=
  let escapes := cs.any needsEscape
  let backslash := cs.contains '\\'
  let lines := cs.contains '\n'
  let double := longestRun '"' cs
  let single := longestRun '\'' cs
  if !escapes && !backslash && double = 0 && !lines then .basic
  else if !escapes && single = 0 && !lines then .literal
  else if !escapes && !backslash && double ≤ 2 then .longBasic
  else if !escapes && single ≤ 2 then .longLiteral
  else if lines then .longBasic
  else .basic

/-- A character by its number. -/
def numbered (c : Char) : List Char :=
  let digit (n : Nat) : Char := (Nat.digitChar n).toUpper
  ['\\', 'u', '0', '0', digit (c.toNat / 16), digit (c.toNat % 16)]

/-- A character other than a quote, in a text in double quotes. -/
def escapeChar (long : Bool) (c : Char) : List Char :=
  match c with
  | '\x08' => ['\\', 'b']
  | '\t' => ['\\', 't']
  | '\n' => if long then ['\n'] else ['\\', 'n']
  | '\x0C' => ['\\', 'f']
  | '\r' => ['\\', 'r']
  | '\\' => ['\\', '\\']
  | c => if needsEscape c then numbered c else [c]

/-- The characters of a text in double quotes. `run` quotes stand directly before,
    of which up to `most` may follow one another. -/
def escape (long : Bool) (most run : Nat) : List Char → List Char
  | [] => []
  | c :: rest =>
    if c = '"' then
      if run < most then '"' :: escape long most (run + 1) rest
      else '\\' :: '"' :: escape long most 0 rest
    else escapeChar long c ++ escape long most 0 rest

/-- A text in a form of its own. A text of several lines starts on the line after
    its quotes. -/
def writeText (s : String) : List Char :=
  let cs := s.toList
  let start := if cs.contains '\n' then ['\n'] else []
  match quotingFor cs with
  | .basic => '"' :: escape false 0 0 cs ++ ['"']
  | .literal => '\'' :: cs ++ ['\'']
  | .longBasic => ['"', '"', '"'] ++ start ++ escape true 2 0 cs ++ ['"', '"', '"']
  | .longLiteral => ['\'', '\'', '\''] ++ start ++ cs ++ ['\'', '\'', '\'']

/-! ## Values -/

/-- A whole number. -/
def writeInteger (n : Int) : List Char :=
  (if n < 0 then ['-'] else []) ++ Nat.toDigits 10 n.natAbs

/-- A value that holds no others. -/
def writeSingle : Toml → List Char
  | .text s => writeText s
  | .integer n => writeInteger n
  | .bool b => (if b then "true" else "false").toList
  | _ => []

/-- A value that has a line of its own, or lines for the items of a list. -/
def writeValue : Toml → List Char
  | .list items =>
    let written := items.map writeSingle
    if items.length < 2 then '[' :: written.flatten ++ [']']
    else '[' :: '\n' ::
      written.flatMap (fun w => [' ', ' ', ' ', ' '] ++ w ++ [',', '\n']) ++ [']']
  | v => writeSingle v

/-! ## Entries -/

/-- The line of an entry that is no table. -/
def writeEntry (e : String × Toml) : List Char :=
  match e.2 with
  | .table _ _ => []
  | v => e.1.toList ++ [' ', '=', ' '] ++ writeValue v ++ ['\n']

/-- The section of an entry that is a table. -/
def writeSection (e : String × Toml) : List Char :=
  match e.2 with
  | .table _ inner => ['\n', '['] ++ e.1.toList ++ [']', '\n'] ++ inner.flatMap writeEntry
  | _ => []

/-! ## Documents -/

/-- Whether a value on its own has a form: a whole number must have 64 bits. -/
def hasForm : Toml → Bool
  | .integer n => decide (-0x8000000000000000 ≤ n) && decide (n < 0x8000000000000000)
  | _ => true

/-- Whether the value of an entry has a form, with the items of a list. -/
def hasEntryForm : Toml → Bool
  | .list items => items.all hasForm
  | v => hasForm v

/-- Whether a value has a form, with the entries of a section. -/
def canWrite : Toml → Bool
  | .table _ inner => inner.all (fun e => hasEntryForm e.2)
  | v => hasEntryForm v

/-- A document of entries, with a section for every table among them. Keys are
    written without quotes. There is none if a value has no form. -/
def write? (entries : List (String × Toml)) : Option String :=
  if entries.all (fun e => canWrite e.2) then
    some (String.ofList (entries.flatMap writeEntry ++ entries.flatMap writeSection))
  else none

end TunnelSession.Toml
