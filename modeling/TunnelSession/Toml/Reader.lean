/-
  TunnelSession.Toml.Reader

  Reads a TOML document, version 1.0 of the format.
-/
import TunnelSession.Text.Numeral
import TunnelSession.Toml.Basic

namespace TunnelSession.Toml

/-! ## Space, comments and line ends -/

/-- Space inside a line. -/
def isSpace (c : Char) : Bool := c == ' ' || c == '\t'

def skipSpace (cs : List Char) : List Char := cs.dropWhile isSpace

/-- A character that stands for itself in comments and texts: a tab, or any that
    is no control character. -/
def isPlain (c : Char) : Bool := c == '\t' || (0x20 ≤ c.toNat && c.toNat != 0x7F)

/-- Reads the end of a line. -/
def newline? : List Char → Option (List Char)
  | '\n' :: rest => some rest
  | '\r' :: '\n' :: rest => some rest
  | _ => none

/-- Reads what may follow the content of a line: space, a comment and the end. -/
def endLine? (cs : List Char) : Option (List Char) :=
  let cs := match skipSpace cs with
    | '#' :: rest => rest.dropWhile isPlain
    | cs => cs
  if cs.isEmpty then some [] else newline? cs

/-- Skips space, comments and line ends, as they may stand inside a list. -/
def skipFiller (inComment : Bool) : List Char → Option (List Char)
  | [] => some []
  | '\n' :: rest => skipFiller false rest
  | '\r' :: '\n' :: rest => skipFiller false rest
  | c :: rest =>
    if inComment then if isPlain c then skipFiller true rest else none
    else if isSpace c then skipFiller false rest
    else if c == '#' then skipFiller true rest
    else some (c :: rest)

/-! ## Texts -/

/-- The character of a short escape. -/
def shortEscape? : Char → Option Char
  | 'b' => some '\x08'
  | 't' => some '\t'
  | 'n' => some '\n'
  | 'f' => some '\x0C'
  | 'r' => some '\r'
  | '"' => some '"'
  | '\\' => some '\\'
  | _ => none

/-- The character with a number in hexadecimal digits. -/
def numbered? (ds : List Char) : Option Char :=
  match Text.readDigits? 16 ds with
  | some n => if h : n.isValidChar then some (Char.ofNatAux n h) else none
  | none => none

/-- Reads a text on one line after its opening double quote. The characters read
    so far come the latest first. -/
def readBasic (soFar : List Char) : List Char → Option (String × List Char)
  | '"' :: rest => some (String.ofList soFar.reverse, rest)
  | '\\' :: 'u' :: a :: b :: c :: d :: rest =>
    match numbered? [a, b, c, d] with
    | some x => readBasic (x :: soFar) rest
    | none => none
  | '\\' :: 'U' :: a :: b :: c :: d :: e :: f :: g :: h :: rest =>
    match numbered? [a, b, c, d, e, f, g, h] with
    | some x => readBasic (x :: soFar) rest
    | none => none
  | '\\' :: e :: rest =>
    match shortEscape? e with
    | some x => readBasic (x :: soFar) rest
    | none => none
  | c :: rest => if isPlain c then readBasic (c :: soFar) rest else none
  | [] => none

/-- Reads a text of several lines after its three opening double quotes and the
    line end that may follow them. After a backslash at the end of a line, space
    and line ends are skipped. -/
def readLongBasic (soFar : List Char) (skipping : Bool) : List Char → Option (String × List Char)
  | '"' :: '"' :: '"' :: '"' :: '"' :: rest =>
    some (String.ofList ('"' :: '"' :: soFar).reverse, rest)
  | '"' :: '"' :: '"' :: '"' :: rest => some (String.ofList ('"' :: soFar).reverse, rest)
  | '"' :: '"' :: '"' :: rest => some (String.ofList soFar.reverse, rest)
  | '\\' :: 'u' :: a :: b :: c :: d :: rest =>
    match numbered? [a, b, c, d] with
    | some x => readLongBasic (x :: soFar) false rest
    | none => none
  | '\\' :: 'U' :: a :: b :: c :: d :: e :: f :: g :: h :: rest =>
    match numbered? [a, b, c, d, e, f, g, h] with
    | some x => readLongBasic (x :: soFar) false rest
    | none => none
  | '\\' :: e :: rest =>
    match shortEscape? e with
    | some x => readLongBasic (x :: soFar) false rest
    | none =>
      if (isSpace e || e == '\n' || e == '\r') && (newline? (skipSpace (e :: rest))).isSome then
        readLongBasic soFar true rest
      else none
  | '\r' :: '\n' :: rest => readLongBasic (if skipping then soFar else '\n' :: soFar) skipping rest
  | '\n' :: rest => readLongBasic (if skipping then soFar else '\n' :: soFar) skipping rest
  | c :: rest =>
    if skipping && isSpace c then readLongBasic soFar true rest
    else if isPlain c then readLongBasic (c :: soFar) false rest
    else none
  | [] => none

/-- Reads a text without escapes on one line after its opening quote. -/
def readLiteral (soFar : List Char) : List Char → Option (String × List Char)
  | '\'' :: rest => some (String.ofList soFar.reverse, rest)
  | c :: rest => if isPlain c then readLiteral (c :: soFar) rest else none
  | [] => none

/-- Reads a text without escapes of several lines after its three opening quotes
    and the line end that may follow them. -/
def readLongLiteral (soFar : List Char) : List Char → Option (String × List Char)
  | '\'' :: '\'' :: '\'' :: '\'' :: '\'' :: rest =>
    some (String.ofList ('\'' :: '\'' :: soFar).reverse, rest)
  | '\'' :: '\'' :: '\'' :: '\'' :: rest => some (String.ofList ('\'' :: soFar).reverse, rest)
  | '\'' :: '\'' :: '\'' :: rest => some (String.ofList soFar.reverse, rest)
  | '\r' :: '\n' :: rest => readLongLiteral ('\n' :: soFar) rest
  | '\n' :: rest => readLongLiteral ('\n' :: soFar) rest
  | c :: rest => if isPlain c then readLongLiteral (c :: soFar) rest else none
  | [] => none

/-- Drops the line end at the start, if there is one. -/
def dropNewline (cs : List Char) : List Char := (newline? cs).getD cs

/-- Reads a text of any of the four forms. -/
def readText : List Char → Option (String × List Char)
  | '"' :: '"' :: '"' :: rest => readLongBasic [] false (dropNewline rest)
  | '"' :: rest => readBasic [] rest
  | '\'' :: '\'' :: '\'' :: rest => readLongLiteral [] (dropNewline rest)
  | '\'' :: rest => readLiteral [] rest
  | _ => none

/-! ## Keys -/

/-- A character of a key that stands without quotes. -/
def isBareKeyChar (c : Char) : Bool :=
  c.isAlphanum || c == '_' || c == '-'

/-- Reads one part of a key. -/
def readKeyPart : List Char → Option (String × List Char)
  | '"' :: rest => readBasic [] rest
  | '\'' :: rest => readLiteral [] rest
  | cs =>
    let bare := cs.takeWhile isBareKeyChar
    if bare.isEmpty then none else some (String.ofList bare, cs.drop bare.length)

/-- The parts of a key, or the lists and tables in braces around a value, are
    fewer than this. -/
def depthLimit : Nat := 80

/-- Reads a key of at most `left` parts with dots between them, and the space
    around it. -/
def readKey : Nat → List Char → Option (List String × List Char)
  | 0, _ => none
  | left + 1, cs => do
    let (part, rest) ← readKeyPart (skipSpace cs)
    match skipSpace rest with
    | '.' :: rest =>
      let (parts, rest) ← readKey left rest
      some (part :: parts, rest)
    | rest => some ([part], rest)

/-! ## Numbers and times -/

/-- Reads digits that may have single underscores between them. -/
def readDigits (isDigit : Char → Bool) (soFar : List Char) : List Char → List Char × List Char
  | '_' :: c :: rest =>
    if isDigit c && !soFar.isEmpty then readDigits isDigit (c :: soFar) rest
    else (soFar.reverse, '_' :: c :: rest)
  | c :: rest =>
    if isDigit c then readDigits isDigit (c :: soFar) rest else (soFar.reverse, c :: rest)
  | [] => (soFar.reverse, [])

/-- Reads a sign. -/
def readSign : List Char → Bool × List Char
  | '-' :: rest => (true, rest)
  | '+' :: rest => (false, rest)
  | cs => (false, cs)

/-- Reads decimal digits of which the first is zero only if it is alone. -/
def readWhole : List Char → Option (List Char × List Char)
  | '0' :: rest => some (['0'], rest)
  | cs =>
    let (ds, rest) := readDigits Char.isDigit [] cs
    if ds.isEmpty then none else some (ds, rest)

/-- The whole number of a sign and digits, if it has 64 bits. -/
def wholeNumber? (negative : Bool) (radix : Nat) (ds : List Char) : Option Toml :=
  let n := Text.valueOf radix ds
  let limit := 0x8000000000000000
  if negative then if n ≤ limit then some (.integer (-n)) else none
  else if n < limit then some (.integer n) else none

/-- Reads a whole number in hexadecimal, octal or binary after its first two
    characters. -/
def readRadix (radix : Nat) (cs : List Char) : Option (Toml × List Char) := do
  let (ds, rest) := readDigits (Text.isDigitOf radix) [] cs
  if ds.isEmpty then none
  else
    let v ← wholeNumber? false radix ds
    some (v, rest)

/-- Reads an exponent. -/
def readExponent : List Char → Option (Int × List Char)
  | 'e' :: cs | 'E' :: cs =>
    let (negative, cs) := readSign cs
    let (ds, rest) := readDigits Char.isDigit [] cs
    if ds.isEmpty then none
    else
      let n : Int := Text.valueOf 10 ds
      some (if negative then -n else n, rest)
  | _ => none

/-- The real with the given digits and exponent. A positive one must not be too
    large for a double. -/
def real? (negative : Bool) (ds : List Char) (exponent : Int) : Option Toml :=
  if negative || Text.fitsDouble (Text.valueOf 10 ds) exponent then some .real else none

/-- Reads a decimal number, whole or not. -/
def readDecimal (cs : List Char) : Option (Toml × List Char) := do
  let (negative, cs) := readSign cs
  match cs with
  | 'i' :: 'n' :: 'f' :: rest => some (.real, rest)
  | 'n' :: 'a' :: 'n' :: rest => some (.real, rest)
  | cs =>
    let (whole, rest) ← readWhole cs
    match rest with
    | '.' :: after =>
      let (places, after) := readDigits Char.isDigit [] after
      if places.isEmpty then none
      else
        let (e, after) := (readExponent after).getD (0, after)
        let v ← real? negative (whole ++ places) (e - places.length)
        some (v, after)
    | rest =>
      match readExponent rest with
      | some (e, after) =>
        let v ← real? negative whole e
        some (v, after)
      | none =>
        let v ← wholeNumber? negative 10 whole
        some (v, rest)

/-- Reads exactly `count` digits of a number from `low` to `high`. -/
def readPart (count low high : Nat) (cs : List Char) : Option (Nat × List Char) :=
  match Text.readDigits? 10 (cs.take count) with
  | some n =>
    if count ≤ cs.length ∧ low ≤ n ∧ n ≤ high then some (n, cs.drop count) else none
  | none => none

/-- Reads the given character. -/
def expect (c : Char) : List Char → Option (List Char)
  | d :: rest => if d = c then some rest else none
  | [] => none

/-- The number of days of a month. -/
def daysIn (year month : Nat) : Nat :=
  if month = 2 then
    if year % 4 = 0 ∧ (year % 100 ≠ 0 ∨ year % 400 = 0) then 29 else 28
  else if month ∈ [4, 6, 9, 11] then 30
  else 31

/-- Reads a date. -/
def readDate (cs : List Char) : Option (List Char) := do
  let (year, cs) ← readPart 4 0 9999 cs
  let cs ← expect '-' cs
  let (month, cs) ← readPart 2 1 12 cs
  let cs ← expect '-' cs
  let (_, cs) ← readPart 2 1 (daysIn year month) cs
  some cs

/-- Reads a time of the day. -/
def readClock (cs : List Char) : Option (List Char) := do
  let (_, cs) ← readPart 2 0 23 cs
  let cs ← expect ':' cs
  let (_, cs) ← readPart 2 0 59 cs
  let cs ← expect ':' cs
  let (_, cs) ← readPart 2 0 60 cs
  match cs with
  | '.' :: rest =>
    if (rest.takeWhile Char.isDigit).isEmpty then some cs else some (rest.dropWhile Char.isDigit)
  | cs => some cs

/-- Reads an offset from universal time, if one is there. -/
def readOffset (cs : List Char) : List Char :=
  match cs with
  | 'Z' :: rest | 'z' :: rest => rest
  | '+' :: rest | '-' :: rest =>
    match (do
      let (_, r) ← readPart 2 0 23 rest
      let r ← expect ':' r
      let (_, r) ← readPart 2 0 59 r
      some r) with
    | some r => r
    | none => cs
  | cs => cs

/-- Reads a date, a time of the day, or both. -/
def readTime (cs : List Char) : Option (List Char) :=
  match readDate cs with
  | some rest =>
    match rest with
    | 'T' :: after | 't' :: after | ' ' :: after =>
      match readClock after with
      | some after => some (readOffset after)
      | none => some rest
    | rest => some rest
  | none => readClock cs

/-! ## Values -/

mutual

/-- Reads a value. The fuel bounds the steps, `depth` the lists and tables in
    braces around the value. -/
def readValue : Nat → Nat → List Char → Option (Toml × List Char)
  | 0, _, _ => none
  | fuel + 1, depth, cs =>
    match cs with
    | '"' :: _ | '\'' :: _ => (readText cs).map (fun r => (.text r.1, r.2))
    | '[' :: rest =>
      if depth = 0 then none
      else (readItems fuel (depth - 1) rest).map (fun r => (.list r.1, r.2))
    | '\x7b' :: rest =>
      if depth = 0 then none
      else
        match skipSpace rest with
        | '\x7d' :: rest => some (.table .braces [], rest)
        | rest => readEntries fuel (depth - 1) (.table .braces []) rest
    | 't' :: 'r' :: 'u' :: 'e' :: rest => some (.bool true, rest)
    | 'f' :: 'a' :: 'l' :: 's' :: 'e' :: rest => some (.bool false, rest)
    | '0' :: 'x' :: rest => readRadix 16 rest
    | '0' :: 'o' :: rest => readRadix 8 rest
    | '0' :: 'b' :: rest => readRadix 2 rest
    | cs =>
      match readTime cs with
      | some rest => some (.time, rest)
      | none => readDecimal cs

/-- Reads the items of a list and its end. -/
def readItems : Nat → Nat → List Char → Option (List Toml × List Char)
  | 0, _, _ => none
  | fuel + 1, depth, cs => do
    match ← skipFiller false cs with
    | ']' :: rest => some ([], rest)
    | cs =>
      let (v, cs) ← readValue fuel depth cs
      match ← skipFiller false cs with
      | ',' :: cs =>
        let (vs, cs) ← readItems fuel depth cs
        some (v :: vs, cs)
      | ']' :: cs => some ([v], cs)
      | _ => none

/-- Reads the entries of a table in braces, at least one, and its end. -/
def readEntries : Nat → Nat → Toml → List Char → Option (Toml × List Char)
  | 0, _, _, _ => none
  | fuel + 1, depth, soFar, cs => do
    let (key, cs) ← readKey (depthLimit - 1) cs
    let cs ← expect '=' cs
    let (v, cs) ← readValue fuel depth (skipSpace cs)
    let grown ← assign key v soFar
    match skipSpace cs with
    | ',' :: cs => readEntries fuel depth grown cs
    | '\x7d' :: cs => some (grown, cs)
    | _ => none

end

/-! ## Documents -/

/-- A document in progress: its table, and the header that the next entries
    stand under. -/
structure PartDocument where
  content : Toml := .table .header []
  header : List String := []

/-- Reads a header of one table or of a repeated one. -/
def readHeader (d : PartDocument) (repeated : Bool) (cs : List Char) :
    Option (PartDocument × List Char) := do
  let (path, cs) ← readKey (depthLimit - 1) cs
  let cs ← expect ']' cs
  let cs ← if repeated then expect ']' cs else some cs
  let opened ← if repeated then appendTable path d.content else openTable path d.content
  let rest ← endLine? cs
  some (⟨opened, path⟩, rest)

/-- Reads an entry of the table that is open. -/
def readEntry (d : PartDocument) (cs : List Char) : Option (PartDocument × List Char) := do
  let (key, rest) ← readKey (depthLimit - 1) cs
  let rest ← expect '=' rest
  let (v, rest) ← readValue (2 * rest.length + 2) (depthLimit - 1) (skipSpace rest)
  let grown ← within false (assign key v) d.header d.content
  let rest ← endLine? rest
  some (⟨grown, d.header⟩, rest)

/-- Reads one line, or the lines of one value. -/
def readLine (d : PartDocument) (cs : List Char) : Option (PartDocument × List Char) :=
  match skipSpace cs with
  | '[' :: '[' :: rest => readHeader d true rest
  | '[' :: rest => readHeader d false rest
  | rest =>
    match endLine? rest with
    | some rest => some (d, rest)
    | none => readEntry d rest

/-- Reads the lines of a document. Every line takes at least one character of
    the text, which bounds the fuel. -/
def readLines : Nat → PartDocument → List Char → Option Toml
  | _, d, [] => some d.content
  | 0, _, _ => none
  | fuel + 1, d, cs => do
    let (d, rest) ← readLine d cs
    readLines fuel d rest

/-- The table that a document describes. A byte order mark at its start does not
    count. -/
def read? (s : String) : Option Toml :=
  let cs := match s.toList with
    | '\uFEFF' :: rest => rest
    | cs => cs
  readLines cs.length {} cs

end TunnelSession.Toml
