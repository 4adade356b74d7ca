/-
  TunnelSession.Text.Blank

  White space as Unicode counts it, and the three ways in which lines of
  input are taken apart with it: trimming, splitting into words, splitting
  into lines.
-/

namespace TunnelSession.Text

/-- The characters of the Unicode property `White_Space`. -/
def isBlank (c : Char) : Bool :=
  let n := c.toNat
  (9 ≤ n && n ≤ 13) || n == 0x20 || n == 0x85 || n == 0xA0 || n == 0x1680 ||
    (0x2000 ≤ n && n ≤ 0x200A) || n == 0x2028 || n == 0x2029 || n == 0x202F ||
    n == 0x205F || n == 0x3000

/-! ## Trimming -/

/-- Drops the blanks at both ends. -/
def trim (cs : List Char) : List Char :=
  ((cs.dropWhile isBlank).reverse.dropWhile isBlank).reverse

/-- `trim` on strings. -/
def trimmed (s : String) : String :=
  String.ofList (trim s.toList)

/-! ## Words and lines -/

/-- The maximal runs of characters that are not blank. -/
def words (s : String) : List String :=
  ((s.toList.splitOnP isBlank).filter (fun w => !w.isEmpty)).map String.ofList

/-- A line without the carriage return that may precede its line feed. -/
def stripReturn (line : List Char) : List Char :=
  match line.getLast? with
  | some '\r' => line.dropLast
  | _ => line

/-- The lines of a text. A line ends at a line feed, or at a carriage return
    and a line feed; what follows the last line feed is a line if it is not
    empty, and keeps a carriage return at its end. -/
def lines (s : String) : List String :=
  let pieces := s.toList.splitOnP (· == '\n')
  let ended := pieces.dropLast.map stripReturn
  let rest := (pieces.getLast?.getD [])
  (ended ++ (if rest.isEmpty then [] else [rest])).map String.ofList

/-- The parts of a text between the separators, empty parts included. -/
def splitAt (sep : Char) (s : String) : List String :=
  (s.toList.splitOnP (· == sep)).map String.ofList

/-! ## ASCII case -/

/-- Whether two texts agree once the ASCII letters are lowered. -/
def equalFold (a b : String) : Bool :=
  a.toList.map Char.toLower == b.toList.map Char.toLower

/-- Lowers the ASCII letters and keeps the rest. -/
def lowerAscii (s : String) : String :=
  String.ofList (s.toList.map Char.toLower)

end TunnelSession.Text
