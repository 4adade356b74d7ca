/-
  TunnelSession.Text.Quoted

  Texts as they are shown inside a message: between double quotes, with
  escapes for quotes, backslashes and all that would not show as itself.
-/
import TunnelSession.Text.Lower
import TunnelSession.Text.PrintTable

namespace TunnelSession.Text

/-- Whether a character shows by its number only. -/
def isUnshown (c : Char) : Bool :=
  if c.toNat < 0x7F then c.toNat < 0x20
  else inRanges extendRanges c || inRanges unprintedRanges c

/-- The shown form of one character inside double quotes. -/
def showChar (c : Char) : List Char :=
  match c with
  | '\u0000' => ['\\', '0']
  | '\t' => ['\\', 't']
  | '\r' => ['\\', 'r']
  | '\n' => ['\\', 'n']
  | '\\' => ['\\', '\\']
  | '"' => ['\\', '"']
  | c =>
    if isUnshown c then ['\\', 'u', '\x7b'] ++ Nat.toDigits 16 c.toNat ++ ['\x7d'] else [c]

/-- A text between double quotes. -/
def quoted (s : String) : String :=
  String.ofList ('"' :: s.toList.flatMap showChar ++ ['"'])

end TunnelSession.Text
