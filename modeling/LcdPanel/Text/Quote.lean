import LcdPanel.Text.Utf8
import LcdPanel.Text.Printable
import LcdPanel.Bytes.Hex

namespace LcdPanel.Text

open LcdPanel

/-- The escape of one character that is not written as it is. -/
def escapeRune (r : Nat) : String :=
  match r with
  | 7 => "\\a"
  | 8 => "\\b"
  | 12 => "\\f"
  | 10 => "\\n"
  | 13 => "\\r"
  | 9 => "\\t"
  | 11 => "\\v"
  | _ =>
    if r < 0x20 ∨ r = 0x7F then "\\x" ++ Hex.pad 2 r
    else if r < 0x10000 then "\\u" ++ Hex.pad 4 r
    else "\\U" ++ Hex.pad 8 r

def quoteRune (r : Nat) : String :=
  if r = 0x22 then "\\\"" else if r = 0x5C then "\\\\"
  else if isPrintable r then String.singleton (Char.ofNat r)
  else escapeRune r

/-- One character in single quotes, as a character literal is written: a single quote is
escaped there, a double quote is not. -/
def quoteCharLiteral (r : Nat) : String :=
  if r = 0x27 then "'\\''" else if r = 0x22 then "'\"'" else "'" ++ quoteRune r ++ "'"

def quoteBody : List UInt8 → String
  | [] => ""
  | b0 :: rest =>
    let (r, k) := Utf8.front b0 rest
    let piece := if r = Utf8.replacement ∧ k = 0 then "\\x" ++ Hex.pad 2 b0.toNat else quoteRune r
    piece ++ quoteBody (rest.drop k)
termination_by bs => bs.length
decreasing_by simp only [List.length_drop, List.length_cons]; omega

def quote (bs : List UInt8) : String :=
  "\"" ++ quoteBody bs ++ "\""

def quoteString (s : String) : String :=
  quote (Utf8.ofString s)

end LcdPanel.Text
