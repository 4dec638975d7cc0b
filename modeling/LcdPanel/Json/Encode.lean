import LcdPanel.Wire.Record

namespace LcdPanel.Json

open LcdPanel LcdPanel.Wire

def hexDigit (n : Nat) : Char := "0123456789abcdef".toList.getD n '0'

def escapeAscii (b : Nat) : String :=
  match b with
  | 0x5C => "\\\\"
  | 0x22 => "\\\""
  | 8 => "\\b"
  | 12 => "\\f"
  | 10 => "\\n"
  | 13 => "\\r"
  | 9 => "\\t"
  | _ => String.ofList ['\\', 'u', '0', '0', hexDigit (b / 16), hexDigit (b % 16)]

def safeAscii (b : Nat) : Bool :=
  0x20 ≤ b && b ≠ 0x22 && b ≠ 0x5C && b ≠ 0x3C && b ≠ 0x3E && b ≠ 0x26

/-- The body of a quoted string. -/
def quoteBody (bs : List UInt8) : String :=
  match bs with
  | [] => ""
  | b :: rest =>
    if b < 0x80 then
      (if safeAscii b.toNat then String.singleton (Char.ofNat b.toNat) else escapeAscii b.toNat) ++
        quoteBody rest
    else
      let (r, k) := Utf8.front b rest
      let piece :=
        if r = 0x2028 then "\\u2028"
        else if r = 0x2029 then "\\u2029"
        else String.singleton (Char.ofNat r)
      piece ++ quoteBody (rest.drop k)
termination_by bs.length
decreasing_by all_goals (simp only [List.length_cons, List.length_drop]; omega)

def quote (bs : List UInt8) : String := "\"" ++ quoteBody bs ++ "\""

def valueText : Value → String
  | .num n => toString n.toNat
  | .flag b => if b then "true" else "false"
  | .text bs => quote bs
  | .raw bs => quote bs

def recordJson (fields : List Field) (values : List Value) : String :=
  let members := (fields.zip values).filterMap fun (f, v) =>
    if v.isZero then none else some (quote (Utf8.ofString f.name) ++ ":" ++ valueText v)
  "\x7b" ++ ",".intercalate members ++ "\x7d"

end LcdPanel.Json
