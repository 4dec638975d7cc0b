import LcdPanel.Text.Quote

namespace LcdPanel.Url

open LcdPanel

/-- The part of a URL that a text belongs to, which fixes how it is escaped. -/
inductive Part
  | host
  | zone
  | userInfo
  | path
  | query
  | fragment
  deriving DecidableEq, Repr

/-- Why an escaped part cannot be read. -/
inductive EscapeFault
  | badEscape (text : List UInt8)
  | badHostByte (b : UInt8)
  deriving DecidableEq, Repr

def EscapeFault.message : EscapeFault → String
  | .badEscape text => "invalid URL escape " ++ Text.quote text
  | .badHostByte b => "invalid character " ++ Text.quote [b] ++ " in host name"

def isAlnum (b : UInt8) : Bool :=
  (0x61 ≤ b && b ≤ 0x7A) || (0x41 ≤ b && b ≤ 0x5A) || (0x30 ≤ b && b ≤ 0x39)

def isHex (b : UInt8) : Bool :=
  (0x30 ≤ b && b ≤ 0x39) || (0x61 ≤ b && b ≤ 0x66) || (0x41 ≤ b && b ≤ 0x46)

def hexValue (b : UInt8) : Nat :=
  if b ≤ 0x39 then b.toNat - 0x30 else if b ≤ 0x46 then b.toNat - 0x37 else b.toNat - 0x57

/-- Whether a host must escape a byte: all but letters, digits, `-_.~`, the sub-delimiters, the
colon and brackets of a port and an address, and `<`, `>` and `"`. -/
def hostEscapes (b : UInt8) : Bool :=
  !(isAlnum b || "-_.~!$&'()*+,;=:[]<>\"".toList.contains (Char.ofNat b.toNat))

def escapeAllowed (part : Part) (hi lo : UInt8) : Bool :=
  match part with
  | .host => 8 ≤ hexValue hi || (hi = 0x32 && lo = 0x35)
  | .zone =>
    let v := (hexValue hi * 16 + hexValue lo).toUInt8
    (hi = 0x32 && lo = 0x35) || v = 0x20 || !hostEscapes v
  | _ => true

/-- Reads the escapes of a part, left to right, stopping at the first fault. -/
def unescape (part : Part) : List UInt8 → Except EscapeFault (List UInt8)
  | [] => .ok []
  | 0x25 :: rest =>
    match rest with
    | hi :: lo :: more =>
      if isHex hi && isHex lo then
        if escapeAllowed part hi lo then
          ((hexValue hi * 16 + hexValue lo).toUInt8 :: ·) <$> unescape part more
        else .error (.badEscape [0x25, hi, lo])
      else .error (.badEscape ((0x25 :: rest).take 3))
    | _ => .error (.badEscape ((0x25 :: rest).take 3))
  | 0x2B :: rest => ((if part = .query then 0x20 else 0x2B) :: ·) <$> unescape part rest
  | b :: rest =>
    if (part = .host || part = .zone) && b < 0x80 && hostEscapes b then .error (.badHostByte b)
    else (b :: ·) <$> unescape part rest

def upperDigit (n : Nat) : UInt8 :=
  (if n < 10 then 0x30 + n else 0x37 + n).toUInt8

def escapeHost (bs : List UInt8) : List UInt8 :=
  bs.flatMap fun b =>
    if hostEscapes b then [0x25, upperDigit (b.toNat / 16), upperDigit (b.toNat % 16)] else [b]

example : (unescape .path (Utf8.ofString "a%41b")).toOption = some (Utf8.ofString "aAb") ∧
    (unescape .query (Utf8.ofString "a+b")).toOption = some (Utf8.ofString "a b") ∧
    (unescape .path (Utf8.ofString "%zz")).toOption = none ∧
    (unescape .host (Utf8.ofString "%41")).toOption = none := by
  decide +kernel

end LcdPanel.Url
