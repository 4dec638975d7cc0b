import LcdPanel.Text.Utf8
import LcdPanel.Text.Printable
import LcdPanel.Bytes.Hex

namespace LcdPanel.Toml

open LcdPanel

/-- A key: its parts, each the bytes of one simple key, so `a."b.c"` has two parts. -/
abbrev Key := List (List UInt8)

inductive DateKind
  | offsetDateTime
  | localDateTime
  | localDate
  | localTime
  deriving DecidableEq, Repr

inductive Value where
  | string (data : List UInt8)
  | integer (raw : List UInt8)
  | float (raw : List UInt8)
  | boolean (b : Bool)
  | date (kind : DateKind) (raw : List UInt8)
  | array (items : List Value)
  | table (entries : List (Key × Value))
  deriving Repr

/-- The text a value carries: the unescaped bytes of a string, the text of a number, a date or a
boolean, and nothing for an array or a table. -/
def Value.data : Value → List UInt8
  | .string d => d
  | .integer r => r
  | .float r => r
  | .boolean true => Utf8.ofString "true"
  | .boolean false => Utf8.ofString "false"
  | .date _ r => r
  | .array _ => []
  | .table _ => []

def Value.isPlain : Value → Bool
  | .array _ | .table _ => false
  | _ => true

/-- The number of values a value holds, itself included, which bounds how deep checking it
goes. -/
def Value.size : Value → Nat
  | .array items => 1 + sizes items
  | .table entries => 1 + pairSizes entries
  | _ => 1
where
  sizes : List Value → Nat
    | [] => 0
    | v :: rest => Value.size v + sizes rest
  pairSizes : List (Key × Value) → Nat
    | [] => 0
    | (_, v) :: rest => Value.size v + pairSizes rest

inductive Expr where
  | keyValue (key : Key) (value : Value)
  | table (key : Key)
  | arrayTable (key : Key)
  deriving Repr

structure ParseError where
  message : String
  deriving DecidableEq, Repr

/-- A code point as `U+XXXX`, with the character in quotes after it when it is printable. -/
def unicodeText (r : Nat) : String :=
  "U+" ++ (Hex.pad 4 r).toUpper ++
    (if Text.isPrintable r then " '" ++ String.singleton (Char.ofNat r) ++ "'" else "")

def byteChar (b : UInt8) : String :=
  String.singleton (Char.ofNat b.toNat)

end LcdPanel.Toml
