import LcdPanel.Text.Utf8
import LcdPanel.Fault

namespace LcdPanel.Display

def columns : Nat := 16

def rows : Nat := 2

def screenByte (r : Nat) : UInt8 :=
  if r > 0xFF then 0x3F else r.toUInt8

def textBytes (text : List UInt8) (width : Nat) : List UInt8 :=
  ((Utf8.runes text).take width).map screenByte

/-- The screen bytes of text for a width that may be negative; a width below zero or above
`2^48`, the largest buffer there can be, is a fault. -/
def text (s : List UInt8) (width : Int) : Except Fault (List UInt8) :=
  if width < 0 || width > 281474976710656 then .error .capacity else .ok (textBytes s width.toNat)

def line (s : List UInt8) : List UInt8 :=
  let b := textBytes s columns
  b ++ List.replicate (columns - b.length) 0x20

def cursorStyleName (n : Nat) : String :=
  match n with
  | 0 => "none"
  | 1 => "blinking-block"
  | 2 => "underscore"
  | 3 => "blinking-underscore"
  | _ => "unknown"

end LcdPanel.Display
