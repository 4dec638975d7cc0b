import LcdPanel.Display.Screen
import LcdPanel.Text.Decimal

namespace LcdPanel.Demo

open LcdPanel LcdPanel.Display

def moreMark : Nat := 0x7E

/-- The characters shown of `text` scrolled to `col`; a negative column on text longer than a line
is a fault. The distance from the column to the end is taken in a signed 64-bit word, so a
column far below zero can wrap it below a line's width and scroll to the end. -/
def lineRunes (text : List Nat) (col : Int) : Except Fault (List Nat) :=
  let n := text.length
  if n ≤ columns then .ok text
  else
    let col := if Text.wrapInt64 ((n : Int) - col) < columns then (n : Int) - columns else col
    if col < 0 then .error (.sliceStart col)
    else
      let rest := text.drop col.toNat
      if rest.length > columns then .ok (rest.take (columns - 1) ++ [moreMark]) else .ok rest

def lineText (text : List UInt8) (col : Int) : Except Fault String :=
  (lineRunes (Utf8.runes text) col).map Utf8.stringOfRunes

end LcdPanel.Demo
