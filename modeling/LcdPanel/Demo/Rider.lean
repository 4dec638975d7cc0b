import LcdPanel.Demo.Draw

namespace LcdPanel.Demo

open LcdPanel.Display

def riderWidth : Int := 4

def riderBlock : List UInt8 := [0, 0, 0, 0]

def riderBlank : List UInt8 := [0x20, 0x20, 0x20, 0x20]

/-- The next place of the block: along its row, turning down at the right end and up at the left
end. -/
def riderStep (x y : Int) : Int × Int :=
  let x := if y = 0 then x + riderWidth else x - riderWidth
  let last := (columns : Int) - riderWidth
  if x > last then (last, y + 1)
  else if x < 0 then (0, y - 1)
  else (x, y)

/-- The state of the moving block. -/
structure Rider where
  x : Int := 0
  y : Int := 0
  cleared : Bool := false
  deriving DecidableEq, Repr

/-- Moves the block one place: draws it at the new place, then blanks the old one; a failed call
ends the move with the block already at its new place. -/
def Rider.move (k : Rider) : Drawing (Rider × Option String) := do
  let (x, y) := riderStep k.x k.y
  let moved := { k with x := x, y := y }
  match ← Drawing.call (.send x y riderBlock) with
  | some e => return (moved, some e)
  | none => return (moved, ← Drawing.call (.send k.x k.y riderBlank))

/-- One step: the screen is cleared the first time, then the block moves. A failed clear is tried
again at the next step. -/
def Rider.control (k : Rider) : Drawing (Rider × Option String) := do
  if k.cleared then k.move
  else
    match ← Drawing.call .clear with
    | some e => return (k, some e)
    | none => ({ k with cleared := true } : Rider).move

end LcdPanel.Demo
