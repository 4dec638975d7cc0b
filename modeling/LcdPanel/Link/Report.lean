import LcdPanel.Frame.Packet
import LcdPanel.Link.Keypad

namespace LcdPanel.Link

open LcdPanel.Frame

structure Report where
  id : UInt8
  data : List UInt8
  deriving DecidableEq, Repr

namespace Report

def ofPacket (p : Packet) : Report := ⟨p.id, p.data⟩

def action (r : Report) : KeyAction :=
  match r.id, r.data with
  | 0, a :: _ => ⟨a⟩
  | _, _ => ⟨0⟩

def isKeyActivity (r : Report) : Bool :=
  r.id = 0 && r.action.valid

end Report

/-- A report handed to the subscribers, with the handles of those that took it, in order. -/
structure Delivery where
  report : Report
  handles : List Nat
  deriving DecidableEq, Repr

end LcdPanel.Link
