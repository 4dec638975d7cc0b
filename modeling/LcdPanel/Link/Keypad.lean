namespace LcdPanel.Link

/-- The keys of the keypad, in the order their actions are numbered. -/
inductive Key where
  | up
  | down
  | left
  | right
  | enter
  | cancel
  deriving DecidableEq, Repr

namespace Key

def all : List Key := [.up, .down, .left, .right, .enter, .cancel]

def name : Key → String
  | .up => "up"
  | .down => "down"
  | .left => "left"
  | .right => "right"
  | .enter => "enter"
  | .cancel => "cancel"

def flag : Key → UInt8
  | .up => 0x01
  | .enter => 0x02
  | .cancel => 0x04
  | .left => 0x08
  | .right => 0x10
  | .down => 0x20

end Key

def allKeys : UInt8 := 0x3f

def hasKeys (flags k : UInt8) : Bool :=
  flags &&& k == k

structure KeyAction where
  code : UInt8
  deriving DecidableEq, Repr

namespace KeyAction

def valid (a : KeyAction) : Bool := 1 ≤ a.code.toNat ∧ a.code.toNat ≤ 12

def pressed (a : KeyAction) : Bool := 1 ≤ a.code.toNat ∧ a.code.toNat ≤ 6

def released (a : KeyAction) : Bool := 7 ≤ a.code.toNat ∧ a.code.toNat ≤ 12

def key? (a : KeyAction) : Option Key :=
  if a.valid then Key.all[(a.code.toNat - 1) % 6]? else none

def keyFlag (a : KeyAction) : UInt8 :=
  match a.key? with
  | some k => k.flag
  | none => 0

def name (a : KeyAction) : String :=
  match a.key? with
  | some k => k.name ++ (if a.pressed then ".press" else ".release")
  | none => "unknown"

end KeyAction

end LcdPanel.Link
