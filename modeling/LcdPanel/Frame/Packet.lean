import LcdPanel.Bytes.Hex

namespace LcdPanel.Frame

def maxDataLen : Nat := 122

/-- The four kinds of packet, in the order of their two-bit numbers. -/
inductive PacketKind where
  | command
  | response
  | report
  | error
  deriving DecidableEq, Repr

namespace PacketKind

/-- The kind with two-bit number `n % 4`. -/
def ofBits (n : Nat) : PacketKind :=
  match n % 4 with
  | 0 => .command
  | 1 => .response
  | 2 => .report
  | _ => .error

def bits : PacketKind → Nat
  | .command => 0
  | .response => 1
  | .report => 2
  | .error => 3

def name : PacketKind → String
  | .command => "command"
  | .response => "response"
  | .report => "report"
  | .error => "error"

end PacketKind

/-- The name of a kind number: one of the four names, or `type(N)` for a number beyond them. -/
def kindName (n : Nat) : String :=
  if n < 4 then (PacketKind.ofBits n).name else s!"type({n})"

structure Packet where
  code : UInt8
  data : List UInt8
  deriving DecidableEq, Repr

namespace Packet

/-- The code of a kind number and an identifier: the kind's low two bits above the identifier's
low six; higher bits of either are lost. -/
def codeOf (kind id : UInt8) : UInt8 :=
  (kind <<< 6) ||| (id &&& 0x3f)

def make (kind id : UInt8) (data : List UInt8) : Packet :=
  ⟨codeOf kind id, data⟩

def command (id : UInt8) (data : List UInt8) : Packet :=
  make 0 id data

def kindBits (p : Packet) : Nat :=
  p.code.toNat / 64

def kind (p : Packet) : PacketKind :=
  PacketKind.ofBits p.kindBits

def id (p : Packet) : UInt8 :=
  p.code &&& 0x3f

def describe (p : Packet) : String :=
  s!"{p.kind.name}[{Hex.pad 2 p.id.toNat}] {Hex.ofBytes p.data}"

end Packet

end LcdPanel.Frame
