import LcdPanel.Frame.Checksum

namespace LcdPanel.Frame

def reverseByte (b : UInt8) : UInt8 := ⟨b.toBitVec.reverse⟩

def reverseWord (w : UInt16) : UInt16 := ⟨w.toBitVec.reverse⟩

namespace Crc16

/-- The parameters of a sixteen-bit CRC: the polynomial, most significant bit first; the register's
start value; whether input bytes and the result are bit-reversed; and the word xored into the
result. -/
structure Params where
  poly : UInt16
  init : UInt16
  refIn : Bool
  refOut : Bool
  xorOut : UInt16
  deriving DecidableEq, Repr

/-- CRC-16/X-25: the CCITT polynomial, reflected on input and output, seeded with `0xFFFF` and
inverted on output. -/
def x25 : Params :=
  { poly := 0x1021, init := 0xFFFF, refIn := true, refOut := true, xorOut := 0xFFFF }

/-- One shift of the register to the left: a one falling out of the top folds in the
polynomial. -/
def shift (poly c : UInt16) : UInt16 :=
  if c &&& 0x8000 ≠ 0 then (c <<< 1) ^^^ poly else c <<< 1

def shifts (poly : UInt16) : Nat → UInt16 → UInt16
  | 0, c => c
  | n + 1, c => shifts poly n (shift poly c)

structure Table where
  params : Params
  entry : UInt8 → UInt16

/-- The table of a CRC: byte `n`, placed at the top of the register, shifted eight times. -/
def makeTable (p : Params) : Table :=
  ⟨p, fun n => shifts p.poly 8 (n.toUInt16 <<< 8)⟩

/-- One input byte through the register by one lookup: the register's top byte and the byte
select the entry, and the low byte moves to the top. -/
def Table.step (t : Table) (crc : UInt16) (d : UInt8) : UInt16 :=
  let d := if t.params.refIn then reverseByte d else d
  (crc <<< 8) ^^^ t.entry ((crc >>> 8).toUInt8 ^^^ d)

def update (crc : UInt16) (data : List UInt8) (t : Table) : UInt16 :=
  data.foldl t.step crc

def complete (crc : UInt16) (t : Table) : UInt16 :=
  (if t.params.refOut then reverseWord crc else crc) ^^^ t.params.xorOut

def checksum (data : List UInt8) (t : Table) : UInt16 :=
  complete (update t.params.init data t) t

end Crc16

def crcTable : Crc16.Table := Crc16.makeTable Crc16.x25

def tableCrc (data : List UInt8) : UInt16 :=
  Crc16.checksum data crcTable

set_option maxRecDepth 8000 in
example : tableCrc [0x31, 0x32, 0x33, 0x34, 0x35, 0x36, 0x37, 0x38, 0x39] = 0x906E := by decide

end LcdPanel.Frame
