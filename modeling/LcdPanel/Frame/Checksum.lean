namespace LcdPanel.Frame

def crcPolynomial : UInt16 := 0x8408

/-- One bit through the register: shift right, and fold in the polynomial when a one fell out. -/
def crcShift (c : UInt16) : UInt16 :=
  if c &&& 1 = 1 then (c >>> 1) ^^^ crcPolynomial else c >>> 1

def crcShifts : Nat → UInt16 → UInt16
  | 0, c => c
  | n + 1, c => crcShifts n (crcShift c)

def crcStep (c : UInt16) (b : UInt8) : UInt16 :=
  crcShifts 8 (c ^^^ b.toUInt16)

def crc (data : List UInt8) : UInt16 :=
  data.foldl crcStep 0xFFFF ^^^ 0xFFFF

def byteSum (data : List UInt8) : UInt16 :=
  data.foldl (fun s b => s + b.toUInt16) 0

example : crc [] = 0 ∧ crc [0] = 61560 ∧ crc [0, 0] = 3911 := by decide

end LcdPanel.Frame
