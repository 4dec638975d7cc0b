import LcdPanel.Frame.Checksum
import LcdPanel.Frame.Packet

namespace LcdPanel.Frame

structure Codec where
  checksum : List UInt8 → UInt16

namespace Codec

def standard : Codec := ⟨crc⟩

def summing : Codec := ⟨byteSum⟩

def wordBytes (w : UInt16) : List UInt8 :=
  [w.toUInt8, (w >>> 8).toUInt8]

/-- The frame of a packet. The length byte is the data length modulo 256 and is not checked. -/
def encode (c : Codec) (p : Packet) : List UInt8 :=
  let head := p.code :: p.data.length.toUInt8 :: p.data
  head ++ wordBytes (c.checksum head)

end Codec

/-- Why a frame was refused: its length byte is beyond `maxDataLen`, or its check word differs from
the one computed. -/
inductive Malformed where
  | tooLong (code : UInt8) (length : Nat)
  | mismatch (code : UInt8) (length : Nat) (expected actual : UInt16)
  deriving DecidableEq, Repr

namespace Malformed

/-- How many bytes to drop before decoding again: one for a bad length, the whole frame for a bad
check word. -/
def skip : Malformed → Nat
  | .tooLong .. => 1
  | .mismatch _ length .. => length + 4

def code : Malformed → UInt8
  | .tooLong c _ | .mismatch c .. => c

def length : Malformed → Nat
  | .tooLong _ l | .mismatch _ l .. => l

def expected : Malformed → UInt16
  | .tooLong .. => 0
  | .mismatch _ _ e _ => e

def actual : Malformed → UInt16
  | .tooLong .. => 0
  | .mismatch _ _ _ a => a

def message : Malformed → String
  | .tooLong c l => s!"packet 0x{Hex.pad 2 c.toNat}: length {l} exceeds {maxDataLen}"
  | .mismatch c _ e a =>
    s!"packet 0x{Hex.pad 2 c.toNat}: crc mismatch, expected {Hex.pad 4 e.toNat}, got {Hex.pad 4 a.toNat}"

end Malformed

/-- What decoding finds at the front of a buffer. -/
inductive Decoded where
  | incomplete
  | malformed (m : Malformed)
  | packet (p : Packet) (consumed : Nat)
  deriving DecidableEq, Repr

def incompleteMessage : String := "incomplete packet"

namespace Codec

/-- Decodes the first frame of `buf`. A length byte beyond `maxDataLen` is refused before the
frame is complete; bytes after the frame are not looked at. -/
def decode (c : Codec) (buf : List UInt8) : Decoded :=
  match buf with
  | code :: len :: rest =>
    let l := len.toNat
    if l > maxDataLen then .malformed (.tooLong code l)
    else if rest.length < l + 2 then .incomplete
    else
      let data := rest.take l
      let expected := c.checksum (code :: len :: data)
      let lo := (rest.drop l).headD 0
      let hi := (rest.drop (l + 1)).headD 0
      let actual := lo.toUInt16 ||| (hi.toUInt16 <<< 8)
      if expected = actual then .packet ⟨code, data⟩ (l + 4)
      else .malformed (.mismatch code l expected actual)
  | _ => .incomplete

end Codec

end LcdPanel.Frame
