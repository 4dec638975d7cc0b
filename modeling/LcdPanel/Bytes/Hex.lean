namespace LcdPanel.Hex

def pad (width n : Nat) : String :=
  let ds := Nat.toDigits 16 n
  String.ofList (List.replicate (width - ds.length) '0' ++ ds)

def ofBytes (bs : List UInt8) : String :=
  String.join (bs.map fun b => pad 2 b.toNat)

def digitValue? (c : Char) : Option Nat :=
  if '0' ≤ c ∧ c ≤ '9' then some (c.toNat - 48)
  else if 'a' ≤ c ∧ c ≤ 'f' then some (c.toNat - 87)
  else if 'A' ≤ c ∧ c ≤ 'F' then some (c.toNat - 55)
  else none

/-- Bytes from pairs of digits; `none` on an odd count or a character that is no digit. -/
def bytesOfDigits? : List Char → Option (List UInt8)
  | [] => some []
  | [_] => none
  | hi :: lo :: rest => do
    let h ← digitValue? hi
    let l ← digitValue? lo
    let tail ← bytesOfDigits? rest
    pure ((h * 16 + l).toUInt8 :: tail)

def toBytes? (s : String) : Option (List UInt8) :=
  bytesOfDigits? s.toList

end LcdPanel.Hex
