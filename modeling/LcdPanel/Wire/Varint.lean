namespace LcdPanel.Wire

def varint (n : Nat) : List UInt8 :=
  if n < 128 then [n.toUInt8] else (n % 128 + 128).toUInt8 :: varint (n / 128)
termination_by n
decreasing_by omega

def readVarintAt (k acc : Nat) : List UInt8 → Option (Nat × List UInt8)
  | [] => none
  | b :: rest =>
    if k = 9 then
      if b.toNat < 2 then some (acc + b.toNat * Nat.pow 2 63, rest) else none
    else if b.toNat < 128 then some (acc + b.toNat * Nat.pow 2 (7 * k), rest)
    else readVarintAt (k + 1) (acc + (b.toNat - 128) * Nat.pow 2 (7 * k)) rest

/-- Reads a varint at the front of the bytes: its value and what follows it, or nothing when the
bytes end first or the varint runs past ten bytes. -/
def readVarint (bs : List UInt8) : Option (Nat × List UInt8) :=
  readVarintAt 0 0 bs

/-- A varint takes at least one byte. -/
theorem readVarintAt_shorter {k acc x : Nat} {bs rest : List UInt8}
    (h : readVarintAt k acc bs = some (x, rest)) : rest.length < bs.length := by
  induction bs generalizing k acc with
  | nil => simp [readVarintAt] at h
  | cons b bs ih =>
    simp only [readVarintAt] at h
    split at h
    · split at h
      · cases h; simp
      · cases h
    · split at h
      · cases h; simp
      · have := ih h
        simp only [List.length_cons]
        omega

theorem readVarint_shorter {x : Nat} {bs rest : List UInt8}
    (h : readVarint bs = some (x, rest)) : rest.length < bs.length :=
  readVarintAt_shorter h

def wireVarint : Nat := 0
def wireFixed64 : Nat := 1
def wireBytes : Nat := 2
def wireStartGroup : Nat := 3
def wireEndGroup : Nat := 4
def wireFixed32 : Nat := 5

def key (number wire : Nat) : List UInt8 := varint (number * 8 + wire)

end LcdPanel.Wire
