namespace LcdPanel.Text

def digitsValue? (ds : List UInt8) : Option Nat :=
  if ds.isEmpty then none
  else ds.foldl (fun acc d => do
    let v ← acc
    if 48 ≤ d.toNat ∧ d.toNat ≤ 57 then some (v * 10 + (d.toNat - 48)) else none) (some 0)

def int64Min : Int := -9223372036854775808
def int64Max : Int := 9223372036854775807

/-- A value kept in a signed 64-bit word: the integer congruent to it modulo `2^64` from
`int64Min` up. -/
def wrapInt64 (n : Int) : Int :=
  let m := n % 18446744073709551616
  if m > int64Max then m - 18446744073709551616 else m

/-- Reads a signed decimal that fits in 64 bits: a `+` or `-` may lead. -/
def parseInt? (bs : List UInt8) : Option Int := do
  let (neg, ds) := match bs with
    | 43 :: r => (false, r)
    | 45 :: r => (true, r)
    | r => (false, r)
  let v ← digitsValue? ds
  let n : Int := if neg then -(v : Int) else v
  if int64Min ≤ n ∧ n ≤ int64Max then some n else none

end LcdPanel.Text
