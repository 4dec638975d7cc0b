namespace LcdPanel.Text

/-- Why a text is no integer of a width. -/
inductive RadixError
  | malformed
  | range (nearest : Int)
  deriving DecidableEq, Repr

def lowerByte (b : UInt8) : UInt8 := if 0x41 ≤ b && b ≤ 0x5A then b + 0x20 else b

def splitBase : List UInt8 → Nat × List UInt8
  | 0x30 :: c :: d :: rest =>
    if lowerByte c = 0x62 then (2, d :: rest)
    else if lowerByte c = 0x6F then (8, d :: rest)
    else if lowerByte c = 0x78 then (16, d :: rest)
    else (8, c :: d :: rest)
  | 0x30 :: rest => (8, rest)
  | ds => (10, ds)

def digitValue (c : UInt8) : Option Nat :=
  if 0x30 ≤ c && c ≤ 0x39 then some (c.toNat - 0x30)
  else if 0x61 ≤ lowerByte c && lowerByte c ≤ 0x7A then some ((lowerByte c).toNat - 0x61 + 10)
  else none

/-- Whether the underscores of a text each stand between two digits (a base prefix counts as a
digit). -/
def underscoresFit (s : List UInt8) : Bool :=
  let s := match s with
    | 0x2D :: r | 0x2B :: r => r
    | r => r
  let (start, hex, body) := match s with
    | 0x30 :: c :: r =>
      if lowerByte c = 0x62 || lowerByte c = 0x6F || lowerByte c = 0x78 then
        ('0', lowerByte c == 0x78, r)
      else ('^', false, s)
    | _ => ('^', false, s)
  let last := body.foldl (fun (saw : Option Char) c =>
    match saw with
    | none => none
    | some saw =>
      if (0x30 ≤ c && c ≤ 0x39) || (hex && 0x61 ≤ lowerByte c && lowerByte c ≤ 0x66) then some '0'
      else if c = 0x5F then (if saw = '0' then some '_' else none)
      else if saw = '_' then none
      else some '!') (some start)
  match last with
  | some saw => saw ≠ '_'
  | none => false

/-- Reads an unsigned integer of `bits` bits with a base prefix. -/
def parseUnsigned (s : List UInt8) (bits : Nat) : Except RadixError Nat := do
  if s.isEmpty then throw .malformed
  let (base, ds) := splitBase s
  let limit := Nat.pow 2 bits - 1
  let step (acc : Except RadixError (Nat × Bool)) (c : UInt8) : Except RadixError (Nat × Bool) := do
    let (n, under) ← acc
    if c = 0x5F then return (n, true)
    match digitValue c with
    | some d =>
      if d ≥ base then throw .malformed
      let n := n * base + d
      if n > limit then throw (.range limit)
      return (n, under)
    | none => throw .malformed
  let (n, under) ← ds.foldl step (.ok (0, false))
  if under && !underscoresFit s then throw .malformed
  return n

/-- Reads a signed integer of `bits` bits with an optional sign and a base prefix. -/
def parseSigned (s : List UInt8) (bits : Nat) : Except RadixError Int := do
  if s.isEmpty then throw .malformed
  let (neg, body) := match s with
    | 0x2D :: r => (true, r)
    | 0x2B :: r => (false, r)
    | r => (false, r)
  let top : Nat := Nat.pow 2 (bits - 1)
  let n ← match parseUnsigned body bits with
    | .ok n => pure n
    | .error .malformed => throw .malformed
    | .error (.range _) => throw (.range (if neg then -(top : Int) else Int.ofNat (top - 1)))
  if !neg && n ≥ top then throw (.range (Int.ofNat (top - 1)))
  if neg && n > top then throw (.range (-(top : Int)))
  return if neg then -(n : Int) else n

example : (parseUnsigned [0x30, 0x78, 0x66, 0x66] 8).toOption = some 255 ∧
    (parseUnsigned [0x30, 0x37] 8).toOption = some 7 ∧
    (parseUnsigned [0x32, 0x35, 0x36] 8).toOption = none ∧
    (parseUnsigned [0x30, 0x38] 8).toOption = none := by
  decide

end LcdPanel.Text
