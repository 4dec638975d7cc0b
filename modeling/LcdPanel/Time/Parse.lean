import LcdPanel.Time.Duration
import LcdPanel.Text.Utf8
import LcdPanel.Bytes.Hex

namespace LcdPanel.Time

open LcdPanel

/-- Why a text is not a span of time. -/
inductive DurationError
  | invalid (text : List UInt8)
  | missingUnit (text : List UInt8)
  | unknownUnit (unit text : List UInt8)
  deriving DecidableEq, Repr

/-- A text in double quotes, with a backslash before a quote or a backslash and every byte
outside printable ASCII written as `\xHH`. -/
def quoteBytes (bs : List UInt8) : String :=
  "\"" ++ String.join (bs.map fun b =>
    if b < 0x20 || 0x80 ≤ b then "\\x" ++ Hex.pad 2 b.toNat
    else if b = 0x22 || b = 0x5C then String.ofList ['\\', Char.ofNat b.toNat]
    else String.singleton (Char.ofNat b.toNat)) ++ "\""

def DurationError.message : DurationError → String
  | .invalid text => "time: invalid duration " ++ quoteBytes text
  | .missingUnit text => "time: missing unit in duration " ++ quoteBytes text
  | .unknownUnit u text => "time: unknown unit " ++ quoteBytes u ++ " in duration " ++ quoteBytes text

def units : List (String × Nat) :=
  [("ns", 1), ("us", 1000), ("µs", 1000), ("μs", 1000), ("ms", 1000000), ("s", 1000000000),
    ("m", 60000000000), ("h", 3600000000000)]

def unitNanos? (u : List UInt8) : Option Nat :=
  (units.find? fun p => Utf8.ofString p.1 = u).map (·.2)

def isDigit (b : UInt8) : Bool := 0x30 ≤ b && b ≤ 0x39

def limit : Nat := Nat.pow 2 63

/-- The value of the leading digits, or nothing once it would pass the limit. -/
def wholeValue? (ds : List UInt8) : Option Nat :=
  ds.foldl (fun acc d => acc.bind fun x =>
    if x > limit / 10 then none
    else
      let y := x * 10 + (d.toNat - 0x30)
      if y > limit then none else some y) (some 0)

/-- The value of fraction digits with the power of ten it is to be divided by; digits that would
pass the limit are read but ignored. The power is kept in double precision, multiplied by ten
for each digit taken, so past `10^22` it carries the rounding of each product. -/
def fractionValue (ds : List UInt8) : Nat × Float :=
  let step (acc : Nat × Float × Bool) (d : UInt8) : Nat × Float × Bool :=
    let (x, scale, full) := acc
    if full then acc
    else if x > (limit - 1) / 10 then (x, scale, true)
    else
      let y := x * 10 + (d.toNat - 0x30)
      if y > limit then (x, scale, true) else (y, scale * 10, false)
  let (x, scale, _) := ds.foldl step (0, 1, false)
  (x, scale)

/-- The share of a unit that a fraction stands for, rounded down after a double-precision
product. -/
def fractionNanos (f : Nat) (scale : Float) (unit : Nat) : Nat :=
  (Float.ofNat f * (Float.ofNat unit / scale)).toUInt64.toNat

/-- Reads the numbers of a span after its sign, adding to `d`; `fuel` bounds the number of
numbers, each of which takes at least one byte. -/
def readTerms (text : List UInt8) : Nat → List UInt8 → Nat → Except DurationError Nat
  | 0, _, _ => .error (.invalid text)
  | _, [], d => .ok d
  | fuel + 1, s, d => do
    match s with
    | c :: _ => if !(c = 0x2E || isDigit c) then throw (.invalid text)
    | [] => pure ()
    let whole := s.takeWhile isDigit
    let s := s.drop whole.length
    let v ← match wholeValue? whole with
      | some v => pure v
      | none => throw (.invalid text)
    let (frac, hasFrac, s) := match s with
      | 0x2E :: rest =>
        let ds := rest.takeWhile isDigit
        (ds, !ds.isEmpty, rest.drop ds.length)
      | _ => ([], false, s)
    if whole.isEmpty && !hasFrac then throw (.invalid text)
    let u := s.takeWhile fun c => !(c = 0x2E || isDigit c)
    let s := s.drop u.length
    if u.isEmpty then throw (.missingUnit text)
    let unit ← match unitNanos? u with
      | some n => pure n
      | none => throw (.unknownUnit u text)
    if v > limit / unit then throw (.invalid text)
    let (f, scale) := fractionValue frac
    let v := v * unit + (if f > 0 then fractionNanos f scale unit else 0)
    if v > limit then throw (.invalid text)
    let d := d + v
    if d > limit then throw (.invalid text)
    readTerms text fuel s d

/-- Reads a span of time. -/
def Duration.parse (text : List UInt8) : Except DurationError Duration := do
  let (neg, s) := match text with
    | 0x2D :: rest => (true, rest)
    | 0x2B :: rest => (false, rest)
    | _ => (false, text)
  if s = [0x30] then return ⟨0⟩
  if s.isEmpty then throw (.invalid text)
  let d ← readTerms text (s.length + 1) s 0
  if neg then return ⟨-(d : Int)⟩
  if d > limit - 1 then throw (.invalid text)
  return ⟨d⟩

end LcdPanel.Time
