import LcdPanel.Toml.Scan
import LcdPanel.Text.Quote
import LcdPanel.Text.Radix

namespace LcdPanel.Toml

open LcdPanel

def syntaxFault (fn : String) (s : List UInt8) : String :=
  s!"strconv.{fn}: parsing {Text.quote s}: invalid syntax"

def rangeFault (fn : String) (s : List UInt8) : String :=
  s!"strconv.{fn}: parsing {Text.quote s}: value out of range"

/-- Why a text is no number: it is malformed, or too large. -/
inductive NumberFault
  | malformed
  | range
  deriving DecidableEq, Repr

/-- The value of digits in a base, refusing any other byte and stopping at the first digit that
takes the value past `limit`. -/
def digitsIn (base limit : Nat) : Nat → List UInt8 → Except NumberFault Nat
  | n, [] => .ok n
  | n, c :: rest =>
    match hexDigit? c with
    | some d =>
      if d ≥ base then .error .malformed
      else if n * base + d > limit then .error .range
      else digitsIn base limit (n * base + d) rest
    | none => .error .malformed

/-- A signed 64-bit integer in a base, with an optional sign. -/
def signedIn (base : Nat) (s : List UInt8) : Except NumberFault Int := do
  let (neg, body) := match s with
    | 0x2D :: r => (true, r)
    | 0x2B :: r => (false, r)
    | r => (false, r)
  if body.isEmpty then throw .malformed
  let n ← match digitsIn base (Nat.pow 2 64 - 1) 0 body with
    | .ok n => pure n
    | .error .malformed => throw .malformed
    | .error .range => throw .range
  if !neg && n ≥ Nat.pow 2 63 then throw .range
  if neg && n > Nat.pow 2 63 then throw .range
  return if neg then -(n : Int) else n

/-- The digits of an integer without its underscores, each of which must stand between two
digits. -/
def integerDigits (b : List UInt8) : Except String (List UInt8) :=
  let start := match b with
    | 0x2B :: _ | 0x2D :: _ => 1
    | _ => 0
  let body := b.drop start
  match body with
  | [] => .ok b
  | c :: _ =>
    if c = 0x5F then .error "number cannot start with underscore"
    else if b.getLast? = some 0x5F then .error "number cannot end with underscore"
    else
      let go (acc : Except String (List UInt8 × Bool)) (c : UInt8) : Except String (List UInt8 × Bool) :=
        acc.bind fun (out, before) =>
          if c = 0x5F then
            if before then .ok (out, false)
            else .error "number must have at least one digit between underscores"
          else .ok (out ++ [c], true)
      (·.1) <$> body.foldl go (.ok (b.take start, true))

/-- The value of an integer as written in a document. -/
def integerValue (raw : List UInt8) : Except String Int :=
  match raw with
  | 0x30 :: p :: ds@(_ :: _) =>
    if p = 0x78 then based 16 "hexadecimal" ds
    else if p = 0x6F then based 8 "octal" ds
    else if p = 0x62 then based 2 "binary" ds
    else decimal
  | _ => decimal
where
  based (base : Nat) (name : String) (ds : List UInt8) : Except String Int := do
    let cleaned ← integerDigits ds
    match signedIn base cleaned with
    | .ok v => pure v
    | .error .malformed => throw ("couldn't parse " ++ name ++ " number: " ++ syntaxFault "ParseInt" cleaned)
    | .error .range => throw ("couldn't parse " ++ name ++ " number: " ++ rangeFault "ParseInt" cleaned)
  decimal : Except String Int := do
    let cleaned ← integerDigits raw
    let start := match cleaned with
      | 0x2B :: _ | 0x2D :: _ => 1
      | _ => 0
    if cleaned.length > start + 1 && cleaned[start]? = some 0x30 then
      throw "leading zero not allowed on decimal number"
    match signedIn 10 cleaned with
    | .ok v => pure v
    | .error .malformed => throw ("couldn't parse decimal number: " ++ syntaxFault "ParseInt" cleaned)
    | .error .range => throw ("couldn't parse decimal number: " ++ rangeFault "ParseInt" cleaned)

/-! ## Floats -/

/-- The characters of a float without its underscores, each of which must stand between two
digits and not next to the exponent or the decimal point. -/
def floatDigits (b : List UInt8) : Except String (List UInt8) :=
  if b.head? = some 0x5F then .error "number cannot start with underscore"
  else if b.getLast? = some 0x5F then .error "number cannot end with underscore"
  else if !b.contains 0x5F then .ok b
  else
    let idx := List.range b.length
    let step (acc : Except String (List UInt8 × Bool)) (i : Nat) : Except String (List UInt8 × Bool) :=
      acc.bind fun (out, before) =>
        let c := b.getD i 0
        let next := b[i + 1]?
        if c = 0x5F then
          if !before then .error "number must have at least one digit between underscores"
          else if next = some 0x65 || next = some 0x45 then .error "cannot have underscore before exponent"
          else .ok (out, false)
        else if c = 0x2B || c = 0x2D then .ok (out ++ [c], false)
        else if c = 0x65 || c = 0x45 then
          if next = some 0x5F then .error "cannot have underscore after exponent"
          else .ok (out ++ [c], before)
        else if c = 0x2E then
          if next = some 0x5F then .error "cannot have underscore after decimal point"
          else if i > 0 && b[i - 1]? = some 0x5F then .error "cannot have underscore before decimal point"
          else .ok (out ++ [c], before)
        else .ok (out ++ [c], true)
    (·.1) <$> idx.foldl step (.ok ([], false))

/-- Whether a text is one of the standard reader's infinities (signed or not) or its
not-a-number (unsigned), case aside. -/
def specialFloat (s : List UInt8) : Bool :=
  let lower (b : List UInt8) : List UInt8 := b.map Text.lowerByte
  match s with
  | 0x2B :: r | 0x2D :: r => lower r = Utf8.ofString "inf" || lower r = Utf8.ofString "infinity"
  | r => lower r = Utf8.ofString "inf" || lower r = Utf8.ofString "infinity" ||
    lower r = Utf8.ofString "nan"

/-- A decimal float's digits and the power of ten that scales them, if the text is one:
digits with at most one point, at least one digit, and an optional exponent with digits. -/
def decimalParts (s : List UInt8) : Option (Nat × Int) :=
  let body := match s with
    | 0x2B :: r | 0x2D :: r => r
    | r => r
  let whole := body.takeWhile isDigit
  let afterWhole := body.drop whole.length
  let (frac, afterFrac) := match afterWhole with
    | 0x2E :: r => (r.takeWhile isDigit, r.drop (r.takeWhile isDigit).length)
    | r => ([], r)
  if whole.isEmpty && frac.isEmpty then none
  else
    let mantissa := (whole ++ frac).foldl (fun n c => n * 10 + (c.toNat - 0x30)) 0
    match afterFrac with
    | [] => some (mantissa, -(frac.length : Int))
    | e :: r =>
      if e = 0x65 || e = 0x45 then
        let (eneg, eds) := match r with
          | 0x2D :: q => (true, q)
          | 0x2B :: q => (false, q)
          | q => (false, q)
        if eds.isEmpty || !eds.all isDigit then none
        else
          let ev : Nat := eds.foldl (fun n c => if n < 10000 then n * 10 + (c.toNat - 0x30) else n) 0
          let ev : Int := if eneg then -(ev : Int) else (ev : Int)
          some (mantissa, ev - (frac.length : Int))
      else none

def decimalWidth (n : Nat) : Nat := (Nat.toDigits 10 n).length

/-- Whether `m · 10^e` rounds to infinity as a double: whether it reaches halfway between the
largest double and 2^1024. -/
def overflows (m : Nat) (e : Int) : Bool :=
  if m = 0 then false
  else
    let top := Nat.pow 2 1024 - Nat.pow 2 970
    let w : Int := decimalWidth m
    if w - 1 + e ≥ 309 then true
    else if w + e ≤ 308 then false
    else if e ≥ 0 then m * Nat.pow 10 e.toNat ≥ top
    else m ≥ top * Nat.pow 10 (-e).toNat

def readDouble (s : List UInt8) : Except NumberFault Unit :=
  if specialFloat s then .ok ()
  else
    match decimalParts s with
    | none => .error .malformed
    | some (m, e) => if overflows m e then .error .range else .ok ()

/-- Checks a float as written in a document. -/
def floatValid (raw : List UInt8) : Except String Unit := do
  if raw = Utf8.ofString "+nan" || raw = Utf8.ofString "-nan" then return
  let cleaned ← floatDigits raw
  if cleaned.head? = some 0x2E then throw "float cannot start with a dot"
  if cleaned.getLast? = some 0x2E then throw "float cannot end with a dot"
  let dots := (List.range cleaned.length).filter fun i => cleaned[i]? = some 0x2E
  let digitAt (i : Nat) : Bool := (cleaned[i]?.map isDigit).getD false
  let checkDot (seen : Except String Bool) (i : Nat) : Except String Bool :=
    seen.bind fun seen =>
      if seen then .error "float can have at most one decimal point"
      else if !digitAt (i - 1) then .error "float decimal point must be preceded by a digit"
      else if !digitAt (i + 1) then .error "float decimal point must be followed by a digit"
      else .ok true
  let _ ← dots.foldl checkDot (.ok false)
  let start := match cleaned with
    | 0x2B :: _ | 0x2D :: _ => 1
    | _ => 0
  if cleaned[start]? = some 0x30 && (cleaned[start + 1]?.map isDigit).getD false then
    throw "float integer part cannot have leading zeroes"
  match readDouble cleaned with
  | .ok () => pure ()
  | .error .malformed => throw ("unable to parse float: " ++ syntaxFault "ParseFloat" cleaned)
  | .error .range => throw ("unable to parse float: " ++ rangeFault "ParseFloat" cleaned)

end LcdPanel.Toml
