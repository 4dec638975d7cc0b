import LcdPanel.Text.Quote

namespace LcdPanel.Json

open LcdPanel

/-- What an open object or array waits for. -/
inductive Nest where
  | objectKey
  | objectValue
  | arrayValue
  deriving DecidableEq, Repr

inductive ScanState where
  | beginValueOrEmpty
  | beginValue
  | beginStringOrEmpty
  | beginString
  | endValue
  | endTop
  | inString
  | inStringEsc
  | inStringEscU (k : Nat)
  | neg
  | one
  | zero
  | dot
  | dot0
  | exp
  | expSign
  | exp0
  | literal (word : String) (rest : List Char)
  deriving DecidableEq, Repr

structure Scanner where
  state : ScanState := .beginValue
  nest : List Nest := []
  endTop : Bool := false
  deriving DecidableEq, Repr

def maxDepth : Nat := 10000

def isSpace (c : UInt8) : Bool := c = 0x20 || c = 0x09 || c = 0x0D || c = 0x0A

def isDigit (c : UInt8) : Bool := 0x30 ≤ c && c ≤ 0x39

def isHexDigit (c : UInt8) : Bool :=
  isDigit c || (0x61 ≤ c && c ≤ 0x66) || (0x41 ≤ c && c ≤ 0x46)

/-- A character in single quotes, as errors show it: the character that starts the bytes,
escaped as in a quoted string, or `\xHH` for a byte that starts no character. -/
def quoteChar : List UInt8 → String
  | [] => "''"
  | c :: rest =>
    if !Utf8.frontValid c rest then "'\\x" ++ String.ofList (Nat.toDigits 16 c.toNat) ++ "'"
    else
      Text.quoteCharLiteral (Utf8.front c rest).1

def invalid (cs : List UInt8) (context : String) : Except String Scanner :=
  .error ("invalid character " ++ quoteChar cs ++ " " ++ context)

/-- The error for a bad escape in a string, with its text: between backquotes when it is
printable, quoted otherwise. -/
def badEscape (what : List UInt8) : Except String Scanner :=
  let plain := Utf8.valid what && (Utf8.runes what).all fun r =>
    r ≠ 0x60 && r ≠ Utf8.replacement && r ≠ 0x20 && Text.isPrintable r
  if plain then .error ("invalid escape sequence `" ++ Utf8.toText what ++ "` in string")
  else .error ("invalid escape sequence " ++ Text.quote what ++ " in string")

/-- Whether bytes may be the start of a `\u` escape cut short: a backslash, a `u`, then hex
digits. -/
def escapePrefix (w : List UInt8) : Bool :=
  match w with
  | 0x5C :: 0x75 :: digits => digits.all isHexDigit
  | [0x5C] => true
  | [] => true
  | _ => false

/-- What a backslash in a string starts, given the bytes from the backslash on: nothing wrong
(the escape is read byte by byte after it), or the error for a bad escape. An escape cut short
by the end of the input is left for the end to report. -/
def escapeFault (w : List UInt8) : Option (List UInt8) :=
  match w with
  | 0x5C :: d :: _ =>
    if [0x62, 0x66, 0x6E, 0x72, 0x74, 0x5C, 0x2F, 0x22].contains d then none
    else if d = 0x75 then
      if w.length < 6 then (if escapePrefix w then none else some w)
      else if ((w.drop 2).take 4).all isHexDigit then none
      else some (w.take 6)
    else some (w.take 2)
  | _ => none

namespace Scanner

def go (s : Scanner) (st : ScanState) : Except String Scanner := .ok { s with state := st }

def push (s : Scanner) (n : Nest) (st : ScanState) : Except String Scanner :=
  if s.nest.length ≥ maxDepth then .error "exceeded max depth"
  else .ok { s with nest := n :: s.nest, state := st }

def pop (s : Scanner) : Scanner :=
  match s.nest with
  | [] | [_] => { s with nest := [], state := .endTop, endTop := true }
  | _ :: rest => { s with nest := rest, state := .endValue }

/-- After the top-level value only white space may come; `cs` is the input from the byte on. -/
def atEndTop (s : Scanner) (c : UInt8) (cs : List UInt8) : Except String Scanner :=
  if isSpace c then .ok s else invalid cs "after top-level value"

/-- After a value: a separator or a closing bracket of the open object or array. -/
def atEndValue (s : Scanner) (c : UInt8) (cs : List UInt8) : Except String Scanner :=
  match s.nest with
  | [] => { s with state := .endTop, endTop := true }.atEndTop c cs
  | n :: rest =>
    if isSpace c then s.go .endValue
    else
      match n with
      | .objectKey =>
        if c = 0x3A then .ok { s with nest := .objectValue :: rest, state := .beginValue }
        else invalid cs "after object key"
      | .objectValue =>
        if c = 0x2C then .ok { s with nest := .objectKey :: rest, state := .beginString }
        else if c = 0x7D then .ok s.pop
        else invalid cs "after object key:value pair"
      | .arrayValue =>
        if c = 0x2C then s.go .beginValue
        else if c = 0x5D then .ok s.pop
        else invalid cs "after array element"

/-- At the start of a value. -/
def atBeginValue (s : Scanner) (c : UInt8) (cs : List UInt8) : Except String Scanner :=
  if isSpace c then .ok s
  else match c with
    | 0x7B => s.push .objectKey .beginStringOrEmpty
    | 0x5B => s.push .arrayValue .beginValueOrEmpty
    | 0x22 => s.go .inString
    | 0x2D => s.go .neg
    | 0x30 => s.go .zero
    | 0x74 => s.go (.literal "true" ['r', 'u', 'e'])
    | 0x66 => s.go (.literal "false" ['a', 'l', 's', 'e'])
    | 0x6E => s.go (.literal "null" ['u', 'l', 'l'])
    | _ => if 0x31 ≤ c ∧ c ≤ 0x39 then s.go .one else invalid cs "looking for beginning of value"

def atBeginString (s : Scanner) (c : UInt8) (cs : List UInt8) : Except String Scanner :=
  if isSpace c then .ok s
  else if c = 0x22 then s.go .inString
  else invalid cs "looking for beginning of object key string"

def atZero (s : Scanner) (c : UInt8) (cs : List UInt8) : Except String Scanner :=
  if c = 0x2E then s.go .dot
  else if c = 0x65 ∨ c = 0x45 then s.go .exp
  else s.atEndValue c cs

def atDigit (s : Scanner) (c : UInt8) (cs : List UInt8) (next : ScanState) :
    Except String Scanner :=
  if isDigit c then s.go next else invalid cs "in numeric literal"

/-- One byte `c`, with the rest of the input `rest` after it. -/
def step (s : Scanner) (c : UInt8) (rest : List UInt8) : Except String Scanner :=
  let cs := c :: rest
  match s.state with
  | .beginValueOrEmpty =>
    if isSpace c then .ok s else if c = 0x5D then s.atEndValue c cs else s.atBeginValue c cs
  | .beginValue => s.atBeginValue c cs
  | .beginStringOrEmpty =>
    if isSpace c then .ok s
    else if c = 0x7D then
      { s with nest := match s.nest with | _ :: more => .objectValue :: more | [] => [] }.atEndValue c cs
    else s.atBeginString c cs
  | .beginString => s.atBeginString c cs
  | .endValue => s.atEndValue c cs
  | .endTop => s.atEndTop c cs
  | .inString =>
    if c = 0x22 then s.go .endValue
    else if c = 0x5C then
      match escapeFault cs with
      | some what => badEscape what
      | none => s.go .inStringEsc
    else if c < 0x20 then invalid cs "in string"
    else .ok s
  | .inStringEsc =>
    if c = 0x75 then s.go (.inStringEscU 0) else s.go .inString
  | .inStringEscU k =>
    if isHexDigit c then s.go (if k ≥ 3 then .inString else .inStringEscU (k + 1))
    else badEscape cs
  | .neg =>
    if c = 0x30 then s.go .zero
    else s.atDigit c cs .one
  | .one => if isDigit c then .ok s else s.atZero c cs
  | .zero => s.atZero c cs
  | .dot => s.atDigit c cs .dot0
  | .dot0 =>
    if isDigit c then .ok s
    else if c = 0x65 ∨ c = 0x45 then s.go .exp
    else s.atEndValue c cs
  | .exp => if c = 0x2B ∨ c = 0x2D then s.go .expSign else s.atDigit c cs .exp0
  | .expSign => s.atDigit c cs .exp0
  | .exp0 => if isDigit c then .ok s else s.atEndValue c cs
  | .literal word more =>
    match more with
    | [] => s.atEndValue c cs
    | ch :: left =>
      if c.toNat = ch.toNat then s.go (if left = [] then .endValue else .literal word left)
      else invalid cs ("in literal " ++ word ++ " (expecting '" ++ String.singleton ch ++ "')")

def run (s : Scanner) : List UInt8 → Except String Scanner
  | [] => .ok s
  | c :: rest => do
    let s ← s.step c rest
    s.run rest

/-- Whether the input may end here: the top-level value is complete, a number included. -/
def complete (s : Scanner) : Bool :=
  s.endTop ||
    (s.nest.isEmpty &&
      match s.state with
      | .endValue | .one | .zero | .dot0 | .exp0 => true
      | _ => false)

def finish (s : Scanner) : Except String Unit :=
  if s.complete then .ok () else .error "unexpected end of JSON input"

end Scanner

def check (bs : List UInt8) : Except String Unit := do
  let s ← ({} : Scanner).run bs
  s.finish

/-! ## Reading a checked value -/

/-- A JSON value as written: members in order, duplicates kept, numbers as their text. -/
inductive JValue where
  | null
  | bool (b : Bool)
  | num (text : List UInt8)
  | str (bs : List UInt8)
  | arr (items : List JValue)
  | obj (members : List (List UInt8 × JValue))
  deriving Repr

def hexValue (c : UInt8) : Nat :=
  if isDigit c then c.toNat - 0x30
  else if 0x61 ≤ c ∧ c ≤ 0x66 then c.toNat - 0x61 + 10
  else c.toNat - 0x41 + 10

def hex4? (a b c d : UInt8) : Option Nat :=
  if isHexDigit a ∧ isHexDigit b ∧ isHexDigit c ∧ isHexDigit d then
    some (((hexValue a * 16 + hexValue b) * 16 + hexValue c) * 16 + hexValue d)
  else none

def shortEscape : UInt8 → Option Nat
  | 0x62 => some 8
  | 0x66 => some 12
  | 0x6E => some 10
  | 0x72 => some 13
  | 0x74 => some 9
  | 0x5C => some 0x5C
  | 0x2F => some 0x2F
  | 0x22 => some 0x22
  | _ => none

def isSurrogate (r : Nat) : Bool := 0xD800 ≤ r && r < 0xE000

/-- The characters of a string's body up to its closing quote, and what follows the quote. An
escaped surrogate pair is one character; a lone surrogate, and a byte that is not UTF-8, is
U+FFFD. -/
def readStringBody (bs : List UInt8) : List Nat × List UInt8 :=
  match bs with
  | [] => ([], [])
  | 0x22 :: rest => ([], rest)
  | 0x5C :: 0x75 :: a :: b :: c :: d :: rest =>
    match hex4? a b c d with
    | none => ([], rest)
    | some r =>
      if !isSurrogate r then
        let (rs, more) := readStringBody rest
        (r :: rs, more)
      else
        match _hr : rest with
        | 0x5C :: 0x75 :: e :: f :: g :: h :: rest2 =>
          match hex4? e f g h with
          | some r2 =>
            if r < 0xDC00 ∧ 0xDC00 ≤ r2 ∧ r2 < 0xE000 then
              let (rs, more) := readStringBody rest2
              ((0x10000 + (r - 0xD800) * 0x400 + (r2 - 0xDC00)) :: rs, more)
            else
              let (rs, more) := readStringBody rest
              (Utf8.replacement :: rs, more)
          | none =>
            let (rs, more) := readStringBody rest
            (Utf8.replacement :: rs, more)
        | _ =>
          let (rs, more) := readStringBody rest
          (Utf8.replacement :: rs, more)
  | 0x5C :: c :: rest =>
    let (rs, more) := readStringBody rest
    ((shortEscape c).getD Utf8.replacement :: rs, more)
  | b :: rest =>
    let (r, k) := Utf8.front b rest
    let (rs, more) := readStringBody (rest.drop k)
    (r :: rs, more)
termination_by bs.length
decreasing_by all_goals (try subst_vars); all_goals (simp only [List.length_cons, List.length_drop]; omega)

def isNumberByte (c : UInt8) : Bool :=
  isDigit c || c = 0x2D || c = 0x2B || c = 0x2E || c = 0x65 || c = 0x45

mutual

/-- Reads one value after white space, within `fuel` nested steps. -/
def readValue : Nat → List UInt8 → Option (JValue × List UInt8)
  | 0, _ => none
  | n + 1, bs =>
    match bs.dropWhile isSpace with
    | 0x7B :: rest => readMembers n (rest.dropWhile isSpace) []
    | 0x5B :: rest =>
      match rest.dropWhile isSpace with
      | 0x5D :: after => some (.arr [], after)
      | _ => readItems n rest []
    | 0x22 :: rest =>
      let (rs, after) := readStringBody rest
      some (.str (Utf8.encodeRunes rs), after)
    | 0x74 :: rest => some (.bool true, rest.drop 3)
    | 0x66 :: rest => some (.bool false, rest.drop 4)
    | 0x6E :: rest => some (.null, rest.drop 3)
    | c :: rest =>
      let digits := (c :: rest).takeWhile isNumberByte
      some (.num digits, (c :: rest).drop digits.length)
    | [] => none

/-- Reads the members of an object after its opening brace, `acc` those read so far. -/
def readMembers : Nat → List UInt8 → List (List UInt8 × JValue) → Option (JValue × List UInt8)
  | 0, _, _ => none
  | n + 1, bs, acc =>
    match bs with
    | 0x7D :: rest => some (.obj acc.reverse, rest)
    | 0x22 :: rest =>
      let (key, after) := readStringBody rest
      match (after.dropWhile isSpace) with
      | 0x3A :: afterColon =>
        match readValue n afterColon with
        | none => none
        | some (v, more) =>
          let acc := (Utf8.encodeRunes key, v) :: acc
          match more.dropWhile isSpace with
          | 0x2C :: next => readMembers n (next.dropWhile isSpace) acc
          | 0x7D :: rest => some (.obj acc.reverse, rest)
          | _ => none
      | _ => none
    | _ => none

def readItems : Nat → List UInt8 → List JValue → Option (JValue × List UInt8)
  | 0, _, _ => none
  | n + 1, bs, acc =>
    match readValue n bs with
    | none => none
    | some (v, more) =>
      match more.dropWhile isSpace with
      | 0x2C :: next => readItems n next (v :: acc)
      | 0x5D :: rest => some (.arr (v :: acc).reverse, rest)
      | _ => none

end

def parse (bs : List UInt8) : Except String JValue := do
  check bs
  match readValue (2 * bs.length + 2) bs with
  | some (v, _) => pure v
  | none => throw "unexpected end of JSON input"

end LcdPanel.Json
