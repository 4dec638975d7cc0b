import LcdPanel.Toml.Scan

namespace LcdPanel.Toml

open LcdPanel

def isBareKeyChar (c : UInt8) : Bool :=
  (0x61 ≤ c && c ≤ 0x7A) || (0x41 ≤ c && c ≤ 0x5A) || isDigit c || c = 0x2D || c = 0x5F

def simpleKey (b : List UInt8) : Except ParseError (List UInt8 × List UInt8) :=
  match b with
  | [] => .error ⟨"expected key but found none"⟩
  | 0x27 :: rest => scanLiteral rest
  | 0x22 :: rest => basicString rest
  | c :: _ =>
    if isBareKeyChar c then .ok (b.takeWhile isBareKeyChar, b.dropWhile isBareKeyChar)
    else .error ⟨"invalid character at start of key: " ++ byteChar c⟩

/-- The parts of a dotted key after the first, each after a dot; blanks around the dots are
skipped, and so are the blanks after the key. -/
def keyParts : Nat → Key → List UInt8 → Except ParseError (Key × List UInt8)
  | 0, acc, b => .ok (acc, b)
  | fuel + 1, acc, b =>
    match skipBlanks b with
    | 0x2E :: rest => do
      let (k, r) ← simpleKey (skipBlanks rest)
      keyParts fuel (acc ++ [k]) r
    | b => .ok (acc, b)

def key (b : List UInt8) : Except ParseError (Key × List UInt8) := do
  let (k, rest) ← simpleKey b
  keyParts (rest.length + 1) [k] rest

def startsWith (b : List UInt8) (word : String) : Bool :=
  (Utf8.ofString word).isPrefixOf b

/-! ## Numbers and dates -/

/-- The length of the run of number characters at the front and whether it makes a float: the
run ends a float at `inf` or `nan`; any other `i` or `n` in it is a fault. -/
def numberRun : List UInt8 → Except ParseError (Nat × Bool)
  | [] => .ok (0, false)
  | c :: rest =>
    if isDigit c || c = 0x2B || c = 0x2D || c = 0x5F then
      (fun (n, f) => (n + 1, f)) <$> numberRun rest
    else if c = 0x2E || c = 0x65 || c = 0x45 then
      (fun (n, _) => (n + 1, true)) <$> numberRun rest
    else if c = 0x69 then
      if startsWith (c :: rest) "inf" then .ok (3, true)
      else .error ⟨"unexpected character 'i' while scanning for a number"⟩
    else if c = 0x6E then
      if startsWith (c :: rest) "nan" then .ok (3, true)
      else .error ⟨"unexpected character 'n' while scanning for a number"⟩
    else .ok (0, false)

/-- Whether a byte is a digit of the base a prefix letter names (`x`, `o` or `b`); underscores
count as digits here. -/
def baseDigit (prefixLetter c : UInt8) : Bool :=
  c = 0x5F ||
    (if prefixLetter = 0x78 then (hexDigit? c).isSome
     else if prefixLetter = 0x6F then 0x30 ≤ c && c ≤ 0x37
     else c = 0x30 || c = 0x31)

/-- A number at the front of a text. -/
def number (b : List UInt8) : Except ParseError (Value × List UInt8) :=
  match b with
  | 0x30 :: p :: _ :: _ =>
    if p = 0x2E || p = 0x65 || p = 0x45 then general
    else if p = 0x78 || p = 0x6F || p = 0x62 then
      let n := 2 + ((b.drop 2).takeWhile (baseDigit p)).length
      .ok (.integer (b.take n), b.drop n)
    else .ok (.integer [0x30], b.drop 1)
  | _ => general
where
  general : Except ParseError (Value × List UInt8) := do
    let (n, isFloat) ← numberRun b
    if n = 0 then throw ⟨"incomplete number"⟩
    let raw := b.take n
    pure (if isFloat then .float raw else .integer raw, b.drop n)

/-- What a scan of a date has seen. -/
structure DateSeen where
  hasDate : Bool := false
  hasTime : Bool := false
  hasZone : Bool := false
  spaced : Bool := false
  length : Nat := 0

/-- Scans the characters that can make a date or a time: digits and `T:.+-Z`, and once a space
followed by a digit, which takes the byte after that digit along whatever it is. A dash from
the ninth character on starts an offset. `i` is the index of the front character. -/
def dateRun (i : Nat) (s : DateSeen) : List UInt8 → DateSeen
  | [] => s
  | c :: rest =>
    if isDigit c then dateRun (i + 1) { s with length := s.length + 1 } rest
    else if c = 0x2D then
      dateRun (i + 1) { s with hasDate := true, hasZone := s.hasZone || 8 ≤ i, length := s.length + 1 } rest
    else if c = 0x54 || c = 0x74 || c = 0x3A || c = 0x2E then
      dateRun (i + 1) { s with hasTime := true, length := s.length + 1 } rest
    else if c = 0x2B || c = 0x5A || c = 0x7A then
      dateRun (i + 1) { s with hasZone := true, length := s.length + 1 } rest
    else if c = 0x20 then
      match rest with
      | d :: more =>
        if !s.spaced && isDigit d then
          let s := { s with spaced := true, hasTime := true }
          match more with
          | _ :: after => dateRun (i + 3) { s with length := s.length + 3 } after
          | [] => { s with length := s.length + 2 }
        else s
      | [] => s
    else s

/-- A date or time at the front of a text. Its kind follows from what the scan saw: a time
without a date is a local time and a date without a time a local date, whatever else they
have; a date and a time make an offset date-time when an offset was seen, else a local
date-time. -/
def dateTime (b : List UInt8) : Value × List UInt8 :=
  let s := dateRun 0 {} b
  let kind : DateKind :=
    if !s.hasTime then .localDate
    else if !s.hasDate then .localTime
    else if s.hasZone then .offsetDateTime
    else .localDateTime
  (.date kind (b.take s.length), b.drop s.length)

/-- Whether a text starts a date or a time: two digits and a colon, or four digits and a
dash. -/
def startsDate (b : List UInt8) : Bool :=
  let front := b.take 5
  let digits := (front.takeWhile isDigit).length
  match front.drop digits with
  | c :: _ => (digits = 2 && c = 0x3A) || (digits = 4 && c = 0x2D)
  | [] => false

def numberOrDate (b : List UInt8) : Except ParseError (Value × List UInt8) :=
  match b with
  | 0x69 :: _ =>
    if startsWith b "inf" then .ok (.float (b.take 3), b.drop 3) else .error ⟨"expected 'inf'"⟩
  | 0x6E :: _ =>
    if startsWith b "nan" then .ok (.float (b.take 3), b.drop 3) else .error ⟨"expected 'nan'"⟩
  | 0x2B :: _ | 0x2D :: _ => number b
  | _ => if b.length ≥ 3 && startsDate b then .ok (dateTime b) else number b

/-! ## Values -/

def skipBlankLines : Nat → List UInt8 → Except ParseError (List UInt8)
  | 0, b => .ok b
  | fuel + 1, b => do
    let b := skipBlanks b
    let b ← match b with
      | 0x23 :: rest => skipComment rest
      | _ => pure b
    match b with
    | 0x0A :: _ | 0x0D :: _ => skipBlankLines fuel (← skipNewline b)
    | _ => pure b

def blankLines (b : List UInt8) : Except ParseError (List UInt8) :=
  skipBlankLines (b.length + 1) b

mutual

/-- A value at the front of a text. -/
def value : Nat → List UInt8 → Except ParseError (Value × List UInt8)
  | 0, _ => .error ⟨"document nested too deeply"⟩
  | fuel + 1, b =>
    match b with
    | [] => .error ⟨"expected value, not eof"⟩
    | 0x22 :: 0x22 :: 0x22 :: rest => (fun (v, r) => (.string v, r)) <$> multiBasicString rest
    | 0x22 :: rest => (fun (v, r) => (.string v, r)) <$> basicString rest
    | 0x27 :: 0x27 :: 0x27 :: rest => (fun (v, r) => (.string v, r)) <$> multiLiteralString rest
    | 0x27 :: rest => (fun (v, r) => (.string v, r)) <$> scanLiteral rest
    | 0x74 :: _ =>
      if startsWith b "true" then .ok (.boolean true, b.drop 4) else .error ⟨"expected 'true'"⟩
    | 0x66 :: _ =>
      if startsWith b "false" then .ok (.boolean false, b.drop 5) else .error ⟨"expected 'false'"⟩
    | 0x5B :: rest => arrayItems fuel true [] rest
    | 0x7B :: rest => tableItems fuel true [] rest
    | _ => numberOrDate b

/-- The items of an array after its opening bracket, `acc` already read; commas separate them
and may trail, and blank lines and comments may stand anywhere between them. -/
def arrayItems : Nat → Bool → List Value → List UInt8 → Except ParseError (Value × List UInt8)
  | 0, _, _, _ => .error ⟨"document nested too deeply"⟩
  | fuel + 1, first, acc, b =>
    match b with
    | [] => .error ⟨"expected character ] but the document ended here"⟩
    | _ => do
      let b ← blankLines b
      match b with
      | [] => throw ⟨"array is incomplete"⟩
      | 0x5D :: rest => pure (.array acc, rest)
      | c :: rest =>
        let b ← if c = 0x2C then
            if first then throw ⟨"array cannot start with comma"⟩ else blankLines rest
          else if !first then throw ⟨"array elements must be separated by commas"⟩
          else pure b
        match b with
        | 0x5D :: rest => pure (.array acc, rest)
        | _ =>
          let (v, b) ← value fuel b
          let b ← blankLines b
          arrayItems fuel false (acc ++ [v]) b

/-- The pairs of an inline table after its opening brace, `acc` already read, separated by
commas on one line. -/
def tableItems : Nat → Bool → List (Key × Value) → List UInt8 →
    Except ParseError (Value × List UInt8)
  | 0, _, _, _ => .error ⟨"document nested too deeply"⟩
  | fuel + 1, first, acc, b =>
    match b with
    | [] => .error ⟨"expected character \x7d but the document ended here"⟩
    | _ => do
      match skipBlanks b with
      | [] => throw ⟨"inline table is incomplete"⟩
      | 0x7D :: rest => pure (.table acc, rest)
      | b =>
        let b ← if first then pure b else do pure (skipBlanks (← expect 0x2C b))
        let (kv, b) ← keyValue fuel b
        tableItems fuel false (acc ++ [kv]) b

def keyValue : Nat → List UInt8 → Except ParseError ((Key × Value) × List UInt8)
  | 0, _ => .error ⟨"document nested too deeply"⟩
  | fuel + 1, b => do
    let (k, b) ← key b
    let b := skipBlanks b
    if b.isEmpty then throw ⟨"expected = after a key, but the document ends there"⟩
    let b ← expect 0x3D b
    let (v, b) ← value fuel (skipBlanks b)
    pure ((k, v), b)

end

/-! ## Expressions -/

def tableHeader (b : List UInt8) : Except ParseError (Expr × List UInt8) := do
  let (k, b) ← key (skipBlanks b)
  let b ← expect 0x5D (skipBlanks b)
  pure (.table k, b)

def arrayTableHeader (b : List UInt8) : Except ParseError (Expr × List UInt8) := do
  let (k, b) ← key (skipBlanks b)
  let b ← expect 0x5D (skipBlanks b)
  let b ← expect 0x5D b
  pure (.arrayTable k, b)

/-- One line's expression, if it has one, and the text after it (up to its line end). -/
def expression (b : List UInt8) : Except ParseError (Option Expr × List UInt8) := do
  let b := skipBlanks b
  match b with
  | [] => pure (none, [])
  | 0x23 :: rest => pure (none, ← skipComment rest)
  | 0x0A :: _ | 0x0D :: _ => pure (none, b)
  | _ =>
    let (e, b) ← match b with
      | 0x5B :: 0x5B :: rest => arrayTableHeader rest
      | 0x5B :: rest => tableHeader rest
      | _ => do
        let ((k, v), r) ← keyValue (2 * b.length + 4) b
        pure (Expr.keyValue k v, r)
    match skipBlanks b with
    | 0x23 :: rest => pure (some e, ← skipComment rest)
    | b => pure (some e, b)

/-- The expressions of a text, `first` when nothing was read before it, and the fault that
stopped the reading, if any. -/
def readExpressions : Nat → Bool → List UInt8 → List Expr × Option ParseError
  | 0, _, _ => ([], none)
  | fuel + 1, first, b =>
    if b.isEmpty then ([], none)
    else
      match (if first then Except.ok b else skipNewline b) with
      | .error e => ([], some e)
      | .ok b =>
        if b.isEmpty then ([], none)
        else
          match expression b with
          | .error e => ([], some e)
          | .ok (none, r) => readExpressions fuel false r
          | .ok (some e, r) =>
            let (es, fault) := readExpressions fuel false r
            (e :: es, fault)

/-- The expressions of a document in order, and the fault that ends the reading early, if any:
what comes before a fault is read as if the document ended there. -/
def expressions (doc : List UInt8) : List Expr × Option ParseError :=
  readExpressions (doc.length + 2) true doc

end LcdPanel.Toml
