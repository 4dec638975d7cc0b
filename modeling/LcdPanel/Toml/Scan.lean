import LcdPanel.Toml.Document

namespace LcdPanel.Toml

open LcdPanel

def isDigit (c : UInt8) : Bool := 0x30 ≤ c && c ≤ 0x39

def isBlank (c : UInt8) : Bool := c = 0x20 || c = 0x09

def skipBlanks (b : List UInt8) : List UInt8 := b.dropWhile isBlank

/-- Whether an ASCII byte may not appear in a document: a control character other than the tab,
the line feed and the carriage return. -/
def badAscii (c : UInt8) : Bool :=
  (c < 0x20 && c != 0x09 && c != 0x0A && c != 0x0D) || c = 0x7F

/-- The length of the character at the front, or 0 when it is not allowed (a bad control
character or a byte that starts no well-formed UTF-8 sequence). -/
def charSize : List UInt8 → Nat
  | [] => 0
  | c :: rest =>
    if c < 0x80 then (if badAscii c then 0 else 1)
    else if Utf8.frontValid c rest then (Utf8.front c rest).2 + 1 else 0

def allowedText : List UInt8 → Bool
  | [] => true
  | c :: rest => charSize (c :: rest) != 0 && allowedText (rest.drop (charSize (c :: rest) - 1))
termination_by b => b.length
decreasing_by simp only [List.length_drop, List.length_cons]; omega

/-- The text after a comment whose `#` is already read: everything up to the line end. A
carriage return may only stand right before the line feed that ends the comment. -/
def skipComment : List UInt8 → Except ParseError (List UInt8)
  | [] => .ok []
  | 0x0A :: rest => .ok (0x0A :: rest)
  | 0x0D :: 0x0A :: rest => .ok (0x0A :: rest)
  | 0x0D :: _ => .error ⟨"invalid character in comment"⟩
  | c :: rest =>
    if charSize (c :: rest) = 0 then .error ⟨"invalid character in comment"⟩
    else skipComment (rest.drop (charSize (c :: rest) - 1))
termination_by b => b.length
decreasing_by all_goals simp only [List.length_drop, List.length_cons]; omega

def skipNewline : List UInt8 → Except ParseError (List UInt8)
  | [] => .ok []
  | 0x0A :: rest => .ok rest
  | 0x0D :: 0x0A :: rest => .ok rest
  | [0x0D] => .error ⟨"windows new line expected"⟩
  | 0x0D :: _ => .error ⟨"windows new line should be \\r\\n"⟩
  | c :: _ => .error ⟨"expected newline but got " ++ unicodeText c.toNat⟩

def expect (x : UInt8) : List UInt8 → Except ParseError (List UInt8)
  | [] => .error ⟨"expected character " ++ byteChar x ++ " but the document ended here"⟩
  | c :: rest => if c = x then .ok rest else .error ⟨"expected character " ++ byteChar x⟩

/-! ## Scanning strings -/

/-- Scans a one-line basic string after its opening quote: its raw body, whether the body holds
an escape, and the text after the closing quote. An escape always takes the byte after it. -/
def scanBasic : List UInt8 → Except ParseError (List UInt8 × Bool × List UInt8)
  | [] => .error ⟨"basic string not terminated by \""⟩
  | 0x22 :: rest => .ok ([], false, rest)
  | 0x0A :: _ | 0x0D :: _ => .error ⟨"basic strings cannot have new lines"⟩
  | [0x5C] => .error ⟨"need a character after \\"⟩
  | 0x5C :: c :: rest => do
    let (body, _, r) ← scanBasic rest
    pure (0x5C :: c :: body, true, r)
  | c :: rest => do
    let (body, e, r) ← scanBasic rest
    pure (c :: body, e, r)

/-- Scans a literal string after its opening apostrophe: its body and the text after it. -/
def scanLiteral : List UInt8 → Except ParseError (List UInt8 × List UInt8)
  | [] => .error ⟨"unterminated literal string"⟩
  | 0x27 :: rest => .ok ([], rest)
  | 0x0A :: _ | 0x0D :: _ => .error ⟨"literal strings cannot have new lines"⟩
  | c :: rest =>
    if charSize (c :: rest) = 0 then .error ⟨"invalid character"⟩
    else do
      let (body, r) ← scanLiteral (rest.drop (charSize (c :: rest) - 1))
      pure ((c :: rest).take (charSize (c :: rest)) ++ body, r)
termination_by b => b.length
decreasing_by all_goals simp only [List.length_drop, List.length_cons]; omega

/-- Scans a multi-line basic string after its opening quotes. The closing quotes may be preceded
by one or two more quotes, which belong to the body; six in a row are refused. -/
def scanMultiBasic : List UInt8 → Except ParseError (List UInt8 × Bool × List UInt8)
  | [] => .error ⟨"multiline basic string not terminated by \"\"\""⟩
  | 0x22 :: 0x22 :: 0x22 :: rest =>
    match rest with
    | 0x22 :: 0x22 :: 0x22 :: _ => .error ⟨"\"\"\" not allowed in multiline basic string"⟩
    | 0x22 :: 0x22 :: r => .ok ([0x22, 0x22], false, r)
    | 0x22 :: r => .ok ([0x22], false, r)
    | r => .ok ([], false, r)
  | [0x5C] => .error ⟨"need a character after \\"⟩
  | 0x5C :: c :: rest => do
    let (body, _, r) ← scanMultiBasic rest
    pure (0x5C :: c :: body, true, r)
  | [0x0D] => .error ⟨"need a \\n after \\r"⟩
  | 0x0D :: 0x0A :: rest => do
    let (body, e, r) ← scanMultiBasic rest
    pure (0x0D :: 0x0A :: body, e, r)
  | 0x0D :: _ => .error ⟨"need a \\n after \\r"⟩
  | c :: rest => do
    let (body, e, r) ← scanMultiBasic rest
    pure (c :: body, e, r)

/-- Scans a multi-line literal string after its opening apostrophes, as for basic strings. -/
def scanMultiLiteral : List UInt8 → Except ParseError (List UInt8 × List UInt8)
  | [] => .error ⟨"multiline literal string not terminated by '''"⟩
  | 0x27 :: 0x27 :: 0x27 :: rest =>
    match rest with
    | 0x27 :: 0x27 :: 0x27 :: _ => .error ⟨"''' not allowed in multiline literal string"⟩
    | 0x27 :: 0x27 :: r => .ok ([0x27, 0x27], r)
    | 0x27 :: r => .ok ([0x27], r)
    | r => .ok ([], r)
  | [0x0D] => .error ⟨"need a \\n after \\r"⟩
  | 0x0D :: 0x0A :: rest => do
    let (body, r) ← scanMultiLiteral rest
    pure (0x0D :: 0x0A :: body, r)
  | 0x0D :: _ => .error ⟨"need a \\n after \\r"⟩
  | c :: rest =>
    if charSize (c :: rest) = 0 then .error ⟨"invalid character"⟩
    else do
      let (body, r) ← scanMultiLiteral (rest.drop (charSize (c :: rest) - 1))
      pure ((c :: rest).take (charSize (c :: rest)) ++ body, r)
termination_by b => b.length
decreasing_by all_goals simp only [List.length_drop, List.length_cons]; omega

/-! ## Escapes -/

def hexDigit? (c : UInt8) : Option Nat :=
  if isDigit c then some (c.toNat - 0x30)
  else if 0x61 ≤ c && c ≤ 0x66 then some (c.toNat - 0x57)
  else if 0x41 ≤ c && c ≤ 0x46 then some (c.toNat - 0x37)
  else none

/-- The code point written by the `length` hex digits at the front of a text. -/
def hexRune (b : List UInt8) (length : Nat) : Except ParseError Nat :=
  let ds := b.take length
  if ds.length < length then
    .error ⟨s!"unicode point needs {length} character, not {ds.length}"⟩
  else
    match ds.foldl (fun acc c => acc.bind fun r => (hexDigit? c).map (r * 16 + ·)) (some 0) with
    | none => .error ⟨"non-hex character"⟩
    | some r =>
      if r > 0x10FFFF || (0xD800 ≤ r && r < 0xE000) then
        .error ⟨"escape sequence is invalid Unicode code point"⟩
      else .ok r

def escapeByte? : UInt8 → Option UInt8
  | 0x22 => some 0x22
  | 0x5C => some 0x5C
  | 0x62 => some 0x08
  | 0x66 => some 0x0C
  | 0x6E => some 0x0A
  | 0x72 => some 0x0D
  | 0x74 => some 0x09
  | 0x65 => some 0x1B
  | _ => none

/-- Whether the text after a backslash is blanks up to a line end, which makes the backslash
end the line and swallow the blank space after it. -/
def endsLine : List UInt8 → Bool
  | 0x20 :: r | 0x09 :: r => endsLine r
  | 0x0D :: 0x0A :: _ => true
  | 0x0A :: _ => true
  | _ => false

def isSpace (c : UInt8) : Bool := isBlank c || c = 0x0A || c = 0x0D

/-- Unescapes the body of a basic string. `tail` is what a `\u` or `\U` escape may also read
after the body: nothing for a one-line string, the closing quotes for a multi-line one, whose
escape can therefore fail on a quote instead of on its length. In a multi-line string, a
backslash that ends a line removes the line end and the blank space after it. -/
def unescape (multiline : Bool) (tail : List UInt8) : List UInt8 → Except ParseError (List UInt8)
  | [] => .ok []
  | 0x5C :: rest =>
    if multiline && endsLine rest then unescape multiline tail (rest.dropWhile isSpace)
    else
      match rest with
      | [] => .error ⟨"need a character after \\"⟩
      | c :: more =>
        if c = 0x75 || c = 0x55 then
          let n := if c = 0x75 then 4 else 8
          match hexRune (more ++ tail) n with
          | .error e => .error e
          | .ok r => (Utf8.encodeRune r ++ ·) <$> unescape multiline tail (more.drop n)
        else
          match escapeByte? c with
          | some e => (e :: ·) <$> unescape multiline tail more
          | none => .error ⟨"invalid escaped character " ++ unicodeText c.toNat⟩
  | c :: rest =>
    if charSize (c :: rest) = 0 then .error ⟨"invalid character " ++ unicodeText c.toNat⟩
    else
      ((c :: rest).take (charSize (c :: rest)) ++ ·) <$>
        unescape multiline tail (rest.drop (charSize (c :: rest) - 1))
termination_by b => b.length
decreasing_by
  all_goals
    simp only [List.length_drop, List.length_cons]
    first
      | omega
      | exact Nat.lt_succ_of_le (List.dropWhile_suffix _).length_le

/-! ## Strings -/

def basicString (b : List UInt8) : Except ParseError (List UInt8 × List UInt8) := do
  let (body, escaped, rest) ← scanBasic b
  if !escaped then
    if allowedText body then pure (body, rest) else throw ⟨"invalid UTF-8"⟩
  else
    let v ← unescape false [] body
    pure (v, rest)

def dropFirstNewline : List UInt8 → List UInt8
  | 0x0A :: r => r
  | 0x0D :: 0x0A :: r => r
  | r => r

/-- A multi-line basic string after its opening quotes; a line end right after them is not
part of the value. -/
def multiBasicString (b : List UInt8) : Except ParseError (List UInt8 × List UInt8) := do
  let (body, escaped, rest) ← scanMultiBasic b
  let body := dropFirstNewline body
  if !escaped then
    if allowedText body then pure (body, rest) else throw ⟨"invalid UTF-8"⟩
  else
    let v ← unescape true [0x22, 0x22, 0x22] body
    pure (v, rest)

def multiLiteralString (b : List UInt8) : Except ParseError (List UInt8 × List UInt8) := do
  let (body, rest) ← scanMultiLiteral b
  pure (dropFirstNewline body, rest)

end LcdPanel.Toml
