namespace LcdPanel.Utf8

def replacement : Nat := 0xFFFD

def within (b : UInt8) (lo hi : Nat) : Bool :=
  lo ≤ b.toNat ∧ b.toNat ≤ hi

/-- The character at the front of `b0 :: rest` and how many bytes of `rest` it also takes. A
lead byte allows only the second bytes that keep the sequence shortest and below U+110000 and
outside the surrogates. -/
def front (b0 : UInt8) (rest : List UInt8) : Nat × Nat :=
  let c := b0.toNat
  let cont (b : UInt8) := within b 0x80 0xBF
  let low (b : UInt8) := b.toNat % 64
  if c < 0x80 then (c, 0)
  else if 0xC2 ≤ c ∧ c ≤ 0xDF then
    match rest with
    | b1 :: _ => if cont b1 then ((c % 32) * 64 + low b1, 1) else (replacement, 0)
    | _ => (replacement, 0)
  else if 0xE0 ≤ c ∧ c ≤ 0xEF then
    let (lo, hi) := if c = 0xE0 then (0xA0, 0xBF) else if c = 0xED then (0x80, 0x9F) else (0x80, 0xBF)
    match rest with
    | b1 :: b2 :: _ =>
      if within b1 lo hi ∧ cont b2 then ((c % 16) * 4096 + low b1 * 64 + low b2, 2)
      else (replacement, 0)
    | _ => (replacement, 0)
  else if 0xF0 ≤ c ∧ c ≤ 0xF4 then
    let (lo, hi) := if c = 0xF0 then (0x90, 0xBF) else if c = 0xF4 then (0x80, 0x8F) else (0x80, 0xBF)
    match rest with
    | b1 :: b2 :: b3 :: _ =>
      if within b1 lo hi ∧ cont b2 ∧ cont b3 then
        ((c % 8) * 262144 + low b1 * 4096 + low b2 * 64 + low b3, 3)
      else (replacement, 0)
    | _ => (replacement, 0)
  else (replacement, 0)

/-- Whether the front of `b0 :: rest` is a well-formed sequence (a replacement character written
out in full is one). -/
def frontValid (b0 : UInt8) (rest : List UInt8) : Bool :=
  (front b0 rest).1 ≠ replacement ∨ (front b0 rest).2 ≠ 0

def runes : List UInt8 → List Nat
  | [] => []
  | b0 :: rest =>
    let (r, k) := front b0 rest
    r :: runes (rest.drop k)
termination_by bs => bs.length
decreasing_by simp only [List.length_drop, List.length_cons]; omega

def valid : List UInt8 → Bool
  | [] => true
  | b0 :: rest => frontValid b0 rest && valid (rest.drop (front b0 rest).2)
termination_by bs => bs.length
decreasing_by simp only [List.length_drop, List.length_cons]; omega

/-- The bytes of one code point; one outside the Unicode scalar values is written as U+FFFD. -/
def encodeRune (r : Nat) : List UInt8 :=
  let r := if r > 0x10FFFF ∨ (0xD800 ≤ r ∧ r ≤ 0xDFFF) then replacement else r
  if r < 0x80 then [r.toUInt8]
  else if r < 0x800 then [(0xC0 + r / 64).toUInt8, (0x80 + r % 64).toUInt8]
  else if r < 0x10000 then
    [(0xE0 + r / 4096).toUInt8, (0x80 + r / 64 % 64).toUInt8, (0x80 + r % 64).toUInt8]
  else
    [(0xF0 + r / 262144).toUInt8, (0x80 + r / 4096 % 64).toUInt8, (0x80 + r / 64 % 64).toUInt8,
      (0x80 + r % 64).toUInt8]

def encodeRunes (rs : List Nat) : List UInt8 :=
  rs.flatMap encodeRune

def ofString (s : String) : List UInt8 :=
  s.toUTF8.toList

def stringOfRunes (rs : List Nat) : String :=
  String.ofList (rs.map fun r =>
    if r > 0x10FFFF ∨ (0xD800 ≤ r ∧ r ≤ 0xDFFF) then Char.ofNat replacement else Char.ofNat r)

def toText (bs : List UInt8) : String :=
  stringOfRunes (runes bs)

end LcdPanel.Utf8
