import LcdPanel.Toml.Scan

namespace LcdPanel.Toml

open LcdPanel

structure LocalDate where
  year : Nat
  month : Nat
  day : Nat
  deriving DecidableEq, Repr

/-- A time of day, its fraction of a second in nanoseconds. -/
structure LocalTime where
  hour : Nat
  minute : Nat
  second : Nat
  nanosecond : Nat := 0
  deriving DecidableEq, Repr

def isLeapYear (year : Nat) : Bool :=
  year % 4 = 0 && (year % 100 ≠ 0 || year % 400 = 0)

def daysInMonth (month year : Nat) : Nat :=
  if month = 2 then (if isLeapYear year then 29 else 28)
  else if month = 4 || month = 6 || month = 9 || month = 11 then 30
  else 31

def decimalDigits (b : List UInt8) : Except ParseError Nat :=
  b.foldlM (fun acc c =>
    if isDigit c then .ok (acc * 10 + (c.toNat - 0x30)) else .error ⟨"expected digit (0-9)"⟩) 0

def pair (b : List UInt8) (i : Nat) : List UInt8 := (b.drop i).take 2

def readLocalDate (b : List UInt8) : Except ParseError LocalDate := do
  if b.length ≠ 10 || b[4]? ≠ some 0x2D || b[7]? ≠ some 0x2D then
    throw ⟨"dates are expected to have the format YYYY-MM-DD"⟩
  let year ← decimalDigits (b.take 4)
  let month ← decimalDigits (pair b 5)
  let day ← decimalDigits (pair b 8)
  if 0 < month && month < 13 && 0 < day && day ≤ daysInMonth month year then
    pure ⟨year, month, day⟩
  else throw ⟨"impossible date"⟩

def fractionNanos (digits : List UInt8) : Nat :=
  let kept := digits.take 9
  kept.foldl (fun acc c => acc * 10 + (c.toNat - 0x30)) 0 * Nat.pow 10 (9 - kept.length)

/-- Reads a local time at the front of a text: the time and the text after it. -/
def readLocalTime (b : List UInt8) : Except ParseError (LocalTime × List UInt8) := do
  if b.length < 8 then throw ⟨"times are expected to have the format HH:MM:SS[.NNNNNN]"⟩
  let hour ← decimalDigits (pair b 0)
  if hour > 23 then throw ⟨"hour cannot be greater 23"⟩
  if b[2]? ≠ some 0x3A then throw ⟨"expecting colon between hours and minutes"⟩
  let minute ← decimalDigits (pair b 3)
  if minute > 59 then throw ⟨"minutes cannot be greater 59"⟩
  if b[5]? ≠ some 0x3A then throw ⟨"expecting colon between minutes and seconds"⟩
  let second ← decimalDigits (pair b 6)
  if second > 59 then throw ⟨"seconds cannot be greater than 59"⟩
  match b.drop 8 with
  | 0x2E :: frac =>
    let digits := frac.takeWhile isDigit
    if digits.isEmpty then
      if frac.isEmpty then throw ⟨"nanoseconds need at least one digit"⟩
      else throw ⟨"need at least one digit after fraction point"⟩
    pure (⟨hour, minute, second, fractionNanos digits⟩, frac.drop digits.length)
  | rest => pure (⟨hour, minute, second, 0⟩, rest)

/-- Reads a local date-time at the front of a text: the date, the time and the text after
it. -/
def readLocalDateTime (b : List UInt8) : Except ParseError (LocalDate × LocalTime × List UInt8) := do
  if b.length < 11 then
    throw ⟨"local datetimes are expected to have the format YYYY-MM-DDTHH:MM:SS[.NNNNNNNNN]"⟩
  let date ← readLocalDate (b.take 10)
  if !(b[10]? = some 0x54 || b[10]? = some 0x74 || b[10]? = some 0x20) then
    throw ⟨"datetime separator is expected to be T or a space"⟩
  let (time, rest) ← readLocalTime (b.drop 11)
  pure (date, time, rest)

/-- Reads an offset from UTC, which must be the whole text: its value in minutes. -/
def readOffset (b : List UInt8) : Except ParseError Int := do
  match b with
  | z :: more =>
    if z = 0x5A || z = 0x7A then
      if more.isEmpty then return 0 else throw ⟨"extra bytes at the end of the timezone"⟩
  | [] => pure ()
  if b.length ≠ 6 then throw ⟨"invalid date-time timezone"⟩
  let sign : Int ← match b with
    | 0x2D :: _ => pure (-1)
    | 0x2B :: _ => pure 1
    | _ => throw ⟨"invalid timezone offset character"⟩
  if b[3]? ≠ some 0x3A then throw ⟨"expected a : separator"⟩
  let hours ← decimalDigits (pair b 1)
  if hours > 23 then throw ⟨"invalid timezone offset hours"⟩
  let minutes ← decimalDigits (pair b 4)
  if minutes > 59 then throw ⟨"invalid timezone offset minutes"⟩
  pure (sign * (hours * 60 + minutes : Nat))

/-- Checks the text of a date value of a kind. -/
def checkDate : DateKind → List UInt8 → Except ParseError Unit
  | .localDate, b => do
    let _ ← readLocalDate b
  | .localTime, b => do
    let (_, rest) ← readLocalTime b
    if !rest.isEmpty then throw ⟨"extra characters at the end of a local time"⟩
  | .localDateTime, b => do
    let (_, _, rest) ← readLocalDateTime b
    if !rest.isEmpty then throw ⟨"extra characters at the end of a local date time"⟩
  | .offsetDateTime, b => do
    let (_, _, rest) ← readLocalDateTime b
    let _ ← readOffset rest

def DateKind.word : DateKind → String
  | .offsetDateTime => "datetime"
  | .localDateTime => "local datetime"
  | .localDate => "local date"
  | .localTime => "local time"

end LcdPanel.Toml
