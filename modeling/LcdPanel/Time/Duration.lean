namespace LcdPanel.Time

structure Duration where
  nanos : Int
  deriving DecidableEq, Repr, Inhabited

namespace Duration

def microsecond : Nat := 1000
def millisecond : Nat := 1000000
def second : Nat := 1000000000
def minute : Nat := 60 * second
def hour : Nat := 60 * minute

def ofMillis (ms : Int) : Duration := ⟨ms * millisecond⟩

def ofSeconds (s : Int) : Duration := ⟨s * second⟩

/-- The fraction `v / 10^prec` after the point, trailing zeros dropped, with the point only when
some digit remains. -/
def fraction (v prec : Nat) : String :=
  let ds := Nat.toDigits 10 (v % Nat.pow 10 prec)
  let padded := List.replicate (prec - ds.length) '0' ++ ds
  let kept := (padded.reverse.dropWhile (· = '0')).reverse
  if kept.isEmpty then "" else "." ++ String.ofList kept

/-- The text of a non-negative span. -/
def magnitudeText (u : Nat) : String :=
  if u = 0 then "0s"
  else if u < microsecond then s!"{u}ns"
  else if u < millisecond then s!"{u / 1000}{fraction u 3}µs"
  else if u < second then s!"{u / 1000000}{fraction u 6}ms"
  else
    let secs := u / second
    let secText := s!"{secs % 60}{fraction u 9}s"
    let mins := secs / 60
    if mins = 0 then secText
    else
      let hours := mins / 60
      let minText := s!"{mins % 60}m{secText}"
      if hours = 0 then minText else s!"{hours}h{minText}"

def text (d : Duration) : String :=
  (if d.nanos < 0 then "-" else "") ++ magnitudeText d.nanos.natAbs

example : (ofMillis 1500).text = "1.5s" ∧ (ofMillis 90000).text = "1m30s" ∧
    (ofMillis (-100)).text = "-100ms" ∧ (ofMillis 86400001).text = "24h0m0.001s" ∧
    (ofMillis 0).text = "0s" := by
  decide

end Duration

end LcdPanel.Time
