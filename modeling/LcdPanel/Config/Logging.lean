import LcdPanel.Text.Glob
import LcdPanel.Text.Quote
import LcdPanel.Text.Radix
import LcdPanel.Text.Utf8

namespace LcdPanel.Config

open LcdPanel

/-- The severities of log lines, least first. -/
inductive Severity
  | info
  | warning
  | error
  | fatal
  deriving DecidableEq, Repr

def Severity.rank : Severity → Int
  | .info => 0
  | .warning => 1
  | .error => 2
  | .fatal => 3

def Severity.letter : Severity → String
  | .info => "I"
  | .warning => "W"
  | .error => "E"
  | .fatal => "F"

/-- A `pattern=N` setting: the verbosity of the files whose names match the pattern. -/
structure ModuleLevel where
  pattern : List UInt8
  level : Int
  deriving DecidableEq, Repr

/-- How a program's log is set up. The trace site is written `file:N`, with `:0` for nowhere, and an
empty log directory means the default one. -/
structure LogSetup where
  toStderr : Bool := false
  alsoToStderr : Bool := false
  threshold : Int := Severity.error.rank
  verbosity : Int := 0
  modules : List ModuleLevel := []
  traceAt : String := ":0"
  logDir : String := ""
  parsed : Bool := false
  deriving DecidableEq, Repr

def LogSetup.shows (l : LogSetup) (s : Severity) : Bool :=
  !l.parsed || l.toStderr || l.alsoToStderr || decide (s.rank ≥ l.threshold)

def LogSetup.verbose (l : LogSetup) (file : String) (level : Int) : Bool :=
  decide (l.verbosity ≥ level) ||
    (!l.modules.isEmpty &&
      let v := match l.modules.find? (fun m => Text.globMatch m.pattern (Utf8.ofString file)) with
        | some m => m.level
        | none => 0
      decide (v ≥ level))

def LogSetup.lines (l : LogSetup) (s : Severity) (texts : List String) : List String :=
  if l.shows s then texts.map (s.letter ++ " " ++ ·) else []

def wrapInt32 (n : Int) : Int :=
  let m := n % 4294967296
  if m ≥ 2147483648 then m - 4294967296 else m

/-- The value of decimal digits within 64 unsigned bits: not a digit, or none at all, is
malformed; the first digit past the width is a range fault. -/
def decimalWord (ds : List UInt8) : Except Text.RadixError Nat :=
  if ds.isEmpty then .error .malformed
  else ds.foldl (fun acc c => do
    let n ← acc
    if 0x30 ≤ c && c ≤ 0x39 then
      let n := n * 10 + (c.toNat - 0x30)
      if n > 18446744073709551615 then throw (.range 0) else pure n
    else throw .malformed) (.ok 0)

/-- Reads a decimal integer of 64 bits: an optional sign, then digits. The message of a fault
names the text. -/
def atoi (v : String) : Except String Int :=
  let bs := Utf8.ofString v
  let (neg, body) := match bs with
    | 0x2D :: r => (true, r)
    | 0x2B :: r => (false, r)
    | r => (false, r)
  let fault (why : String) : Except String Int :=
    .error s!"strconv.Atoi: parsing {Text.quoteString v}: {why}"
  match decimalWord body with
  | .error .malformed => fault "invalid syntax"
  | .error (.range _) => fault "value out of range"
  | .ok n =>
    if !neg && n ≥ 9223372036854775808 then fault "value out of range"
    else if neg && n > 9223372036854775808 then fault "value out of range"
    else .ok (if neg then -(n : Int) else n)

/-- Uppercase as far as the names of severities need: ASCII letters, and the dotless `ı` and
the long `ſ`, whose capitals are ASCII. -/
def upperName (v : String) : String :=
  String.map (fun c => if c = 'ı' then 'I' else if c = 'ſ' then 'S' else c.toUpper) v

def parseThreshold (v : String) : Except String Int :=
  match [Severity.info, .warning, .error, .fatal].find? (fun s =>
      upperName v = ["INFO", "WARNING", "ERROR", "FATAL"].getD s.rank.toNat "") with
  | some s => .ok s.rank
  | none => wrapInt32 <$> atoi v

/-- Reads a list of `pattern=N` settings, separated by commas; empty items are skipped, and so
are those of level 0. -/
def parseModules (v : String) : Except String (List ModuleLevel) :=
  let syntaxFault := "syntax error: expect comma-separated list of filename=N"
  ((v.splitOn ",").filter (· ≠ "")).foldlM (fun acc item =>
    match item.splitOn "=" with
    | [p, n] =>
      if p.isEmpty || n.isEmpty then .error syntaxFault
      else
        match atoi n with
        | .error _ => .error syntaxFault
        | .ok k =>
          if k < 0 then .error "negative value for vmodule level"
          else if k = 0 then .ok acc
          else .ok (acc ++ [⟨Utf8.ofString p, wrapInt32 k⟩])
    | _ => .error syntaxFault) []

/-- Reads a `file:N` place, where a stack trace would be logged: the place as it is kept, with
its line number in decimal. -/
def parseTracePlace (v : String) : Except String String :=
  let syntaxFault := "syntax error: expect file.go:234"
  match v.splitOn ":" with
  | [file, line] =>
    if !file.contains '.' then .error syntaxFault
    else
      match atoi line with
      | .error _ => .error syntaxFault
      | .ok n => if n ≤ 0 then .error "negative or zero value for level" else .ok s!"{file}:{n}"
  | _ => .error syntaxFault

def modulesText (ms : List ModuleLevel) : String :=
  ",".intercalate (ms.map fun m => Utf8.toText m.pattern ++ "=" ++ toString m.level)

end LcdPanel.Config
