import LcdPanel.Config.Load
import LcdPanel.Config.Logging
import LcdPanel.Text.Radix

namespace LcdPanel.Config

open LcdPanel LcdPanel.Time

inductive Flag
  | config
  | port
  | baud
  | timeout
  | id
  | mqtt
  | ws
  | evalOnly
  | json
  | fieldsFile
  | logToStderr
  | alsoLogToStderr
  | verbosity
  | threshold
  | vmodule
  | backtraceAt
  | logDir
  deriving DecidableEq, Repr

/-- The name of a flag. -/
def Flag.name : Flag → String
  | .config => "config"
  | .port => "port"
  | .baud => "baud"
  | .timeout => "timeout"
  | .id => "id"
  | .mqtt => "mqtt"
  | .ws => "ws"
  | .evalOnly => "e"
  | .json => "json"
  | .fieldsFile => "file"
  | .logToStderr => "logtostderr"
  | .alsoLogToStderr => "alsologtostderr"
  | .verbosity => "v"
  | .threshold => "stderrthreshold"
  | .vmodule => "vmodule"
  | .backtraceAt => "log_backtrace_at"
  | .logDir => "log_dir"

def Flag.isBool : Flag → Bool
  | .evalOnly | .json | .logToStderr | .alsoLogToStderr => true
  | _ => false

def serialFlags : List Flag := [.config, .port, .baud, .timeout]

def bridgeFlags : List Flag := [.id, .mqtt, .ws]

def logFlags : List Flag :=
  [.alsoLogToStderr, .backtraceAt, .logDir, .logToStderr, .threshold, .verbosity, .vmodule]

/-- What the flags of a program set. -/
structure Options where
  settings : Settings
  evalOnly : Bool := false
  json : Bool := false
  fieldsFile : String := ""
  log : LogSetup := {}
  deriving DecidableEq, Repr

def parseBool (v : String) : Option Bool :=
  if ["1", "t", "T", "TRUE", "true", "True"].contains v then some true
  else if ["0", "f", "F", "FALSE", "false", "False"].contains v then some false
  else none

/-- Why parsing the flags stopped. -/
inductive FlagFault
  | help
  | failure (message : String)
  | crash (message : String)
  deriving DecidableEq, Repr

def FlagFault.message : FlagFault → String
  | .help => "flag: help requested"
  | .failure m | .crash m => m

def FlagFault.within (lead : String) : FlagFault → FlagFault
  | .failure m => .failure (lead ++ m)
  | f => f

/-- Sets a flag from its text: the options after it, and why the value was refused. -/
def Flag.set (fs : Files) (o : Options) (f : Flag) (v : String) : Options × Option FlagFault :=
  let s := o.settings
  let withSettings (s : Settings) : Options := { o with settings := s }
  let refused (o : Options) (m : String) : Options × Option FlagFault := (o, some (.failure m))
  let withLog (r : Except String LogSetup) : Options × Option FlagFault :=
    match r with
    | .ok l => ({ o with log := l }, none)
    | .error m => refused o m
  match f with
  | .config =>
    match loadFile fs v s with
    | (s, none) => (withSettings s, none)
    | (s, some (.error m)) => refused (withSettings s) m
    | (s, some (.crash m)) => (withSettings s, some (.crash m))
  | .port => (withSettings { s with port := v }, none)
  | .baud =>
    match Text.parseSigned (Utf8.ofString v) 64 with
    | .ok n => (withSettings { s with baudRate := n }, none)
    | .error .malformed => refused (withSettings { s with baudRate := 0 }) "parse error"
    | .error (.range n) => refused (withSettings { s with baudRate := n }) "value out of range"
  | .timeout =>
    match Duration.parse (Utf8.ofString v) with
    | .ok d => (withSettings { s with timeout := d }, none)
    | .error _ => refused (withSettings { s with timeout := ⟨0⟩ }) "parse error"
  | .id => (withSettings { s with id := v }, none)
  | .mqtt => (withSettings { s with mqttUrl := v }, none)
  | .ws => (withSettings { s with websocketAddr := v }, none)
  | .evalOnly =>
    match parseBool v with
    | some b => ({ o with evalOnly := b }, none)
    | none => refused { o with evalOnly := false } "parse error"
  | .json =>
    match parseBool v with
    | some b => ({ o with json := b }, none)
    | none => refused { o with json := false } "parse error"
  | .fieldsFile => ({ o with fieldsFile := v }, none)
  | .logToStderr =>
    withLog (match parseBool v with
      | some b => .ok { o.log with toStderr := b }
      | none => .error "parse error")
  | .alsoLogToStderr =>
    withLog (match parseBool v with
      | some b => .ok { o.log with alsoToStderr := b }
      | none => .error "parse error")
  | .verbosity => withLog ((fun n => { o.log with verbosity := wrapInt32 n }) <$> atoi v)
  | .threshold => withLog ((fun n => { o.log with threshold := n }) <$> parseThreshold v)
  | .vmodule => withLog ((fun ms => { o.log with modules := ms }) <$> parseModules v)
  | .backtraceAt => withLog ((fun p => { o.log with traceAt := p }) <$> parseTracePlace v)
  | .logDir => ({ o with log := { o.log with logDir := v } }, none)

/-- The outcome of parsing flags: the options, the arguments that are not flags, and the fault
that stopped the parse, if any. -/
structure Parsed where
  options : Options
  rest : List String
  fault : Option FlagFault := none
  deriving Repr

/-! ## The standard syntax -/

/-- Parses flags in the standard syntax, one argument (or two) at a time. -/
def parseStandard (flags : List Flag) (fs : Files) : Nat → Options → List String → Parsed
  | 0, o, args => ⟨o, args, none⟩
  | fuel + 1, o, args =>
    match args with
    | [] => ⟨o, [], none⟩
    | a :: more =>
      let cs := a.toList
      if cs.length < 2 || cs.head? ≠ some '-' then ⟨o, args, none⟩
      else if a = "--" then ⟨o, more, none⟩
      else
        let dashes := if cs[1]? = some '-' then 2 else 1
        let body := cs.drop dashes
        if body.isEmpty || body.head? = some '-' || body.head? = some '=' then
          ⟨o, args, some (.failure s!"bad flag syntax: {a}")⟩
        else
          let name := String.ofList (body.takeWhile (· ≠ '='))
          let given : Option String :=
            if body.contains '=' then some (String.ofList ((body.dropWhile (· ≠ '=')).drop 1))
            else none
          match flags.find? (·.name = name) with
          | none =>
            if name = "help" || name = "h" then ⟨o, more, some .help⟩
            else ⟨o, more, some (.failure s!"flag provided but not defined: -{name}")⟩
          | some f =>
            if f.isBool then
              match f.set fs o (given.getD "true") with
              | (o, none) => parseStandard flags fs fuel o more
              | (o, some e) =>
                let lead := match given with
                  | some v => s!"invalid boolean value {Text.quoteString v} for -{name}: "
                  | none => s!"invalid boolean flag {name}: "
                ⟨o, more, some (e.within lead)⟩
            else
              let (value, more) := match given, more with
                | some v, _ => (some v, more)
                | none, v :: rest => (some v, rest)
                | none, [] => (none, [])
              match value with
              | none => ⟨o, more, some (.failure s!"flag needs an argument: -{name}")⟩
              | some v =>
                match f.set fs o v with
                | (o, none) => parseStandard flags fs fuel o more
                | (o, some e) =>
                  let lead := s!"invalid value {Text.quoteString v} for flag -{name}: "
                  ⟨o, more, some (e.within lead)⟩

def Options.parseArgs (o : Options) (flags : List Flag) (fs : Files) (args : List String) :
    Parsed :=
  parseStandard flags fs (args.length + 1) o args

/-! ## The extended syntax -/

/-- A flag of the extended syntax: one of the flags, or the help flag every command has. -/
inductive LongFlag
  | flag (f : Flag)
  | help
  deriving DecidableEq, Repr

def LongFlag.name : LongFlag → String
  | .flag f => f.name
  | .help => "help"

/-- The single letter an extended flag also answers to: its name when that is one letter, and
`h` for help. -/
def LongFlag.letter : LongFlag → Option Char
  | .help => some 'h'
  | .flag f => if f.name.length = 1 then f.name.toList.head? else none

def LongFlag.isBool : LongFlag → Bool
  | .help => true
  | .flag f => f.isBool

def LongFlag.title (f : LongFlag) : String :=
  match f.letter with
  | some c => s!"-{c}, --{f.name}"
  | none => s!"--{f.name}"

/-- The state of an extended parse: the options, whether help was asked for, and the
arguments that are not flags so far. -/
structure Extended where
  options : Options
  help : Bool := false
  rest : List String := []

/-- Sets an extended flag. -/
def Extended.set (fs : Files) (e : Extended) (f : LongFlag) (v : String) :
    Except FlagFault Extended :=
  match f with
  | .help =>
    match parseBool v with
    | some b => .ok { e with help := b }
    | none =>
      let why := s!"strconv.ParseBool: parsing {Text.quoteString v}: invalid syntax"
      .error (.failure s!"invalid argument {Text.quoteString v} for {Text.quoteString f.title} flag: {why}")
  | .flag g =>
    match g.set fs e.options v with
    | (o, none) => .ok { e with options := o }
    | (_, some fault) =>
      let lead := s!"invalid argument {Text.quoteString v} for {Text.quoteString f.title} flag: "
      .error (fault.within lead)

/-- Sets the single-letter flags run together in one argument, then returns the arguments
left. Letters are looked up byte by byte, so a letter outside ASCII is named by the character
of its first byte. The letters left from `test.` on are ignored, as test runners pass them.
Messages show the letters from the one at fault on. -/
def shortRun (flags : List LongFlag) (fs : Files) :
    Nat → Extended → List Char → List String → Except FlagFault (Extended × List String)
  | 0, e, _, args => .ok (e, args)
  | _ + 1, e, [], args => .ok (e, args)
  | fuel + 1, e, c :: cs, args =>
    let whole := String.ofList (c :: cs)
    if whole.startsWith "test." then .ok (e, args) else
    match flags.find? (·.letter = some c) with
    | none =>
      if c = 'h' then .error .help
      else
        let first := ((Utf8.ofString (String.singleton c)).headD 0).toNat
        .error (.failure
          s!"unknown shorthand flag: {Text.quoteCharLiteral first} in -{whole}")
    | some f =>
      match cs with
      | '=' :: v@(_ :: _) => do
        let e ← e.set fs f (String.ofList v)
        pure (e, args)
      | _ =>
        if f.isBool then do
          let e ← e.set fs f "true"
          shortRun flags fs fuel e cs args
        else if !cs.isEmpty then do
          let e ← e.set fs f (String.ofList cs)
          pure (e, args)
        else
          match args with
          | v :: more => do
            let e ← e.set fs f v
            pure (e, more)
          | [] => .error (.failure s!"flag needs an argument: {Text.quoteCharLiteral c.toNat} in -{whole}")

/-- Parses flags in the extended syntax. -/
def parseExtended (flags : List LongFlag) (fs : Files) :
    Nat → Extended → List String → Except FlagFault Extended
  | 0, e, _ => .ok e
  | _ + 1, e, [] => .ok e
  | fuel + 1, e, a :: more =>
    let cs := a.toList
    if cs.isEmpty || cs.head? ≠ some '-' || cs.length = 1 then
      parseExtended flags fs fuel { e with rest := e.rest ++ [a] } more
    else if cs[1]? = some '-' then
      if cs.length = 2 then .ok { e with rest := e.rest ++ more }
      else
        let body := cs.drop 2
        if body.head? = some '-' || body.head? = some '=' then
          .error (.failure s!"bad flag syntax: {a}")
        else
          let name := String.ofList (body.takeWhile (· ≠ '='))
          let given : Option String :=
            if body.contains '=' then some (String.ofList ((body.dropWhile (· ≠ '=')).drop 1))
            else none
          match flags.find? (·.name = name) with
          | none =>
            if name = "help" then .error .help
            else .error (.failure s!"unknown flag: --{name}")
          | some f =>
            let value : Option (String × List String) := match given, more with
              | some v, _ => some (v, more)
              | none, _ => if f.isBool then some ("true", more) else
                match more with
                | v :: rest => some (v, rest)
                | [] => none
            match value with
            | none => .error (.failure s!"flag needs an argument: {a}")
            | some (v, more) => do
              let e ← e.set fs f v
              parseExtended flags fs fuel e more
    else do
      let (e, more) ← shortRun flags fs (cs.length + 1) e (cs.drop 1) more
      parseExtended flags fs fuel e more

def Options.parseExtended (o : Options) (flags : List LongFlag) (fs : Files) (args : List String) :
    Except FlagFault Extended :=
  Config.parseExtended flags fs (args.length + 1) { options := o } args

end LcdPanel.Config
