import LcdPanel.Config.Flags

namespace LcdPanel.Config

open LcdPanel LcdPanel.Time

def Flag.typeName : Flag → String
  | .config => "func"
  | .port | .id | .mqtt | .ws | .fieldsFile | .logDir => "string"
  | .baud => "int"
  | .timeout => "duration"
  | .evalOnly | .json | .logToStderr | .alsoLogToStderr => "bool"
  | .verbosity => "Level"
  | .threshold => "severity"
  | .vmodule => "moduleSpec"
  | .backtraceAt => "traceLocation"

/-- What a flag is for. -/
def Flag.usage : Flag → String
  | .config => "Load options from a TOML file."
  | .port => "Serial port of the display."
  | .baud => "Baud rate: 9600, 19200 or 115200."
  | .timeout => "Command reply timeout."
  | .id => "Display ID on the network."
  | .mqtt => "MQTT broker URL with topic prefix, empty to disable."
  | .ws => "Websocket listen address, empty to disable."
  | .evalOnly => "Evaluation only, no interactive shell."
  | .json => "Print output in JSON."
  | .fieldsFile => "JSON file with an array of \x7bname, value\x7d fields."
  | .logToStderr => "log to standard error instead of files"
  | .alsoLogToStderr => "log to standard error as well as files"
  | .verbosity => "log level for V logs"
  | .threshold => "logs at or above this threshold go to stderr"
  | .vmodule => "comma-separated list of pattern=N settings for file-filtered logging"
  | .backtraceAt => "when logging hits line file:N, emit a stack trace"
  | .logDir => "If non-empty, write log files in this directory"

/-- The text of a flag's value in options. The settings file flag keeps no value. -/
def Flag.valueText (o : Options) : Flag → String
  | .config => ""
  | .port => o.settings.port
  | .baud => toString o.settings.baudRate
  | .timeout => o.settings.timeout.text
  | .id => o.settings.id
  | .mqtt => o.settings.mqttUrl
  | .ws => o.settings.websocketAddr
  | .evalOnly => toString o.evalOnly
  | .json => toString o.json
  | .fieldsFile => o.fieldsFile
  | .logToStderr => toString o.log.toStderr
  | .alsoLogToStderr => toString o.log.alsoToStderr
  | .verbosity => toString o.log.verbosity
  | .threshold => toString o.log.threshold
  | .vmodule => modulesText o.log.modules
  | .backtraceAt => o.log.traceAt
  | .logDir => o.log.logDir

def isZeroText (t : String) : Bool :=
  t = "false" || t = "<nil>" || t = "" || t = "0"

/-- One flag as a listing shows it. -/
structure FlagEntry where
  name : String
  letter : Option Char := none
  typeName : String := ""
  usage : String
  shownDefault : Option String := none
  deriving DecidableEq, Repr

/-- The entry of a flag, given the options the program started with and those of now. The
file of fields belongs to the command framework itself, which tests its default, not its
current value, for zero. -/
def Flag.entry (start now : Options) (f : Flag) : FlagEntry :=
  let dflt := f.valueText start
  let probe := if f = .fieldsFile then dflt else f.valueText now
  { name := f.name
    letter := if f.name.length = 1 then f.name.toList.head? else none
    typeName := if f.typeName = "bool" then "" else f.typeName
    usage := f.usage
    shownDefault :=
      if isZeroText probe then none
      else some (if f.typeName = "string" then Text.quoteString dflt else dflt) }

def helpEntry (command : String) : FlagEntry :=
  { name := "help", letter := some 'h', usage := "help for " ++ command }

def FlagEntry.head (e : FlagEntry) : String :=
  (match e.letter with
    | some c => s!"  -{c}, --{e.name}"
    | none => s!"      --{e.name}") ++
  (if e.typeName.isEmpty then "" else " " ++ e.typeName)

def flagListing (es : List FlagEntry) : String :=
  let es := es.mergeSort fun a b => !decide (b.name < a.name)
  let width := (es.map (·.head.utf8ByteSize)).foldl max 0
  String.join (es.map fun e =>
    e.head ++ String.ofList (List.replicate (width + 3 - e.head.utf8ByteSize) ' ') ++ e.usage ++
      ((e.shownDefault.map fun d => " (default " ++ d ++ ")").getD "") ++ "\n")

end LcdPanel.Config
