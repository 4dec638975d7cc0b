import LcdPanel.Config.Flags
import LcdPanel.Session.Shell

namespace LcdPanel.Program

open LcdPanel LcdPanel.Config LcdPanel.Link

/-- What a run of a program shows. -/
structure Outcome where
  exit : Nat
  stdout : String := ""
  stderr : List String := []
  printed : Option Settings := none
  deriving DecidableEq, Repr

structure World where
  env : List (String × String) := []
  files : Files := { byPath := true }

def World.getenv (w : World) (name : String) : String :=
  ((w.env.find? (·.1 = name)).map (·.2)).getD ""

/-- A run that gives up with a message, after the log lines so far; the message shows as an
`F` line when the log setup lets it. -/
def gaveUp (log : LogSetup) (lines : List String) (message : String) (stdout : String := "") :
    Outcome :=
  { exit := 1, stdout, stderr := lines ++ log.lines .fatal [message] }

def crashed (lines : List String) (message : String) : Outcome :=
  { exit := 2, stderr := lines ++ ["panic: " ++ message] }

/-- The settings a program starts with and the log lines of their faults, or the end of a run
whose settings file crashed the reader. The lines are logged before any flag is parsed, so
they always show. -/
def startup (w : World) : Except Outcome (Settings × List String) := do
  let path := w.getenv "LCD_CONFIG"
  let (s, lines) ← if path.isEmpty then pure (({} : Settings), ([] : List String))
    else
      match loadFile w.files path {} with
      | (s, none) => pure (s, [])
      | (s, some (.error m)) => pure (s, ["E LCD_CONFIG: " ++ m])
      | (_, some (.crash m)) => throw (crashed [] m)
  let (s, fault) := s.applyEnv w.getenv
  match fault with
  | some m => pure (s, lines ++ ["E environment: " ++ m])
  | none => pure (s, lines)

/-- A flag fault of a program that reads the standard syntax: status 0 for help, else 2. -/
def flagFailed (lines : List String) : FlagFault → Outcome
  | .help => { exit := 0, stderr := lines ++ [FlagFault.help.message] }
  | .failure m => { exit := 2, stderr := lines ++ [m] }
  | .crash m => crashed lines m

def openFault (s : Settings) : String :=
  match s.baud with
  | .error m => m
  | .ok _ => (Session.missingPort s.port).message

/-- What a program asks of the shared settings. -/
inductive Call
  | show
  | mustOpen
  deriving DecidableEq, Repr

/-- A program that starts with the shared settings, may read the standard flags of the
settings and of the network first, then prints the settings or opens the display. A flag fault
ends the run with status 2 (0 for help). -/
def settingsProgram (w : World) (args : Option (List String)) (call : Call) : Outcome :=
  let run : Except Outcome Outcome := do
    let (s, lines) ← startup w
    let o ← match args with
      | none => pure { settings := s }
      | some args =>
        let p := ({ settings := s } : Options).parseArgs
          (serialFlags ++ bridgeFlags ++ logFlags) w.files args
        match p.fault with
        | none => pure { p.options with log := { p.options.log with parsed := true } }
        | some f => throw (flagFailed lines f)
    match call with
    | .show => pure { exit := 0, stderr := lines, printed := some o.settings }
    | .mustOpen => pure (gaveUp o.log lines s!"open {o.settings.port}: {openFault o.settings}")
  match run with
  | .ok o | .error o => o

end LcdPanel.Program
