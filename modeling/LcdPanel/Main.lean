import LcdPanel.Program.Commands

namespace LcdPanel.Cli

open LcdPanel.Program LcdPanel.Config

def envNames : List String :=
  ["LCD_CONFIG", "LCD_PORT", "LCD_BAUD", "LCD_TIMEOUT", "LCD_ID", "LCD_MQTT_URL", "LCD_WS_ADDR"]

/-- The paths that arguments give to the `config` flag, as `-config PATH` or `-config=PATH`,
with one dash or two. A path read here that the program does not load does no harm. -/
def configPaths : List String → List String
  | [] => []
  | a :: rest =>
    if a = "-config" || a = "--config" then rest.head?.toList ++ configPaths rest
    else
      match ["-config=", "--config="].find? (a.startsWith ·) with
      | some flag => (a.drop flag.length).toString :: configPaths rest
      | none => configPaths rest

def program (name : String) : Option (World → List String → Outcome) :=
  match name with
  | "lcdd" => some serve
  | "lcddemo" => some demos
  | "lcdmon" => some monitor
  | "lcdsh" => some shell
  | _ => none

def readEnv : IO (List (String × String)) :=
  envNames.filterMapM fun v => do return (← IO.getEnv v).map (v, ·)

def readFiles (paths : List String) : IO (List (String × List UInt8)) :=
  paths.filterMapM fun (p : String) => do
    try return some (p, (← IO.FS.readBinFile p).toList) catch _ => return none

def display (o : Outcome) : IO UInt32 := do
  IO.print o.stdout
  for line in o.stderr do
    IO.eprintln line
  return o.exit.toUInt32

end LcdPanel.Cli

/-- Runs the program that the first argument names. -/
def main (args : List String) : IO UInt32 := do
  match args with
  | name :: rest =>
    match LcdPanel.Cli.program name with
    | some run =>
      let env ← LcdPanel.Cli.readEnv
      let paths := ((env.find? (·.1 = "LCD_CONFIG")).map (·.2)).toList ++
        LcdPanel.Cli.configPaths rest
      let entries ← LcdPanel.Cli.readFiles paths
      LcdPanel.Cli.display (run { env, files := { entries, byPath := true } } rest)
    | none =>
      IO.eprintln ("unknown program " ++ name)
      return 2
  | [] =>
    IO.eprintln "usage: lcdpanel lcdd|lcddemo|lcdmon|lcdsh [ARG...]"
    return 2
