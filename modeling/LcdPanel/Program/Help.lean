import LcdPanel.Config.Usage

namespace LcdPanel.Program

open LcdPanel LcdPanel.Config

/-- A command as its help screen shows it. -/
structure CommandHelp where
  parents : List String := []
  use : String
  about : String := ""
  runnable : Bool
  subcommands : List (String × String) := []
  localFlags : List FlagEntry
  globalFlags : List FlagEntry := []
  deriving DecidableEq, Repr

def CommandHelp.name (c : CommandHelp) : String :=
  (c.use.splitOn " ").headD ""

def CommandHelp.path (c : CommandHelp) : String :=
  " ".intercalate (c.parents ++ [c.name])

def CommandHelp.useLine (c : CommandHelp) : String :=
  let line := " ".intercalate (c.parents ++ [c.use])
  if (c.localFlags ++ c.globalFlags).isEmpty || (line.splitOn "[flags]").length > 1 then line
  else line ++ " [flags]"

def trimEnd (s : String) : String :=
  String.ofList (s.toList.reverse.dropWhile Char.isWhitespace).reverse

def padRight (width : Nat) (s : String) : String :=
  s ++ String.ofList (List.replicate (width - s.length) ' ')

/-- The help screen of a command. -/
def CommandHelp.screen (c : CommandHelp) : String :=
  let subs := !c.subcommands.isEmpty
  let width := (c.subcommands.map (·.1.length)).foldl max 0
  let header := if c.about.isEmpty then "" else trimEnd c.about ++ "\n\n"
  let usage :=
    "Usage:" ++
    (if c.runnable then "\n  " ++ c.useLine else "") ++
    (if subs then "\n  " ++ c.path ++ " [command]" else "") ++
    (if subs then
      "\n\nAvailable Commands:" ++
        String.join (c.subcommands.map fun (n, s) => "\n  " ++ padRight width n ++ " " ++ s)
    else "") ++
    (if c.localFlags.isEmpty then "" else "\n\nFlags:\n" ++ trimEnd (flagListing c.localFlags)) ++
    (if c.globalFlags.isEmpty then ""
      else "\n\nGlobal Flags:\n" ++ trimEnd (flagListing c.globalFlags)) ++
    (if subs then
      "\n\nUse \"" ++ c.path ++ " [command] --help\" for more information about a command."
    else "") ++ "\n"
  header ++ (if c.runnable || subs then usage else "")

end LcdPanel.Program
