import LcdPanel.Display.Device
import LcdPanel.Text.Radix
import LcdPanel.Link.Baud
import LcdPanel.Json.Encode

namespace LcdPanel.Shell

open LcdPanel LcdPanel.Display LcdPanel.Link LcdPanel.Text

/-- What a display command gives back to print. -/
inductive Shown
  | nothing
  | text (bs : List UInt8)
  | keypad (k : KeypadState)
  deriving DecidableEq, Repr

def Shown.plain : Shown → List UInt8
  | .nothing => Utf8.ofString "OK"
  | .text bs => bs
  | .keypad k => Utf8.ofString k.text

def Shown.json : Shown → List UInt8
  | .nothing => Utf8.ofString "null"
  | .text bs => Utf8.ofString (Json.quote bs)
  | .keypad k => Utf8.ofString ("\x7b\"Pressed\":" ++ toString k.pressed.toNat ++
      ",\"PressedSince\":" ++ toString k.pressedSince.toNat ++
      ",\"ReleasedSince\":" ++ toString k.releasedSince.toNat ++ "\x7d")

/-- What a command line asks of the shell. -/
inductive Request
  | display (prog : Except String (Exchange Shown))
  | listen (on : Option Bool)
  | connect (port : Option String) (baud : Option (List UInt8))
  | disconnect
  | ports
  | print (text : String)
  | quiet

def textFrom (args : List (List UInt8)) (n : Nat) : List UInt8 :=
  (args.drop n).intersperse [0x20] |>.flatten

def intArg (args : List (List UInt8)) (n : Nat) (name : String) : Except String Int :=
  match args[n]? with
  | none => .error (name ++ " expected")
  | some a =>
    match parseInt? a with
    | some v => .ok v
    | none => .error ("invalid " ++ name ++ " " ++ quote a)

def byteArgs (args : List (List UInt8)) : Except String (List UInt8) :=
  args.mapM fun a =>
    match parseUnsigned a 8 with
    | .ok v => .ok v.toUInt8
    | .error _ => .error ("invalid byte " ++ quote a)

def spacedHex (bs : List UInt8) : List UInt8 :=
  Utf8.ofString (" ".intercalate (bs.map fun b => Hex.pad 2 b.toNat))

def plainly (e : Exchange Unit) : Exchange Shown := do e; pure .nothing

/-- The display command a name stands for, given its arguments. -/
def displayCommand (name : String) (args : List (List UInt8)) : Option (Except String (Exchange Shown)) :=
  match name with
  | "ping" => some (.ok (plainly (ping (textFrom args 0))))
  | "version" | "ver" => some (.ok do return .text (← version))
  | "clear" | "cls" => some (.ok (plainly clear))
  | "line1" => some (.ok (plainly (setLineOne (textFrom args 0))))
  | "line2" => some (.ok (plainly (setLineTwo (textFrom args 0))))
  | "contents" => some (.ok (plainly (setContents (args.getD 0 []) (args.getD 1 []))))
  | "send" => some do
    let col ← intArg args 0 "column"
    let row ← intArg args 1 "row"
    pure (plainly (sendData col row (textFrom args 2)))
  | "cursor" => some do
    let col ← intArg args 0 "column"
    let row ← intArg args 1 "row"
    pure (plainly (setCursorPosition col row))
  | "style" => some do
    let style ← intArg args 0 "style"
    pure (plainly (setCursorStyle (style % 256).toNat.toUInt8))
  | "contrast" => some do
    let v ← intArg args 0 "contrast"
    pure (plainly (setContrast v))
  | "backlight" | "bl" => some do
    let lcd ← intArg args 0 "brightness"
    let pad ← if args.length > 1 then intArg args 1 "keypad brightness" else pure lcd
    pure (plainly (setBacklight lcd pad))
  | "char" => some do
    let index ← intArg args 0 "index"
    let bitmap ← byteArgs (args.drop 1)
    pure (plainly (setSpecialChar index bitmap))
  | "mem" | "peek" => some do
    match byteArgs args with
    | .ok [addr] => pure do return .text (spacedHex (← readMemory addr))
    | _ => throw "one address expected"
  | "flash.read" => some (.ok do return .text (Utf8.ofString (quote (← readFlash))))
  | "flash.write" => some (.ok (plainly (writeFlash (textFrom args 0))))
  | "bootstate" => some (.ok (plainly storeBoot))
  | "reboot" => some (.ok (plainly reboot))
  | "baud" => some do
    match args with
    | [] => throw "baud rate expected"
    | a :: _ =>
      match parseBaud a with
      | .ok rate => pure (plainly (setBaud rate))
      | .error e => throw e.message
  | "keys" => some (.ok do return .keypad (← readKeypad))
  | _ => none

/-- The help line of a command, or nothing for a name that is no command. -/
def helpOf (name : String) : Option String :=
  match name with
  | "ports" | "list" | "l" => some "ports has no help"
  | "connect" | "c" => some "[PORT [BAUD]]"
  | "disconnect" | "d" => some "disconnect has no help"
  | "ping" => some "[TEXT]"
  | "version" | "ver" => some "version has no help"
  | "clear" | "cls" => some "clear has no help"
  | "line1" | "line2" | "flash.write" => some "TEXT"
  | "contents" => some "LINE1 [LINE2]"
  | "send" => some "COL ROW TEXT"
  | "cursor" => some "COL ROW"
  | "style" => some "0-3 (none, blinking block, underscore, blinking underscore)"
  | "contrast" => some "0-200"
  | "backlight" | "bl" => some "LCD [KEYPAD], 0-100"
  | "char" => some "INDEX ROW0 ... ROW7"
  | "mem" | "peek" => some "ADDR"
  | "flash.read" => some "flash.read has no help"
  | "bootstate" => some "bootstate has no help"
  | "reboot" => some "reboot has no help"
  | "baud" => some "19200|115200"
  | "keys" => some "keys has no help"
  | "listen" => some "[on|off]"
  | "exit" => some "exit the program"
  | "help" => some "display help"
  | _ => none

/-- The commands by name, in the order of their names, with their short help: empty for a
command that has none. Aliases are not listed. -/
def commandTable : List (String × String) :=
  [("backlight", "LCD [KEYPAD], 0-100"), ("baud", "19200|115200"), ("bootstate", ""),
   ("char", "INDEX ROW0 ... ROW7"), ("clear", ""), ("connect", "[PORT [BAUD]]"),
   ("contents", "LINE1 [LINE2]"), ("contrast", "0-200"), ("cursor", "COL ROW"),
   ("disconnect", ""), ("exit", "exit the program"), ("flash.read", ""), ("flash.write", "TEXT"),
   ("help", "display help"), ("keys", ""), ("line1", "TEXT"), ("line2", "TEXT"),
   ("listen", "[on|off]"), ("mem", "ADDR"), ("ping", "[TEXT]"), ("ports", ""), ("reboot", ""),
   ("send", "COL ROW TEXT"),
   ("style", "0-3 (none, blinking block, underscore, blinking underscore)"), ("version", "")]

/-- The listing that `help` prints: a heading, then one line a command with its name in a
column as wide as the longest name and two more, then an empty line. -/
def helpListing : String :=
  let width := (commandTable.map (·.1.length)).foldl max 0 + 2
  let line (c : String × String) : String :=
    "  " ++ c.1 ++ String.ofList (List.replicate (width - c.1.length) ' ') ++ "    " ++ c.2 ++ "\n"
  "\nCommands:\n" ++ String.join (commandTable.map line) ++ "\n"

/-- Reads a command line; `none` when it names no command. -/
def Request.ofLine : List (List UInt8) → Option Request
  | [] => none
  | cmd :: args =>
    let name := Utf8.toText cmd
    match helpOf name with
    | none => none
    | some help =>
      if args = [Utf8.ofString "help"] then some (.print ("\n" ++ help ++ "\n"))
      else
        match name with
        | "ports" | "list" | "l" => some .ports
        | "connect" | "c" => some (.connect (args.head?.map Utf8.toText) args[1]?)
        | "disconnect" | "d" => some .disconnect
        | "listen" => some (.listen (args.head?.map fun a => a = Utf8.ofString "on"))
        | "exit" => some .quiet
        | "help" => some (.print helpListing)
        | _ => (displayCommand name args).map .display

def unknownCommand : String := "incorrect input, try 'help'"

end LcdPanel.Shell
