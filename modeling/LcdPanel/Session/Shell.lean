import LcdPanel.Session.Calls
import LcdPanel.Shell.Command

namespace LcdPanel.Session

open LcdPanel.Link LcdPanel.Display LcdPanel.Shell

inductive ShellFailure where
  | device (e : DeviceError)
  | text (t : String)

def missingPort (port : String) : LinkError :=
  .connection "open" port (.other (Utf8.ofString "no such file or directory"))

namespace Host

def theShell : HostM ShellState := do
  match (← get).shell with
  | some sh => return sh
  | none =>
    let sh := (← get).shellDefault
    modify fun s =>
      let log : StepLog := { s.log with shell := some (s.log.shell.getD {}) }
      { s with shell := some sh, log := log }
    return sh

def setShell (sh : ShellState) : HostM Unit := modify fun s => { s with shell := some sh }

def shellLine (bs : List UInt8) : HostM Unit := shellPrint (bs ++ [0x0A])

/-- Turns the key echo on or off; without a display nothing changes. The result tells whether
the echo is on. -/
def echoKeys (on : Bool) : HostM Bool := do
  let sh ← theShell
  if !sh.attached || on = sh.echo.isSome then return sh.echo.isSome
  if on then
    let (c, h) := (← getConn).subscribe true
    setConn c
    setShell { sh with echo := some h }
  else
    match sh.echo with
    | some h => setConn ((← getConn).unsubscribe h).1
    | none => pure ()
    setShell { sh with echo := none }
  return on

/-- Lets go of the display: the echo stops and the display closes; a failed close only counts as
closed. -/
def shellDisconnect : HostM Unit := do
  let sh ← theShell
  if sh.attached then
    let _ ← echoKeys false
    let _ ← disconnect
    setShell { (← theShell) with attached := false }

/-- Opens a port of the system for the shell at a rate: the rate is checked first, then the
port is missing. -/
def shellConnect (port : String) (baud : Int) : HostM (Except ShellFailure Unit) := do
  if !supportedBaud baud then return .error (.text s!"unsupported baud rate {baud}")
  return .error (.device (.link (missingPort port)))

/-- Carries out a request of a command line. -/
def perform (r : Request) : HostM (Except ShellFailure Unit) := do
  let sh ← theShell
  match r with
  | .display prog =>
    if !sh.attached then return .error (.text "not connected")
    match prog with
    | .error t => return .error (.text t)
    | .ok prog =>
      match ← run prog with
      | .ok shown =>
        shellLine (if sh.json then shown.json else shown.plain)
        return .ok ()
      | .error e => return .error (.device e)
  | .listen on =>
    if !sh.attached then return .error (.text "not connected")
    let now ← echoKeys (on.getD sh.echo.isNone)
    shellLine (Utf8.ofString (if now then "listening on keypad" else "not listening"))
    return .ok ()
  | .connect port baud =>
    let rate : Except String Int := match baud with
      | some text => (parseBaud text).mapError BaudError.message
      | none => if supportedBaud sh.baud then .ok sh.baud else .error s!"unsupported baud rate {sh.baud}"
    match rate with
    | .error t => return .error (.text t)
    | .ok rate =>
      let port := port.getD sh.port
      if port = "" then return .error (.text "no serial port found")
      shellConnect port rate
  | .disconnect =>
    shellDisconnect
    return .ok ()
  | .ports =>
    shellLine (Utf8.ofString (if sh.json then "[]" else "No serial ports found"))
    return .ok ()
  | .print text =>
    shellLine (Utf8.ofString text)
    return .ok ()
  | .quiet => return .ok ()

def shellProcess (args : List (List UInt8)) : HostM (Except ShellFailure Unit) := do
  let _ ← theShell
  match Request.ofLine args with
  | some r => perform r
  | none => return .error (.text unknownCommand)

end Host

end LcdPanel.Session
