import LcdPanel.Link.Conn

namespace LcdPanel.Session

open LcdPanel.Frame LcdPanel.Link

/-- What the simulated device answers to one written frame: nothing; a response with the command's
identifier, which echoes a ping's data; chunks, each arriving in one read; or a read error. -/
inductive Reply where
  | silent
  | auto
  | chunks (cs : List (List UInt8))
  | readError (text : List UInt8)
  deriving DecidableEq, Repr

/-- What runs right after the port opened, inside the outermost open. -/
inductive OpenHook where
  | disconnect
  | disconnectConnect
  deriving DecidableEq, Repr

/-- The context a step runs with; `cancelInWrite` is cancelled right after a frame is written. -/
inductive Context where
  | background
  | canceled
  | expired
  | cancelInWrite
  deriving DecidableEq, Repr

/-- The failures and replies one step scripts; a failure is the text the call fails with. A serial
port may also take no byte of a write, or at most `writeLimit` bytes of each. -/
structure Script where
  openError : Option (List UInt8) := none
  writeError : Option (List UInt8) := none
  reconnectError : Option (List UInt8) := none
  closeError : Option (List UInt8) := none
  openHook : Option OpenHook := none
  replies : List Reply := []
  readTimeoutError : Option (List UInt8) := none
  resetError : Option (List UInt8) := none
  writeZero : Bool := false
  writeLimit : Option Nat := none
  deriving Repr

/-- The kind of line a session talks through: scripted, where every call does what the step scripts;
the serial driver over simulated ports; or the serial driver over the system's ports, none of which
exists. -/
inductive LineKind where
  | scripted
  | serial (readTimeout : Time.Duration)
  | system
  deriving DecidableEq, Repr

/-- The state of the serial port driver. -/
structure SerialLine where
  isOpen : Bool := false
  name : String := ""
  receiving : Bool := false
  reading : Bool := false
  made : Bool := false
  readBuffer : Nat := 0
  deriving DecidableEq, Repr

def readBufferSize (baud : Int) : Nat :=
  max 64 (baud / 10).toNat

/-- The failure of a line call: text starting with "conn:" names the port itself, other text is
the line's own words. -/
def lineFailure (port : String) (text : List UInt8) : PortError :=
  if text.take 5 = Utf8.ofString "conn:" then
    .link (.connection "transport" port (.other (text.drop 5)))
  else .plain text

/-- The response the simulated device gives to a command: same identifier, no data, except that
a ping gets its data back. -/
def autoResponse (cmd : Packet) : Packet :=
  Packet.make 1 cmd.id (if cmd.id = 0 then cmd.data else [])

/-- The next reply of the script, and the script without it; once the list runs out every frame
gets the automatic reply. -/
def Script.nextReply (s : Script) : Reply × Script :=
  match s.replies with
  | [] => (.auto, s)
  | r :: rs => (r, { s with replies := rs })

end LcdPanel.Session
