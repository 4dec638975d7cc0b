import LcdPanel.Session.Calls
import LcdPanel.Session.Shell
import LcdPanel.Remote.Bridge

namespace LcdPanel.Session

open LcdPanel.Frame LcdPanel.Link LcdPanel.Time LcdPanel.Display LcdPanel.Remote LcdPanel.Wire

/-- A display operation with its arguments. -/
inductive DeviceOp where
  | ping (data : List UInt8)
  | version
  | writeFlash (data : List UInt8)
  | readFlash
  | storeBoot
  | power (op : Int)
  | reboot
  | clear
  | lineOne (text : List UInt8)
  | lineTwo (text : List UInt8)
  | contents (lineOne lineTwo : List UInt8)
  | sendData (col row : Int) (text : List UInt8)
  | specialChar (index : Int) (bitmap : List UInt8)
  | readMemory (addr : UInt8)
  | cursorPosition (col row : Int)
  | cursorStyle (style : UInt8)
  | contrast (value : Int)
  | backlight (lcd keypad : Int)
  | keyReporting (press release : UInt8)
  | keypad
  | setBaud (baud : Int)
  | readDOWInfo (index : Int)
  | setUpTemperatureReporting (data : List UInt8)
  | dowTransaction (index : Int) (data : List UInt8)
  | setUpLiveTemperature (data : List UInt8)
  | sendToController (location data : UInt8)
  | setATXSwitch (data : List UInt8)
  | resetHostWatchdog (timeout : UInt8)
  | readATXWatchdog
  | configureGPIO (data : List UInt8)
  | readGPIO (index : Int)
  deriving DecidableEq, Repr

/-- What a step answers when it succeeds. -/
inductive Outcome where
  | none
  | packet (p : Packet)
  | bytes (b : List UInt8)
  | keypad (k : KeypadState)
  | sub (index : Nat)
  | removed (b : Bool)
  | same (b : Bool)
  | held
  | settled (r : Except LinkError Packet)
  | settledAll (rs : List (Except LinkError Packet))
  | encoded (reply : List UInt8)
  | message (m : Message)
  | frames (fs : List (Option String))
  | options (o : BrokerOptions)
  | shellMode (interactive json : Bool)
  | echo (on listening : Bool)

/-- The program of a display operation, with its value as an outcome. -/
def DeviceOp.program : DeviceOp → Exchange Outcome
  | .ping data => do Display.ping data; pure .none
  | .version => do return .bytes (← Display.version)
  | .writeFlash data => do Display.writeFlash data; pure .none
  | .readFlash => do return .bytes (← Display.readFlash)
  | .storeBoot => do Display.storeBoot; pure .none
  | .power op => do Display.power op; pure .none
  | .reboot => do Display.reboot; pure .none
  | .clear => do Display.clear; pure .none
  | .lineOne text => do Display.setLineOne text; pure .none
  | .lineTwo text => do Display.setLineTwo text; pure .none
  | .contents a b => do Display.setContents a b; pure .none
  | .sendData col row text => do Display.sendData col row text; pure .none
  | .specialChar index bitmap => do Display.setSpecialChar index bitmap; pure .none
  | .readMemory addr => do return .bytes (← Display.readMemory addr)
  | .cursorPosition col row => do Display.setCursorPosition col row; pure .none
  | .cursorStyle style => do Display.setCursorStyle style; pure .none
  | .contrast value => do Display.setContrast value; pure .none
  | .backlight lcd pad => do Display.setBacklight lcd pad; pure .none
  | .keyReporting press release => do Display.setKeyReporting press release; pure .none
  | .keypad => do return .keypad (← Display.readKeypad)
  | .setBaud baud => do Display.setBaud baud; pure .none
  | .readDOWInfo index => do return .bytes (← Display.readDOWInfo index)
  | .setUpTemperatureReporting data => do Display.setUpTemperatureReporting data; pure .none
  | .dowTransaction index data => do return .bytes (← Display.dowTransaction index data)
  | .setUpLiveTemperature data => do Display.setUpLiveTemperature data; pure .none
  | .sendToController location data => do Display.sendToController location data; pure .none
  | .setATXSwitch data => do Display.setATXSwitch data; pure .none
  | .resetHostWatchdog timeout => do Display.resetHostWatchdog timeout; pure .none
  | .readATXWatchdog => do return .bytes (← Display.readATXWatchdog)
  | .configureGPIO data => do Display.configureGPIO data; pure .none
  | .readGPIO index => do return .bytes (← Display.readGPIO index)

/-- A step of a session: a command sent, chunks read from the line, a message run (encoded or not),
a websocket client's move, a relay's move through the broker, a shell's command, or a call on the
line that bypasses the connection. -/
inductive Step where
  | connect (port : String) (baud : Int)
  | disconnect
  | send (cmd : Packet) (timeout : Option Duration)
  | sendReconnect (cmd : Packet) (baud : Int)
  | reconnect (baud : Int)
  | receive (chunks : List (List UInt8))
  | opened
  | readFailed (text : List UInt8)
  | setTimeout (after : Duration)
  | subscribe (keysOnly : Bool)
  | unsubscribe (index : Nat)
  | deviceUnsubscribe (index : Nat)
  | dial (port : String) (baud : Int)
  | sameLink
  | hold (cmd : Packet)
  | release (reply : Reply)
  | enqueue (cmd : Packet)
  | collect
  | device (op : DeviceOp)
  | bridge (payload : List UInt8)
  | execute (m : Message)
  | socketOpen (size : Int)
  | socketSend (text : List UInt8) (count : Nat)
  | socketRead (count : Nat)
  | socketWait
  | socketClose
  | relayStart (url : List UInt8) (info : PanelInfo) (refusal : Option String)
  | relayConnected
  | relayDeliver (topic : Topic) (payload : List UInt8)
  | relayStop
  | shellNew (sh : ShellState)
  | shellLine (args : List (List UInt8)) (run : Bool)
  | shellConnect (port : String) (baud : Int)
  | shellDisconnect
  | shellAttach
  | shellEcho (on : Bool)
  | lineReconnect (baud : Int)
  | lineWrite (bs : List UInt8)
  | lineClose

/-- Why a step failed. -/
inductive Failure where
  | device (e : DeviceError)
  | wire (e : WireError)
  | options (e : OptionsError)
  | refused (text : String)
  | unusable (text : String)
  | shell (text : String)

structure Answer where
  result : Except Failure Outcome
  reply : Option Outcome := none

namespace Answer

def ok (o : Outcome) : Answer := ⟨.ok o, none⟩

def ofLink (r : Except LinkError Outcome) : Answer :=
  match r with
  | .ok o => ok o
  | .error e => ⟨.error (.device (.link e)), none⟩

def ofUnit (r : Except LinkError Unit) : Answer := ofLink (r.map fun _ => .none)

end Answer

namespace Host

def handleOf (index : Nat) : HostM (Option Nat) := do
  return (← get).numbered[index]?

def readFrames : Nat → HostM (List (Option String))
  | 0 => pure []
  | n + 1 => do
    let s ← get
    match s.client with
    | none => return none :: (← readFrames n)
    | some c =>
      let (f, o) := c.outbox.take
      set { s with client := some { c with outbox := o } }
      return f :: (← readFrames n)

def endClient : HostM Unit := do
  match (← get).client with
  | some c =>
    if !c.ended then setConn ((← getConn).unsubscribe c.handle).1
    modify fun s => { s with client := some { c with ended := true, outbox := { c.outbox with frames := [] } } }
  | none => pure ()

/-- The websocket client sends a frame: the server replies to a display command, and ends the
connection on text that is not a frame. -/
def sendFrame (text : List UInt8) : HostM Unit := do
  match (← get).client with
  | none => pure ()
  | some c =>
    if c.ended then pure ()
    else
      match replyToFrame text with
      | none => endClient
      | some prog =>
        let reply ← match ← run prog with
          | .ok m => pure m
          | .error e => pure (Message.failure e.message)
        modify fun s => { s with client := s.client.map fun c =>
          { c with outbox := c.outbox.push reply.frameText } }

/-- The relay answers a command from the broker: an envelope it can read is run on the display
and the encoded reply published; other payloads are dropped. -/
def relayCommand (r : Relay) (payload : List UInt8) : HostM Unit := do
  match executeEncoded payload with
  | .error _ => pure ()
  | .ok prog =>
    match ← run prog with
    | .ok (.ok reply) => brokerCalls [r.reply reply]
    | _ => pure ()

def withRelay (f : Relay → HostM Answer) : HostM Answer := do
  match (← get).relay with
  | some r => f r
  | none => return ⟨.error (.unusable "no relay runs"), none⟩

def shellAnswer (r : Except ShellFailure Unit) : Answer :=
  match r with
  | .ok () => .ok .none
  | .error (.device e) => ⟨.error (.device e), none⟩
  | .error (.text t) => ⟨.error (.shell t), none⟩

/-- Runs one step. -/
def runStep : Step → HostM Answer
  | .connect port baud => return .ofUnit (← connect port baud)
  | .disconnect => return .ofUnit (← disconnect)
  | .send cmd timeout => do
    let r ← match timeout with
      | some after => sendReceiveWithin cmd after
      | none => sendReceive cmd
    return .ofLink (r.map .packet)
  | .sendReconnect cmd baud => do
    match ← sendReceiveReconnect cmd baud with
    | (some reply, .ok ()) => return .ok (.packet reply)
    | (reply, .error e) => return ⟨.error (.device (.link e)), reply.map .packet⟩
    | (none, .ok ()) => return .ok .none
  | .reconnect baud => return .ofUnit (← reconnect baud)
  | .receive chunks => do
    match (← get).lineKind with
    | .scripted => chunks.forM received
    | _ => chunks.forM lineRead
    return .ok .none
  | .opened => do setConn (← getConn).opened; return .ok .none
  | .readFailed text => do setConn ((← getConn).readFailed text); return .ok .none
  | .setTimeout after => do setConn { (← getConn) with timeout := after }; return .ok .none
  | .subscribe keysOnly => do
    let (c, h) := (← getConn).subscribe keysOnly
    setConn c
    let s ← get
    set { s with numbered := s.numbered ++ [h] }
    return .ok (.sub s.numbered.length)
  | .unsubscribe index => do
    match ← handleOf index with
    | some h =>
      let (c, removed) := (← getConn).unsubscribe h
      setConn c
      return .ok (.removed removed)
    | none => return .ok (.removed false)
  | .deviceUnsubscribe index => do
    match ← handleOf index with
    | some h => setConn ((← getConn).unsubscribe h).1
    | none => pure ()
    return .ok .none
  | .dial port baud => return .ofUnit (← dial port baud)
  | .sameLink => return .ok (.same true)
  | .hold cmd => do
    match ← hold cmd with
    | some r => return .ok (.settled r)
    | none => return .ok .held
  | .release reply => do
    match ← release reply with
    | some r => return .ok (.settled r)
    | none => return .ok .none
  | .enqueue cmd => do enqueue cmd; return .ok .none
  | .collect => return .ok (.settledAll (← collect))
  | .device op => do
    match ← run op.program with
    | .ok o => return .ok o
    | .error e => return ⟨.error (.device e), none⟩
  | .bridge payload => do
    match executeEncoded payload with
    | .error e => return ⟨.error (.wire e), none⟩
    | .ok prog =>
      match ← run prog with
      | .ok (.ok reply) => return .ok (.encoded reply)
      | .ok (.error e) => return ⟨.error (.wire e), none⟩
      | .error e => return ⟨.error (.device e), none⟩
  | .execute m => do
    match ← run (execute m) with
    | .ok reply => return .ok (.message reply)
    | .error e => return ⟨.error (.device e), none⟩
  | .socketOpen size => do
    let (c, h) := (← getConn).subscribe true
    setConn c
    modify fun s => { s with client := some ⟨h, Outbox.ofSize size, false⟩ }
    return .ok .none
  | .socketSend text count => do
    sendFrame text
    return .ok (.frames (← readFrames count))
  | .socketRead count => return .ok (.frames (← readFrames count))
  | .socketWait => return .ok .none
  | .socketClose => do
    endClient
    modify fun s => { s with client := none }
    return .ok .none
  | .relayStart url info refusal => do
    if (← get).relay.isSome then return ⟨.error (.unusable "a relay already runs"), none⟩
    match relayOptions url info with
    | .error e => return ⟨.error (.options e), none⟩
    | .ok opts =>
      let ((q, commands), calls) := Relay.begin opts.topicRoot info
      match refusal with
      | some text => return ⟨.error (.refused text), some (.options opts)⟩
      | none =>
        let (c, keys) := (← getConn).subscribe true
        setConn c
        modify fun s => { s with relay := some ⟨q, info, commands, keys⟩ }
        brokerCalls calls
        return .ok (.options opts)
  | .relayConnected => withRelay fun r => do
    let (r, calls) := r.connected
    modify fun s => { s with relay := some r }
    brokerCalls calls
    return .ok .none
  | .relayDeliver topic payload => withRelay fun r => do
    (List.replicate (r.commandsOn topic) ()).forM fun _ => relayCommand r payload
    return .ok .none
  | .shellNew sh => do
    modify fun s =>
      let log : StepLog := { s.log with shell := some (s.log.shell.getD {}) }
      { s with shell := some sh, log := log }
    return .ok (.shellMode sh.interactive sh.json)
  | .shellLine args run => do
    let r ← shellProcess args
    if run then shellDisconnect
    return shellAnswer r
  | .shellConnect port baud => do
    let _ ← theShell
    return shellAnswer (← Host.shellConnect port baud)
  | .shellDisconnect => do shellDisconnect; return .ok .none
  | .shellAttach => do
    setShell { (← theShell) with attached := true }
    return .ok .none
  | .shellEcho on => do
    let now ← echoKeys on
    return .ok (.echo now (← theShell).echo.isSome)
  | .relayStop => withRelay fun r => do
    setConn ((← getConn).unsubscribe r.keys).1
    modify fun s => { s with relay := none }
    brokerCalls r.stop
    return .ok .none
  | .lineReconnect baud => return .ofUnit ((← lineReconnect baud).mapError (·.during "reconnect" ""))
  | .lineWrite bs => return .ofUnit ((← lineWrite bs).mapError (·.during "write" ""))
  | .lineClose => return .ofUnit ((← lineClose).mapError (·.during "close" ""))

/-- Runs one step with its script and context, starting a fresh log. -/
def step (script : Script) (ctx : Context) (st : Step) : HostM Answer := do
  modify fun s =>
    let log : StepLog := { broker := if s.relay.isSome then some {} else none,
                           shell := if s.shell.isSome then some {} else none }
    { s with script := script, ctx := ctx, log := log }
  runStep st

/-- A new session over a connection with the given codec and timeout; unless `connected` is
false it connects to the port "ttyTEST" at 19200 first, which answers nothing. -/
def start (kind : LineKind) (codec : Codec) (timeout : Option Duration) (connected : Bool) :
    Host :=
  let conn : Conn := { codec := codec, timeout := timeout.getD defaultTimeout }
  let s : Host := { conn := conn, lineKind := kind }
  if connected then (connect "ttyTEST" 19200 |>.run s).2 else s

end Host

end LcdPanel.Session
