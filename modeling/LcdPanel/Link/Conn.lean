import LcdPanel.Link.Error
import LcdPanel.Link.Stream
import LcdPanel.Link.Report
import LcdPanel.Link.Baud
import LcdPanel.Link.State

/-!
The connection to one device. Each operation that calls the port is split around that call, and the
second phase finds out from the state what happened meanwhile.
-/

namespace LcdPanel.Link

open LcdPanel.Frame LcdPanel.Time

/-- A failure reported by a port: its own words, or an error that already names the port. -/
inductive PortError where
  | plain (text : List UInt8)
  | link (e : LinkError)
  deriving DecidableEq, Repr

/-- The link error of a port failure during operation `op` on `port`: plain words are wrapped,
an error that is already a connection error is kept. -/
def PortError.during (op port : String) : PortError → LinkError
  | .plain t => .connection op port (.other t)
  | .link (.connection o p c) => .connection o p c
  | .link e => .connection op port (.other e.text)

/-- The command awaiting a reply: its identifier and the ticket of the exchange that sent it. -/
structure Pending where
  id : UInt8
  ticket : Nat
  deriving DecidableEq, Repr

/-- A subscriber to reports: its handle, and whether it takes key activity only. -/
structure Subscriber where
  handle : Nat
  keysOnly : Bool
  deriving DecidableEq, Repr

/-- How an exchange stops waiting when no reply resolved it. -/
inductive Expiry where
  | timer (after : Duration)
  | canceled
  | deadline
  deriving DecidableEq, Repr

def Expiry.error (id : UInt8) : Expiry → LinkError
  | .timer after => .timeout id after
  | .canceled => .canceled
  | .deadline => .deadlineExceeded

/-- The state of a connection. A reply timeout not above zero means the default; `resolved` is a
result handed to the exchange of its ticket and not yet taken; `queue` is the generation of the
open report queue. -/
structure Conn where
  state : LinkState := .disconnected
  port : String := ""
  baud : Int := 0
  codec : Codec := Codec.standard
  timeout : Duration := ⟨Duration.second * 2⟩
  buffer : List UInt8 := []
  pending : Option Pending := none
  resolved : Option (Nat × Except LinkError Packet) := none
  queue : Option Nat := none
  generations : Nat := 0
  tickets : Nat := 0
  subscribers : List Subscriber := []
  handles : Nat := 0

def defaultTimeout : Duration := ⟨Duration.second * 2⟩

namespace Conn

def replyTimeout (c : Conn) : Duration :=
  if c.timeout.nanos ≤ 0 then defaultTimeout else c.timeout

/-! ## Subscribers -/

def subscribe (c : Conn) (keysOnly : Bool) : Conn × Nat :=
  ({ c with subscribers := c.subscribers ++ [⟨c.handles, keysOnly⟩], handles := c.handles + 1 },
    c.handles)

def unsubscribe (c : Conn) (handle : Nat) : Conn × Bool :=
  if c.subscribers.any (·.handle = handle) then
    ({ c with subscribers := c.subscribers.filter (·.handle ≠ handle) }, true)
  else (c, false)

def takers (c : Conn) (r : Report) : List Nat :=
  (c.subscribers.filter fun s => !s.keysOnly || r.isKeyActivity).map (·.handle)

/-! ## Receiving -/

def claim (c : Conn) (accepts : Pending → Bool) : Conn × Option Pending :=
  match c.pending with
  | some p => if accepts p then ({ c with pending := none }, some p) else (c, none)
  | none => (c, none)

def resolve (c : Conn) (accepts : Pending → Bool) (r : Except LinkError Packet) : Conn :=
  match c.claim accepts with
  | (c, some p) => { c with resolved := some (p.ticket, r) }
  | (c, none) => c

/-- What a decoded packet does to the awaited command: which commands it resolves and with what.
A response or an error resolves the command with its identifier; a command packet from the device
resolves any command as a bad reply; a report resolves none. -/
def replyOf (p : Packet) : Option ((Pending → Bool) × Except LinkError Packet) :=
  match p.kind with
  | .response => some ((·.id = p.id), .ok p)
  | .report => none
  | .error => some ((·.id = p.id), .error (.rejected p.id))
  | .command => some (fun _ => true, .error (.badResponse p.code "command packet from device"))

/-- The deliveries of a report packet: to the subscribers that take it, while a queue is open. -/
def deliveries (c : Conn) (p : Packet) : List Delivery :=
  match c.queue with
  | some _ => let r := Report.ofPacket p; [⟨r, c.takers r⟩]
  | none => []

def dispatch (c : Conn) (p : Packet) : Conn × List Delivery :=
  match replyOf p with
  | some (accepts, r) => (c.resolve accepts r, [])
  | none => (c, c.deliveries p)

def dispatchAll (c : Conn) : List Packet → Conn × List Delivery
  | [] => (c, [])
  | p :: ps =>
    let (c, d) := c.dispatch p
    let (c, ds) := c.dispatchAll ps
    (c, d ++ ds)

/-- Adds a chunk to the buffer and takes off its front the packets the chunk completes; the rest
stays in the buffer. -/
def frames (c : Conn) (chunk : List UInt8) : Conn × List Packet :=
  let (packets, rest) := c.codec.drain (c.buffer ++ chunk)
  ({ c with buffer := rest }, packets)

def receive (c : Conn) (chunk : List UInt8) : Conn × List Delivery :=
  let (c, packets) := c.frames chunk
  c.dispatchAll packets

def opened (c : Conn) : Conn := { c with buffer := [] }

def fail (c : Conn) (e : LinkError) : Conn :=
  c.resolve (fun _ => true) (.error e)

def down (c : Conn) : Conn := { c with state := .disconnected, queue := none }

def readError (c : Conn) (text : List UInt8) : LinkError :=
  (PortError.plain text).during "read" c.port

def readFailed (c : Conn) (text : List UInt8) : Conn :=
  c.down.fail (c.readError text)

/-! ## Connecting -/

/-- First phase of a connect: the rate is checked first, then that the link is down; the port and
rate are recorded and a new report queue opens before the port is opened. -/
def beginConnect (c : Conn) (port : String) (baud : Int) : Except LinkError (Conn × Nat) :=
  if !supportedBaud baud then .error (.connection "connect" port (.unsupportedBaud baud))
  else if c.state ≠ .disconnected then .error (.connection "connect" port .alreadyConnected)
  else
    let g := c.generations + 1
    let c' : Conn := { c with
      state := .connecting
      port := port
      baud := baud
      queue := some g
      generations := g }
    .ok (c', g)

/-- Second phase of a connect whose port failed to open: the link goes down unless another
connect has taken over. -/
def openFailed (c : Conn) (g : Nat) (port : String) (e : PortError) : Conn × LinkError :=
  let c := if c.queue = some g then { c with state := .disconnected, queue := none } else c
  (c, e.during "open" port)

/-- How the second phase of a connect ends after the port opened: the link is up, or it was closed
meanwhile and the port is to be closed again, or another connect took over. -/
inductive Settled where
  | up
  | abandoned
  | superseded
  deriving DecidableEq, Repr

def settleConnect (c : Conn) (g : Nat) : Conn × Settled :=
  if c.state = .connecting ∧ c.queue = some g then ({ c with state := .connected }, .up)
  else if c.state = .disconnected then (c, .abandoned)
  else (c, .superseded)

def closedDuringConnect (port : String) : LinkError :=
  .connection "connect" port .closed

/-! ## Disconnecting -/

def closedError (c : Conn) : LinkError := .connection "disconnect" c.port .closed

/-- What a disconnect reports of closing `port`: a failure of the port becomes a close error. -/
def closeOutcome (port : String) : Except PortError Unit → Except LinkError Unit
  | .ok () => .ok ()
  | .error e => .error (e.during "close" port)

/-- Closes the link after the port was closed with result `closed`: the awaited command fails and
a close error is reported. -/
def disconnect (c : Conn) (closed : Except PortError Unit) : Conn × Except LinkError Unit :=
  (c.down.fail c.closedError, closeOutcome c.port closed)

/-! ## Reconnecting -/

def checkReconnectRate (c : Conn) (baud : Int) : Except LinkError Unit :=
  if supportedBaud baud then .ok () else .error (.connection "reconnect" c.port (.unsupportedBaud baud))

def beginReconnect (c : Conn) : Except LinkError Conn :=
  if c.state ≠ .connected then .error (.connection "reconnect" c.port .notConnected)
  else .ok { c with state := .connecting }

def finishReconnect (c : Conn) (port : String) (baud : Int) (r : Except PortError Unit) :
    Conn × Except LinkError Unit :=
  match r with
  | .ok () => ({ c with state := .connected, baud := baud }, .ok ())
  | .error e => ({ c with state := .disconnected, queue := none }, .error (e.during "reconnect" port))

/-! ## Exchanging a command -/

def checkUp (c : Conn) : Except LinkError Unit :=
  if c.state ≠ .connected then .error (.connection "send" c.port .notConnected) else .ok ()

/-- What a command must satisfy before it waits for its turn: data that fits, and a link up. -/
def checkSend (c : Conn) (cmd : Packet) : Except LinkError Unit :=
  if cmd.data.length > maxDataLen then .error (.dataTooLong "command" cmd.id)
  else c.checkUp

/-- The awaited command becomes `cmd` under a new ticket; the command's frame is to be written. -/
def enroll (c : Conn) (cmd : Packet) : Conn × Nat × List UInt8 :=
  let t := c.tickets + 1
  ({ c with pending := some ⟨cmd.id, t⟩, tickets := t }, t, c.codec.encode cmd)

/-- First phase of an exchange, holding the command turn: the link must still be up; the
command's identifier becomes the awaited one and its frame is to be written. -/
def register (c : Conn) (cmd : Packet) : Except LinkError (Conn × Nat × List UInt8) :=
  if c.state ≠ .connected then .error (.connection "send" c.port .notConnected)
  else .ok (c.enroll cmd)

def unregister (c : Conn) (t : Nat) : Conn × Bool :=
  match c.pending with
  | some p => if p.ticket = t then ({ c with pending := none }, true) else (c, false)
  | none => (c, false)

def take (c : Conn) (t : Nat) : Conn × Option (Except LinkError Packet) :=
  match c.resolved with
  | some (t', r) => if t' = t then ({ c with resolved := none }, some r) else (c, none)
  | none => (c, none)

def writeFailed (c : Conn) (t : Nat) (e : PortError) : Conn × LinkError :=
  ((c.unregister t).1, e.during "write" c.port)

/-- Second phase of an exchange whose frame was written: the reply if one resolved the command,
else the expiry's error. -/
def settle (c : Conn) (t : Nat) (id : UInt8) (x : Expiry) : Conn × Except LinkError Packet :=
  match c.take t with
  | (c, some r) => (c, r)
  | (c, none) => ((c.unregister t).1, .error (x.error id))

end Conn

end LcdPanel.Link
