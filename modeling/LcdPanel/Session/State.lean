import LcdPanel.Session.Script
import LcdPanel.Display.Device
import LcdPanel.Remote.Socket
import LcdPanel.Remote.Relay

/-!
The state of a scripted session. The line hands what it reads to the connection that opened it
last: the session's own, or one dialed over the same line afterwards.
-/

namespace LcdPanel.Session

open LcdPanel.Frame LcdPanel.Link LcdPanel.Time LcdPanel.Display LcdPanel.Remote

/-- A report as one step saw it delivered, with the numbered subscriptions that took it. -/
structure ReportSeen where
  report : Report
  subs : List Nat
  deriving DecidableEq, Repr

/-- The broker calls of a relay during one step: key events apart from all other calls. -/
structure BrokerLog where
  calls : List BrokerCall := []
  events : List BrokerCall := []
  deriving DecidableEq, Repr

/-- What a shell printed during one step: its own output, and the lines its key echo printed. -/
structure ShellLog where
  output : List UInt8 := []
  keys : List String := []
  deriving DecidableEq, Repr

/-- A shell over the session's display. -/
structure ShellState where
  interactive : Bool := false
  json : Bool := false
  autoConnect : Bool := false
  port : String := ""
  baud : Int := defaultBaud
  attached : Bool := true
  echo : Option Nat := none
  deriving DecidableEq, Repr

/-- What one step did on the line. -/
structure StepLog where
  writes : List (List UInt8) := []
  calls : List String := []
  reports : List ReportSeen := []
  hook : Option (List (Except LinkError Unit)) := none
  broker : Option BrokerLog := none
  shell : Option ShellLog := none
  deriving Repr

/-- A command whose write has not returned. -/
structure Held where
  ticket : Nat
  cmd : Packet
  timeout : Duration
  deriving DecidableEq, Repr

/-- A websocket client of the session's display. -/
structure Client where
  handle : Nat
  outbox : Outbox
  ended : Bool := false
  deriving DecidableEq, Repr

/-- The host side of a session: the connection under test and everything around it that a step
can touch or show. -/
structure Host where
  conn : Conn
  dialed : Option Conn := none
  linePort : String := ""
  lineKind : LineKind := .scripted
  serial : SerialLine := {}
  script : Script := {}
  ctx : Context := .background
  log : StepLog := {}
  numbered : List Nat := []
  held : Option Held := none
  waiting : List Packet := []
  finished : List (Except LinkError Packet) := []
  client : Option Client := none
  relay : Option Relay := none
  shell : Option ShellState := none
  shellDefault : ShellState := {}

/-- Computations of the host. -/
abbrev HostM := StateM Host

namespace Host

def call (text : String) : HostM Unit :=
  modify fun s => { s with log := { s.log with calls := s.log.calls ++ [text] } }

def wrote (frame : List UInt8) : HostM Unit :=
  modify fun s => { s with log := { s.log with writes := s.log.writes ++ [frame] } }

def hooked (r : Except LinkError Unit) : HostM Unit :=
  modify fun s => { s with log := { s.log with hook := some (s.log.hook.getD [] ++ [r]) } }

def numberedAmong (numbered handles : List Nat) : List Nat :=
  handles.filterMap fun h => numbered.idxOf? h

def shellPrint (bs : List UInt8) : HostM Unit :=
  modify fun s => { s with log := { s.log with shell := some { (s.log.shell.getD {}) with
    output := (s.log.shell.getD {}).output ++ bs } } }

def brokerCalls (cs : List BrokerCall) : HostM Unit :=
  modify fun s => { s with log := { s.log with
    broker := some { (s.log.broker.getD {}) with calls := (s.log.broker.getD {}).calls ++ cs } } }

def brokerEvents (cs : List BrokerCall) : HostM Unit :=
  modify fun s => { s with log := { s.log with
    broker := some { (s.log.broker.getD {}) with events := (s.log.broker.getD {}).events ++ cs } } }

/-- One report reaches its subscribers: it is logged with the numbered subscriptions that took
it, a websocket client that took it gets its key event, and a relay that took it publishes the
key event. -/
def deliver (d : Delivery) : HostM Unit := do
  modify fun s =>
    let seen := ReportSeen.mk d.report (numberedAmong s.numbered d.handles)
    let client := s.client.map fun c =>
      if d.handles.contains c.handle then
        { c with outbox := c.outbox.offer (Message.ofKeyAction d.report.action).frameText }
      else c
    { s with log := { s.log with reports := s.log.reports ++ [seen] }, client := client }
  match (← get).relay with
  | some r => if d.handles.contains r.keys then brokerEvents (r.keyEvent d.report.action)
  | none => pure ()
  match (← get).shell with
  | some { echo := some h, .. } =>
    if d.handles.contains h then
      modify fun s => { s with log := { s.log with shell := some { (s.log.shell.getD {}) with
        keys := (s.log.shell.getD {}).keys ++ ["key " ++ d.report.action.name] } } }
  | _ => pure ()

def delivered (ds : List Delivery) : HostM Unit := ds.forM deliver

def setConn (c : Conn) : HostM Unit := modify fun s => { s with conn := c }

def getConn : HostM Conn := do return (← get).conn

def received (chunk : List UInt8) : HostM Unit := do
  let (c, ds) := (← getConn).receive chunk
  setConn c
  delivered ds

/-! ## The line -/

/-- The pieces of at most `limit` bytes that a serial port moves a run of bytes in; nothing
moves for an empty run. -/
def pieces (limit : Nat) (bs : List UInt8) : List (List UInt8) :=
  if limit = 0 then [bs]
  else (List.range ((bs.length + limit - 1) / limit)).map fun i => (bs.drop (i * limit)).take limit

def lineReads : HostM Bool := do
  let s ← get
  match s.lineKind with
  | .scripted => return true
  | _ => return s.serial.isOpen && s.serial.reading

def lineRead (chunk : List UInt8) : HostM Unit := do
  if !(← lineReads) then return
  let s ← get
  let reads := match s.lineKind with
    | .scripted => [chunk]
    | _ => pieces s.serial.readBuffer chunk
  reads.forM fun piece => do
    match (← get).dialed with
    | some d => modify fun s => { s with dialed := some (d.receive piece).1 }
    | none => received piece

/-- Tells the line's receiver that reading failed; a serial driver's read loop stops. -/
def lineReadFailed (text : List UInt8) : HostM Unit := do
  if !(← lineReads) then return
  modify fun s => { s with serial := { s.serial with reading := false } }
  match (← get).dialed with
  | some d => modify fun s => { s with dialed := some (d.readFailed text) }
  | none => setConn ((← getConn).readFailed text)

def lineOpened : HostM Unit := do
  match (← get).dialed with
  | some d => modify fun s => { s with dialed := some d.opened }
  | none => setConn (← getConn).opened

def scripted (pick : Script → Option (List UInt8)) (port : String) :
    HostM (Except PortError Unit) := do
  match pick (← get).script with
  | some text => return .error (lineFailure port text)
  | none => return .ok ()

/-! ## The serial port driver -/

def setSerial (f : SerialLine → SerialLine) : HostM Unit :=
  modify fun s => { s with serial := f s.serial }

def serialFailure (op port : String) (cause : Cause) : PortError :=
  .link (.connection op port cause)

end Host

/-! ## Writing to a port

The driver writes a run of bytes with as many Writes of its port as it takes: each Write is
given what is left and says how many of those bytes it took, and the driver goes on with the
rest. A Write that fails, or that takes nothing, ends the write with its error.
-/

/-- What a port's Write gives back: how many of the bytes it took, or a failure in the port's own
words. -/
inductive WriteAnswer where
  | took (n : Nat)
  | failed (text : List UInt8)
  deriving DecidableEq, Repr

def WriteAnswer.piece (bytes : List UInt8) : WriteAnswer → Option (List UInt8)
  | .took n => some (bytes.take n)
  | .failed _ => none

/-- The cause that ends a write after this answer: the port's failure, or a Write that took
nothing. -/
def WriteAnswer.stop : WriteAnswer → Option Cause
  | .took 0 => some .shortWrite
  | .took (_ + 1) => none
  | .failed text => some (.other text)

/-- A port as a write sees it: each Write answers from the port's state and moves it on. A Write
never says it took more bytes than it was given. -/
structure WritePort (σ : Type) where
  write : σ → List UInt8 → WriteAnswer × σ
  took_le : ∀ s bytes n, (write s bytes).1 = .took n → n ≤ bytes.length

/-- A write as it went: every Write, with the bytes it was given and its answer, in order; the
outcome; and the port's state after. -/
structure WriteRun (σ : Type) where
  calls : List (List UInt8 × WriteAnswer)
  outcome : Except PortError Unit
  port : σ

def piecesTaken (calls : List (List UInt8 × WriteAnswer)) : List (List UInt8) :=
  calls.filterMap fun c => c.2.piece c.1

/-- Writes `bytes` to the port `w`, named `name`, from its state `s`: each Write is given what is
left until nothing is. A failed Write ends the write with the port's error, one that took nothing
with a short write. -/
def WritePort.writeAll {σ : Type} (w : WritePort σ) (name : String) (s : σ) :
    List UInt8 → WriteRun σ
  | [] => ⟨[], .ok (), s⟩
  | b :: bs =>
    match w.write s (b :: bs) with
    | (.failed text, s') =>
      ⟨[(b :: bs, .failed text)], .error (Host.serialFailure "write" name (.other text)), s'⟩
    | (.took 0, s') =>
      ⟨[(b :: bs, .took 0)], .error (Host.serialFailure "write" name .shortWrite), s'⟩
    | (.took (n + 1), s') =>
      let rest := w.writeAll name s' ((b :: bs).drop (n + 1))
      { rest with calls := (b :: bs, .took (n + 1)) :: rest.calls }
termination_by bytes => bytes.length

/-- The driver's Write of `bytes`: with no open port it fails at once and writes nothing, else it
writes them all to the open port. `name` is the name of the port opened last. -/
def driverWrite {σ : Type} (port : Option (WritePort σ)) (name : String) (s : σ)
    (bytes : List UInt8) : WriteRun σ :=
  match port with
  | none => ⟨[], .error (Host.serialFailure "write" name .notConnected), s⟩
  | some w => w.writeAll name s bytes

def limitedTake (limit n : Nat) : Nat :=
  if limit = 0 then n else min limit n

/-- The simulated serial port's Write: it fails with the scripted write failure, takes nothing
when scripted so, and else takes as many bytes as the scripted limit lets it. -/
def simulatedPort (sc : Script) : WritePort Unit where
  write _ bytes :=
    let answer := match sc.writeError with
      | some text => .failed text
      | none => if sc.writeZero then .took 0 else .took (limitedTake (sc.writeLimit.getD 0) bytes.length)
    (answer, ())
  took_le := by
    intro _ bytes n h
    simp only at h
    split at h
    · cases h
    · split at h <;> cases h
      · omega
      · simp only [limitedTake]
        split <;> omega

namespace Host

def serialClose : HostM (Except PortError Unit) := do
  let sl := (← get).serial
  if !sl.isOpen then return .ok ()
  call "close"
  setSerial fun sl => { sl with isOpen := false, reading := false }
  match (← get).script.closeError with
  | some text => return .error (serialFailure "close" sl.name (.other text))
  | none => return .ok ()

/-- The serial driver opens a port: it makes the port (which fails with the scripted open
failure, or with the reopen failure once a port was made before), sets its read timeout (on
failure the port closes again), clears its input, and starts reading. -/
def serialOpen (readTimeout : Duration) (port : String) (baud : Int) :
    HostM (Except PortError Unit) := do
  call s!"open {port} baud={baud} data=8 parity=0 stop=0 rts=true dtr=true"
  let sc := (← get).script
  let before := (← get).serial.made
  match sc.openError, (if before then sc.reconnectError else none) with
  | some text, _ | none, some text => return .error (serialFailure "open" port (.other text))
  | none, none =>
    setSerial fun sl => { sl with made := true, readBuffer := 0 }
    let timeout := if readTimeout.nanos ≤ 0 then Duration.ofSeconds 2 else readTimeout
    call s!"read_timeout {timeout.text}"
    match sc.readTimeoutError with
    | some text =>
      call "close"
      return .error (serialFailure "open" port (.other text))
    | none =>
      call "reset_input"
      let size := readBufferSize baud
      setSerial fun sl =>
        { sl with isOpen := true, name := port, receiving := true, reading := true, readBuffer := size }
      modify fun s => { s with linePort := port }
      return .ok ()

/-! ## Line calls -/

/-- Opens the port: the call is recorded even when it fails. -/
def lineOpen (port : String) (baud : Int) : HostM (Except PortError Unit) := do
  match (← get).lineKind with
  | .scripted =>
    call s!"open {port} {baud}"
    let r ← scripted (·.openError) port
    if r.isOk then modify fun s => { s with linePort := port }
    return r
  | .serial readTimeout =>
    let _ ← serialClose
    serialOpen readTimeout port baud
  | .system =>
    return .error (serialFailure "open" port (.other (Utf8.ofString "no such file or directory")))

/-- Reopens the port at another rate. -/
def lineReconnect (baud : Int) : HostM (Except PortError Unit) := do
  match (← get).lineKind with
  | .scripted =>
    call s!"reconnect {baud}"
    let r ← scripted (·.reconnectError) (← get).linePort
    if r.isOk then lineOpened
    return r
  | kind =>
    let sl := (← get).serial
    if !sl.receiving then return .error (serialFailure "reconnect" "" .notConnected)
    let _ ← serialClose
    let r ← match kind with
      | .serial readTimeout => serialOpen readTimeout sl.name baud
      | _ => pure (.error (serialFailure "open" sl.name
          (.other (Utf8.ofString "no such file or directory"))))
    if r.isOk then lineOpened
    return r

def lineClose : HostM (Except PortError Unit) := do
  match (← get).lineKind with
  | .scripted =>
    call "close"
    scripted (·.closeError) (← get).linePort
  | _ => serialClose

/-- Writes a frame. The scripted line writes all of it or, failing, nothing; the serial driver
records each piece its port took. -/
def lineWrite (frame : List UInt8) : HostM (Except PortError Unit) := do
  match (← get).lineKind with
  | .scripted =>
    let r ← scripted (·.writeError) (← get).linePort
    if r.isOk then wrote frame
    return r
  | _ =>
    let s ← get
    let port := if s.serial.isOpen then some (simulatedPort s.script) else none
    let run := driverWrite port s.serial.name () frame
    (piecesTaken run.calls).forM wrote
    return run.outcome

def answer (cmd : Packet) (reply : Reply) : HostM Unit := do
  match reply with
  | .silent => pure ()
  | .auto => lineRead ((← getConn).codec.encode (autoResponse cmd))
  | .chunks cs => cs.forM lineRead
  | .readError text => lineReadFailed text

def answerNext (cmd : Packet) : HostM Unit := do
  let (reply, rest) := (← get).script.nextReply
  modify fun s => { s with script := rest }
  answer cmd reply

end Host

end LcdPanel.Session
