import LcdPanel.Session.State

namespace LcdPanel.Session

open LcdPanel.Frame LcdPanel.Link LcdPanel.Time LcdPanel.Display

namespace Host

def disconnect : HostM (Except LinkError Unit) := do
  let closed ← lineClose
  let (c, r) := (← getConn).disconnect closed
  setConn c
  return r

/-- What runs after the port opened, in the outermost open only. -/
def runHook (port : String) (baud : Int) (connectAgain : String → Int → HostM (Except LinkError Unit)) :
    HostM Unit := do
  match (← get).script.openHook with
  | none => pure ()
  | some .disconnect => hooked (← disconnect)
  | some .disconnectConnect =>
    hooked (← disconnect)
    hooked (← connectAgain port baud)

/-- Connects the session's connection; `hook` tells whether this is the outermost open. -/
def connectWith (hook : Option (String → Int → HostM (Except LinkError Unit)))
    (port : String) (baud : Int) : HostM (Except LinkError Unit) := do
  match (← getConn).beginConnect port baud with
  | .error e => return .error e
  | .ok (c, g) =>
    setConn c
    match ← lineOpen port baud with
    | .error e =>
      let (c, err) := (← getConn).openFailed g port e
      setConn c
      return .error err
    | .ok () =>
      modify fun s => { s with dialed := none }
      lineOpened
      match hook with
      | some again => runHook port baud again
      | none => pure ()
      let (c, settled) := (← getConn).settleConnect g
      setConn c
      match settled with
      | .up => return .ok ()
      | .abandoned =>
        let _ ← lineClose
        return .error (Conn.closedDuringConnect port)
      | .superseded => return .error (Conn.closedDuringConnect port)

def connect (port : String) (baud : Int) : HostM (Except LinkError Unit) :=
  connectWith (some (connectWith none)) port baud

/-- Dials a new connection over the line; once it is up the line reads for it. -/
def dial (port : String) (baud : Int) : HostM (Except LinkError Unit) := do
  match ({} : Conn).beginConnect port baud with
  | .error e => return .error e
  | .ok (c, g) =>
    match ← lineOpen port baud with
    | .error e => return .error (c.openFailed g port e).2
    | .ok () =>
      let (c, _) := c.opened.settleConnect g
      modify fun s => { s with dialed := some c }
      return .ok ()

/-- Waits for the command turn: while a command is held only a context that is done ends the
wait, with its error. -/
def takeTurn : HostM (Except LinkError Unit) := do
  let s ← get
  match s.held, s.ctx with
  | some _, .canceled => return .error .canceled
  | some _, .expired => return .error .deadlineExceeded
  | _, _ => return .ok ()

/-- Writes a command registered under ticket `t`, and what follows the write: the device's reply,
or the cancellation the context scripts. Returns how the wait for the reply ends. -/
def writeRegistered (cmd : Packet) (t : Nat) (frame : List UInt8) (timeout : Duration) :
    HostM (Except LinkError Packet) := do
  match ← lineWrite frame with
  | .error e =>
    let (c, err) := (← getConn).writeFailed t e
    setConn c
    return .error err
  | .ok () =>
    let expiry ← if (← get).ctx = .cancelInWrite then pure Expiry.canceled
      else do answerNext cmd; pure (Expiry.timer timeout)
    let (c, r) := (← getConn).settle t cmd.id expiry
    setConn c
    return r

def exchange (cmd : Packet) (timeout : Duration) : HostM (Except LinkError Packet) := do
  match (← getConn).register cmd with
  | .error e => return .error e
  | .ok (c, t, frame) =>
    setConn c
    writeRegistered cmd t frame timeout

def sendReceiveWithin (cmd : Packet) (timeout : Duration) : HostM (Except LinkError Packet) := do
  match (← getConn).checkSend cmd with
  | .error e => return .error e
  | .ok () =>
    match ← takeTurn with
    | .error e => return .error e
    | .ok () => exchange cmd timeout

def sendReceive (cmd : Packet) : HostM (Except LinkError Packet) := do
  sendReceiveWithin cmd (← getConn).replyTimeout

def reconnectInTurn (baud : Int) : HostM (Except LinkError Unit) := do
  match (← getConn).beginReconnect with
  | .error e => return .error e
  | .ok c =>
    setConn c
    let port := c.port
    let r ← lineReconnect baud
    let (c, result) := (← getConn).finishReconnect port baud r
    setConn c
    return result

def reconnect (baud : Int) : HostM (Except LinkError Unit) := do
  match (← getConn).checkReconnectRate baud with
  | .error e => return .error e
  | .ok () =>
    match ← takeTurn with
    | .error e => return .error e
    | .ok () => reconnectInTurn baud

/-- Sends a command that changes the line rate and reopens the line at `baud` once it is
acknowledged. A reopen that fails after the reply comes with that reply. -/
def sendReceiveReconnect (cmd : Packet) (baud : Int) :
    HostM (Option Packet × Except LinkError Unit) := do
  let c ← getConn
  match c.checkReconnectRate baud, c.checkSend cmd with
  | .error e, _ => return (none, .error e)
  | .ok (), .error e => return (none, .error e)
  | .ok (), .ok () =>
    match ← takeTurn with
    | .error e => return (none, .error e)
    | .ok () =>
      match ← exchange cmd c.replyTimeout with
      | .error e => return (none, .error e)
      | .ok reply => return (some reply, ← reconnectInTurn baud)

def run {α : Type} : Exchange α → HostM (Except DeviceError α)
  | .done r => pure r
  | .ask cmd next => do
    let r ← sendReceive cmd
    run (next r)
  | .askAtRate cmd baud next => do
    match ← sendReceiveReconnect cmd baud with
    | (some reply, .ok ()) => run (next (.ok reply))
    | (_, .error e) => run (next (.error e))
    | (none, .ok ()) => run (next (.error .canceled))

/-! ## Held commands -/

/-- Starts a command whose write blocks once the frame is out: the command stays held until
`release`. A command that fails before its write ends at once, with its outcome. -/
def hold (cmd : Packet) : HostM (Option (Except LinkError Packet)) := do
  let c ← getConn
  match c.checkSend cmd with
  | .error e => return some (.error e)
  | .ok () =>
    match c.register cmd with
    | .error e => return some (.error e)
    | .ok (c, t, frame) =>
      setConn c
      match ← lineWrite frame with
      | .error e =>
        let (c, err) := (← getConn).writeFailed t e
        setConn c
        return some (.error err)
      | .ok () =>
        modify fun s => { s with held := some ⟨t, cmd, c.replyTimeout⟩ }
        return none

/-- A command that waits for the held command's turn; one that cannot be sent ends at once. -/
def enqueue (cmd : Packet) : HostM Unit := do
  match (← getConn).checkSend cmd with
  | .error e => modify fun s => { s with finished := s.finished ++ [.error e] }
  | .ok () => modify fun s => { s with waiting := s.waiting ++ [cmd] }

def runWaiting : List Packet → HostM Unit
  | [] => pure ()
  | cmd :: rest => do
    let r ← exchange cmd (← getConn).replyTimeout
    modify fun s => { s with finished := s.finished ++ [r] }
    runWaiting rest

/-- Lets the held command's write return after the device gave `reply`; the command then waits
for its reply, and the waiting commands take their turns. -/
def release (reply : Reply) : HostM (Option (Except LinkError Packet)) := do
  match (← get).held with
  | none => return none
  | some h =>
    answer h.cmd reply
    let (c, r) := (← getConn).settle h.ticket h.cmd.id (.timer h.timeout)
    setConn c
    let waiting := (← get).waiting
    modify fun s => { s with held := none, waiting := [] }
    runWaiting waiting
    return some r

def collect : HostM (List (Except LinkError Packet)) := do
  let s ← get
  set { s with finished := [] }
  return s.finished

end Host

end LcdPanel.Session
