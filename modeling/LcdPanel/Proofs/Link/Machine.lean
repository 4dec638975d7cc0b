import LcdPanel.Link.Conn
import Mathlib.Logic.Function.Basic

/-!
A connection shared by concurrent callers, each running one call at a time as a sequence of
phases, and the transport's reader; every interleaving of their steps, the reply timers and the
callers' contexts is a run.
-/

namespace LcdPanel.Link

open LcdPanel.Frame LcdPanel.Time

/-- What a caller asks of a shared connection. -/
inductive Call where
  | send (cmd : Packet) (timeout : Option Duration)
  | sendAtRate (cmd : Packet) (baud : Int)
  | reconnect (baud : Int)
  | disconnect
  | connect (port : String) (baud : Int)
  deriving DecidableEq, Repr

/-- What a call returns: the reply, if any, and the error, if any. -/
structure Outcome where
  reply : Option Packet := none
  error : Option LinkError := none
  deriving DecidableEq, Repr

namespace Outcome

def failed (e : LinkError) : Outcome := ⟨none, some e⟩

def ofResult : Except LinkError Unit → Outcome
  | .ok () => {}
  | .error e => failed e

def ofReply : Except LinkError Packet → Outcome
  | .ok p => ⟨some p, none⟩
  | .error e => failed e

end Outcome

/-- How a caller's context ended. -/
inductive CtxEnd where
  | canceled
  | deadline
  deriving DecidableEq, Repr

def CtxEnd.expiry : CtxEnd → Expiry
  | .canceled => .canceled
  | .deadline => .deadline

def CtxEnd.error : CtxEnd → LinkError
  | .canceled => .canceled
  | .deadline => .deadlineExceeded

/-- What a caller does with the reply of its exchange. -/
inductive Follow where
  | answer
  | reopen (baud : Int)
  deriving DecidableEq, Repr

/-- A command in exchange: the command, how long it waits for its reply, and what follows. -/
structure Query where
  cmd : Packet
  timeout : Duration
  follow : Follow
  deriving DecidableEq, Repr

/-- What a caller does once it holds the command turn. -/
inductive Turn where
  | exchange (req : Query)
  | reconnect (baud : Int)
  deriving DecidableEq, Repr

/-- Why an exchange takes its command out of the slot: the write failed, or the wait ended. -/
inductive Abandon where
  | writeFailed (e : PortError)
  | expired (x : Expiry)
  deriving DecidableEq, Repr

instance decEqExcept {ε α : Type} [DecidableEq ε] [DecidableEq α] : DecidableEq (Except ε α)
  | .ok a, .ok b =>
    if h : a = b then isTrue (h ▸ rfl) else isFalse fun e => h (Except.ok.inj e)
  | .error a, .error b =>
    if h : a = b then isTrue (h ▸ rfl) else isFalse fun e => h (Except.error.inj e)
  | .ok _, .error _ => isFalse fun e => by cases e
  | .error _, .ok _ => isFalse fun e => by cases e

/-- Where a caller is in its call. An exchange takes the command turn, checks that the link is up,
registers its command under a ticket, writes the frame and awaits the result, the reply timer or
its context; a command no longer in the slot when it unregisters was claimed, and it waits for
the result. A disconnect closes the port and fails the awaited command; a connect opens the port
under a report queue generation and settles, closing the port again when the link was closed
meanwhile. -/
inductive Phase where
  | idle
  | locking (turn : Turn)
  | checking (req : Query)
  | registering (req : Query)
  | writing (req : Query) (t : Nat) (frame : List UInt8)
  | awaiting (req : Query) (t : Nat)
  | unregistering (req : Query) (t : Nat) (why : Abandon)
  | receiving (req : Query) (t : Nat)
  | exchanged (req : Query) (r : Except LinkError Packet)
  | reconnecting (reply : Option Packet) (baud : Int)
  | reopening (reply : Option Packet) (port : String) (baud : Int)
  | unlocking (o : Outcome)
  | closing
  | failing (closed : Except PortError Unit)
  | sending (t : Nat) (r : Except LinkError Packet) (o : Outcome)
  | opening (g : Nat) (port : String) (baud : Int)
  | settling (g : Nat) (port : String)
  | abandoning (port : String)
  | returning (o : Outcome)
  deriving DecidableEq, Repr

def Turn.held : Turn → Phase
  | .exchange req => .checking req
  | .reconnect baud => .reconnecting none baud

/-- A caller: the call in progress, where it is, and whether its context has ended. -/
structure Caller where
  call : Option Call := none
  phase : Phase := .idle
  ctx : Option CtxEnd := none

/-- The transport's read goroutine. -/
inductive Reader where
  | idle
  | dispatching (p : Packet) (ps : List Packet)
  | sending (t : Nat) (r : Except LinkError Packet) (ps : List Packet)
  | failing (e : LinkError)
  deriving DecidableEq, Repr

def Reader.resume : List Packet → Reader
  | [] => .idle
  | p :: ps => .dispatching p ps

/-- The connection, the command turn, the result channels, the callers and the reader. -/
structure Machine where
  conn : Conn
  turn : Option Nat := none
  mailbox : Nat → Option (Except LinkError Packet) := fun _ => none
  callers : Nat → Caller := fun _ => {}
  reader : Reader := .idle

/-- A call of the port. -/
inductive PortCall where
  | openPort (port : String) (baud : Int)
  | write (frame : List UInt8)
  | reopen (baud : Int)
  | close
  deriving DecidableEq, Repr

inductive Event where
  | start (i : Nat) (c : Call)
  | lock (i : Nat)
  | register (i t : Nat) (id : UInt8)
  | port (i : Nat) (call : PortCall) (r : Except PortError Unit)
  | unregister (i t : Nat) (removed : Bool)
  | take (i t : Nat) (r : Except LinkError Packet)
  | exchanged (i : Nat) (r : Except LinkError Packet)
  | unlock (i : Nat)
  | finish (i : Nat) (o : Outcome)
  | receive (chunk : List UInt8) (ps : List Packet)
  | dispatch (p : Packet) (claimed : Option Pending) (ds : List Delivery)
  | claim (who : Option Nat) (claimed : Option Pending)
  | send (who : Option Nat) (t : Nat) (r : Except LinkError Packet)
  | cancel (i : Nat) (x : CtxEnd)
  | other (who : Option Nat)
  deriving DecidableEq, Repr

/-- The caller whose action the event shows; none for the reader's steps and the ends of
contexts. -/
def Event.actor : Event → Option Nat
  | .start i _ | .lock i | .register i _ _ | .port i _ _ | .unregister i _ _ | .take i _ _
  | .exchanged i _ | .unlock i | .finish i _ => some i
  | .claim who _ | .send who _ _ | .other who => who
  | .receive .. | .dispatch .. | .cancel .. => none

inductive Act where
  | start (i : Nat) (c : Call)
  | step (i : Nat)
  | answer (i : Nat) (r : Except PortError Unit)
  | timer (i : Nat)
  | done (i : Nat)
  | cancel (i : Nat) (x : CtxEnd)
  | receive (chunk : List UInt8)
  | readFail (text : List UInt8)
  | read
  deriving DecidableEq, Repr

namespace Machine

def init (c : Conn) : Machine := { conn := c }

def setCaller (m : Machine) (i : Nat) (c : Caller) : Machine :=
  { m with callers := Function.update m.callers i c }

def setPhase (m : Machine) (i : Nat) (p : Phase) : Machine :=
  m.setCaller i { m.callers i with phase := p }

/-- What a call does before it waits for the turn: its checks, or all of it for the calls that
need no turn. -/
def begin (c : Conn) : Call → Conn × Phase
  | .send cmd timeout =>
    match c.checkSend cmd with
    | .error e => (c, .returning (.failed e))
    | .ok () => (c, .locking (.exchange ⟨cmd, timeout.getD c.replyTimeout, .answer⟩))
  | .sendAtRate cmd baud =>
    match c.checkReconnectRate baud, c.checkSend cmd with
    | .error e, _ => (c, .returning (.failed e))
    | .ok (), .error e => (c, .returning (.failed e))
    | .ok (), .ok () => (c, .locking (.exchange ⟨cmd, c.replyTimeout, .reopen baud⟩))
  | .reconnect baud =>
    match c.checkReconnectRate baud with
    | .error e => (c, .returning (.failed e))
    | .ok () => (c, .locking (.reconnect baud))
  | .disconnect => (c.down, .closing)
  | .connect port baud =>
    match c.beginConnect port baud with
    | .error e => (c, .returning (.failed e))
    | .ok (c', g) => (c', .opening g port baud)

def afterExchange (req : Query) (r : Except LinkError Packet) : Phase :=
  match req.follow, r with
  | .answer, r => .unlocking (.ofReply r)
  | .reopen _, .error e => .unlocking (.failed e)
  | .reopen baud, .ok p => .reconnecting (some p) baud

/-- Where an exchange goes once it took its command out of the slot (`removed`) or found it gone. -/
def afterUnregister (req : Query) (t : Nat) (why : Abandon) (port : String) (removed : Bool) :
    Phase :=
  match why, removed with
  | .writeFailed e, _ => .exchanged req (.error (e.during "write" port))
  | .expired x, true => .exchanged req (.error (x.error req.cmd.id))
  | .expired _, false => .receiving req t

/-- A step of caller `i` that does not call the port. -/
def advance (m : Machine) (i : Nat) : Option (Machine × Event) :=
  match (m.callers i).phase with
  | .locking turn =>
    if m.turn = none then some ({ m with turn := some i }.setPhase i turn.held, .lock i) else none
  | .checking req =>
    match m.conn.checkUp with
    | .error e => some (m.setPhase i (.exchanged req (.error e)), .other (some i))
    | .ok () => some (m.setPhase i (.registering req), .other (some i))
  | .registering req =>
    let (c, t, frame) := m.conn.enroll req.cmd
    some ({ m with conn := c }.setPhase i (.writing req t frame), .register i t req.cmd.id)
  | .awaiting req t | .receiving req t =>
    match m.mailbox t with
    | some r =>
      some ({ m with mailbox := Function.update m.mailbox t none }.setPhase i (.exchanged req r),
        .take i t r)
    | none => none
  | .unregistering req t why =>
    let (c, removed) := m.conn.unregister t
    some ({ m with conn := c }.setPhase i (afterUnregister req t why c.port removed),
      .unregister i t removed)
  | .exchanged req r => some (m.setPhase i (afterExchange req r), .exchanged i r)
  | .reconnecting reply baud =>
    match m.conn.beginReconnect with
    | .error e => some (m.setPhase i (.unlocking ⟨reply, some e⟩), .other (some i))
    | .ok c => some ({ m with conn := c }.setPhase i (.reopening reply c.port baud), .other (some i))
  | .unlocking o =>
    if m.turn.isSome then some ({ m with turn := none }.setPhase i (.returning o), .unlock i)
    else none
  | .failing closed =>
    let o := Outcome.ofResult (Conn.closeOutcome m.conn.port closed)
    match m.conn.claim (fun _ => true) with
    | (c, some q) =>
      some ({ m with conn := c }.setPhase i (.sending q.ticket (.error m.conn.closedError) o),
        .claim (some i) (some q))
    | (c, none) => some ({ m with conn := c }.setPhase i (.returning o), .claim (some i) none)
  | .sending t r o =>
    match m.mailbox t with
    | none =>
      some ({ m with mailbox := Function.update m.mailbox t (some r) }.setPhase i (.returning o),
        .send (some i) t r)
    | some _ => none
  | .settling g port =>
    match m.conn.settleConnect g with
    | (c, .up) => some ({ m with conn := c }.setPhase i (.returning {}), .other (some i))
    | (c, .abandoned) => some ({ m with conn := c }.setPhase i (.abandoning port), .other (some i))
    | (c, .superseded) =>
      some ({ m with conn := c }.setPhase i (.returning (.failed (Conn.closedDuringConnect port))),
        .other (some i))
  | .returning o => some (m.setPhase i .idle, .finish i o)
  | _ => none

/-- The port call of caller `i` returns `r`. -/
def answer (m : Machine) (i : Nat) (r : Except PortError Unit) : Option (Machine × Event) :=
  match (m.callers i).phase with
  | .writing req t frame =>
    let next := match r with
      | .ok () => .awaiting req t
      | .error e => .unregistering req t (.writeFailed e)
    some (m.setPhase i next, .port i (.write frame) r)
  | .reopening reply port baud =>
    let (c, res) := m.conn.finishReconnect port baud r
    let c := if r matches .ok () then c.opened else c
    some ({ m with conn := c }.setPhase i (.unlocking ⟨reply, (Outcome.ofResult res).error⟩),
      .port i (.reopen baud) r)
  | .closing => some (m.setPhase i (.failing r), .port i .close r)
  | .opening g port baud =>
    match r with
    | .ok () =>
      some ({ m with conn := m.conn.opened }.setPhase i (.settling g port), .port i (.openPort port baud) r)
    | .error e =>
      let (c, err) := m.conn.openFailed g port e
      some ({ m with conn := c }.setPhase i (.returning (.failed err)), .port i (.openPort port baud) r)
  | .abandoning port =>
    some (m.setPhase i (.returning (.failed (Conn.closedDuringConnect port))), .port i .close r)
  | _ => none

/-- A step of the reader. -/
def read (m : Machine) : Option (Machine × Event) :=
  match m.reader with
  | .dispatching p ps =>
    match Conn.replyOf p with
    | some (accepts, r) =>
      match m.conn.claim accepts with
      | (c, some q) => some ({ m with conn := c, reader := .sending q.ticket r ps }, .dispatch p (some q) [])
      | (c, none) => some ({ m with conn := c, reader := Reader.resume ps }, .dispatch p none [])
    | none => some ({ m with reader := Reader.resume ps }, .dispatch p none (m.conn.deliveries p))
  | .sending t r ps =>
    match m.mailbox t with
    | none =>
      some ({ m with mailbox := Function.update m.mailbox t (some r), reader := Reader.resume ps },
        .send none t r)
    | some _ => none
  | .failing e =>
    match m.conn.claim (fun _ => true) with
    | (c, some q) => some ({ m with conn := c, reader := .sending q.ticket (.error e) [] }, .claim none (some q))
    | (c, none) => some ({ m with conn := c, reader := .idle }, .claim none none)
  | .idle => none

/-- One step of the machine, and what it shows; none when the act cannot happen. -/
def step (m : Machine) : Act → Option (Machine × Event)
  | .start i c =>
    if (m.callers i).phase = .idle then
      let (conn, p) := begin m.conn c
      some ({ m with conn := conn }.setCaller i { call := some c, phase := p }, .start i c)
    else none
  | .step i => m.advance i
  | .answer i r => m.answer i r
  | .timer i =>
    match (m.callers i).phase with
    | .awaiting req t => some (m.setPhase i (.unregistering req t (.expired (.timer req.timeout))), .other (some i))
    | _ => none
  | .done i =>
    match (m.callers i).ctx, (m.callers i).phase with
    | some x, .locking _ => some (m.setPhase i (.returning (.failed x.error)), .other (some i))
    | some x, .awaiting req t => some (m.setPhase i (.unregistering req t (.expired x.expiry)), .other (some i))
    | _, _ => none
  | .cancel i x =>
    if (m.callers i).ctx = none ∧ (m.callers i).phase ≠ .idle then
      some (m.setCaller i { m.callers i with ctx := some x }, .cancel i x)
    else none
  | .receive chunk =>
    match m.reader with
    | .idle =>
      let (c, ps) := m.conn.frames chunk
      some ({ m with conn := c, reader := Reader.resume ps }, .receive chunk ps)
    | _ => none
  | .readFail text =>
    match m.reader with
    | .idle => some ({ m with conn := m.conn.down, reader := .failing (m.conn.readError text) }, .other none)
    | _ => none
  | .read => m.read

end Machine

/-- The events of a run from `m₀`, and the machine it ends in. -/
inductive Run (m₀ : Machine) : List Event → Machine → Prop where
  | nil : Run m₀ [] m₀
  | step {tr : List Event} {m m' : Machine} {e : Event} (a : Act) :
      Run m₀ tr m → m.step a = some (m', e) → Run m₀ (tr ++ [e]) m'

end LcdPanel.Link
