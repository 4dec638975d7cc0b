import LcdPanel.Session.State
import Mathlib.Logic.Function.Basic

/-!
The serial port driver shared by concurrent callers, with the read loop of every port it opens;
every interleaving of their steps, and every way the ports answer, is a run.
-/

namespace LcdPanel.Serial

open LcdPanel.Link LcdPanel.Session LcdPanel.Session.Host

/-- What a Read gives back: bytes, possibly none, or a failure in the port's words. -/
inductive ReadResult where
  | data (chunk : List UInt8)
  | failed (text : List UInt8)
  deriving DecidableEq, Repr

def ReadResult.fits (size : Nat) : ReadResult → Bool
  | .data chunk => chunk.length ≤ size
  | .failed _ => true

/-- Where a read loop is: it tells its receiver that the port opened, then reads, checks its stop
channel after each Read, and hands the bytes on or tells the failure, until it leaves and closes its
done channel. -/
inductive LoopPhase where
  | starting
  | reading
  | returned (res : ReadResult)
  | delivering (chunk : List UInt8)
  | failing (text : List UInt8)
  | leaving
  | gone
  deriving DecidableEq, Repr

/-- The read loop of one opened port: its receiver, the size of its buffer, whether the port's stop
channel is closed, and where it is. -/
structure Loop where
  receiver : Nat
  size : Nat
  stopped : Bool := false
  phase : LoopPhase := .starting
  deriving DecidableEq, Repr

/-- A port to open: its name, its rate and the receiver of what it reads. -/
structure Opening where
  name : String
  baud : Int
  receiver : Nat
  deriving DecidableEq, Repr

inductive Call where
  | openPort (name : String) (baud : Int) (receiver : Nat)
  | reconnect (baud : Int)
  | close
  | write (bytes : List UInt8)
  deriving DecidableEq, Repr

/-- What a caller does once the open port is closed: return the close's outcome, or open a port. -/
inductive AfterClose where
  | finish
  | reopen (o : Opening)
  deriving DecidableEq, Repr

/-- Where a caller is in its call. Open, Reconnect and Close take the lock, close the open port (its
stop channel first, then the port, then wait for its read loop to be gone), make and set up a new
port for Open and Reconnect, and give the lock back; a write takes the open port under the lock and
writes outside it. -/
inductive Phase where
  | idle
  | locking
  | checking (baud : Int)
  | closing (next : AfterClose)
  | closingPort (k : Nat) (next : AfterClose)
  | joining (k : Nat) (r : Except PortError Unit) (next : AfterClose)
  | making (o : Opening)
  | timing (k : Nat) (o : Opening)
  | resetting (k : Nat) (o : Opening)
  | unlocking (r : Except PortError Unit)
  | peeking (bytes : List UInt8)
  | writing (k : Nat) (name : String) (rest : List UInt8)
  | returning (r : Except PortError Unit)

structure Caller where
  call : Option Call := none
  phase : Phase := .idle

inductive PortCall where
  | make (name : String) (baud : Int)
  | setTimeout (k : Nat)
  | close (k : Nat)
  | write (k : Nat) (bytes : List UInt8)
  deriving DecidableEq, Repr

/-- How a port call ends: done, done having taken `n` bytes (a write), or failed. -/
inductive Answer where
  | ok
  | took (n : Nat)
  | failed (text : List UInt8)
  deriving DecidableEq, Repr

inductive Event where
  | call (i : Nat) (c : Call)
  | lock (i : Nat)
  | stop (i k : Nat)
  | port (i : Nat) (pc : PortCall) (a : Answer)
  | joined (i k : Nat)
  | spawn (i k receiver : Nat)
  | unlock (i : Nat) (r : Except PortError Unit)
  | finish (i : Nat) (r : Except PortError Unit)
  | other (i : Nat)
  | opened (k receiver : Nat)
  | returned (k : Nat) (res : ReadResult)
  | checked (k : Nat)
  | received (k receiver : Nat) (chunk : List UInt8)
  | readFailed (k receiver : Nat) (text : List UInt8)
  | left (k : Nat)

def Event.callback : Event → Option Nat
  | .opened k _ | .received k _ _ | .readFailed k _ _ => some k
  | _ => none

inductive Act where
  | start (i : Nat) (c : Call)
  | step (i : Nat)
  | answer (i : Nat) (a : Answer)
  | read (k : Nat) (res : ReadResult)
  | run (k : Nat)

/-- The driver: the open port, the name and receiver of the port opened last, how many ports were
made, who holds the lock, the read loop of every port made, and the callers. -/
structure Driver where
  port : Option Nat := none
  name : String := ""
  receiver : Option Nat := none
  made : Nat := 0
  lock : Option Nat := none
  loops : Nat → Option Loop := fun _ => none
  callers : Nat → Caller := fun _ => {}

def Call.held : Call → Phase
  | .openPort name baud r => .closing (.reopen ⟨name, baud, r⟩)
  | .reconnect baud => .checking baud
  | .close => .closing .finish
  | .write bytes => .peeking bytes

/-- Where a caller goes once the open port is closed with outcome `r`: Close returns it, Open and
Reconnect ignore it and open their port. -/
def AfterClose.next : AfterClose → Except PortError Unit → Phase
  | .finish, r => .unlocking r
  | .reopen o, _ => .making o

/-- Where a read loop goes after checking its stop channel, the Read having given `res`. -/
def LoopPhase.afterCheck (stopped : Bool) (res : ReadResult) : LoopPhase :=
  if stopped then .leaving
  else match res with
    | .failed text => .failing text
    | .data [] => .reading
    | .data chunk => .delivering chunk

def Opening.loop (o : Opening) : Loop := ⟨o.receiver, readBufferSize o.baud, false, .starting⟩

namespace Driver

def setCaller (d : Driver) (i : Nat) (c : Caller) : Driver :=
  { d with callers := Function.update d.callers i c }

def setPhase (d : Driver) (i : Nat) (p : Phase) : Driver :=
  d.setCaller i { d.callers i with phase := p }

def setLoop (d : Driver) (k : Nat) (l : Loop) : Driver :=
  { d with loops := Function.update d.loops k (some l) }

def loopGone (d : Driver) (k : Nat) : Bool :=
  match d.loops k with
  | some l => l.phase = .gone
  | none => true

/-- A step of caller `i` that calls no port. -/
def advance (d : Driver) (i : Nat) : Option (Driver × Event) :=
  match (d.callers i).phase, (d.callers i).call with
  | .locking, some c =>
    if d.lock = none then some ({ d with lock := some i }.setPhase i c.held, .lock i) else none
  | .checking baud, _ =>
    match d.receiver with
    | none =>
      some (d.setPhase i (.unlocking (.error (serialFailure "reconnect" "" .notConnected))), .other i)
    | some r => some (d.setPhase i (.closing (.reopen ⟨d.name, baud, r⟩)), .other i)
  | .closing next, _ =>
    match d.port with
    | none => some (d.setPhase i (next.next (.ok ())), .other i)
    | some k =>
      match d.loops k with
      | some l =>
        some ((d.setLoop k { l with stopped := true }).setPhase i (.closingPort k next), .stop i k)
      | none => none
  | .joining k r next, _ =>
    if d.loopGone k then some ({ d with port := none }.setPhase i (next.next r), .joined i k) else none
  | .unlocking r, _ => some ({ d with lock := none }.setCaller i {}, .unlock i r)
  | .peeking bytes, _ =>
    match d.port with
    | none =>
      some ({ d with lock := none }.setPhase i
        (.returning (.error (serialFailure "write" d.name .notConnected))), .other i)
    | some k => some ({ d with lock := none }.setPhase i (.writing k d.name bytes), .other i)
  | .writing _ _ [], _ => some (d.setPhase i (.returning (.ok ())), .other i)
  | .returning r, _ => some (d.setCaller i {}, .finish i r)
  | _, _ => none

/-- The port call of caller `i` ends with `a`. -/
def answer (d : Driver) (i : Nat) (a : Answer) : Option (Driver × Event) :=
  match (d.callers i).phase, a with
  | .closingPort k next, .ok => some (d.setPhase i (.joining k (.ok ()) next), .port i (.close k) a)
  | .closingPort k next, .failed text =>
    some (d.setPhase i (.joining k (.error (serialFailure "close" d.name (.other text))) next),
      .port i (.close k) a)
  | .making o, .ok =>
    some ({ d with made := d.made + 1 }.setPhase i (.timing (d.made + 1) o), .port i (.make o.name o.baud) a)
  | .making o, .failed text =>
    some (d.setPhase i (.unlocking (.error (serialFailure "open" o.name (.other text)))),
      .port i (.make o.name o.baud) a)
  | .timing k o, .ok => some (d.setPhase i (.resetting k o), .port i (.setTimeout k) a)
  -- the new port is closed again; the outcome of that close is dropped
  | .timing k o, .failed text =>
    some (d.setPhase i (.unlocking (.error (serialFailure "open" o.name (.other text)))),
      .port i (.setTimeout k) a)
  -- a failure to clear the input is only logged
  | .resetting k o, .ok | .resetting k o, .failed _ =>
    some ({ d with port := some k, name := o.name, receiver := some o.receiver }.setLoop k o.loop
      |>.setPhase i (.unlocking (.ok ())), .spawn i k o.receiver)
  | .writing k name (b :: bs), .took n =>
    if n = 0 then
      some (d.setPhase i (.returning (.error (serialFailure "write" name .shortWrite))),
        .port i (.write k (b :: bs)) a)
    else some (d.setPhase i (.writing k name ((b :: bs).drop n)), .port i (.write k (b :: bs)) a)
  | .writing k name (b :: bs), .failed text =>
    some (d.setPhase i (.returning (.error (serialFailure "write" name (.other text)))),
      .port i (.write k (b :: bs)) a)
  | _, _ => none

/-- A step of the read loop of port `k` that reads nothing. -/
def run (d : Driver) (k : Nat) : Option (Driver × Event) :=
  match d.loops k with
  | none => none
  | some l =>
    match l.phase with
    | .starting => some (d.setLoop k { l with phase := .reading }, .opened k l.receiver)
    | .returned res =>
      some (d.setLoop k { l with phase := LoopPhase.afterCheck l.stopped res }, .checked k)
    | .delivering chunk =>
      some (d.setLoop k { l with phase := .reading }, .received k l.receiver chunk)
    | .failing text => some (d.setLoop k { l with phase := .leaving }, .readFailed k l.receiver text)
    | .leaving => some (d.setLoop k { l with phase := .gone }, .left k)
    | _ => none

def read (d : Driver) (k : Nat) (res : ReadResult) : Option (Driver × Event) :=
  match d.loops k with
  | some l =>
    if l.phase = .reading ∧ res.fits l.size then
      some (d.setLoop k { l with phase := .returned res }, .returned k res)
    else none
  | none => none

/-- One step of the driver, and what it shows; none when the act cannot happen. -/
def step (d : Driver) : Act → Option (Driver × Event)
  | .start i c =>
    match (d.callers i).phase with
    | .idle => some (d.setCaller i ⟨some c, .locking⟩, .call i c)
    | _ => none
  | .step i => d.advance i
  | .answer i a => d.answer i a
  | .read k res => d.read k res
  | .run k => d.run k

/-- Replays acts from `d`: the driver they lead to and the events they show, or none if one of them
cannot happen. -/
def replay (d : Driver) : List Act → Option (Driver × List Event)
  | [] => some (d, [])
  | a :: as => (d.step a).bind fun (d', e) => (d'.replay as).map fun (d'', tr) => (d'', e :: tr)

end Driver

/-- The events of a run from `d₀`, and the driver it ends in. -/
inductive Run (d₀ : Driver) : List Event → Driver → Prop where
  | nil : Run d₀ [] d₀
  | step {tr : List Event} {d d' : Driver} {e : Event} (a : Act) :
      Run d₀ tr d → d.step a = some (d', e) → Run d₀ (tr ++ [e]) d'

/-- A replay that goes through is a run. -/
theorem Driver.replay_run {d d' : Driver} {as : List Act} {tr : List Event}
    (h : d.replay as = some (d', tr)) : Run d tr d' := by
  induction as generalizing d d' tr with
  | nil =>
    simp only [replay, Option.some.injEq, Prod.mk.injEq] at h
    obtain ⟨rfl, rfl⟩ := h
    exact .nil
  | cons a as ih =>
    simp only [replay, Option.bind_eq_some_iff, Option.map_eq_some_iff] at h
    obtain ⟨⟨d₁, e⟩, hstep, ⟨d₂, tr'⟩, hrest, heq⟩ := h
    simp only [Prod.mk.injEq] at heq
    obtain ⟨rfl, rfl⟩ := heq
    have hr := ih hrest
    clear ih hrest
    induction hr with
    | nil => simpa using Run.step a .nil hstep
    | step a' _ hs ih' => rw [← List.cons_append]; exact .step a' ih' hs

namespace Driver

@[simp] theorem setPhase_port (d : Driver) (i : Nat) (p : Phase) : (d.setPhase i p).port = d.port := rfl
@[simp] theorem setPhase_name (d : Driver) (i : Nat) (p : Phase) : (d.setPhase i p).name = d.name := rfl
@[simp] theorem setPhase_receiver (d : Driver) (i : Nat) (p : Phase) :
    (d.setPhase i p).receiver = d.receiver := rfl
@[simp] theorem setPhase_made (d : Driver) (i : Nat) (p : Phase) : (d.setPhase i p).made = d.made := rfl
@[simp] theorem setPhase_lock (d : Driver) (i : Nat) (p : Phase) : (d.setPhase i p).lock = d.lock := rfl
@[simp] theorem setPhase_loops (d : Driver) (i : Nat) (p : Phase) :
    (d.setPhase i p).loops = d.loops := rfl
@[simp] theorem setCaller_port (d : Driver) (i : Nat) (c : Caller) : (d.setCaller i c).port = d.port := rfl
@[simp] theorem setCaller_name (d : Driver) (i : Nat) (c : Caller) : (d.setCaller i c).name = d.name := rfl
@[simp] theorem setCaller_receiver (d : Driver) (i : Nat) (c : Caller) :
    (d.setCaller i c).receiver = d.receiver := rfl
@[simp] theorem setCaller_made (d : Driver) (i : Nat) (c : Caller) : (d.setCaller i c).made = d.made := rfl
@[simp] theorem setCaller_lock (d : Driver) (i : Nat) (c : Caller) : (d.setCaller i c).lock = d.lock := rfl
@[simp] theorem setCaller_loops (d : Driver) (i : Nat) (c : Caller) :
    (d.setCaller i c).loops = d.loops := rfl
@[simp] theorem setLoop_port (d : Driver) (k : Nat) (l : Loop) : (d.setLoop k l).port = d.port := rfl
@[simp] theorem setLoop_name (d : Driver) (k : Nat) (l : Loop) : (d.setLoop k l).name = d.name := rfl
@[simp] theorem setLoop_receiver (d : Driver) (k : Nat) (l : Loop) :
    (d.setLoop k l).receiver = d.receiver := rfl
@[simp] theorem setLoop_made (d : Driver) (k : Nat) (l : Loop) : (d.setLoop k l).made = d.made := rfl
@[simp] theorem setLoop_lock (d : Driver) (k : Nat) (l : Loop) : (d.setLoop k l).lock = d.lock := rfl
@[simp] theorem setLoop_callers (d : Driver) (k : Nat) (l : Loop) :
    (d.setLoop k l).callers = d.callers := rfl
@[simp] theorem setCaller_callers (d : Driver) (i : Nat) (c : Caller) :
    (d.setCaller i c).callers = Function.update d.callers i c := rfl
@[simp] theorem setPhase_callers (d : Driver) (i : Nat) (p : Phase) :
    (d.setPhase i p).callers = Function.update d.callers i { d.callers i with phase := p } := rfl
@[simp] theorem setLoop_loops (d : Driver) (k : Nat) (l : Loop) :
    (d.setLoop k l).loops = Function.update d.loops k (some l) := rfl

/-- The moves of a caller that change its phase and nothing else. -/
inductive PhaseMove (d : Driver) (i : Nat) : Phase → Phase → Event → Prop where
  | refuse (baud : Int) (hr : d.receiver = none) :
      PhaseMove d i (.checking baud)
        (.unlocking (.error (serialFailure "reconnect" "" .notConnected))) (.other i)
  | again (baud : Int) (r : Nat) (hr : d.receiver = some r) :
      PhaseMove d i (.checking baud) (.closing (.reopen ⟨d.name, baud, r⟩)) (.other i)
  | noPort (next : AfterClose) (hn : d.port = none) :
      PhaseMove d i (.closing next) (next.next (.ok ())) (.other i)
  | closed (k : Nat) (next : AfterClose) :
      PhaseMove d i (.closingPort k next) (.joining k (.ok ()) next) (.port i (.close k) .ok)
  | closeFailed (k : Nat) (next : AfterClose) (text : List UInt8) :
      PhaseMove d i (.closingPort k next)
        (.joining k (.error (serialFailure "close" d.name (.other text))) next)
        (.port i (.close k) (.failed text))
  | makeFailed (o : Opening) (text : List UInt8) :
      PhaseMove d i (.making o) (.unlocking (.error (serialFailure "open" o.name (.other text))))
        (.port i (.make o.name o.baud) (.failed text))
  | timed (k : Nat) (o : Opening) :
      PhaseMove d i (.timing k o) (.resetting k o) (.port i (.setTimeout k) .ok)
  | timeFailed (k : Nat) (o : Opening) (text : List UInt8) :
      PhaseMove d i (.timing k o) (.unlocking (.error (serialFailure "open" o.name (.other text))))
        (.port i (.setTimeout k) (.failed text))
  | wrote (k : Nat) (name : String) :
      PhaseMove d i (.writing k name []) (.returning (.ok ())) (.other i)
  | writeShort (k : Nat) (name : String) (bs : List UInt8) (hne : bs ≠ []) :
      PhaseMove d i (.writing k name bs) (.returning (.error (serialFailure "write" name .shortWrite)))
        (.port i (.write k bs) (.took 0))
  | writeSome (k : Nat) (name : String) (bs : List UInt8) (n : Nat) (hne : bs ≠ []) (hn : n ≠ 0) :
      PhaseMove d i (.writing k name bs) (.writing k name (bs.drop n)) (.port i (.write k bs) (.took n))
  | writeFailed (k : Nat) (name : String) (bs : List UInt8) (text : List UInt8) (hne : bs ≠ []) :
      PhaseMove d i (.writing k name bs)
        (.returning (.error (serialFailure "write" name (.other text))))
        (.port i (.write k bs) (.failed text))

/-- The moves of the read loop of port `k`. -/
inductive LoopMove (k : Nat) (l : Loop) : LoopPhase → Event → Prop where
  | opened (hp : l.phase = .starting) : LoopMove k l .reading (.opened k l.receiver)
  | returned (res : ReadResult) (hp : l.phase = .reading) (hf : res.fits l.size) :
      LoopMove k l (.returned res) (.returned k res)
  | checked (res : ReadResult) (hp : l.phase = .returned res) :
      LoopMove k l (LoopPhase.afterCheck l.stopped res) (.checked k)
  | received (chunk : List UInt8) (hp : l.phase = .delivering chunk) :
      LoopMove k l .reading (.received k l.receiver chunk)
  | readFailed (text : List UInt8) (hp : l.phase = .failing text) :
      LoopMove k l .leaving (.readFailed k l.receiver text)
  | left (hp : l.phase = .leaving) : LoopMove k l .gone (.left k)

inductive Moves : Driver → Driver → Event → Prop where
  | start {d : Driver} {i : Nat} (c : Call) (hp : (d.callers i).phase = .idle) :
      Moves d (d.setCaller i ⟨some c, .locking⟩) (.call i c)
  | move {d : Driver} {i : Nat} {p p' : Phase} {e : Event} (hp : (d.callers i).phase = p)
      (hm : PhaseMove d i p p' e) : Moves d (d.setPhase i p') e
  | lock {d : Driver} {i : Nat} (c : Call) (hp : (d.callers i).phase = .locking)
      (hc : (d.callers i).call = some c) (hl : d.lock = none) :
      Moves d ({ d with lock := some i }.setPhase i c.held) (.lock i)
  | stop {d : Driver} {i k : Nat} {l : Loop} (next : AfterClose) (hp : (d.callers i).phase = .closing next)
      (hk : d.port = some k) (hl : d.loops k = some l) :
      Moves d ((d.setLoop k { l with stopped := true }).setPhase i (.closingPort k next)) (.stop i k)
  | join {d : Driver} {i k : Nat} (r : Except PortError Unit) (next : AfterClose)
      (hp : (d.callers i).phase = .joining k r next) (hg : d.loopGone k = true) :
      Moves d ({ d with port := none }.setPhase i (next.next r)) (.joined i k)
  | unlock {d : Driver} {i : Nat} (r : Except PortError Unit) (hp : (d.callers i).phase = .unlocking r) :
      Moves d ({ d with lock := none }.setCaller i {}) (.unlock i r)
  | peekNone {d : Driver} {i : Nat} (bytes : List UInt8) (hp : (d.callers i).phase = .peeking bytes)
      (hn : d.port = none) :
      Moves d ({ d with lock := none }.setPhase i
        (.returning (.error (serialFailure "write" d.name .notConnected)))) (.other i)
  | peek {d : Driver} {i k : Nat} (bytes : List UInt8) (hp : (d.callers i).phase = .peeking bytes)
      (hk : d.port = some k) :
      Moves d ({ d with lock := none }.setPhase i (.writing k d.name bytes)) (.other i)
  | made {d : Driver} {i : Nat} (o : Opening) (hp : (d.callers i).phase = .making o) :
      Moves d ({ d with made := d.made + 1 }.setPhase i (.timing (d.made + 1) o))
        (.port i (.make o.name o.baud) .ok)
  | spawn {d : Driver} {i k : Nat} (o : Opening) (hp : (d.callers i).phase = .resetting k o) :
      Moves d (({ d with port := some k, name := o.name, receiver := some o.receiver }.setLoop k
        o.loop).setPhase i (.unlocking (.ok ()))) (.spawn i k o.receiver)
  | finish {d : Driver} {i : Nat} (r : Except PortError Unit) (hp : (d.callers i).phase = .returning r) :
      Moves d (d.setCaller i {}) (.finish i r)
  | loop {d : Driver} {k : Nat} {l : Loop} {p : LoopPhase} {e : Event} (hl : d.loops k = some l)
      (hm : LoopMove k l p e) : Moves d (d.setLoop k { l with phase := p }) e

variable {d d' : Driver} {e : Event}

theorem advance_moves {i : Nat} (h : d.advance i = some (d', e)) : Moves d d' e := by
  unfold advance at h
  cases hp : (d.callers i).phase <;> simp only [hp, reduceCtorEq] at h
  case locking =>
    cases hc : (d.callers i).call <;> simp only [hc, reduceCtorEq] at h
    rename_i c
    split at h
    · rename_i hl
      simp only [Option.some.injEq, Prod.mk.injEq] at h
      obtain ⟨rfl, rfl⟩ := h
      exact .lock c hp hc hl
    · cases h
  case checking baud =>
    split at h
    all_goals
      rename_i hr
      simp only [Option.some.injEq, Prod.mk.injEq] at h
      obtain ⟨rfl, rfl⟩ := h
    · exact .move hp (.refuse baud hr)
    · exact .move hp (.again baud _ hr)
  case closing next =>
    split at h
    · rename_i hn
      simp only [Option.some.injEq, Prod.mk.injEq] at h
      obtain ⟨rfl, rfl⟩ := h
      exact .move hp (.noPort next hn)
    · rename_i k hk
      split at h
      · rename_i l hl
        simp only [Option.some.injEq, Prod.mk.injEq] at h
        obtain ⟨rfl, rfl⟩ := h
        exact .stop next hp hk hl
      · cases h
  case joining k r next =>
    split at h
    · rename_i hg
      simp only [Option.some.injEq, Prod.mk.injEq] at h
      obtain ⟨rfl, rfl⟩ := h
      exact .join r next hp hg
    · cases h
  case unlocking r =>
    simp only [Option.some.injEq, Prod.mk.injEq] at h
    obtain ⟨rfl, rfl⟩ := h
    exact .unlock r hp
  case peeking bytes =>
    split at h
    all_goals
      simp only [Option.some.injEq, Prod.mk.injEq] at h
      obtain ⟨rfl, rfl⟩ := h
    · exact .peekNone bytes hp ‹_›
    · exact .peek bytes hp ‹_›
  case writing k name rest =>
    -- with bytes left the write waits for the port's answer; only a finished write steps
    cases rest with
    | nil =>
      simp only [Option.some.injEq, Prod.mk.injEq] at h
      obtain ⟨rfl, rfl⟩ := h
      exact .move hp (.wrote k name)
    | cons b bs => simp at h
  case returning r =>
    simp only [Option.some.injEq, Prod.mk.injEq] at h
    obtain ⟨rfl, rfl⟩ := h
    exact .finish r hp

theorem answer_moves {i : Nat} {a : Answer} (h : d.answer i a = some (d', e)) : Moves d d' e := by
  unfold answer at h
  cases hp : (d.callers i).phase <;> cases a <;> simp only [hp, reduceCtorEq] at h
  case writing.took k name rest n =>
    cases rest with
    | nil => simp at h
    | cons b bs =>
      dsimp only at h
      split at h
      all_goals
        simp only [Option.some.injEq, Prod.mk.injEq] at h
        obtain ⟨rfl, rfl⟩ := h
      · rename_i hn
        subst hn
        exact .move hp (.writeShort k name _ (List.cons_ne_nil b bs))
      · exact .move hp (.writeSome k name _ n (List.cons_ne_nil b bs) ‹_›)
  case writing.failed k name rest text =>
    cases rest with
    | nil => simp at h
    | cons b bs =>
      dsimp only at h
      simp only [Option.some.injEq, Prod.mk.injEq] at h
      obtain ⟨rfl, rfl⟩ := h
      exact .move hp (.writeFailed k name _ text (List.cons_ne_nil b bs))
  all_goals
    simp only [Option.some.injEq, Prod.mk.injEq] at h
    obtain ⟨rfl, rfl⟩ := h
  case closingPort.ok k next => exact .move hp (.closed k next)
  case closingPort.failed k next text => exact .move hp (.closeFailed k next text)
  case making.ok o => exact .made o hp
  case making.failed o text => exact .move hp (.makeFailed o text)
  case timing.ok k o => exact .move hp (.timed k o)
  case timing.failed k o text => exact .move hp (.timeFailed k o text)
  -- whatever clearing the input answers, the port is recorded and its read loop started
  all_goals exact .spawn _ hp

theorem run_moves {k : Nat} (h : d.run k = some (d', e)) : Moves d d' e := by
  unfold run at h
  split at h
  · cases h
  · rename_i l hl
    cases hp : l.phase <;> simp only [hp, reduceCtorEq] at h
    all_goals
      simp only [Option.some.injEq, Prod.mk.injEq] at h
      obtain ⟨rfl, rfl⟩ := h
    case starting => exact .loop hl (.opened hp)
    case returned res => exact .loop hl (.checked res hp)
    case delivering chunk => exact .loop hl (.received chunk hp)
    case failing text => exact .loop hl (.readFailed text hp)
    case leaving => exact .loop hl (.left hp)

theorem read_moves {k : Nat} {res : ReadResult} (h : d.read k res = some (d', e)) : Moves d d' e := by
  unfold read at h
  split at h
  · rename_i l hl
    split at h
    · rename_i hr
      simp only [Option.some.injEq, Prod.mk.injEq] at h
      obtain ⟨rfl, rfl⟩ := h
      exact .loop hl (.returned res hr.1 hr.2)
    · cases h
  · cases h

/-- The one inversion of the step function. -/
theorem step_moves {a : Act} (h : d.step a = some (d', e)) : Moves d d' e := by
  cases a with
  | start i c =>
    simp only [step] at h
    split at h
    · rename_i hp
      simp only [Option.some.injEq, Prod.mk.injEq] at h
      obtain ⟨rfl, rfl⟩ := h
      exact .start c hp
    · cases h
  | step i => exact advance_moves h
  | answer i a => exact answer_moves h
  | read k res => exact read_moves h
  | run k => exact run_moves h

end Driver

end LcdPanel.Serial
