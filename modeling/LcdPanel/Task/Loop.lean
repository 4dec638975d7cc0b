import LcdPanel.Task.Errors

namespace LcdPanel.Task

def defaultInterval : Int := 100

def effectiveInterval (ms : Int) : Int :=
  if ms ≤ 0 then defaultInterval else ms

/-- One iteration: the clock reading and the messages it took. -/
structure Iteration (α : Type) where
  time : Option Int
  messages : List α
  deriving DecidableEq, Repr

/-- A loop's state between iterations; a clock reading of `none` is the real clock. -/
structure Loop (α : Type) where
  interval : Int := defaultInterval
  now : Option Int := some 0
  pending : List α := []
  wake : Bool := false
  ticked : Bool := false
  deriving DecidableEq, Repr

/-- Something done to a loop from outside: a tick of the clock, a message posted with or without
waking the loop, or a wake-up. -/
inductive Input (α : Type)
  | tick
  | post (m : α)
  | postMessage (m : α)
  | trigger
  deriving DecidableEq, Repr

namespace Loop

variable {α : Type}

def iterate (l : Loop α) : Loop α × Iteration α :=
  ({ l with pending := [] }, ⟨l.now, l.pending⟩)

def accept (l : Loop α) : Input α → Loop α
  | .tick => { l with now := l.now.map (· + effectiveInterval l.interval), ticked := true }
  | .post m => { l with pending := l.pending ++ [m], wake := true }
  | .postMessage m => { l with pending := l.pending ++ [m] }
  | .trigger => { l with wake := true }

/-- Runs the iterations that are due: one for a pending wake-up and one for a pending tick. -/
def settle (l : Loop α) : Loop α × List (Iteration α) :=
  let (l, first) := if l.wake then (fun (l, i) => (l, [i])) (iterate { l with wake := false })
    else (l, [])
  let (l, second) := if l.ticked then (fun (l, i) => (l, [i])) (iterate { l with ticked := false })
    else (l, [])
  (l, first ++ second)

def feed (l : Loop α) (i : Input α) : Loop α × List (Iteration α) :=
  (l.accept i).settle

def busy (l : Loop α) (inputs : List (Input α)) : Loop α × List (Iteration α) :=
  let (l, held) := l.iterate
  let (l, rest) := (inputs.foldl accept l).settle
  (l, held :: rest)

theorem iterate_messages (l : Loop α) :
    l.iterate.2.messages = l.pending ∧ l.iterate.1.pending = [] := ⟨rfl, rfl⟩

end Loop

/-- A controller, by its name; one that is also a task starts and stops with the loop. -/
structure Controller where
  name : String
  runnable : Bool := false
  deriving DecidableEq, Repr

/-- What runs with a loop: its controllers in the order they were added, and the tasks added on
their own. -/
structure Setup where
  controllers : List Controller := []
  tasks : List String := []
  deriving DecidableEq, Repr

namespace Setup

/-- The tasks a loop starts: the controllers that are also tasks, in order, then the others. -/
def started (s : Setup) : List String :=
  (s.controllers.filter (·.runnable)).map (·.name) ++ s.tasks

/-- Stopping a loop cancels its context: its run returns the cancellation once every task it
started has returned. -/
def stop (s : Setup) : String × List String := (canceledText, s.started)

end Setup

end LcdPanel.Task
