import LcdPanel.Task.Errors

/-!
What each kind of task returns once the context is done is fixed here, so the outcome of a run is a
function of its tasks; the order in which they finish only orders the errors.
-/

namespace LcdPanel.Task

/-- What a task does: return no error, fail at once, wait for the context and return its
cancellation, wait and then return a text as an error (none when it is empty), or hang. -/
inductive Act
  | ok
  | fail (text : String)
  | wait
  | waitError (text : String)
  | hang
  deriving DecidableEq, Repr

/-- A job: a task to run, with its optional name. -/
structure Job where
  name : Option String := none
  act : Act
  deriving DecidableEq, Repr

inductive Ending
  | success
  | canceled
  | failed (text : String)
  deriving DecidableEq, Repr

/-- How a task ends once the context is done; `none` when it never returns. -/
def Act.ending : Act → Option Ending
  | .ok => some .success
  | .fail text => some (.failed text)
  | .wait => some .canceled
  | .waitError text => some (if text.isEmpty then .success else .failed text)
  | .hang => none

def named (tasks : List Job) : List (String × Act) :=
  (List.range tasks.length).zip tasks |>.map fun (i, t) => (t.name.getD (toString i), t.act)

def gather (finished : List (String × Ending)) : ErrorList :=
  finished.foldl (fun e (name, ending) =>
    match ending with
    | .failed text => e.add (some (name ++ ": " ++ text))
    | _ => e) {}

/-- How waiting for a run ends. -/
inductive RunResult
  | forcedExit
  | finished (errors : Option ErrorList)
  deriving DecidableEq, Repr

/-- How a wait ended, and the error of the shared context once it returned. -/
structure Waited where
  result : RunResult
  context : Option String
  deriving DecidableEq, Repr

/-- Runs tasks to the end: a second stop request, while some task has yet to return, forces the
exit; otherwise every task ends as its kind says (the context is done by then, through a stop, a
cancelled parent or a failure), and the gathered errors are the result. The context is cancelled
once the wait returns: the wait cancels it on its way out, and a forced exit comes after a first
stop request that cancelled it. -/
def run (tasks : List Job) (stops : Nat) : Waited :=
  let result :=
    if 2 ≤ stops ∧ tasks ≠ [] then .forcedExit
    else
      let ended := (named tasks).filterMap fun (name, act) => act.ending.map (name, ·)
      .finished (gather ended).aggregate
  ⟨result, some canceledText⟩

/-- What a guarded call does when its context is done: a cancel hook, or a closer that is also
closed after the call when the context was not done. -/
inductive Guard
  | hook (present : Bool)
  | closer
  deriving DecidableEq, Repr

/-- Runs a call under a context: with the context done, the guard runs first (which lets a
blocked call return) and the result is the cancellation; otherwise the call's own result, and a
closer is closed after it. The list names what ran, in order: `fn`, `on_cancel`, `close`. -/
def guarded (canceled : Bool) (guard : Guard) (result : Option String) :
    List String × Option String :=
  if canceled then
    let first := match guard with
      | .hook true => ["on_cancel"]
      | .hook false => []
      | .closer => ["close"]
    (first ++ ["fn"], some canceledText)
  else
    (["fn"] ++ (if guard = .closer then ["close"] else []), result)

end LcdPanel.Task
