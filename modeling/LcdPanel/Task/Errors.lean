namespace LcdPanel.Task

def canceledText : String := "context canceled"

structure ErrorList where
  errors : List String := []
  deriving DecidableEq, Repr

namespace ErrorList

def add (e : ErrorList) : Option String → ErrorList
  | some text => { errors := e.errors ++ [text] }
  | none => e

def addAll (e : ErrorList) (errs : List (Option String)) : ErrorList :=
  errs.foldl add e

def aggregate (e : ErrorList) : Option ErrorList :=
  if e.errors.isEmpty then none else some e

def message (e : ErrorList) : String :=
  match e.errors with
  | [] => ""
  | [one] => one
  | many => "multiple errors: " ++ "; ".intercalate many

/-- Whether the gathered errors reach each of the given errors: the present ones do, once any
error was gathered. -/
def reaches (errs : List (Option String)) : List Bool :=
  let gathered := addAll {} errs
  errs.map fun x => x.isSome && !gathered.errors.isEmpty

@[simp] theorem add_none (e : ErrorList) : e.add none = e := rfl

@[simp] theorem add_some (e : ErrorList) (t : String) : (e.add (some t)).errors = e.errors ++ [t] :=
  rfl

theorem addAll_errors (e : ErrorList) (errs : List (Option String)) :
    (e.addAll errs).errors = e.errors ++ errs.filterMap id := by
  induction errs generalizing e with
  | nil => simp [addAll]
  | cons x xs ih =>
    cases x with
    | none => simpa [addAll, List.foldl] using ih e
    | some t =>
      have h := ih (e.add (some t))
      simp only [addAll, List.foldl] at h ⊢
      rw [h]; simp

end ErrorList

end LcdPanel.Task
