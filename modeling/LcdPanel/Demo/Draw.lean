import LcdPanel.Display.Device

namespace LcdPanel.Demo

open LcdPanel.Display

inductive DrawCall where
  | clear
  | contents (line1 line2 : String)
  | send (col row : Int) (text : List UInt8)
  deriving DecidableEq, Repr

/-- A program of display calls ending in a value. -/
inductive Drawing (α : Type) where
  | done (a : α)
  | draw (c : DrawCall) (next : Option String → Drawing α)

namespace Drawing

def bind {α β : Type} (x : Drawing α) (f : α → Drawing β) : Drawing β :=
  match x with
  | .done a => f a
  | .draw c next => .draw c fun r => (next r).bind f

instance : Monad Drawing where
  pure := .done
  bind := Drawing.bind

def call (c : DrawCall) : Drawing (Option String) := .draw c .done

/-- Runs a program on a display that records the calls and fails the call numbered `failAt`,
counting from 1, with `failure`. -/
def record {α : Type} (failAt : Nat) (failure : String) : Drawing α → α × List DrawCall :=
  go 1
where
  go {α : Type} (n : Nat) : Drawing α → α × List DrawCall
    | .done a => (a, [])
    | .draw c next =>
      let (a, cs) := go (n + 1) (next (if n = failAt then some failure else none))
      (a, c :: cs)

end Drawing

def DrawCall.operation : DrawCall → Exchange Unit
  | .clear => Display.clear
  | .contents a b => setContents (Utf8.ofString a) (Utf8.ofString b)
  | .send col row text => sendData col row text

/-- Runs a program on the device: each call is its display operation, and a failed operation
gives its error text. -/
def Drawing.onDevice {α : Type} : Drawing α → Exchange α
  | .done a => pure a
  | .draw c next => do
    match ← c.operation.attempt with
    | .ok () => (next none).onDevice
    | .error e => (next (some e.message)).onDevice

end LcdPanel.Demo
