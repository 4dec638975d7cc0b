import LcdPanel.Demo.Rider
import LcdPanel.Demo.Fields
import LcdPanel.Task.Loop

namespace LcdPanel.Demo

open LcdPanel.Display LcdPanel.Link LcdPanel.Task

structure Routine (σ : Type) where
  step : σ → List KeyAction → Drawing (σ × Option String)

/-- What one iteration of a demo did: the keys it was handed, the display calls and the error
it returned. -/
structure Turn where
  keys : List KeyAction
  calls : List DrawCall
  error : Option String
  deriving DecidableEq, Repr

def keyReader : Routine Unit := ⟨fun _ _ => pure ((), none)⟩

def riderDemo : Routine Rider := ⟨fun k _ => k.control⟩

def fieldDemo : Routine MultiField :=
  ⟨fun m keys => do
    let (m, h) ← m.control keys
    return (m, h.map fun
      | .failed text => text
      | .fault f => f.message)⟩

/-- Runs a demo on a display that records its calls, one iteration per key. -/
def Routine.onKeys {σ : Type} (d : Routine σ) (s : σ) : List KeyAction → List Turn
  | [] => []
  | k :: ks =>
    let (_, it) := ((({} : Loop KeyAction).accept (.post k))).settle
    let keys := it.flatMap (·.messages)
    let ((s, err), calls) := (d.step s keys).record 0 ""
    ⟨keys, calls, err⟩ :: d.onKeys s ks

/-- How a run of a demo ends once its context is cancelled: one turn per key, the loop's
cancellation, and whether the key subscription was given back. -/
structure Ended where
  turns : List Turn
  result : String
  unsubscribed : Bool
  deriving DecidableEq, Repr

/-- Runs a demo from the keypad until its context is cancelled. The subscription to the keys is
given back whenever the loop returns. -/
def Routine.run {σ : Type} (d : Routine σ) (s : σ) (keys : List KeyAction) : Ended :=
  ⟨d.onKeys s keys, canceledText, true⟩

end LcdPanel.Demo
