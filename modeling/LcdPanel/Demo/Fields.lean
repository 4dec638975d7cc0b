import LcdPanel.Demo.Draw
import LcdPanel.Demo.Scroll
import LcdPanel.Link.Keypad
import LcdPanel.Fault
import LcdPanel.Json.Decode

namespace LcdPanel.Demo

open LcdPanel LcdPanel.Display LcdPanel.Link LcdPanel.Json

structure Field where
  name : List UInt8
  value : List UInt8
  deriving DecidableEq, Repr

/-- The fields shown when none are given. -/
def defaultFields : List Field :=
  [("Version:", "2.1.3.12334"), ("Label1:", "123.123.123.123"), ("LabelTwo:", "255.255.255.0"),
   ("Long:", "abcdefghijklmnopqrstuvwxyz"), ("Empty:", ""),
   ("ReallyReallyReallyLongLabel:", "abc"), ("Suuuuuuuperrrrrlong:", "abcdefghijklmnopqrstuvwxyz")].map
    fun (n, v) => ⟨Utf8.ofString n, Utf8.ofString v⟩

/-- Why fields could not be loaded from a file. -/
inductive LoadError where
  | missing (path : String)
  | json (path : String) (e : DecodeError)
  | empty (path : String)
  deriving DecidableEq, Repr

def LoadError.message : LoadError → String
  | .missing p => "open " ++ p ++ ": no such file or directory"
  | .json p e => p ++ ": " ++ e.message
  | .empty p => p ++ ": no fields"

def fieldsShape : Shape := .list (.record "demo.Field" [("name", .text), ("value", .text)])

def fieldOfDatum : Datum → Field
  | .record [.text n, .text v] => ⟨n, v⟩
  | _ => ⟨[], []⟩

def parseFields (path : String) (content : List UInt8) : Except LoadError (List Field) :=
  match decode fieldsShape content with
  | .error e => .error (.json path e)
  | .ok (.list []) => .error (.empty path)
  | .ok (.list ds) => .ok (ds.map fieldOfDatum)
  | .ok _ => .error (.empty path)

/-- How a demo step stopped early. -/
inductive Halt where
  | failed (text : String)
  | fault (f : Fault)
  deriving DecidableEq, Repr

/-- The state of the field viewer; `dirty` when the screen must be drawn again. -/
structure MultiField where
  fields : List Field
  index : Int := 0
  col : Int := 0
  dirty : Bool := true
  deriving DecidableEq, Repr

namespace MultiField

def width (bs : List UInt8) : Nat := (Utf8.runes bs).length

/-- Brings the selection back in range: an index past either end wraps around, and a column past
the longer text of the field, or below zero, returns to 0. With no fields there is nothing to
select, a fault. -/
def normalize (m : MultiField) : MultiField × Option Fault :=
  let n := m.fields.length
  let index : Int := if m.index ≥ n then 0 else m.index
  let index : Int := if index < 0 then (n : Int) - 1 else index
  let m := { m with index := index }
  match (if index < 0 then none else m.fields[index.toNat]?) with
  | none => (m, some (.index index n))
  | some f =>
    let longest : Int := max (width f.name) (width f.value)
    if m.col > longest - columns ∨ m.col < 0 then ({ m with col := 0 }, none) else (m, none)

/-- Handles a key: whether it was one of the four it uses. -/
def handleKey (m : MultiField) (a : KeyAction) : (MultiField × Option Fault) × Bool :=
  let moved : Option MultiField := match a.code with
    | 2 => some { m with index := m.index + 1, col := 0 }
    | 1 => some { m with index := m.index - 1, col := 0 }
    | 4 => some { m with col := m.col + 1 }
    | 3 => some { m with col := m.col - 1 }
    | _ => none
  match moved with
  | none => ((m, none), false)
  | some m =>
    let (m, f) := m.normalize
    (({ m with dirty := true }, f), true)

def handleKeys (m : MultiField) : List KeyAction → MultiField × Option Fault
  | [] => (m, none)
  | a :: rest =>
    match (m.handleKey a).1 with
    | (m, some f) => (m, some f)
    | (m, none) => m.handleKeys rest

/-- One step: the keys are handled, then the selected field is drawn if anything changed. A failed
draw is tried again at the next step. -/
def control (m : MultiField) (keys : List KeyAction) : Drawing (MultiField × Option Halt) :=
  if m.fields = [] then pure (m, none)
  else
    match m.handleKeys keys with
    | (m, some f) => pure (m, some (.fault f))
    | (m, none) =>
      if !m.dirty then pure (m, none)
      else
        match m.fields[m.index.toNat]? with
        | none => pure (m, some (.fault (.index m.index m.fields.length)))
        | some f =>
          match lineText f.name m.col, lineText f.value m.col with
          | .ok a, .ok b => do
            match ← Drawing.call (.contents a b) with
            | some e => pure (m, some (.failed e))
            | none => pure ({ m with dirty := false }, none)
          | .error e, _ | _, .error e => pure (m, some (.fault e))

end MultiField

end LcdPanel.Demo
