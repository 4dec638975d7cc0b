import LcdPanel.Wire.Record
import LcdPanel.Link.Keypad

namespace LcdPanel.Remote

open LcdPanel.Wire LcdPanel.Link

inductive MessageType where
  | commandOk
  | commandErr
  | clear
  | setContents
  | sendData
  | setContrast
  | setBacklight
  | keyEvent
  deriving DecidableEq, Repr

namespace MessageType

def all : List MessageType :=
  [.commandOk, .commandErr, .clear, .setContents, .sendData, .setContrast, .setBacklight, .keyEvent]

def id : MessageType → UInt32
  | .commandOk => 0x8000
  | .commandErr => 0x8001
  | .clear => 0x10000
  | .setContents => 0x10001
  | .sendData => 0x10002
  | .setContrast => 0x10003
  | .setBacklight => 0x10004
  | .keyEvent => 0x80020000

def name : MessageType → String
  | .commandOk => "CommandOK"
  | .commandErr => "CommandErr"
  | .clear => "Clear"
  | .setContents => "SetContents"
  | .sendData => "SendData"
  | .setContrast => "SetContrast"
  | .setBacklight => "SetBacklight"
  | .keyEvent => "KeyEvent"

def fields : MessageType → List Field
  | .commandOk | .clear => []
  | .commandErr => [⟨1, "message", "Message", .string⟩]
  | .setContents => [⟨1, "line1", "Line1", .string⟩, ⟨2, "line2", "Line2", .string⟩]
  | .sendData => [⟨1, "col", "Col", .uint32⟩, ⟨2, "row", "Row", .uint32⟩, ⟨3, "text", "Text", .string⟩]
  | .setContrast => [⟨1, "contrast", "Contrast", .uint32⟩]
  | .setBacklight => [⟨1, "lcd", "Lcd", .uint32⟩, ⟨2, "keypad", "Keypad", .uint32⟩]
  | .keyEvent => [⟨1, "action", "Action", .uint32⟩, ⟨2, "name", "Name", .string⟩,
      ⟨3, "pressed", "Pressed", .bool⟩]

def ofId? (id : UInt32) : Option MessageType :=
  all.find? (·.id = id)

def recordName (t : MessageType) : String := "msgs." ++ t.name

end MessageType

inductive Message where
  | commandOk
  | commandErr (message : List UInt8)
  | clear
  | setContents (line1 line2 : List UInt8)
  | sendData (col row : UInt32) (text : List UInt8)
  | setContrast (contrast : UInt32)
  | setBacklight (lcd keypad : UInt32)
  | keyEvent (action : UInt32) (name : List UInt8) (pressed : Bool)
  deriving DecidableEq, Repr

namespace Message

def type : Message → MessageType
  | .commandOk => .commandOk
  | .commandErr _ => .commandErr
  | .clear => .clear
  | .setContents .. => .setContents
  | .sendData .. => .sendData
  | .setContrast _ => .setContrast
  | .setBacklight .. => .setBacklight
  | .keyEvent .. => .keyEvent

def values : Message → List Value
  | .commandOk | .clear => []
  | .commandErr m => [.text m]
  | .setContents a b => [.text a, .text b]
  | .sendData c r t => [.num c, .num r, .text t]
  | .setContrast c => [.num c]
  | .setBacklight l k => [.num l, .num k]
  | .keyEvent a n p => [.num a, .text n, .flag p]

end Message

def numAt (vs : List Value) (i : Nat) : UInt32 :=
  match vs[i]? with
  | some (.num n) => n
  | _ => 0

def textAt (vs : List Value) (i : Nat) : List UInt8 :=
  match vs[i]? with
  | some (.text t) => t
  | _ => []

def flagAt (vs : List Value) (i : Nat) : Bool :=
  match vs[i]? with
  | some (.flag b) => b
  | _ => false

def MessageType.build (t : MessageType) (vs : List Value) : Message :=
  match t with
  | .commandOk => .commandOk
  | .commandErr => .commandErr (textAt vs 0)
  | .clear => .clear
  | .setContents => .setContents (textAt vs 0) (textAt vs 1)
  | .sendData => .sendData (numAt vs 0) (numAt vs 1) (textAt vs 2)
  | .setContrast => .setContrast (numAt vs 0)
  | .setBacklight => .setBacklight (numAt vs 0) (numAt vs 1)
  | .keyEvent => .keyEvent (numAt vs 0) (textAt vs 1) (flagAt vs 2)

namespace Message

def text (m : Message) : String := recordText m.type.fields m.values

def body (m : Message) : Except WireError (List UInt8) :=
  marshalRecord m.type.fields m.values

def ofKeyAction (a : KeyAction) : Message :=
  .keyEvent a.code.toUInt32 (Utf8.ofString a.name) a.pressed

def failure (text : String) : Message := .commandErr (Utf8.ofString text)

end Message

end LcdPanel.Remote
