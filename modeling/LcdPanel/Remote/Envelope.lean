import LcdPanel.Remote.Message
import LcdPanel.Bytes.Hex

namespace LcdPanel.Remote

open LcdPanel.Wire

structure Envelope where
  typeId : UInt32
  message : List UInt8
  deriving DecidableEq, Repr

def envelopeFields : List Field :=
  [⟨1, "type_id", "TypeId", .uint32⟩, ⟨2, "message", "Message", .bytes⟩]

def rawAt (vs : List Value) (i : Nat) : List UInt8 :=
  match vs[i]? with
  | some (.raw b) => b
  | _ => []

/-- Why the message in an envelope cannot be had. -/
inductive MessageError where
  | wire (e : WireError)
  | unknownType (id : UInt32)
  deriving DecidableEq, Repr

def MessageError.message : MessageError → String
  | .wire e => e.message
  | .unknownType id => "unknown type: " ++ String.ofList (Nat.toDigits 16 id.toNat)

namespace Envelope

def eventBit : UInt32 := 0x80000000

def replyBit : UInt32 := 0x8000

def kind (e : Envelope) : UInt32 := e.typeId &&& eventBit

def isCommand (e : Envelope) : Bool := e.kind = 0

def isEvent (e : Envelope) : Bool := e.kind = eventBit

def isReply (e : Envelope) : Bool := e.isCommand && (e.typeId &&& replyBit) ≠ 0

def values (e : Envelope) : List Value := [.num e.typeId, .raw e.message]

def encode (e : Envelope) : List UInt8 := encodeRecord envelopeFields e.values

def text (e : Envelope) : String := recordText envelopeFields e.values

def parse (bs : List UInt8) : Except WireError Envelope := do
  let vs ← decodeRecord "msgs.Typed" envelopeFields bs
  pure ⟨numAt vs 0, rawAt vs 1⟩

/-- The message in an envelope. -/
def decode (e : Envelope) : Except MessageError Message :=
  match MessageType.ofId? e.typeId with
  | none => .error (.unknownType e.typeId)
  | some t =>
    match decodeRecord t.recordName t.fields e.message with
    | .ok vs => .ok (t.build vs)
    | .error err => .error (.wire err)

end Envelope

namespace Message

def envelope (m : Message) : Except WireError Envelope :=
  m.body.map fun b => ⟨m.type.id, b⟩

def marshal (m : Message) : Except WireError (List UInt8) :=
  m.envelope.map Envelope.encode

end Message

/-- A value handed over to be put in an envelope: a message, or any other value, such as a plain
string. -/
inductive Payload where
  | message (m : Message)
  | plain (text : List UInt8)

/-- Why a value cannot be put in an envelope. -/
inductive EnvelopeError where
  | notSerializable
  | wire (e : WireError)
  deriving DecidableEq, Repr

def EnvelopeError.message : EnvelopeError → String
  | .notSerializable => "not serializable message"
  | .wire e => e.message

/-- The envelope of a value: a message goes in as its type and bytes, anything else is refused. -/
def Payload.envelope : Payload → Except EnvelopeError Envelope
  | .message m => m.envelope.mapError .wire
  | .plain _ => .error .notSerializable

def unmarshal (bs : List UInt8) : Except MessageError Message :=
  match Envelope.parse bs with
  | .error e => .error (.wire e)
  | .ok env => env.decode

end LcdPanel.Remote
