import LcdPanel.Remote.Bridge
import LcdPanel.Json.Decode
import LcdPanel.Json.Encode
import LcdPanel.Text.Quote

namespace LcdPanel.Remote

open LcdPanel LcdPanel.Json LcdPanel.Wire LcdPanel.Display

def frameNames : List (String × MessageType) :=
  [("ok", .commandOk), ("error", .commandErr), ("clear", .clear), ("contents", .setContents),
   ("send", .sendData), ("contrast", .setContrast), ("backlight", .setBacklight), ("key", .keyEvent)]

def MessageType.frameName (t : MessageType) : String :=
  ((frameNames.find? (·.2 = t)).map (·.1)).getD ""

def kindShape : FieldKind → Shape
  | .uint32 => .uint32
  | .bool => .flag
  | .string | .bytes => .text

def MessageType.shape (t : MessageType) : Shape :=
  .record t.recordName (t.fields.map fun f => (f.name, kindShape f.kind))

def Datum.value : Datum → Value
  | .text bs => .text bs
  | .num n => .num n
  | .flag b => .flag b
  | _ => .num 0

def MessageType.ofDatum (t : MessageType) : Datum → Message
  | .record vs => t.build (vs.map Datum.value)
  | _ => t.build []

structure Frame where
  type : List UInt8
  message : Option JValue

def frameShape : Shape := .record "websocket.Frame" [("type", .text), ("message", .raw)]

def Frame.read (bs : List UInt8) : Except DecodeError Frame :=
  match decode frameShape bs with
  | .ok (.record [.text t, .raw m]) => .ok ⟨t, m⟩
  | .ok _ => .ok ⟨[], none⟩
  | .error e => .error e

/-- Why the message of a frame cannot be had. -/
inductive FrameError where
  | unknownType (name : List UInt8)
  | decode (e : TypeError)
  deriving DecidableEq, Repr

def FrameError.message : FrameError → String
  | .unknownType n => "unknown frame type " ++ Text.quote n
  | .decode e => e.message

/-- The message of a frame; a frame with no message carries one with all fields zero. -/
def Frame.decode (f : Frame) : Except FrameError Message :=
  match frameNames.find? (fun (n, _) => Utf8.ofString n = f.type) with
  | none => .error (.unknownType f.type)
  | some (_, t) =>
    match f.message with
    | none => .ok (t.build [])
    | some v =>
      match decodeAt t.shape.shortName [] t.shape t.shape.zero v with
      | .ok d => .ok (t.ofDatum d)
      | .error e => .error (.decode e)

def Message.json (m : Message) : String := recordJson m.type.fields m.values

def Message.frameText (m : Message) : String :=
  "\x7b\"type\":" ++ quote (Utf8.ofString m.type.frameName) ++ ",\"message\":" ++ m.json ++ "\x7d"

/-- The reply to the text of a frame from a client, as a program on the display; text that is not
a frame ends the connection instead. -/
def replyToFrame (text : List UInt8) : Option (Exchange Message) :=
  match Frame.read text with
  | .error _ => none
  | .ok f =>
    match f.decode with
    | .error e => some (pure (Message.failure e.message))
    | .ok m => some (execute m)

/-- The frames queued for one client, oldest first; the frame being written comes on top of the
queue's room. -/
structure Outbox where
  size : Nat
  frames : List String := []
  deriving DecidableEq, Repr

def defaultOutboxSize : Nat := 16

namespace Outbox

def ofSize (n : Int) : Outbox := ⟨if n ≤ 0 then defaultOutboxSize else n.toNat, []⟩

def offer (o : Outbox) (frame : String) : Outbox :=
  if o.frames.length < o.size + 1 then { o with frames := o.frames ++ [frame] } else o

def push (o : Outbox) (frame : String) : Outbox := { o with frames := o.frames ++ [frame] }

def take (o : Outbox) : Option String × Outbox :=
  match o.frames with
  | [] => (none, o)
  | f :: rest => (some f, { o with frames := rest })

end Outbox

end LcdPanel.Remote
