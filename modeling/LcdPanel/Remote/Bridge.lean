import LcdPanel.Remote.Envelope
import LcdPanel.Display.Device

namespace LcdPanel.Remote

open LcdPanel.Wire LcdPanel.Display

def unsupportedText : String := "unsupported command"

def Message.operation : Message → Option (Exchange Unit)
  | .clear => some Display.clear
  | .setContents a b => some (Display.setContents a b)
  | .sendData c r t => some (Display.sendData c.toNat r.toNat t)
  | .setContrast c => some (Display.setContrast c.toNat)
  | .setBacklight l k => some (Display.setBacklight l.toNat k.toNat)
  | _ => none

def execute (m : Message) : Exchange Message :=
  match m.operation with
  | none => pure (Message.failure unsupportedText)
  | some op => do
    match ← op.attempt with
    | .ok () => pure .commandOk
    | .error e => pure (.commandErr e.text)

/-- The reply to the message in an envelope: events and replies are refused, and a message that
cannot be decoded is answered with the decoding error. -/
def answerEnvelope (e : Envelope) : Exchange Message :=
  if !e.isCommand || e.isReply then pure (Message.failure unsupportedText)
  else
    match e.decode with
    | .error err => pure (Message.failure err.message)
    | .ok m => execute m

/-- Runs an encoded command and gives the encoded reply; bytes that are not an envelope are an
error before anything runs. -/
def executeEncoded (payload : List UInt8) : Except WireError (Exchange (Except WireError (List UInt8))) :=
  match Envelope.parse payload with
  | .error e => .error e
  | .ok env => .ok (Message.marshal <$> answerEnvelope env)

end LcdPanel.Remote
