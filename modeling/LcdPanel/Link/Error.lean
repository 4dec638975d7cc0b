import LcdPanel.Frame.Codec
import LcdPanel.Time.Duration
import LcdPanel.Text.Utf8

namespace LcdPanel.Link

open LcdPanel.Frame LcdPanel.Time

/-- The cause inside a connection error. -/
inductive Cause where
  | notConnected
  | alreadyConnected
  | closed
  | unsupportedBaud (rate : Int)
  | shortWrite
  | other (text : List UInt8)
  deriving DecidableEq, Repr

def Cause.text : Cause → List UInt8
  | .notConnected => Utf8.ofString "not connected"
  | .alreadyConnected => Utf8.ofString "already connected"
  | .closed => Utf8.ofString "connection closed"
  | .unsupportedBaud r => Utf8.ofString s!"unsupported baud rate {r}"
  | .shortWrite => Utf8.ofString "short write"
  | .other t => t

def Cause.message (c : Cause) : String := Utf8.toText c.text

/-- What a link operation can fail with: a port operation that failed, no reply in time, an error
packet from the device, a reply of the wrong kind or shape, data longer than `maxDataLen`, or the
caller's context. -/
inductive LinkError where
  | connection (op port : String) (cause : Cause)
  | timeout (id : UInt8) (after : Duration)
  | rejected (id : UInt8)
  | badResponse (code : UInt8) (reason : String)
  | dataTooLong (subject : String) (n : UInt8)
  | canceled
  | deadlineExceeded
  deriving DecidableEq, Repr

namespace LinkError

def text : LinkError → List UInt8
  | .connection op port cause =>
    Utf8.ofString (if port = "" then s!"{op}: " else s!"{op} {port}: ") ++ cause.text
  | .timeout id after => Utf8.ofString s!"command 0x{Hex.pad 2 id.toNat}: no reply in {after.text}"
  | .rejected id => Utf8.ofString s!"command 0x{Hex.pad 2 id.toNat} rejected"
  | .badResponse code reason =>
    Utf8.ofString s!"invalid response 0x{Hex.pad 2 code.toNat}: {reason}"
  | .dataTooLong subject n => Utf8.ofString s!"{subject} 0x{Hex.pad 2 n.toNat}: data too long"
  | .canceled => Utf8.ofString "context canceled"
  | .deadlineExceeded => Utf8.ofString "context deadline exceeded"

def message (e : LinkError) : String := Utf8.toText e.text

def isTimeout : LinkError → Bool
  | .timeout .. | .deadlineExceeded => true
  | _ => false

end LinkError

end LcdPanel.Link

namespace LcdPanel.Frame

open LcdPanel.Link

def Packet.writeTo (p : Packet) : Except LinkError (List UInt8) :=
  if p.data.length ≤ maxDataLen then .ok (Codec.standard.encode p)
  else .error (.dataTooLong "packet" p.code)

end LcdPanel.Frame
