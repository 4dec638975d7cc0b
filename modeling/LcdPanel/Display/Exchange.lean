import LcdPanel.Link.Error
import LcdPanel.Bytes.Hex

namespace LcdPanel.Display

open LcdPanel.Frame LcdPanel.Link

/-- Why a display operation failed: an argument out of range, before anything was sent; a command
this driver does not implement; or the link's own error. -/
inductive DeviceError where
  | argument (name : String) (value : Int) (reason : String)
  | unsupported (id : UInt8)
  | link (e : LinkError)
  deriving DecidableEq, Repr

def DeviceError.message : DeviceError → String
  | .argument name value reason => s!"invalid {name} {value}: {reason}"
  | .unsupported id => "command 0x" ++ Hex.pad 2 id.toNat ++ ": unsupported command"
  | .link e => e.message

/-- The text of a failure as bytes: a link error keeps the port's own words as they came. -/
def DeviceError.text : DeviceError → List UInt8
  | .link e => e.text
  | e => Utf8.ofString e.message

/-- A program of exchanges with the device that ends in a value of type `α` or a failure. A command
sent at a new rate reopens the line at that rate once it is acknowledged. -/
inductive Exchange (α : Type) where
  | done (result : Except DeviceError α)
  | ask (cmd : Packet) (next : Except LinkError Packet → Exchange α)
  | askAtRate (cmd : Packet) (baud : Int) (next : Except LinkError Packet → Exchange α)

namespace Exchange

def bind {α β : Type} (x : Exchange α) (f : α → Exchange β) : Exchange β :=
  match x with
  | .done (.ok a) => f a
  | .done (.error e) => .done (.error e)
  | .ask cmd next => .ask cmd fun reply => (next reply).bind f
  | .askAtRate cmd baud next => .askAtRate cmd baud fun reply => (next reply).bind f

instance : Monad Exchange where
  pure a := .done (.ok a)
  bind := Exchange.bind

def attempt {α : Type} (x : Exchange α) : Exchange (Except DeviceError α) :=
  match x with
  | .done r => .done (.ok r)
  | .ask cmd next => .ask cmd fun reply => (next reply).attempt
  | .askAtRate cmd baud next => .askAtRate cmd baud fun reply => (next reply).attempt

def fail {α : Type} (e : DeviceError) : Exchange α := .done (.error e)

def check (r : Except DeviceError Unit) : Exchange Unit := .done r

/-- Ends with the outcome of an exchange: its reply, or its error as the program's failure. -/
def outcome (r : Except LinkError Packet) : Exchange Packet :=
  match r with
  | .ok reply => .done (.ok reply)
  | .error e => .done (.error (.link e))

def send (id : UInt8) (data : List UInt8) : Exchange Packet :=
  .ask (Packet.command id data) outcome

/-- The commands a program sends when every exchange ends with `reply`, up to `fuel` exchanges. -/
def commandsWith {α : Type} (reply : Packet → Except LinkError Packet) :
    Nat → Exchange α → List Packet
  | 0, _ => []
  | _ + 1, .done _ => []
  | n + 1, .ask cmd next => cmd :: commandsWith reply n (next (reply cmd))
  | n + 1, .askAtRate cmd _ next => cmd :: commandsWith reply n (next (reply cmd))

end Exchange

end LcdPanel.Display
