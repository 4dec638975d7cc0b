import LcdPanel.Text.Quote
import LcdPanel.Text.Decimal

namespace LcdPanel.Link

open LcdPanel.Text

def supportedBaud (rate : Int) : Bool :=
  rate = 9600 ∨ rate = 19200 ∨ rate = 115200

def defaultBaud : Int := 19200

/-- Why text is no rate. -/
inductive BaudError where
  | notANumber (text : List UInt8)
  | unsupported (rate : Int)
  deriving DecidableEq, Repr

def BaudError.message : BaudError → String
  | .notANumber t => s!"invalid baud rate {quote t}"
  | .unsupported r => s!"unsupported baud rate {r}"

def parseBaud (text : List UInt8) : Except BaudError Int :=
  match parseInt? text with
  | none => .error (.notANumber text)
  | some n => if supportedBaud n then .ok n else .error (.unsupported n)

end LcdPanel.Link
