import LcdPanel.Display.Exchange
import LcdPanel.Display.Screen
import LcdPanel.Link.Keypad

namespace LcdPanel.Display

open LcdPanel.Frame LcdPanel.Link

/-- Command identifiers. -/
def cmdPing : UInt8 := 0x00
def cmdVersion : UInt8 := 0x01
def cmdWriteFlash : UInt8 := 0x02
def cmdReadFlash : UInt8 := 0x03
def cmdStoreBoot : UInt8 := 0x04
def cmdPower : UInt8 := 0x05
def cmdClear : UInt8 := 0x06
def cmdLineOne : UInt8 := 0x07
def cmdLineTwo : UInt8 := 0x08
def cmdSpecialChar : UInt8 := 0x09
def cmdReadMemory : UInt8 := 0x0a
def cmdCursorPosition : UInt8 := 0x0b
def cmdCursorStyle : UInt8 := 0x0c
def cmdContrast : UInt8 := 0x0d
def cmdBacklight : UInt8 := 0x0e
def cmdKeyReporting : UInt8 := 0x17
def cmdKeypad : UInt8 := 0x18
def cmdSendData : UInt8 := 0x1f
def cmdSetBaud : UInt8 := 0x21
def cmdReadDOWInfo : UInt8 := 0x12
def cmdTemperatureReporting : UInt8 := 0x13
def cmdDOWTransaction : UInt8 := 0x14
def cmdLiveTemperature : UInt8 := 0x15
def cmdControllerCommand : UInt8 := 0x16
def cmdATXSwitch : UInt8 := 0x1c
def cmdWatchdogReset : UInt8 := 0x1d
def cmdReadATXWatchdog : UInt8 := 0x1e
def cmdConfigureGPIO : UInt8 := 0x22
def cmdReadGPIO : UInt8 := 0x23

def maxPingLen : Nat := 16
def flashLen : Nat := 16
def specialChars : Nat := 8
def bitmapLen : Nat := 8
def maxContrast : Int := 200
def maxBrightness : Int := 100
def memoryBlock : Nat := 8

/-- The bytes sent for each power operation: reboot the display, reset the host, power the host
off. -/
def powerCode : Int → Option (List UInt8)
  | 0 => some [8, 18, 99]
  | 1 => some [12, 28, 97]
  | 2 => some [3, 11, 95]
  | _ => none

def checkRange (name : String) (value lo hi : Int) : Except DeviceError Unit :=
  if value < lo ∨ value > hi then .error (.argument name value s!"must be within {lo}-{hi}")
  else .ok ()

def checkPosition (col row : Int) : Except DeviceError Unit := do
  checkRange "column" col 0 (columns - 1)
  checkRange "row" row 0 (rows - 1)

def argByte (n : Int) : UInt8 := n.toNat.toUInt8

/-- The state of the keypad: keys down now, pressed and released since the last poll. -/
structure KeypadState where
  pressed : UInt8
  pressedSince : UInt8
  releasedSince : UInt8
  deriving DecidableEq, Repr

def KeypadState.text (k : KeypadState) : String :=
  "pressed=" ++ Hex.pad 2 k.pressed.toNat ++ " pressed-since=" ++ Hex.pad 2 k.pressedSince.toNat ++
    " released-since=" ++ Hex.pad 2 k.releasedSince.toNat

namespace Exchange

def sendExpect (id : UInt8) (size : Nat) (data : List UInt8) : Exchange (List UInt8) := do
  let reply ← send id data
  let got := reply.data.length
  if got = size then pure reply.data
  else fail (.link (.badResponse reply.code s!"expect {size} bytes, got {got}"))

end Exchange

open Exchange

def ping (data : List UInt8) : Exchange Unit := do
  let n := data.length
  if n > maxPingLen then
    fail (.argument "ping data" n s!"longer than {maxPingLen} bytes")
  else
    let reply ← send cmdPing data
    if reply.data = data then pure ()
    else fail (.link (.badResponse reply.code "ping echo mismatch"))

def trimNul (bs : List UInt8) : List UInt8 :=
  (bs.reverse.dropWhile (· = 0)).reverse

def version : Exchange (List UInt8) := do
  let reply ← send cmdVersion []
  pure (trimNul reply.data)

/-- Stores 16 bytes in the user flash: longer data is cut, shorter data padded with zeros. -/
def writeFlash (data : List UInt8) : Exchange Unit := do
  let _ ← send cmdWriteFlash ((data ++ List.replicate flashLen 0).take flashLen)

def readFlash : Exchange (List UInt8) := sendExpect cmdReadFlash flashLen []

def storeBoot : Exchange Unit := do
  let _ ← send cmdStoreBoot []

def power (op : Int) : Exchange Unit :=
  match powerCode op with
  | some code => do let _ ← send cmdPower code
  | none => fail (.argument "power operation" op "unknown")

def reboot : Exchange Unit := power 0

def clear : Exchange Unit := do
  let _ ← send cmdClear []

def setLineOne (s : List UInt8) : Exchange Unit := do
  let _ ← send cmdLineOne (line s)

def setLineTwo (s : List UInt8) : Exchange Unit := do
  let _ ← send cmdLineTwo (line s)

def placeBytes (col row : Nat) (data : List UInt8) : Exchange Unit :=
  if data = [] then pure ()
  else do let _ ← send cmdSendData (col.toUInt8 :: row.toUInt8 :: data)

def setContents (lineOne lineTwo : List UInt8) : Exchange Unit := do
  placeBytes 0 0 (line lineOne)
  placeBytes 0 1 (line lineTwo)

def sendData (col row : Int) (s : List UInt8) : Exchange Unit := do
  check (checkPosition col row)
  placeBytes col.toNat row.toNat (textBytes s (columns - col.toNat))

def setSpecialChar (index : Int) (bitmap : List UInt8) : Exchange Unit := do
  check (checkRange "character index" index 0 (specialChars - 1))
  let n := bitmap.length
  if n ≠ bitmapLen then fail (.argument "bitmap size" n s!"must be {bitmapLen}")
  else do let _ ← send cmdSpecialChar (argByte index :: bitmap)

/-- Reads eight bytes of display memory; the reply starts with the address read. -/
def readMemory (addr : UInt8) : Exchange (List UInt8) := do
  let data ← sendExpect cmdReadMemory (memoryBlock + 1) [addr]
  match data with
  | a :: rest =>
    if a = addr then pure rest
    else
      let said := Hex.pad 2 a.toNat
      let asked := Hex.pad 2 addr.toNat
      fail (.link (.badResponse (Packet.codeOf 1 cmdReadMemory)
        ("address 0x" ++ said ++ " returned for 0x" ++ asked)))
  | [] => pure []

def setCursorPosition (col row : Int) : Exchange Unit := do
  check (checkPosition col row)
  let _ ← send cmdCursorPosition [argByte col, argByte row]

/-- Changes the look of the cursor: none, blinking block, underscore, blinking underscore. -/
def setCursorStyle (style : UInt8) : Exchange Unit := do
  check (checkRange "cursor style" style.toNat 0 3)
  let _ ← send cmdCursorStyle [style]

def setContrast (value : Int) : Exchange Unit := do
  check (checkRange "contrast" value 0 maxContrast)
  let _ ← send cmdContrast [argByte value]

def setBacklight (lcd keypad : Int) : Exchange Unit := do
  check (checkRange "lcd brightness" lcd 0 maxBrightness)
  check (checkRange "keypad brightness" keypad 0 maxBrightness)
  let _ ← send cmdBacklight [argByte lcd, argByte keypad]

def checkKeys (name : String) (flags : UInt8) : Except DeviceError Unit :=
  if flags &&& ~~~allKeys = 0 then .ok () else .error (.argument name flags.toNat "unknown keys")

def setKeyReporting (press release : UInt8) : Exchange Unit := do
  check (checkKeys "press mask" press)
  check (checkKeys "release mask" release)
  let _ ← send cmdKeyReporting [press, release]

def readKeypad : Exchange KeypadState := do
  let data ← sendExpect cmdKeypad 3 []
  match data with
  | [a, b, c] => pure ⟨a, b, c⟩
  | _ => pure ⟨0, 0, 0⟩

/-- Switches the line rate: the device acknowledges at the old rate, then the line reopens at the
new one before any other command goes out. -/
def setBaud (baud : Int) : Exchange Unit :=
  match baud with
  | 19200 => do let _ ← .askAtRate (Packet.command cmdSetBaud [0]) baud outcome
  | 115200 => do let _ ← .askAtRate (Packet.command cmdSetBaud [1]) baud outcome
  | _ => fail (.argument "baud rate" baud "must be 19200 or 115200")

def unsupported (id : UInt8) : Exchange Unit := fail (.unsupported id)

/-! The operations this driver leaves out: each refuses its command, whatever it is given. -/

def readDOWInfo (_index : Int) : Exchange (List UInt8) := do
  unsupported cmdReadDOWInfo
  pure []

def setUpTemperatureReporting (_data : List UInt8) : Exchange Unit :=
  unsupported cmdTemperatureReporting

def dowTransaction (_index : Int) (_data : List UInt8) : Exchange (List UInt8) := do
  unsupported cmdDOWTransaction
  pure []

def setUpLiveTemperature (_data : List UInt8) : Exchange Unit := unsupported cmdLiveTemperature

def sendToController (_location _data : UInt8) : Exchange Unit := unsupported cmdControllerCommand

def setATXSwitch (_data : List UInt8) : Exchange Unit := unsupported cmdATXSwitch

def resetHostWatchdog (_timeout : UInt8) : Exchange Unit := unsupported cmdWatchdogReset

def readATXWatchdog : Exchange (List UInt8) := do
  unsupported cmdReadATXWatchdog
  pure []

def configureGPIO (_data : List UInt8) : Exchange Unit := unsupported cmdConfigureGPIO

def readGPIO (_index : Int) : Exchange (List UInt8) := do
  unsupported cmdReadGPIO
  pure []

end LcdPanel.Display
