import LcdPanel.Time.Parse
import LcdPanel.Link.Baud

namespace LcdPanel.Config

open LcdPanel LcdPanel.Time LcdPanel.Link

/-- The shared options. An empty identifier is derived from the machine, and an empty broker URL or
websocket address means none. -/
structure Settings where
  port : String := "/dev/ttyUSB0"
  baudRate : Int := 19200
  timeout : Duration := Duration.ofSeconds 2
  id : String := ""
  mqttUrl : String := "mqtt://localhost:1883/cfa533/"
  websocketAddr : String := ""
  deriving DecidableEq, Repr

namespace Settings

def baud (s : Settings) : Except String Int :=
  if supportedBaud s.baudRate then .ok s.baudRate
  else .error s!"unsupported baud rate {s.baudRate}"

def commandTimeout (s : Settings) : Duration :=
  if s.timeout.nanos > 0 then s.timeout else Duration.ofSeconds 2

def deviceId (s : Settings) : Option String :=
  if s.id.isEmpty then none else some s.id

/-- Overlays the `LCD_*` environment, in the order port, rate, timeout, name, broker and
websocket address; an empty variable changes nothing, and the first bad value stops the
overlay with its fault. -/
def applyEnv (getenv : String → String) (s : Settings) : Settings × Option String :=
  let s := if (getenv "LCD_PORT").isEmpty then s else { s with port := getenv "LCD_PORT" }
  let baudText := getenv "LCD_BAUD"
  let baud : Except String (Option Int) :=
    if baudText.isEmpty then .ok none
    else (parseBaud (Utf8.ofString baudText)).map some |>.mapError fun e => "LCD_BAUD: " ++ e.message
  match baud with
  | .error e => (s, some e)
  | .ok b =>
    let s := match b with
      | some r => { s with baudRate := r }
      | none => s
    let timeoutText := getenv "LCD_TIMEOUT"
    let timeout : Except String (Option Duration) :=
      if timeoutText.isEmpty then .ok none
      else (Duration.parse (Utf8.ofString timeoutText)).map some
        |>.mapError fun e => "LCD_TIMEOUT: " ++ e.message
    match timeout with
    | .error e => (s, some e)
    | .ok t =>
      let s := match t with
        | some d => { s with timeout := d }
        | none => s
      let s := if (getenv "LCD_ID").isEmpty then s else { s with id := getenv "LCD_ID" }
      let s := if (getenv "LCD_MQTT_URL").isEmpty then s else { s with mqttUrl := getenv "LCD_MQTT_URL" }
      let s := if (getenv "LCD_WS_ADDR").isEmpty then s
        else { s with websocketAddr := getenv "LCD_WS_ADDR" }
      (s, none)

end Settings

end LcdPanel.Config
