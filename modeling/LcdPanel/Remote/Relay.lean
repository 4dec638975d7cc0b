import LcdPanel.Remote.Options
import LcdPanel.Remote.Queue
import LcdPanel.Remote.Bridge
import LcdPanel.Json.Encode

namespace LcdPanel.Remote

open LcdPanel LcdPanel.Link

/-- What a panel tells the broker about itself. -/
structure PanelInfo where
  id : List UInt8 := []
  port : List UInt8 := []
  baudRate : Int := 0
  version : List UInt8 := []
  columns : Int := 0
  rows : Int := 0
  deriving DecidableEq, Repr

namespace PanelInfo

def topic (p : PanelInfo) (name : String) : Topic :=
  p.id ++ Utf8.ofString ("/" ++ name)

/-- The description as a JSON object; the port, the rate and the version are left out when they
are empty or zero. -/
def json (p : PanelInfo) : List UInt8 :=
  let member (name value : String) : String := Json.quote (Utf8.ofString name) ++ ":" ++ value
  let optional := (if p.port.isEmpty then [] else [member "port" (Json.quote p.port)]) ++
    (if p.baudRate = 0 then [] else [member "baud_rate" (toString p.baudRate)]) ++
    (if p.version.isEmpty then [] else [member "version" (Json.quote p.version)])
  let members := [member "id" (Json.quote p.id)] ++ optional ++
    [member "columns" (toString p.columns), member "rows" (toString p.rows)]
  Utf8.ofString ("\x7b" ++ ",".intercalate members ++ "\x7d")

end PanelInfo

/-- The client options of a panel's relay: those of the URL, with the description's topic as the
will and, when the URL names no client, `cfa533:<id>` as the client id. -/
def relayOptions (url : List UInt8) (p : PanelInfo) : Except OptionsError BrokerOptions := do
  let opts ← BrokerOptions.ofUrl url
  pure { opts with
    will := some ⟨opts.topicRoot ++ p.topic "meta", [], 1, true⟩
    clientId := if opts.clientId.isEmpty then Utf8.ofString "cfa533:" ++ p.id else opts.clientId }

/-- A running relay: its queue, the panel, the queue subscription of the command topic and the
display's key subscription. -/
structure Relay where
  queue : Queue
  info : PanelInfo
  commands : Nat
  keys : Nat
  deriving DecidableEq, Repr

namespace Relay

/-- Starting a relay under a topic root: it subscribes to the command topic, then connects. -/
def begin (root : Topic) (p : PanelInfo) : (Queue × Nat) × List BrokerCall :=
  let ((q, sub), calls) := (Queue.ofRoot root).sub (p.topic "cmd")
  ((q, sub), calls ++ [.connect])

def connected (r : Relay) : Relay × List BrokerCall :=
  let (q, calls) := r.queue.resubscribe
  ({ r with queue := q }, calls ++ [q.publish (r.info.topic "meta") r.info.json 1 true])

def keyEvent (r : Relay) (a : KeyAction) : List BrokerCall :=
  match (Message.ofKeyAction a).marshal with
  | .ok payload => [r.queue.publish (r.info.topic "event") payload 0 false]
  | .error _ => []

def reply (r : Relay) (payload : List UInt8) : BrokerCall :=
  r.queue.publish (r.info.topic "reply") payload 0 false

def commandsOn (r : Relay) (topic : Topic) : Nat :=
  match r.queue.receivers topic with
  | some (_, subs) => subs.length
  | none => 0

/-- Stopping: the description is cleared, the client disconnects, and the command subscription
is closed. -/
def stop (r : Relay) : List BrokerCall :=
  [r.queue.publish (r.info.topic "meta") [] 1 true, .disconnect 250] ++ (r.queue.close r.commands).2

end Relay

end LcdPanel.Remote
