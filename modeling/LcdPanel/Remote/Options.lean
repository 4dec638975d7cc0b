import LcdPanel.Url.Parse
import LcdPanel.Time.Parse
import LcdPanel.Remote.Topic

namespace LcdPanel.Remote

open LcdPanel LcdPanel.Url LcdPanel.Time

/-- The message a broker publishes for a client that goes away. -/
structure Will where
  topic : Topic
  payload : List UInt8
  qos : Nat
  retained : Bool
  deriving DecidableEq, Repr

structure BrokerOptions where
  servers : List (List UInt8)
  username : List UInt8 := []
  password : List UInt8 := []
  clientId : List UInt8 := []
  keepAlive : Int := 30
  topicRoot : Topic := []
  will : Option Will := none
  deriving DecidableEq, Repr

/-- Why broker options cannot be read from a URL. -/
inductive OptionsError
  | url (e : UrlError)
  | keepAlive (e : DurationError)
  deriving DecidableEq, Repr

def OptionsError.message : OptionsError → String
  | .url e => e.message
  | .keepAlive e => "keepalive: " ++ e.message

def occurs (sub bs : List UInt8) : Bool :=
  (List.range (bs.length + 1)).any fun i => sub.isPrefixOf (bs.drop i)

/-- The address of a server: `scheme://host`, with TCP put in front when the address has no
`://`. -/
def serverAddress (scheme host : List UInt8) : List UInt8 :=
  let scheme := if scheme.isEmpty || scheme = Utf8.ofString "mqtt" then Utf8.ofString "tcp" else scheme
  let text := serverText scheme host
  if occurs (Utf8.ofString "://") text then text else Utf8.ofString "tcp://" ++ text

/-- The servers a URL names. The address is read back as a URL before it is used, and a
server whose address does not read back is left out: a zone holding bytes beyond ASCII is
written with escapes that a zone may not hold, so such a server is lost. -/
def serverList (scheme host : List UInt8) : List (List UInt8) :=
  let addr := serverAddress scheme host
  match Url.parse addr with
  | .ok _ => [addr]
  | .error _ => []

/-- The broker options a URL gives. -/
def BrokerOptions.ofUrl (raw : List UInt8) : Except OptionsError BrokerOptions := do
  let u ← (Url.parse raw).mapError OptionsError.url
  let keepAlive ← match u.queryValue (Utf8.ofString "keepalive") with
    | [] => pure 30
    | text =>
      match Duration.parse text with
      | .ok d => pure (d.nanos.tdiv Duration.second)
      | .error e => throw (.keepAlive e)
  let (username, password) := match u.user with
    | some info => (info.username, info.password.getD [])
    | none => ([], [])
  pure {
    servers := serverList u.scheme u.host
    username, password
    clientId := u.queryValue (Utf8.ofString "client-id")
    keepAlive
    topicRoot := match u.path with
      | 0x2F :: rest => rest
      | p => p }

end LcdPanel.Remote
