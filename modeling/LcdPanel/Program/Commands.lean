import LcdPanel.Program.Startup
import LcdPanel.Program.Help
import LcdPanel.Remote.Options
import LcdPanel.Session.Step

namespace LcdPanel.Program

open LcdPanel LcdPanel.Config LcdPanel.Remote LcdPanel.Session LcdPanel.Frame

def commandFlags (flags : List Flag) : List LongFlag :=
  flags.map .flag ++ [.help]

/-- A fault as the server and the demo runner report it: the framework's `Error:` line, then
the `F` line when the log setup lets it. -/
def reported (log : LogSetup) (lines : List String) (message : String) : Outcome :=
  { exit := 1, stderr := lines ++ ["Error: " ++ message] ++ log.lines .fatal [message] }

/-- The end of a run of a command whose flags were read: help, an argument count fault, or
the work itself. Help shows the command's screen for the options as they are now, given how
it depends on them. The log's flags count as parsed only once the work starts, so a flag or
argument fault always shows its `F` line. -/
def finish (lines : List String) (start : Options) (screen : Options → String)
    (parsed : Except FlagFault Extended) (work : Settings → Options → Option String) : Outcome :=
  match parsed with
  | .error .help => { exit := 0, stdout := screen start, stderr := lines }
  | .error (.failure m) => reported {} lines m
  | .error (.crash m) => crashed lines m
  | .ok e =>
    if e.help then { exit := 0, stdout := screen e.options, stderr := lines }
    else if !e.rest.isEmpty then reported {} lines s!"accepts 0 arg(s), received {e.rest.length}"
    else
      match work e.options.settings e.options with
      | some m => reported { e.options.log with parsed := true } lines m
      | none => { exit := 0, stderr := lines }

def serverFlags : List Flag := serialFlags ++ bridgeFlags ++ logFlags

/-- The help of the network server, with the defaults of the options it started with and the
values of those of now. -/
def serverHelp (start now : Options) : CommandHelp :=
  { use := "lcdd", about := "Serve the display keypad and screen to the network.",
    runnable := true, localFlags := serverFlags.map (Flag.entry start now) ++ [helpEntry "lcdd"] }

def serve (w : World) (args : List String) : Outcome :=
  match startup w with
  | .error o => o
  | .ok (s, lines) =>
    let o : Options := { settings := s }
    finish lines o (fun now => (serverHelp o now).screen)
      (o.parseExtended (commandFlags serverFlags) w.files args) fun s _ =>
      if s.mqttUrl.isEmpty && s.websocketAddr.isEmpty then some "nothing to serve, set -mqtt or -ws"
      else some (openFault s)

def longTakesNoValue (flags : List LongFlag) (name : String) : Bool :=
  match flags.find? (·.name = name) with
  | some f => f.isBool
  | none => false

/-- The arguments that name commands, as the command framework finds them: it skips flags,
and the argument after a flag that may take one, giving up when that is the last argument. -/
def commandWords (flags : List LongFlag) : List String → List String
  | [] => []
  | a :: more =>
    if a = "--" then []
    else
      let consumes :=
        (a.startsWith "--" && !a.contains '=' && !longTakesNoValue flags (a.drop 2).toString) ||
        (a.startsWith "-" && !a.contains '=' && a.utf8ByteSize = 2 &&
          !(match flags.find? (·.letter = (a.toList.drop 1).head?) with
            | some f => f.isBool
            | none => false))
      if consumes then
        match more with
        | _ :: rest => commandWords flags rest
        | [] => []
      else if a ≠ "" && !a.startsWith "-" then a :: commandWords flags more
      else commandWords flags more

def withoutFirst (x : String) : List String → List String
  | [] => []
  | a :: rest => if a = x then rest else a :: withoutFirst x rest

def demoFlags : List Flag := serialFlags ++ logFlags

def demoList : List (String × String) :=
  [("knightrider", "Character block tracing around the screen."),
   ("multifield", "Multiple fields, selected with up and down, scrolled with left and right.")]

def demoOwnFlags (name : String) : List Flag :=
  if name = "multifield" then [.fieldsFile] else []

/-- What a help screen of the demo runner is about. -/
inductive DemoTopic
  | runner
  | help
  | demo (name : String)
  deriving DecidableEq, Repr

def DemoTopic.ofWord : Option String → DemoTopic
  | some "help" => .help
  | some w => if (demoList.map (·.1)).contains w then .demo w else .runner
  | none => .runner

/-- The help of the demo runner on a topic, with the defaults of the options it started with
and the values of those of now. -/
def demoHelp (start now : Options) : DemoTopic → CommandHelp
  | .runner =>
    { use := "lcddemo", runnable := false,
      subcommands := ("help", "Help about any command") :: demoList,
      localFlags := demoFlags.map (Flag.entry start now) ++ [helpEntry "lcddemo"] }
  | .help =>
    { parents := ["lcddemo"], use := "help [command]", runnable := true,
      about := "Help provides help for any command in the application.\n" ++
        "Simply type lcddemo help [path to command] for full details.",
      localFlags := [helpEntry "help"], globalFlags := demoFlags.map (Flag.entry start now) }
  | .demo name =>
    { parents := ["lcddemo"], use := name, runnable := true,
      about := ((demoList.find? (·.1 = name)).map (·.2)).getD "",
      localFlags := (demoOwnFlags name).map (Flag.entry start now) ++ [helpEntry name],
      globalFlags := demoFlags.map (Flag.entry start now) }

/-- The demo runner: a subcommand runs a demo on the display, `help` shows the help of the
command its next word names; without a subcommand it shows its own help. -/
def demos (w : World) (args : List String) : Outcome :=
  match startup w with
  | .error o => o
  | .ok (s, lines) =>
    let o : Options := { settings := s }
    let shown (now : Options) (t : DemoTopic) : Outcome :=
      { exit := 0, stdout := (demoHelp o now t).screen, stderr := lines }
    let other (r : Except FlagFault Extended) (ok : Extended → Outcome) : Outcome :=
      match r with
      | .error (.failure m) => reported {} lines m
      | .error (.crash m) => crashed lines m
      | .error .help => shown o .runner
      | .ok e => ok e
    match commandWords (demoFlags.map .flag) args with
    | name :: _ =>
      if (demoList.map (·.1)).contains name then
        let flags := commandFlags (demoOwnFlags name ++ demoFlags)
        finish lines o (fun now => (demoHelp o now (.demo name)).screen)
          (o.parseExtended flags w.files (withoutFirst name args)) fun s _ => some (openFault s)
      else if name = "help" then
        other (o.parseExtended (commandFlags demoFlags) w.files (withoutFirst name args)) fun e =>
          shown e.options (if e.help then .help else DemoTopic.ofWord e.rest.head?)
      else other (o.parseExtended (commandFlags demoFlags) w.files args) fun e => shown e.options .runner
    | [] => other (o.parseExtended (commandFlags demoFlags) w.files args) fun e => shown e.options .runner

def dialable : List String := ["tcp", "ssl", "tls", "tcps", "ws", "wss"]

def tcpSchemes : List String := ["tcp", "ssl", "tls", "tcps"]

/-- Why a TCP dial of an address `host:port` fails here, where no network is reachable. A
malformed address, or a port past 65535, fails before any connection; a literal IP address
(or no host, the local one, or `localhost`, which the hosts file names `127.0.0.1`) finds no
route to it; a name that cannot be a domain name is no host, and any other name finds no name
server to ask. -/
def tcpDialFault (hp : List UInt8) : String :=
  match Url.splitHostPort hp with
  | .error why => "dial tcp: address " ++ Utf8.toText hp ++ ": " ++ why
  | .ok (host, port) =>
    let n := if port.isEmpty then 0 else (Text.digitsValue? port).getD 0
    if n > 65535 then "dial tcp: address " ++ Utf8.toText port ++ ": invalid port"
    else
      let unreachable (addr : String) := s!"dial tcp {addr}: connect: network is unreachable"
      let name := Utf8.toText host
      if host.isEmpty then unreachable (":" ++ toString n)
      else
        match Url.parseAddress host with
        | .ok a => unreachable (Url.joinHostPort a.toText (toString n))
        | .error _ =>
          if ["localhost", "localhost."].contains (Utf8.toText (host.map Text.lowerByte)) then
            unreachable ("127.0.0.1:" ++ toString n)
          else if Url.isDomainName host then
            s!"dial tcp: lookup {name} on [::1]:53: dial udp [::1]:53: connect: network is unreachable"
          else s!"dial tcp: lookup {name}: no such host"

/-- Why dialing a server fails here. TCP schemes dial the server's host and port; websocket
schemes dial it with the scheme's port when it has none, and name the server first. -/
def dialFault (scheme : String) (server : List UInt8) : String :=
  match Url.parse server with
  | .error _ => "dial tcp: connection refused"
  | .ok u =>
    if tcpSchemes.contains scheme then tcpDialFault u.host
    else
      let port := if scheme = "wss" then "443" else "80"
      let authority := match Url.splitHostPort u.host with
        | .ok _ => u.host
        | .error _ => Utf8.ofString (Url.joinHostPort (Utf8.toText u.host) port)
      s!"websocket.Dial {scheme}://{Utf8.toText u.host}: " ++ tcpDialFault authority

def serverScheme (server : List UInt8) : String :=
  Utf8.toText (server.takeWhile (· ≠ 0x3A))

/-- The broker monitor: it reads its broker URL from `LCD_MQTT_URL` or its flag, logging to
the standard error unless a flag says otherwise, subscribes to every topic under the URL's
root (a verbose line of level 2 of the queue), then connects. -/
def monitor (w : World) (args : List String) : Outcome :=
  let url := if (w.getenv "LCD_MQTT_URL").isEmpty then ({} : Settings).mqttUrl
    else w.getenv "LCD_MQTT_URL"
  let o : Options := { settings := { mqttUrl := url }, log := { toStderr := true } }
  let p := o.parseArgs (.mqtt :: logFlags) w.files args
  match p.fault with
  | some f => flagFailed [] f
  | none =>
    let log := { p.options.log with parsed := true }
    match BrokerOptions.ofUrl (Utf8.ofString p.options.settings.mqttUrl) with
    | .error e => gaveUp log [] e.message
    | .ok opts =>
      let subscribed :=
        if log.verbose "queue" 2 then
          log.lines .info ["SUB " ++ Text.quote (opts.topicRoot ++ [0x23])]
        else []
      match opts.servers with
      | [] => gaveUp log subscribed "No servers defined to connect to"
      | server :: _ =>
        let scheme := serverScheme server
        if dialable.contains scheme then
          gaveUp log subscribed ("Network Error : " ++ dialFault scheme server)
        else gaveUp log subscribed "Network Error : Unknown protocol"

/-- The shell: it connects to the configured port first (which fails), then runs the command of
its arguments, or reads commands when interactive (of which there are none), or gives up. -/
def shell (w : World) (args : List String) : Outcome :=
  match startup w with
  | .error o => o
  | .ok (s, lines) =>
    let p := ({ settings := s } : Options).parseArgs
      (serialFlags ++ [.evalOnly, .json] ++ logFlags) w.files args
    match p.fault with
    | some f => flagFailed lines f
    | none =>
      let o := p.options
      let log := { o.log with parsed := true }
      let s := o.settings
      let interactive := !o.evalOnly
      if !s.port.isEmpty then
        let greeting := if interactive then s!"Connecting {s.port} ...\n" else ""
        gaveUp log lines s!"connect {Text.quoteString s.port} failed: {openFault s}" greeting
      else if !p.rest.isEmpty then
        let sh : ShellState :=
          { interactive, json := o.json, autoConnect := true, port := s.port, baud := s.baudRate,
            attached := false }
        let session : Host :=
          { Session.Host.start .system Codec.standard none false with shell := some sh }
        let (r, after) := (Session.Host.shellProcess (p.rest.map Utf8.ofString)).run session
        let printed := Utf8.toText ((after.log.shell.map (·.output)).getD [])
        match r with
        | .ok () => { exit := 0, stdout := printed, stderr := lines }
        | .error (.text t) => gaveUp log lines t printed
        | .error (.device e) => gaveUp log lines e.message printed
      else if interactive then { exit := 0, stdout := "EOF\n", stderr := lines }
      else gaveUp log lines "command expected"

/-- Opens the display at the port and rate of settings, on a machine without serial ports. Opened
through the settings, a rate the display does not take fails before any port is touched; opened
directly, the link connects and checks it itself. -/
def openDisplay (direct : Bool) (s : Settings) : Except String (Except Link.LinkError Unit) :=
  match direct, s.baud with
  | false, .error m => .error m
  | _, _ => .ok ((Host.connect s.port s.baudRate).run (Host.start .system Codec.standard none false)).1

end LcdPanel.Program
