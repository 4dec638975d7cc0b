import LcdPanel.Config.Settings
import LcdPanel.Toml.Parse
import LcdPanel.Toml.Seen
import LcdPanel.Toml.Number
import LcdPanel.Toml.Date

namespace LcdPanel.Config

open LcdPanel LcdPanel.Toml LcdPanel.Time

/-- A table of the settings. -/
inductive Section
  | serial
  | bridge
  deriving DecidableEq, Repr

inductive Field
  | port
  | baudRate
  | timeout
  | id
  | mqttUrl
  | websocketAddr
  deriving DecidableEq, Repr

/-- Where a key leads in the settings. -/
inductive Place
  | root
  | section (s : Section)
  | field (f : Field)
  deriving DecidableEq, Repr

def Place.children : Place → List (String × Place)
  | .root => [("serial", .section .serial), ("bridge", .section .bridge)]
  | .section .serial => [("port", .field .port), ("baud_rate", .field .baudRate),
      ("timeout", .field .timeout)]
  | .section .bridge => [("id", .field .id), ("mqtt_url", .field .mqttUrl),
      ("websocket_addr", .field .websocketAddr)]
  | .field _ => []

def Place.isTable : Place → Bool
  | .field _ => false
  | _ => true

/-- Lowercases a name, character by character: ASCII capitals, and the two characters outside
ASCII whose lowercase is an ASCII letter, the dotted capital I (to `i`) and the Kelvin sign (to
`k`). Other characters stay as they are, so they never make a setting's name. -/
def lowerName : List UInt8 → List UInt8
  | [] => []
  | 0xC4 :: 0xB0 :: rest => 0x69 :: lowerName rest
  | 0xE2 :: 0x84 :: 0xAA :: rest => 0x6B :: lowerName rest
  | c :: rest => Text.lowerByte c :: lowerName rest

def Place.child? (p : Place) (k : List UInt8) : Option Place :=
  match p.children.find? (fun c => Utf8.ofString c.1 = k) with
  | some c => some c.2
  | none => (p.children.find? (fun c => Utf8.ofString c.1 = lowerName k)).map (·.2)

/-- How a place is described in messages: the record it belongs to, its own name there, its
type, and the kind of that type. -/
def Place.describe : Place → String × String × String × String
  | .root => ("", "", "config.Config", "struct")
  | .section .serial => ("config.Config", "Serial", "config.SerialConfig", "struct")
  | .section .bridge => ("config.Config", "Bridge", "config.BridgeConfig", "struct")
  | .field .port => ("config.SerialConfig", "Port", "string", "string")
  | .field .baudRate => ("config.SerialConfig", "BaudRate", "int", "int")
  | .field .timeout => ("config.SerialConfig", "Timeout", "config.Duration", "int64")
  | .field .id => ("config.BridgeConfig", "ID", "string", "string")
  | .field .mqttUrl => ("config.BridgeConfig", "MQTTURL", "string", "string")
  | .field .websocketAddr => ("config.BridgeConfig", "WebsocketAddr", "string", "string")

def Place.kindName (p : Place) : String := p.describe.2.2.2

def mismatch (what : String) (p : Place) : String :=
  let (owner, name, type, _) := p.describe
  s!"toml: cannot decode TOML {what} into struct field {owner}.{name} of type {type}"

def setText (s : Settings) (f : Field) (v : String) : Settings :=
  match f with
  | .port => { s with port := v }
  | .id => { s with id := v }
  | .mqttUrl => { s with mqttUrl := v }
  | .websocketAddr => { s with websocketAddr := v }
  | _ => s

def Field.isText : Field → Bool
  | .baudRate | .timeout => false
  | _ => true

/-- What applying a value did: the settings after it (what was applied before a fault stays
applied), and the fault that stopped it. -/
structure Applied where
  settings : Settings
  fault : Option String := none
  deriving DecidableEq, Repr

def Applied.fail (s : Settings) (m : String) : Applied := { settings := s, fault := some m }

mutual

/-- Applies a value to the place its key leads to from `p`. A key part that names nothing ends
the pair quietly; one past a plain setting is a fault. -/
def assign : Nat → Settings → Place → Key → Value → Applied
  | 0, s, _, _, _ => { settings := s }
  | fuel + 1, s, p, [], v => store fuel s p v
  | fuel + 1, s, p, k :: ks, v =>
    if !p.isTable then .fail s s!"unhandled kv part: {p.kindName}"
    else
      match p.child? k with
      | some q => assign fuel s q ks v
      | none => { settings := s }

/-- Stores a value in a place. -/
def store : Nat → Settings → Place → Value → Applied
  | 0, s, _, _ => { settings := s }
  | fuel + 1, s, p, v =>
    if p = .field .timeout && v.isPlain then
      match Duration.parse v.data with
      | .ok d => { settings := { s with timeout := d } }
      | .error e => .fail s ("toml: " ++ e.message)
    else
      match v with
      | .string data =>
        match p with
        | .field f =>
          if f.isText then { settings := setText s f (Utf8.toText data) }
          else .fail s (mismatch "string" p)
        | _ => .fail s (mismatch "string" p)
      | .integer raw =>
        match integerValue raw with
        | .error m => .fail s ("toml: " ++ m)
        | .ok n =>
          if p = .field .baudRate then { settings := { s with baudRate := n } }
          else .fail s (mismatch "integer" p)
      | .float raw =>
        match floatValid raw with
        | .error m => .fail s ("toml: " ++ m)
        | .ok () => .fail s s!"toml: float cannot be assigned to {p.kindName}"
      | .boolean b => .fail s s!"toml: cannot assign boolean to a {b}"
      | .date kind raw =>
        match checkDate kind raw with
        | .error e => .fail s ("toml: " ++ e.message)
        | .ok () => .fail s (mismatch kind.word p)
      | .array _ => .fail s (mismatch "array" p)
      | .table entries =>
        if p.isTable then storeAll fuel s p entries
        else .fail s s!"toml: cannot store inline table in Go type {p.kindName}"

def storeAll : Nat → Settings → Place → List (Key × Value) → Applied
  | 0, s, _, _ => { settings := s }
  | _ + 1, s, _, [] => { settings := s }
  | fuel + 1, s, p, (k, v) :: rest =>
    let r := assign fuel s p k v
    if r.fault.isSome then r else storeAll fuel r.settings p rest

end

/-- Why loading a document stopped early: an error the caller is told of, what was applied before
it staying applied, or a crash, when a header reached past a plain setting. -/
inductive LoadFault
  | error (message : String)
  | crash (message : String)
  deriving DecidableEq, Repr

def LoadFault.message : LoadFault → String
  | .error m | .crash m => m

/-- Where a header's key leads: the place, or nothing when a part names no setting. A header
that reaches past a plain setting is a crash. -/
def headerPlace : Place → Key → Except String (Option Place)
  | p, [] => .ok (some p)
  | p, k :: ks =>
    if !p.isTable then .error s!"unhandled part: {p.kindName}"
    else
      match p.child? k with
      | some q => headerPlace q ks
      | none => .ok none

/-- Checks where an array-table header's key leads: it may name nothing, but no setting or
table of the settings can take an array of tables (a fault), and reaching past a plain setting
is a crash. -/
def arrayHeaderPlace : Place → Key → Except LoadFault Unit
  | _, [] => .ok ()
  | p, k :: ks =>
    if !p.isTable then .error (.crash s!"unhandled part: {p.kindName}")
    else
      match p.child? k with
      | none => .ok ()
      | some q =>
        if ks.isEmpty then .error (.error (mismatch "array table" q)) else arrayHeaderPlace q ks

/-- The state of a load: the settings so far, the definitions seen, and the place the current
table leads to (nothing inside a table that names no setting). -/
structure Loader where
  settings : Settings
  seen : Seen := {}
  scope : Option Place := some .root

/-- Applies one expression: the loader after it, and the fault that stopped it, if any. -/
def Loader.step (l : Loader) (e : Expr) : Loader × Option LoadFault :=
  match e with
  | .keyValue k v =>
    match l.scope with
    | none => (l, none)
    | some p =>
      match l.seen.check e with
      | .error m => (l, some (.error m))
      | .ok seen =>
        let r := assign (3 * v.size + k.length + 3) l.settings p k v
        ({ l with seen, settings := r.settings }, r.fault.map .error)
  | .table k =>
    match l.seen.check e with
    | .error m => (l, some (.error m))
    | .ok seen =>
      match headerPlace .root k with
      | .error m => ({ l with seen }, some (.crash m))
      | .ok scope => ({ l with seen, scope }, none)
  | .arrayTable k =>
    match l.seen.check e with
    | .error m => (l, some (.error m))
    | .ok seen =>
      match arrayHeaderPlace .root k with
      | .error f => ({ l with seen }, some f)
      | .ok () => ({ l with seen, scope := none }, none)

def Loader.run (l : Loader) : List Expr → Loader × Option LoadFault
  | [] => (l, none)
  | e :: es =>
    match l.step e with
    | (l, none) => l.run es
    | stopped => stopped

/-- Loads a document over settings: the settings as far as loading got, and the fault that
stopped it, if any. -/
def loadDocument (doc : List UInt8) (s : Settings) : Settings × Option LoadFault :=
  let (es, fault) := expressions doc
  let (l, stop) := ({ settings := s } : Loader).run es
  match stop with
  | some f => (l.settings, some f)
  | none => (l.settings, fault.map fun e => .error ("toml: " ++ e.message))

/-! ## Files -/

/-- The files a program can read, each under its name. A path `@name` names a file of the
directory the files are in; a plain path names one only for a program that runs among them. -/
structure Files where
  entries : List (String × List UInt8) := []
  byPath : Bool := false

def Files.read (fs : Files) (path : String) : Except String (List UInt8) :=
  let name? : Option String :=
    if path.startsWith "@" then some (path.drop 1).toString
    else if fs.byPath && !path.isEmpty then some path
    else none
  match name? >>= fun n => (fs.entries.find? (·.1 = n)).map (·.2) with
  | some data => .ok data
  | none => .error s!"open {path}: no such file or directory"

/-- Loads the file at a path over settings: a fault names the path, a crash does not. -/
def loadFile (fs : Files) (path : String) (s : Settings) : Settings × Option LoadFault :=
  match fs.read path with
  | .error m => (s, some (.error m))
  | .ok doc =>
    let (s, fault) := loadDocument doc s
    (s, fault.map fun
      | .error m => .error s!"{path}: {m}"
      | .crash m => .crash m)

/-- Loads files one after another over settings, with the error each ended with, if any; a crash
stops the program with its message. -/
def loadFiles (fs : Files) : List String → Settings →
    Except String (Settings × List (Option String))
  | [], s => .ok (s, [])
  | path :: rest, s =>
    match loadFile fs path s with
    | (_, some (.crash m)) => .error m
    | (s, fault) => do
      let (s, faults) ← loadFiles fs rest s
      return (s, fault.map LoadFault.message :: faults)

end LcdPanel.Config
