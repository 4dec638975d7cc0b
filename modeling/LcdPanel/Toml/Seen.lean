import LcdPanel.Toml.Document

namespace LcdPanel.Toml

open LcdPanel

inductive EntryKind
  | value
  | table
  | arrayTable
  deriving DecidableEq, Repr

def EntryKind.word : EntryKind → String
  | .value => "value"
  | .table => "table"
  | .arrayTable => "array table"

structure Entry where
  path : Key
  kind : EntryKind
  explicit : Bool
  dotted : Bool
  deriving DecidableEq, Repr

/-- The paths defined so far and the table that key-value pairs go into. -/
structure Seen where
  entries : List Entry := []
  current : Key := []
  deriving DecidableEq, Repr

namespace Seen

def find? (s : Seen) (path : Key) : Option Entry :=
  s.entries.find? (·.path = path)

def create (s : Seen) (path : Key) (kind : EntryKind) (explicit dotted : Bool) : Seen :=
  { s with entries := s.entries ++ [⟨path, kind, explicit, dotted⟩] }

def update (s : Seen) (path : Key) (f : Entry → Entry) : Seen :=
  { s with entries := s.entries.map fun e => if e.path = path then f e else e }

def below (parent path : Key) : Bool :=
  parent.isPrefixOf path && parent.length < path.length

def settle (s : Seen) (parent : Key) : Seen :=
  { s with entries := s.entries.map fun e =>
      if below parent e.path && e.dotted then { e with explicit := true, dotted := false } else e }

def clear (s : Seen) (parent : Key) : Seen :=
  { s with entries := s.entries.filter fun e => !below parent e.path }

/-- Walks the parts of a header's key before the last, making the tables that do not exist;
each part must not be a value. Returns the path walked. -/
def headerPrefix (s : Seen) : Key → Key → Except String (Seen × Key)
  | parent, [] => .ok (s, parent)
  | parent, k :: ks =>
    let path := parent ++ [k]
    match s.find? path with
    | none => headerPrefix (s.create path .table false false) path ks
    | some e =>
      if e.kind = .value then
        .error s!"toml: expected {Utf8.toText k} to be a table, not a {e.kind.word}"
      else headerPrefix s path ks

/-- Walks the parts of a key-value pair's key from the current table: each must be new, or a
table that no header defined; the last is recorded as a value. -/
def pairPath (s : Seen) : Key → Key → Except String Seen
  | parent, [] => .ok (s.update parent fun e => { e with kind := .value })
  | parent, k :: ks =>
    let path := parent ++ [k]
    match s.find? path with
    | none => pairPath (s.create path .table false true) path ks
    | some e =>
      if ks.isEmpty then .error s!"toml: key {Utf8.toText k} is already defined"
      else if e.kind ≠ .table then
        .error s!"toml: expected {Utf8.toText k} to be a table, not a {e.kind.word}"
      else if e.explicit then
        .error s!"toml: cannot redefine table {Utf8.toText k} that has already been explicitly defined"
      else pairPath s path ks

mutual

def checkPair : Nat → Seen → Key → Value → Except String Seen
  | 0, s, _, _ => .ok s
  | fuel + 1, s, k, v => do
    let s ← pairPath s s.current k
    checkInside fuel v
    pure s

def checkInside : Nat → Value → Except String Unit
  | 0, _ => .ok ()
  | fuel + 1, .table entries => checkPairs fuel {} entries
  | fuel + 1, .array items => checkItems fuel items
  | _ + 1, _ => .ok ()

def checkPairs : Nat → Seen → List (Key × Value) → Except String Unit
  | 0, _, _ => .ok ()
  | _ + 1, _, [] => .ok ()
  | fuel + 1, s, (k, v) :: rest => do
    let s ← checkPair fuel s k v
    checkPairs fuel s rest

def checkItems : Nat → List Value → Except String Unit
  | 0, _ => .ok ()
  | _ + 1, [] => .ok ()
  | fuel + 1, v :: rest => do
    checkInside fuel v
    checkItems fuel rest

end

/-- Checks a table header and makes it the current table. -/
def checkTable (s : Seen) (k : Key) : Except String Seen := do
  let s := s.settle s.current
  let (s, parent) ← s.headerPrefix [] k.dropLast
  let last := k.getLast?.getD []
  let path := parent ++ [last]
  match s.find? path with
  | some e =>
    if e.kind ≠ .table then
      throw s!"toml: key {Utf8.toText last} should be a table, not a {e.kind.word}"
    if e.explicit then throw s!"toml: table {Utf8.toText last} already exists"
    pure { s.update path (fun e => { e with explicit := true }) with current := path }
  | none => pure { s.create path .table true false with current := path }

/-- Checks an array-table header, starts a new element and makes it the current table. -/
def checkArrayTable (s : Seen) (k : Key) : Except String Seen := do
  let s := s.settle s.current
  let (s, parent) ← s.headerPrefix [] k.dropLast
  let last := k.getLast?.getD []
  let path := parent ++ [last]
  match s.find? path with
  | some e =>
    if e.kind ≠ .arrayTable then
      throw s!"toml: key {e.kind.word} already exists as a {Utf8.toText last},  but should be an array table"
    pure { s.clear path with current := path }
  | none => pure { s.create path .arrayTable true false with current := path }

def check (s : Seen) : Expr → Except String Seen
  | .keyValue k v => checkPair (3 * v.size + 3) s k v
  | .table k => checkTable s k
  | .arrayTable k => checkArrayTable s k

end Seen

end LcdPanel.Toml
