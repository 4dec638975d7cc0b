import LcdPanel.Json.Scanner

namespace LcdPanel.Json

open LcdPanel

/-- The shape a value is decoded into. -/
inductive Shape where
  | text
  | uint32
  | flag
  | raw
  | record (typeName : String) (fields : List (String × Shape))
  | list (elem : Shape)
  deriving Repr

inductive Datum where
  | text (bs : List UInt8)
  | num (n : UInt32)
  | flag (b : Bool)
  | raw (v : Option JValue)
  | record (values : List Datum)
  | list (items : List Datum)
  deriving Repr

namespace Shape

def typeName : Shape → String
  | .text => "string"
  | .uint32 => "uint32"
  | .flag => "bool"
  | .raw => "json.RawMessage"
  | .record t _ => t
  | .list e => "[]" ++ e.typeName

/-- The short name of a shape's type: a record's name without its package, nothing for a
list. -/
def shortName : Shape → String
  | .record t _ => String.ofList ((t.toList.reverse.takeWhile (· ≠ '.')).reverse)
  | .list _ => ""
  | s => s.typeName

mutual

def zero : Shape → Datum
  | .text => .text []
  | .uint32 => .num 0
  | .flag => .flag false
  | .raw => .raw none
  | .record _ fields => .record (zeros fields)
  | .list _ => .list []

def zeros : List (String × Shape) → List Datum
  | [] => []
  | (_, s) :: rest => s.zero :: zeros rest

end

end Shape

/-- One step of the way from the top of a value to a value inside it. -/
inductive PathStep where
  | member (key : List UInt8)
  | item (i : Nat)
  deriving DecidableEq, Repr

def PathStep.text : PathStep → String
  | .member key => Utf8.toText key
  | .item i => toString i

/-- A value of the wrong kind for its place. -/
structure TypeError where
  found : String
  root : String
  path : List PathStep
  expected : String
  deriving DecidableEq, Repr

/-- The text of a type error: it names the place by the root type and the path, and calls the
place a struct field when the value is the member of an object. -/
def TypeError.message (e : TypeError) : String :=
  let place := e.root ++ "." ++ ".".intercalate (e.path.map PathStep.text)
  match e.path.getLast? with
  | none => "json: cannot unmarshal " ++ e.found ++ " into Go value of type " ++ e.expected
  | some (.member _) =>
    "json: cannot unmarshal " ++ e.found ++ " into Go struct field " ++ place ++ " of type " ++
      e.expected
  | some (.item _) =>
    "json: cannot unmarshal " ++ e.found ++ " into " ++ place ++ " of type " ++ e.expected

/-- What decoding can fail with. -/
inductive DecodeError where
  | malformed (text : String)
  | type (e : TypeError)
  deriving DecidableEq, Repr

def DecodeError.message : DecodeError → String
  | .malformed t => t
  | .type e => e.message

def JValue.kindName : JValue → String
  | .null => "null"
  | .bool _ => "bool"
  | .num _ => "number"
  | .str _ => "string"
  | .arr _ => "array"
  | .obj _ => "object"

/-- A key folded for matching: ASCII letters in upper case, and the two other characters in the
case orbit of an ASCII letter (the long `ſ` with `S` and `s`, the Kelvin sign with `K` and `k`)
replaced by its capital. The dotted and dotless `i` are in no orbit with `i`, so they stay. -/
def foldKey (bs : List UInt8) : List Nat :=
  (Utf8.runes bs).map fun r =>
    if 0x61 ≤ r ∧ r ≤ 0x7A then r - 32
    else if r = 0x17F then 0x53
    else if r = 0x212A then 0x4B
    else r

def fieldIndex (fields : List (String × Shape)) (key : List UInt8) : Option Nat :=
  match fields.findIdx? (fun (n, _) => Utf8.ofString n = key) with
  | some i => some i
  | none => fields.findIdx? (fun (n, _) => foldKey (Utf8.ofString n) = foldKey key)

def uint32Of (text : List UInt8) : Option UInt32 :=
  if text ≠ [] ∧ text.all isDigit then
    let n := text.foldl (fun acc c => acc * 10 + (c.toNat - 0x30)) 0
    if n < Nat.pow 2 32 then some n.toUInt32 else none
  else none

mutual

/-- Decodes `v` over `cur` into shape `s`, at `path` from a root of short name `root`. -/
def decodeAt (root : String) (path : List PathStep) (s : Shape) (cur : Datum) (v : JValue) :
    Except TypeError Datum :=
  let wrong (found : String) : Except TypeError Datum :=
    .error ⟨found, root, path, s.typeName⟩
  match s, v with
  | .raw, v => .ok (.raw (some v))
  | _, .null =>
    match s with
    | .list _ => .ok (.list [])
    | _ => .ok cur
  | .text, .str bs => .ok (.text bs)
  | .uint32, .num t =>
    match uint32Of t with
    | some n => .ok (.num n)
    | none => wrong ("number " ++ String.ofList (t.map fun c => Char.ofNat c.toNat))
  | .flag, .bool b => .ok (.flag b)
  | .record _ fields, .obj members =>
    let values := match cur with
      | .record vs => vs
      | _ => Shape.zeros fields
    match decodeMembers root path fields values members with
    | .ok vs => .ok (.record vs)
    | .error e => .error e
  | .list elem, .arr items =>
    match decodeItems root path elem 0 items with
    | .ok ds => .ok (.list ds)
    | .error e => .error e
  | _, v => wrong v.kindName

/-- Decodes the members of an object into the values of a record's fields. -/
def decodeMembers (root : String) (path : List PathStep) (fields : List (String × Shape))
    (values : List Datum) : List (List UInt8 × JValue) → Except TypeError (List Datum)
  | [] => .ok values
  | (key, v) :: rest =>
    match fieldIndex fields key with
    | none => decodeMembers root path fields values rest
    | some i =>
      match fields[i]?, values[i]? with
      | some (_, shape), some cur =>
        match decodeAt root (path ++ [.member key]) shape cur v with
        | .ok d => decodeMembers root path fields (values.set i d) rest
        | .error e => .error e
      | _, _ => decodeMembers root path fields values rest

def decodeItems (root : String) (path : List PathStep) (elem : Shape) (i : Nat) :
    List JValue → Except TypeError (List Datum)
  | [] => .ok []
  | v :: rest =>
    match decodeAt root (path ++ [.item i]) elem elem.zero v with
    | .ok d =>
      match decodeItems root path elem (i + 1) rest with
      | .ok ds => .ok (d :: ds)
      | .error e => .error e
    | .error e => .error e

end

/-- Decodes bytes into a shape: the input must be one JSON value, then it must fit. -/
def decode (s : Shape) (bs : List UInt8) : Except DecodeError Datum :=
  match parse bs with
  | .error e => .error (.malformed e)
  | .ok v =>
    match decodeAt s.shortName [] s s.zero v with
    | .ok d => .ok d
    | .error e => .error (.type e)

end LcdPanel.Json
