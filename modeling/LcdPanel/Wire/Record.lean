import LcdPanel.Wire.Varint
import LcdPanel.Text.Utf8

namespace LcdPanel.Wire

inductive FieldKind where
  | uint32
  | bool
  | string
  | bytes
  deriving DecidableEq, Repr

structure Field where
  number : Nat
  name : String
  declName : String
  kind : FieldKind
  deriving DecidableEq, Repr

inductive Value where
  | num (n : UInt32)
  | flag (b : Bool)
  | text (bs : List UInt8)
  | raw (bs : List UInt8)
  deriving DecidableEq, Repr

def FieldKind.zero : FieldKind → Value
  | .uint32 => .num 0
  | .bool => .flag false
  | .string => .text []
  | .bytes => .raw []

def Value.isZero : Value → Bool
  | .num n => n = 0
  | .flag b => !b
  | .text bs => bs.isEmpty
  | .raw bs => bs.isEmpty

/-- What can go wrong reading or writing a record. -/
inductive WireError where
  | unexpectedEof
  | illegalTagZero (typeName : String) (wire : Nat)
  | unknownWireType (wire : Nat)
  | invalidUtf8 (field : String)
  deriving DecidableEq, Repr

def WireError.message : WireError → String
  | .unexpectedEof => "unexpected EOF"
  | .illegalTagZero t w => s!"proto: {t}: illegal tag 0 (wire type {w})"
  | .unknownWireType w => s!"proto: can't skip unknown wire type {w}"
  | .invalidUtf8 f => "proto: field \"" ++ f ++ "\" contains invalid UTF-8"

/-! ## Encoding -/

/-- The bytes of one field holding `v`; nothing for a zero value. -/
def encodeField (f : Field) (v : Value) : List UInt8 :=
  if v.isZero then []
  else
    match v with
    | .num n => key f.number wireVarint ++ varint n.toNat
    | .flag _ => key f.number wireVarint ++ [1]
    | .text bs | .raw bs => key f.number wireBytes ++ varint bs.length ++ bs

def encodeRecord (fields : List Field) (values : List Value) : List UInt8 :=
  (fields.zip values).flatMap fun (f, v) => encodeField f v

def badText (fields : List Field) (values : List Value) : Option String :=
  (fields.zip values).findSome? fun (f, v) =>
    match v with
    | .text bs => if Utf8.valid bs then none else some f.declName
    | _ => none

def marshalRecord (fields : List Field) (values : List Value) : Except WireError (List UInt8) :=
  match badText fields values with
  | some name => .error (.invalidUtf8 ("." ++ name))
  | none => .ok (encodeRecord fields values)

/-! ## Skipping unknown fields -/

/-- Skips the fields of a group up to the end marker that closes it, `depth` groups deep; what
follows the marker, or nothing if the input ends first. -/
def skipGroup (depth : Nat) (bs : List UInt8) : Option (List UInt8) :=
  match h : readVarint bs with
  | none => none
  | some (x, rest) =>
    have : rest.length < bs.length := readVarint_shorter h
    match x % 8 with
    | 0 =>
      match h' : readVarint rest with
      | none => none
      | some (_, r) =>
        have : r.length < rest.length := readVarint_shorter h'
        skipGroup depth r
    | 1 => if rest.length < 8 then none else skipGroup depth (rest.drop 8)
    | 2 =>
      match h' : readVarint rest with
      | none => none
      | some (m, r) =>
        have : r.length < rest.length := readVarint_shorter h'
        if r.length < m then none else skipGroup depth (r.drop m)
    | 3 => skipGroup (depth + 1) rest
    | 4 => if depth ≤ 1 then some rest else skipGroup (depth - 1) rest
    | 5 => if rest.length < 4 then none else skipGroup depth (rest.drop 4)
    | _ => none
termination_by bs.length
decreasing_by all_goals (try simp only [List.length_drop]); omega

/-- Skips the value of an unknown field of wire type `wire`. -/
def skipField (wire : Nat) (bs : List UInt8) : Except WireError (List UInt8) :=
  match wire with
  | 0 =>
    match readVarint bs with
    | some (_, r) => .ok r
    | none => .error .unexpectedEof
  | 1 => if bs.length < 8 then .error .unexpectedEof else .ok (bs.drop 8)
  | 2 =>
    match readVarint bs with
    | some (m, r) => if r.length < m then .error .unexpectedEof else .ok (r.drop m)
    | none => .error .unexpectedEof
  | 3 =>
    match skipGroup 1 bs with
    | some r => .ok r
    | none => .error .unexpectedEof
  | 5 => if bs.length < 4 then .error .unexpectedEof else .ok (bs.drop 4)
  | w => .error (.unknownWireType w)

theorem skipGroup_le (depth : Nat) (bs : List UInt8) :
    ∀ r, skipGroup depth bs = some r → r.length ≤ bs.length := by
  fun_induction skipGroup depth bs <;> intro r h <;> simp_all <;> omega

/-- What `skipField` leaves is no longer than its input. -/
theorem skipField_le {wire : Nat} {bs r : List UInt8} (h : skipField wire bs = .ok r) :
    r.length ≤ bs.length := by
  unfold skipField at h
  split at h
  · split at h
    · cases h; exact Nat.le_of_lt (readVarint_shorter (by assumption))
    · cases h
  · split at h
    · cases h
    · cases h; simp
  · split at h
    · split at h
      · cases h
      · cases h
        have := readVarint_shorter (by assumption)
        simp only [List.length_drop]; omega
    · cases h
  · split at h
    · cases h; exact skipGroup_le _ _ _ (by assumption)
    · cases h
  · split at h
    · cases h
    · cases h; simp
  · cases h

/-! ## Decoding -/

/-- What reading the value of a known field gives; on a wire type that does not fit the field's kind
the field is skipped as unknown. -/
inductive FieldRead where
  | read (v : Value) (rest : List UInt8)
  | eof
  | mismatch

/-- Reads a value of kind `kind` written with wire type `wire`. An integer keeps the low 32 bits of
its varint; a flag is set by any non-zero varint. -/
def readValue (kind : FieldKind) (wire : Nat) (bs : List UInt8) : FieldRead :=
  match kind, wire with
  | .uint32, 0 =>
    match readVarint bs with
    | some (x, r) => .read (.num x.toUInt32) r
    | none => .eof
  | .bool, 0 =>
    match readVarint bs with
    | some (x, r) => .read (.flag (x ≠ 0)) r
    | none => .eof
  | .string, 2 =>
    match readVarint bs with
    | some (n, r) => if r.length < n then .eof else .read (.text (r.take n)) (r.drop n)
    | none => .eof
  | .bytes, 2 =>
    match readVarint bs with
    | some (n, r) => if r.length < n then .eof else .read (.raw (r.take n)) (r.drop n)
    | none => .eof
  | _, _ => .mismatch

theorem readValue_shorter {kind : FieldKind} {wire : Nat} {bs r : List UInt8} {v : Value}
    (h : readValue kind wire bs = .read v r) : r.length < bs.length := by
  unfold readValue at h
  split at h <;> (try split at h) <;> (try split at h) <;> (try cases h)
  all_goals
    first
    | exact readVarint_shorter (by assumption)
    | (have h := readVarint_shorter (by assumption); simp only [List.length_drop]; omega)

def fieldAt? (fields : List Field) (number : Nat) : Option (Nat × Field) :=
  (fields.zipIdx.find? fun (f, _) => f.number = number).map fun (f, i) => (i, f)

/-- The error to report at the end for a value just read: the first string that is not valid
UTF-8, by its schema name. -/
def laterError (later : Option WireError) (f : Field) (v : Value) : Option WireError :=
  match later, v with
  | none, .text t => if Utf8.valid t then none else some (.invalidUtf8 ("." ++ f.name))
  | l, _ => l

/-- Reads the fields of a record of type `typeName` into `values`; `later` is the error to report
once the input is read. -/
def decodeFields (typeName : String) (fields : List Field) (values : List Value)
    (later : Option WireError) (bs : List UInt8) : Except WireError (List Value) :=
  match h : readVarint bs with
  | none =>
    if bs = [] then
      match later with
      | some e => .error e
      | none => .ok values
    else .error .unexpectedEof
  | some (x, rest) =>
    have : rest.length < bs.length := readVarint_shorter h
    if x / 8 = 0 then .error (.illegalTagZero typeName (x % 8))
    else
      let skip : Except WireError (List Value) :=
        match hs : skipField (x % 8) rest with
        | .error e => .error e
        | .ok r =>
          have : r.length ≤ rest.length := skipField_le hs
          decodeFields typeName fields values later r
      match fieldAt? fields (x / 8) with
      | none => skip
      | some (i, f) =>
        match hr : readValue f.kind (x % 8) rest with
        | .eof => .error .unexpectedEof
        | .mismatch => skip
        | .read v r =>
          have : r.length < rest.length := readValue_shorter hr
          decodeFields typeName fields (values.set i v) (laterError later f v) r
termination_by bs.length

def decodeRecord (typeName : String) (fields : List Field) (bs : List UInt8) :
    Except WireError (List Value) :=
  decodeFields typeName fields (fields.map (·.kind.zero)) none bs

/-! ## Text form -/

/-- A byte string in the quoted text form: printable ASCII as is, a few escapes, and every other
byte as three octal digits. -/
def quoteBytes (bs : List UInt8) : String :=
  let body := bs.foldl (fun acc b =>
    acc ++ match b.toNat with
      | 10 => "\\n"
      | 13 => "\\r"
      | 9 => "\\t"
      | 34 => "\\\""
      | 92 => "\\\\"
      | n =>
        if 0x20 ≤ n ∧ n < 0x7f then String.singleton (Char.ofNat n)
        else "\\" ++ String.ofList [Char.ofNat (48 + n / 64), Char.ofNat (48 + n / 8 % 8),
          Char.ofNat (48 + n % 8)]) ""
  "\"" ++ body ++ "\""

/-- The text form of one field: `name:value` and a space, nothing for a zero value. -/
def fieldText (f : Field) (v : Value) : String :=
  if v.isZero then ""
  else
    let shown := match v with
      | .num n => toString n.toNat
      | .flag _ => "true"
      | .text bs | .raw bs => quoteBytes bs
    f.name ++ ":" ++ shown ++ " "

def recordText (fields : List Field) (values : List Value) : String :=
  String.join ((fields.zip values).map fun (f, v) => fieldText f v)

end LcdPanel.Wire
