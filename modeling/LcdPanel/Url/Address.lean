import LcdPanel.Url.Escape
import LcdPanel.Text.Quote
import LcdPanel.Bytes.Hex

namespace LcdPanel.Url

open LcdPanel

/-- An IP address: the four bytes of IPv4, or the sixteen bytes of IPv6 with its zone. -/
inductive IpAddress
  | v4 (bytes : List Nat)
  | v6 (bytes : List Nat) (zone : List UInt8)
  deriving DecidableEq, Repr

def IpAddress.isV4 : IpAddress → Bool
  | .v4 _ => true
  | .v6 _ _ => false

/-- Why a text is no IP address: the text, the reason, and the rest of the text where the
reason points at it (empty when it does not). -/
structure AddressError where
  input : List UInt8
  reason : String
  rest : List UInt8 := []
  deriving DecidableEq, Repr

def AddressError.message (e : AddressError) : String :=
  "ParseAddr(" ++ Text.quote e.input ++ "): " ++ e.reason ++
    (if e.rest.isEmpty then "" else " (at " ++ Text.quote e.rest ++ ")")

def isDecimal (c : UInt8) : Bool := 0x30 ≤ c && c ≤ 0x39

/-- Reads the dotted fields of an IPv4 address from the rest `s` of the text `input`: `first`
says no byte was read yet, `afterDot` that the last byte was a dot, `val` and `digits` the field
so far, and `fields` the fields before it. -/
def ipv4Fields (input : List UInt8) :
    List UInt8 → Bool → Bool → Nat → Nat → List Nat → Except AddressError (List Nat)
  | [], _, _, val, _, fields =>
    if fields.length < 3 then .error { input, reason := "IPv4 address too short" }
    else .ok (fields ++ [val])
  | c :: s, first, afterDot, val, digits, fields =>
    if isDecimal c then
      if digits = 1 && val = 0 then
        .error { input, reason := "IPv4 field has octet with leading zero" }
      else
        let val := val * 10 + (c.toNat - 0x30)
        if val > 255 then .error { input, reason := "IPv4 field has value >255" }
        else ipv4Fields input s false false val (digits + 1) fields
    else if c = 0x2E then
      if first || s.isEmpty || afterDot then
        .error { input, reason := "IPv4 field must have at least one digit", rest := c :: s }
      else if fields.length = 3 then .error { input, reason := "IPv4 address too long" }
      else ipv4Fields input s false true 0 0 (fields ++ [val])
    else .error { input, reason := "unexpected character", rest := c :: s }

def parseIPv4 (input : List UInt8) : Except AddressError IpAddress :=
  IpAddress.v4 <$> ipv4Fields input input true false 0 0 []

def hexDigitsValue (ds : List UInt8) : Nat :=
  ds.foldl (fun acc d => acc * 16 + hexValue d) 0

/-- Where reading the groups of an IPv6 address stopped: the bytes so far, the byte position of
the `::` if one was read, and the text left. -/
structure GroupsRead where
  bytes : List Nat
  ellipsis : Option Nat
  rest : List UInt8

/-- Reads the groups of an IPv6 address while fewer than sixteen bytes are read; `fuel`, the
number of groups that still fit, bounds the loop. -/
def ipv6Groups (input : List UInt8) :
    Nat → List Nat → Option Nat → List UInt8 → Except AddressError GroupsRead
  | 0, bytes, ellipsis, s => .ok ⟨bytes, ellipsis, s⟩
  | fuel + 1, bytes, ellipsis, s =>
    let digits := s.takeWhile isHex
    if digits.length > 4 then
      .error { input, reason := "each group must have 4 or less digits", rest := s }
    else if digits.isEmpty then
      let reason := "each colon-separated field must have at least one digit"
      .error { input, reason, rest := s }
    else
      let after := s.drop digits.length
      if after.head? = some 0x2E then
        if ellipsis.isNone && bytes.length ≠ 12 then
          let reason := "embedded IPv4 address must replace the final 2 fields of the address"
          .error { input, reason, rest := s }
        else if bytes.length + 4 > 16 then
          let reason := "too many hex fields to fit an embedded IPv4 at the end of the address"
          .error { input, reason, rest := s }
        else do
          let quad ← ipv4Fields input s true false 0 0 []
          pure ⟨bytes ++ quad, ellipsis, []⟩
      else
        let v := hexDigitsValue digits
        let bytes := bytes ++ [v / 256, v % 256]
        match after with
        | [] => .ok ⟨bytes, ellipsis, []⟩
        | c :: more =>
          if c ≠ 0x3A then
            .error { input, reason := "unexpected character, want colon", rest := after }
          else if more.isEmpty then
            .error { input, reason := "colon must be followed by more characters", rest := after }
          else
            match more with
            | 0x3A :: tail =>
              if ellipsis.isSome then
                .error { input, reason := "multiple :: in address", rest := more }
              else if tail.isEmpty then .ok ⟨bytes, some bytes.length, []⟩
              else ipv6Groups input fuel bytes (some bytes.length) tail
            | _ => ipv6Groups input fuel bytes ellipsis more

/-- Reads an IPv6 address with its optional zone, which must be the whole text. -/
def parseIPv6 (input : List UInt8) : Except AddressError IpAddress := do
  let (s, zone) := match input.idxOf? 0x25 with
    | some i => (input.take i, some (input.drop (i + 1)))
    | none => (input, none)
  if zone = some [] then throw { input, reason := "zone must be a non-empty string" }
  let zone := zone.getD []
  let (ellipsis, s) := match s with
    | 0x3A :: 0x3A :: t => (some 0, t)
    | t => (none, t)
  if ellipsis.isSome && s.isEmpty then return .v6 (List.replicate 16 0) zone
  let r ← ipv6Groups input 8 [] ellipsis s
  if !r.rest.isEmpty then
    throw { input, reason := "trailing garbage after address", rest := r.rest }
  let n := r.bytes.length
  match r.ellipsis with
  | none =>
    if n < 16 then throw { input, reason := "address string too short" }
    pure (.v6 r.bytes zone)
  | some e =>
    if n ≥ 16 then
      throw { input, reason := "the :: must expand to at least one field of zeros" }
    pure (.v6 (r.bytes.take e ++ List.replicate (16 - n) 0 ++ r.bytes.drop e) zone)

/-- Reads an IP address: the first dot, colon or percent sign of the text says which kind. -/
def parseAddress (input : List UInt8) : Except AddressError IpAddress :=
  match input.find? (fun c => c = 0x2E || c = 0x3A || c = 0x25) with
  | some 0x2E => parseIPv4 input
  | some 0x3A => parseIPv6 input
  | some _ => .error { input, reason := "missing IPv6 address" }
  | none => .error { input, reason := "unable to parse IP" }

def groupsOf : List Nat → List Nat
  | a :: b :: rest => (a * 256 + b) :: groupsOf rest
  | _ => []

/-- The first of the longest runs of at least two zero groups: where it starts and how many
groups it has. -/
def longestZeros (gs : List Nat) : Option (Nat × Nat) :=
  (List.range gs.length).foldl (fun best i =>
    let l := ((gs.drop i).takeWhile (· = 0)).length
    if l ≥ 2 && l > (best.map (·.2)).getD 0 then some (i, l) else best) none

/-- IPv6 groups as text: lowercase hex without leading zeros, separated by colons, with the
longest run of zero groups (if two or more) written as `::`. -/
def groupsText (gs : List Nat) : String :=
  let hex (xs : List Nat) := ":".intercalate (xs.map (Hex.pad 1))
  match longestZeros gs with
  | none => hex gs
  | some (i, l) => hex (gs.take i) ++ "::" ++ hex (gs.drop (i + l))

/-- The text of an address: dotted decimal for IPv4 and for IPv6 that maps an IPv4 address,
else the groups of IPv6; a zone follows a percent sign. -/
def IpAddress.toText : IpAddress → String
  | .v4 bytes => ".".intercalate (bytes.map toString)
  | .v6 bytes zone =>
    let zoneText := if zone.isEmpty then "" else "%" ++ Utf8.toText zone
    if bytes.take 12 = List.replicate 10 0 ++ [255, 255] then
      ".".intercalate ((bytes.drop 12).map toString) ++ zoneText
    else groupsText (groupsOf bytes) ++ zoneText

def joinHostPort (host port : String) : String :=
  if host.contains ':' then "[" ++ host ++ "]:" ++ port else host ++ ":" ++ port

/-- Whether a text is a well-formed domain name: labels of letters, digits, `-` and `_`,
separated by dots, at most 63 bytes each and 253 in all (254 with a final dot), no label
starting or ending with `-` after a dot, and not made of digits and dots only. -/
def isDomainName (s : List UInt8) : Bool :=
  let n := s.length
  if s = [0x2E] then true
  else if n = 0 || n > 254 || (n = 254 && s.getLast? ≠ some 0x2E) then false
  else
    let step := fun (st : Option (UInt8 × Bool × Nat)) (c : UInt8) =>
      st.bind fun (last, nonNumeric, partLen) =>
        if (0x61 ≤ c && c ≤ 0x7A) || (0x41 ≤ c && c ≤ 0x5A) || c = 0x5F then
          some (c, true, partLen + 1)
        else if isDecimal c then some (c, nonNumeric, partLen + 1)
        else if c = 0x2D then
          if last = 0x2E then none else some (c, true, partLen + 1)
        else if c = 0x2E then
          if last = 0x2E || last = 0x2D || partLen > 63 || partLen = 0 then none
          else some (c, nonNumeric, 0)
        else none
    match s.foldl step (some (0x2E, false, 0)) with
    | some (last, nonNumeric, partLen) => last ≠ 0x2D && partLen ≤ 63 && nonNumeric
    | none => false

/-- Splits a network address `host:port` at its last colon. A host with a colon of its own must
be in brackets; the reasons for a malformed address are those a dialer gives. -/
def splitHostPort (hp : List UInt8) : Except String (List UInt8 × List UInt8) := do
  let some i := (hp.reverse.idxOf? 0x3A).map (hp.length - 1 - ·)
    | throw "missing port in address"
  let (host, j, k) ← match hp with
    | 0x5B :: _ =>
      match hp.idxOf? 0x5D with
      | none => throw "missing ']' in address"
      | some e =>
        if e + 1 = hp.length then throw "missing port in address"
        else if e + 1 = i then pure ((hp.take e).drop 1, 1, e + 1)
        else if hp[e + 1]? = some 0x3A then throw "too many colons in address"
        else throw "missing port in address"
    | _ =>
      let host := hp.take i
      if host.contains 0x3A then throw "too many colons in address"
      pure (host, 0, 0)
  if (hp.drop j).contains 0x5B then throw "unexpected '[' in address"
  if (hp.drop k).contains 0x5D then throw "unexpected ']' in address"
  pure (host, hp.drop (i + 1))

end LcdPanel.Url
