import LcdPanel.Url.Address
import LcdPanel.Url.Escape

namespace LcdPanel.Url

open LcdPanel

/-- The user name and, when given after a colon, the password of a URL. -/
structure UserInfo where
  username : List UInt8
  password : Option (List UInt8)
  deriving DecidableEq, Repr

/-- A URL read into its parts: the scheme in lowercase, and the query with its escapes not yet read. -/
structure Reference where
  scheme : List UInt8 := []
  rootless : List UInt8 := []
  user : Option UserInfo := none
  host : List UInt8 := []
  path : List UInt8 := []
  rawQuery : List UInt8 := []
  fragment : List UInt8 := []
  deriving DecidableEq, Repr

/-- Why a URL cannot be read. -/
inductive UrlFault
  | controlByte
  | missingScheme
  | colonInFirstSegment
  | missingBracket
  | badPort (port : List UInt8)
  | escape (e : EscapeFault)
  | badUserInfo
  | ipLiteral
  | badHost (e : AddressError)
  deriving DecidableEq, Repr

def UrlFault.message : UrlFault → String
  | .controlByte => "net/url: invalid control character in URL"
  | .missingScheme => "missing protocol scheme"
  | .colonInFirstSegment => "first path segment in URL cannot contain colon"
  | .missingBracket => "missing ']' in host"
  | .badPort port => "invalid port " ++ Text.quote port ++ " after host"
  | .escape e => e.message
  | .badUserInfo => "net/url: invalid userinfo"
  | .ipLiteral => "invalid IP-literal"
  | .badHost e => "invalid host: " ++ e.message

/-- A URL that cannot be read, with the fault. -/
structure UrlError where
  url : List UInt8
  fault : UrlFault
  deriving DecidableEq, Repr

def UrlError.message (e : UrlError) : String :=
  "parse " ++ Text.quote e.url ++ ": " ++ e.fault.message

/-- The bytes before the first occurrence of a byte, and the bytes after it when it occurs. -/
def cut (sep : UInt8) (bs : List UInt8) : List UInt8 × Option (List UInt8) :=
  match bs.idxOf? sep with
  | some i => (bs.take i, some (bs.drop (i + 1)))
  | none => (bs, none)

def lastIndex? (sep : UInt8) (bs : List UInt8) : Option Nat :=
  (bs.reverse.idxOf? sep).map fun i => bs.length - 1 - i

def isLetter (b : UInt8) : Bool :=
  (0x61 ≤ b && b ≤ 0x7A) || (0x41 ≤ b && b ≤ 0x5A)

/-- The scheme and the rest: a scheme is a letter followed by letters, digits, `+`, `-` and
`.`, ended by a colon; a colon first is an error, and any other start means no scheme. -/
def splitScheme (bs : List UInt8) : Except UrlFault (List UInt8 × List UInt8) :=
  let lead := bs.takeWhile fun b => isLetter b || (0x30 ≤ b && b ≤ 0x39) || b = 0x2B ||
    b = 0x2D || b = 0x2E
  match bs.drop lead.length with
  | 0x3A :: rest =>
    match lead with
    | [] => .error .missingScheme
    | c :: _ => if isLetter c then .ok (lead, rest) else .ok ([], bs)
  | _ => .ok ([], bs)

def lowerAscii (bs : List UInt8) : List UInt8 :=
  bs.map fun b => if 0x41 ≤ b && b ≤ 0x5A then b + 0x20 else b

def validPort : List UInt8 → Bool
  | [] => true
  | 0x3A :: ds => ds.all fun d => 0x30 ≤ d && d ≤ 0x39
  | _ => false

def zoneStart? (bs : List UInt8) : Option Nat :=
  (List.range bs.length).find? fun i => (bs.drop i).take 3 = [0x25, 0x32, 0x35]

/-- Reads a host with its optional port. An address in brackets must start the host and be an
IPv6 address once its escapes are read; its zone, after `%25`, may escape any byte. Outside
brackets the last colon starts the port. -/
def parseHost (h : List UInt8) : Except UrlFault (List UInt8) :=
  let readHost (bs : List UInt8) := (unescape .host bs).mapError UrlFault.escape
  match lastIndex? 0x5B h with
  | some o =>
    if o > 0 then .error .ipLiteral
    else
      match lastIndex? 0x5D h with
      | none => .error .missingBracket
      | some c =>
        let port := h.drop (c + 1)
        if !validPort port then .error (.badPort port)
        else do
          let port ← readHost port
          let inside := (h.take c).drop 1
          let name ← match zoneStart? inside with
            | some z => do
              let address ← readHost (inside.take z)
              let zone ← (unescape .zone (inside.drop z)).mapError UrlFault.escape
              pure (address ++ zone)
            | none => readHost inside
          match parseAddress name with
          | .error e => throw (.badHost e)
          | .ok a => if a.isV4 then throw .ipLiteral else pure ([0x5B] ++ name ++ [0x5D] ++ port)
  | none =>
    match lastIndex? 0x3A h with
    | some i =>
      let port := h.drop i
      if validPort port then readHost h else .error (.badPort port)
    | none => readHost h

def validUserInfo (bs : List UInt8) : Bool :=
  bs.all fun b => isAlnum b || "-._:~!$&'()*+,;=%@".toList.contains (Char.ofNat b.toNat)

/-- Reads an authority: user information before the last `@`, then the host. -/
def parseAuthority (a : List UInt8) : Except UrlFault (Option UserInfo × List UInt8) := do
  match lastIndex? 0x40 a with
  | none => pure (none, ← parseHost a)
  | some i =>
    let host ← parseHost (a.drop (i + 1))
    let info := a.take i
    if !validUserInfo info then throw .badUserInfo
    let readUser (bs : List UInt8) := (unescape .userInfo bs).mapError UrlFault.escape
    match cut 0x3A info with
    | (name, none) => pure (some ⟨← readUser name, none⟩, host)
    | (name, some pass) => pure (some ⟨← readUser name, some (← readUser pass)⟩, host)

/-- Reads a URL without its fragment. -/
def parseRest (raw : List UInt8) : Except UrlFault Reference := do
  if raw.any fun b => b < 0x20 || b = 0x7F then throw .controlByte
  if raw = [0x2A] then return { path := raw }
  let (scheme, rest) ← splitScheme raw
  let scheme := lowerAscii scheme
  let (rest, rawQuery) :=
    if rest.getLast? = some 0x3F && rest.count 0x3F = 1 then (rest.dropLast, [])
    else match cut 0x3F rest with
      | (r, q) => (r, q.getD [])
  if rest.head? ≠ some 0x2F then
    if !scheme.isEmpty then return { scheme, rootless := rest, rawQuery }
    if (cut 0x2F rest).1.contains 0x3A then throw .colonInFirstSegment
  -- without a scheme, three slashes start a path rather than an empty authority
  let (user, host, rest) ← match rest with
    | 0x2F :: 0x2F :: auth =>
      if scheme.isEmpty && auth.head? = some 0x2F then pure (none, [], rest)
      else
        let (authority, path) := match auth.idxOf? 0x2F with
          | some i => (auth.take i, auth.drop i)
          | none => (auth, [])
        let (user, host) ← parseAuthority authority
        pure (user, host, path)
    | _ => pure (none, [], rest)
  let path ← (unescape .path rest).mapError UrlFault.escape
  pure { scheme, user, host, path, rawQuery }

/-- Reads a URL. -/
def parse (raw : List UInt8) : Except UrlError Reference :=
  let (front, frag) := cut 0x23 raw
  match parseRest front with
  | .error f => .error ⟨front, f⟩
  | .ok u =>
    match frag with
    | none => .ok u
    | some f =>
      match unescape .fragment f with
      | .ok fragment => .ok { u with fragment }
      | .error e => .error ⟨raw, .escape e⟩

/-- The pairs of a query in order: cut at `&`, each cut at its first `=`, both sides read with
their escapes; a pair holding `;`, an empty pair and a pair that cannot be read are left out. -/
def queryPairs (q : List UInt8) : List (List UInt8 × List UInt8) :=
  (q.splitOn 0x26).filterMap fun pair =>
    if pair.contains 0x3B || pair.isEmpty then none
    else
      let (k, v) := cut 0x3D pair
      match unescape .query k, unescape .query (v.getD []) with
      | .ok key, .ok value => some (key, value)
      | _, _ => none

def Reference.queryValue (u : Reference) (key : List UInt8) : List UInt8 :=
  ((queryPairs u.rawQuery).find? (·.1 = key)).map (·.2) |>.getD []

/-- The text of a URL that has only a scheme and a host: the scheme and a colon, then, when
there is a host, two slashes and the host with its escapes written. -/
def serverText (scheme host : List UInt8) : List UInt8 :=
  (if scheme.isEmpty then [] else scheme ++ [0x3A]) ++
    (if host.isEmpty then [] else [0x2F, 0x2F] ++ escapeHost host)

end LcdPanel.Url
