import HttpRetry.Http.IpAddress

/-!
URL references (RFC 3986): reading one into scheme, authority, path, query and fragment, percent
escapes decoded, and writing it back with every byte its part does not allow escaped. Parts are
bytes, since a decoded escape need not be UTF-8.
-/

namespace HttpRetry.Url

/-- The part of a URL a byte stands in; each allows a different set of bytes unescaped. -/
inductive Part where
  | path
  | pathSegment
  | host
  | zone
  | userPassword
  | queryComponent
  | fragment
  deriving DecidableEq

/-- An ASCII letter or digit. -/
def isAlnum (c : UInt8) : Bool :=
  (c ≥ 97 && c ≤ 122) || (c ≥ 65 && c ≤ 90) || (c ≥ 48 && c ≤ 57)

/-- The byte of an ASCII character. -/
def b (c : Char) : UInt8 := c.toNat.toUInt8

/-- Whether a byte must be escaped in a part. -/
def shouldEscape (c : UInt8) (part : Part) : Bool :=
  if isAlnum c then false
  else if (part == .host || part == .zone) && ("!$&'()*+,;=:[]<>\"".toList.map b).contains c then
    false
  else if ("-_.~".toList.map b).contains c then false
  else if ("$&+,/:;=?@".toList.map b).contains c then
    match part with
    | .path => c == b '?'
    | .pathSegment => c == b '/' || c == b ';' || c == b ',' || c == b '?'
    | .userPassword => c == b '@' || c == b '/' || c == b '?' || c == b ':'
    | .queryComponent => true
    | .fragment => false
    | _ => true
  else if part == .fragment && ("!()*".toList.map b).contains c then false
  else true

/-- The value of a hex digit byte. -/
def hexValue (c : UInt8) : Option Nat :=
  if c ≥ 48 && c ≤ 57 then some (c.toNat - 48)
  else if c ≥ 97 && c ≤ 102 then some (c.toNat - 87)
  else if c ≥ 65 && c ≤ 70 then some (c.toNat - 55)
  else none

/-- The UTF-8 bytes of a text. -/
def bytesOf (s : String) : List UInt8 := s.toUTF8.toList

/-- The text of bytes that are UTF-8 (and the empty text of any others). -/
def textOf (bs : List UInt8) : String := (String.fromUTF8? (ByteArray.mk bs.toArray)).getD ""


/-- Why a URL cannot be read. -/
inductive Problem where
  | badEscape (s : List UInt8)
  | badHostChar (s : List UInt8)
  | badAddress (e : AddressError)
  | other (message : String)

/-- The message of a problem. -/
def Problem.message : Problem → String
  | .badEscape s => "invalid URL escape " ++ Text.quoteBytes s
  | .badHostChar s => "invalid character " ++ Text.quoteBytes s ++ " in host name"
  | .badAddress e => "invalid host: " ++ e.message
  | .other m => m

/-- Checks that every escape of `s` is well formed and allowed in the part, and that a host
has no byte it would have to escape. -/
def checkEscapes (part : Part) : List UInt8 → Except Problem Unit
  | [] => .ok ()
  | c :: rest =>
    if c == b '%' then
      match rest with
      | h1 :: h2 :: rest' =>
        match hexValue h1, hexValue h2 with
        | some v1, some v2 =>
          let esc := [c, h1, h2]
          if part == .host && v1 < 8 && esc != bytesOf "%25" then .error (.badEscape esc)
          else if part == .zone && esc != bytesOf "%25" && v1 * 16 + v2 != 32 &&
              shouldEscape (v1 * 16 + v2).toUInt8 .host then .error (.badEscape esc)
          else checkEscapes part rest'
        | _, _ => .error (.badEscape (c :: (rest.take 2)))
      | _ => .error (.badEscape (c :: rest.take 2))
    else if (part == .host || part == .zone) && c < 0x80 && shouldEscape c part then
      .error (.badHostChar [c])
    else checkEscapes part rest

/-- Decodes the escapes of bytes whose escapes are well formed. -/
def decodeEscapes : List UInt8 → List UInt8
  | c :: h1 :: h2 :: rest =>
    if c == b '%' then
      match hexValue h1, hexValue h2 with
      | some v1, some v2 => (v1 * 16 + v2).toUInt8 :: decodeEscapes rest
      | _, _ => c :: decodeEscapes (h1 :: h2 :: rest)
    else c :: decodeEscapes (h1 :: h2 :: rest)
  | bs => bs

/-- Checks and decodes the escapes of a part. -/
def unescape (part : Part) (s : List UInt8) : Except Problem (List UInt8) := do
  checkEscapes part s
  return decodeEscapes s

/-- An uppercase hex digit. -/
def hexUpper (n : Nat) : UInt8 := ("0123456789ABCDEF".toList.getD n '0') |> b

/-- Escapes every byte that the part does not allow. -/
def escape (part : Part) (s : List UInt8) : List UInt8 :=
  s.flatMap fun c =>
    if shouldEscape c part then
      if c == b ' ' && part == .queryComponent then [b '+']
      else [b '%', hexUpper (c.toNat / 16), hexUpper (c.toNat % 16)]
    else [c]

/-- A valid escaping: every byte is allowed unescaped in the part, or is a sub-delimiter,
`:`, `@`, a bracket or a percent sign. -/
def validEncoded (part : Part) (s : List UInt8) : Bool :=
  s.all fun c => ("!$&'()*+,;=:@[]%".toList.map b).contains c || !shouldEscape c part

end Url

/-- User information: a name and, if one was given, a password. -/
structure UserInfo where
  name : List UInt8
  password : Option (List UInt8)

/-- A URL, in parts. -/
structure Url where
  scheme : List UInt8 := []
  rootless : List UInt8 := []
  user : Option UserInfo := none
  host : List UInt8 := []
  path : List UInt8 := []
  rawPath : List UInt8 := []
  omitHost : Bool := false
  forceQuery : Bool := false
  rawQuery : List UInt8 := []
  fragment : List UInt8 := []
  rawFragment : List UInt8 := []

namespace Url

/-- Splits at the first occurrence of a byte. -/
def cutAt (c : UInt8) (s : List UInt8) : List UInt8 × Option (List UInt8) :=
  match s.idxOf? c with
  | some i => (s.take i, some (s.drop (i + 1)))
  | none => (s, none)

/-- Splits at the last occurrence of a byte. -/
def cutAtLast (c : UInt8) (s : List UInt8) : Option (List UInt8 × List UInt8) :=
  match s.reverse.idxOf? c with
  | some j => some (s.take (s.length - 1 - j), s.drop (s.length - j))
  | none => none

/-- The scheme at the front of a reference, and the rest. -/
def splitScheme (s : List UInt8) : Except Problem (List UInt8 × List UInt8) :=
  let rec go : Nat → List UInt8 → Except Problem (List UInt8 × List UInt8)
    | _, [] => .ok ([], s)
    | i, c :: r =>
      if (c ≥ 97 && c ≤ 122) || (c ≥ 65 && c ≤ 90) then go (i + 1) r
      else if (c ≥ 48 && c ≤ 57) || c == b '+' || c == b '-' || c == b '.' then
        if i == 0 then .ok ([], s) else go (i + 1) r
      else if c == b ':' then
        if i == 0 then .error (.other "missing protocol scheme") else .ok (s.take i, r)
      else .ok ([], s)
  go 0 s

/-- A port after a host: empty, or a colon and digits. -/
def validOptionalPort : List UInt8 → Bool
  | [] => true
  | c :: r => c == b ':' && r.all fun d => d ≥ 48 && d ≤ 57

/-- Finds a sub-list. -/
def findInfix (pat s : List UInt8) : Option Nat :=
  (List.range (s.length + 1)).find? fun i => (s.drop i).take pat.length == pat

/-- Reads a host with an optional port. A `[` may only open the host, and then encloses an IPv6
address (an IPv4 address is refused there) with an optional zone after `%25`, the zone being
decoded with its own rules. -/
def parseHost (h : List UInt8) : Except Problem (List UInt8) := do
  match cutAtLast (b '[') h with
  | some (_ :: _, _) => throw (.other "invalid IP-literal")
  | some ([], afterOpen) =>
    match cutAtLast (b ']') afterOpen with
    | none => throw (.other "missing ']' in host")
    | some (hostname, colonPort) =>
      if !validOptionalPort colonPort then
        throw (.other ("invalid port " ++ Text.quote (textOf colonPort) ++ " after host"))
      let port ← unescape .host colonPort
      let address ← match findInfix (bytesOf "%25") hostname with
        | some z => do
          let front ← unescape .host (hostname.take z)
          let zone ← unescape .zone (hostname.drop z)
          pure (front ++ zone)
        | none => unescape .host hostname
      match IpAddress.parse address with
      | .error e => throw (.badAddress e)
      | .ok a =>
        if a.isV4 then throw (.other "invalid IP-literal")
        return b '[' :: address ++ b ']' :: port
  | none =>
    match cutAtLast (b ':') h with
    | some (_, port) =>
      let colonPort := b ':' :: port
      if !validOptionalPort colonPort then
        throw (.other ("invalid port " ++ Text.quote (textOf colonPort) ++ " after host"))
      unescape .host h
    | none => unescape .host h

/-- Characters allowed in user information. -/
def validUserInfo (s : List UInt8) : Bool :=
  s.all fun c => isAlnum c || ("-._:~!$&'()*+,;=%@".toList.map b).contains c

/-- Reads an authority: optional user information before the last `@`, then a host. -/
def parseAuthority (a : List UInt8) : Except Problem (Option UserInfo × List UInt8) := do
  match cutAtLast (b '@') a with
  | none => return (none, ← parseHost a)
  | some (info, hostPart) =>
    let host ← parseHost hostPart
    if !validUserInfo info then throw (.other "net/url: invalid userinfo")
    match cutAt (b ':') info with
    | (name, none) => return (some ⟨← unescape .userPassword name, none⟩, host)
    | (name, some pw) =>
      return (some ⟨← unescape .userPassword name, some (← unescape .userPassword pw)⟩, host)

/-- Reads a reference without its fragment. -/
def parseMain (raw : List UInt8) : Except Problem Url := do
  if raw.any fun c => c < 0x20 || c == 0x7F then
    throw (.other "net/url: invalid control character in URL")
  if raw == [b '*'] then return { path := [b '*'] }
  let (scheme, rest) ← splitScheme raw
  let scheme := scheme.map fun c => if c ≥ 65 && c ≤ 90 then c + 32 else c
  let (rest, forceQuery, rawQuery) :=
    if rest.getLast? == some (b '?') && rest.count (b '?') == 1 then (rest.dropLast, true, [])
    else match cutAt (b '?') rest with
      | (r, some q) => (r, false, q)
      | (r, none) => (r, false, [])
  let base : Url := { scheme, forceQuery, rawQuery }
  if rest.head? != some (b '/') then
    if !scheme.isEmpty then return { base with rootless := rest }
    if ((cutAt (b '/') rest).1).contains (b ':') then
      throw (.other "first path segment in URL cannot contain colon")
  let startsWith (p : String) := rest.take (bytesOf p).length == bytesOf p
  let (u, pathPart) ←
    if (!scheme.isEmpty || !startsWith "///") && startsWith "//" then do
      let auth := rest.drop 2
      let (authority, pathPart) := match auth.idxOf? (b '/') with
        | some i => (auth.take i, auth.drop i)
        | none => (auth, [])
      let (user, host) ← parseAuthority authority
      pure ({ base with user, host }, pathPart)
    else if !scheme.isEmpty && startsWith "/" then pure ({ base with omitHost := true }, rest)
    else pure (base, rest)
  let path ← unescape .path pathPart
  return { u with path, rawPath := if escape .path path == pathPart then [] else pathPart }

/-- Reads a reference; a failure gives the reference it was reading and the problem. -/
def parse (s : String) : Except (String × String) Url :=
  let raw := bytesOf s
  let (main, frag) := cutAt (b '#') raw
  match parseMain main with
  | .error p => .error (textOf main, p.message)
  | .ok u =>
    match frag with
    | none | some [] => .ok u
    | some f =>
      match unescape .fragment f with
      | .error p => .error (s, p.message)
      | .ok fr => .ok { u with fragment := fr, rawFragment := if escape .fragment fr == f then [] else f }

/-- The path as written: the raw writing if it is a valid escaping of the path, else the
path escaped. -/
def escapedPath (u : Url) : List UInt8 :=
  if !u.rawPath.isEmpty && validEncoded .path u.rawPath &&
      (unescape .path u.rawPath).toOption == some u.path then u.rawPath
  else if u.path == [b '*'] then u.path
  else escape .path u.path

/-- The fragment as written, by the same rule as the path. -/
def escapedFragment (u : Url) : List UInt8 :=
  if !u.rawFragment.isEmpty && validEncoded .fragment u.rawFragment &&
      (unescape .fragment u.rawFragment).toOption == some u.fragment then u.rawFragment
  else escape .fragment u.fragment

/-- The host without an empty port (a trailing colon after the address). -/
def dropEmptyPort (u : Url) : Url :=
  let lastColon := u.host.reverse.idxOf? (b ':')
  let lastBracket := u.host.reverse.idxOf? (b ']')
  let hasPort := match lastColon, lastBracket with
    | some c, some k => c < k
    | some _, none => true
    | none, _ => false
  if hasPort && u.host.getLast? == some (b ':') then { u with host := u.host.dropLast } else u

/-- The URL written out. -/
def render (u : Url) : String :=
  let pre := if u.scheme.isEmpty then [] else u.scheme ++ [b ':']
  let body :=
    if !u.rootless.isEmpty then u.rootless
    else
      let auth :=
        if !u.scheme.isEmpty || !u.host.isEmpty || u.user.isSome then
          if u.omitHost && u.host.isEmpty && u.user.isNone then []
          else
            let slashes := if !u.host.isEmpty || !u.path.isEmpty || u.user.isSome then
              bytesOf "//" else []
            let userPart := match u.user with
              | some ui => escape .userPassword ui.name ++
                  (match ui.password with
                   | some p => b ':' :: escape .userPassword p
                   | none => []) ++ [b '@']
              | none => []
            slashes ++ userPart ++ escape .host u.host
        else []
      let path := u.escapedPath
      let sep := if !path.isEmpty && path.head? != some (b '/') && !u.host.isEmpty then [b '/'] else []
      let dot := if pre.isEmpty && auth.isEmpty && sep.isEmpty &&
          ((cutAt (b '/') path).1).contains (b ':') then bytesOf "./" else []
      auth ++ sep ++ dot ++ path
  let query := if u.forceQuery || !u.rawQuery.isEmpty then b '?' :: u.rawQuery else []
  let frag := if u.fragment.isEmpty then [] else b '#' :: u.escapedFragment
  textOf (pre ++ body ++ query ++ frag)

end HttpRetry.Url
