import Opslane.Lib.Bytes

/-!
# URLs

Parsing and printing of URLs in the manner of the server's runtime: the generic syntax, with
percent escapes decoded into the parts and the original path kept where printing the decoded
one would not give it back.
-/

namespace NetUrl

/-- Which part of a URL a text belongs to. -/
inductive Encoding where
  | path | userPassword | host | zone | fragment
  deriving DecidableEq

def char (c : Char) : UInt8 := c.toNat.toUInt8

def isLetter (b : UInt8) : Bool :=
  (char 'a' ≤ b && b ≤ char 'z') || (char 'A' ≤ b && b ≤ char 'Z')

def isDigit (b : UInt8) : Bool := char '0' ≤ b && b ≤ char '9'

def isHex (b : UInt8) : Bool :=
  isDigit b || (char 'a' ≤ b && b ≤ char 'f') || (char 'A' ≤ b && b ≤ char 'F')

def unhex (b : UInt8) : UInt8 :=
  if isDigit b then b - char '0'
  else if char 'a' ≤ b && b ≤ char 'f' then b - char 'a' + 10
  else b - char 'A' + 10

def toLower (b : UInt8) : UInt8 := if char 'A' ≤ b && b ≤ char 'Z' then b + 0x20 else b

def shouldEscape (b : UInt8) (mode : Encoding) : Bool :=
  if isLetter b || isDigit b then false
  else if (mode = .host ∨ mode = .zone) ∧ b ∈ Bytes.ascii "!$&'()*+,;=:[]<>\"" then false
  else if b ∈ Bytes.ascii "-_.~" then false
  else if b ∈ Bytes.ascii "$&+,/:;=?@" ∧ mode ≠ .host ∧ mode ≠ .zone then
    match mode with
    | .path => b == char '?'
    | .userPassword => b ∈ Bytes.ascii "@/?:"
    | _ => false
  else if mode = .fragment ∧ b ∈ Bytes.ascii "!()*" then false
  else true

/-- What the two digits behind a percent sign may spell in a part. -/
def allowsEscape (mode : Encoding) (high low : UInt8) : Bool :=
  let isPercent := high == char '2' && low == char '5'
  match mode with
  | .host => 8 ≤ unhex high || isPercent
  | .zone =>
    let value := unhex high * 16 + unhex low
    isPercent || value == char ' ' || !shouldEscape value .host
  | _ => true

def unescape (mode : Encoding) : Bytes → Option Bytes
  | [] => some []
  | b :: rest =>
    if b = char '%' then
      match rest with
      | high :: low :: rest =>
        if isHex high && isHex low && allowsEscape mode high low then
          (unescape mode rest).map ((unhex high * 16 + unhex low) :: ·)
        else none
      | _ => none
    else if (mode = .host ∨ mode = .zone) ∧ b < 0x80 ∧ shouldEscape b mode then none
    else (unescape mode rest).map (b :: ·)

def upperHex (b : UInt8) : UInt8 := if b < 10 then b + char '0' else b - 10 + char 'A'

def escape (mode : Encoding) (s : Bytes) : Bytes :=
  s.flatMap fun b =>
    if shouldEscape b mode then [char '%', upperHex (b / 16), upperHex (b % 16)] else [b]

def validEncoded (mode : Encoding) (s : Bytes) : Bool :=
  s.all fun b => b ∈ Bytes.ascii "!$&'()*+,;=:@[]%" || !shouldEscape b mode

/-- What stands before and behind the first `separator`. -/
def cut (separator : UInt8) (s : Bytes) : Bytes × Option Bytes :=
  match s.span (· != separator) with
  | (front, []) => (front, none)
  | (front, _ :: back) => (front, some back)

/-- What stands before and behind the last `separator`. -/
def cutLast (separator : UInt8) (s : Bytes) : Option (Bytes × Bytes) :=
  match cut separator s.reverse with
  | (_, none) => none
  | (back, some front) => some (front.reverse, back.reverse)

/-- The digits of one group, and the rest. -/
def hexGroup (s : Bytes) : Option Bytes :=
  let digits := s.takeWhile isHex
  if digits.length = 0 ∨ 4 < digits.length then none else some (s.dropWhile isHex)

def decimalOctet (s : Bytes) : Bool :=
  match s with
  | [] => false
  | first :: rest =>
    (first :: rest).all isDigit && (first != char '0' || rest.isEmpty)
      && (first :: rest).length ≤ 3
      && (first :: rest).foldl (fun n b => n * 10 + (b - char '0').toNat) 0 ≤ 255

def isIPv4 (s : Bytes) : Bool :=
  let parts := s.splitOn (char '.')
  parts.length = 4 && parts.all decimalOctet

/-- The groups behind a colon: `count` were read, and `ellipsis` says whether `::` was one
of the separators. -/
def ipv6Groups : Nat → Nat → Bool → Bytes → Bool
  | 0, _, _, _ => false
  | fuel + 1, count, ellipsis, s =>
    if 8 ≤ count then false
    else if isIPv4 s then count + 2 = 8 || (ellipsis && count + 2 < 8)
    else
      match hexGroup s with
      | none => false
      | some [] => count + 1 = 8 || (ellipsis && count + 1 < 8)
      | some (b :: rest) =>
        if b ≠ char ':' then false
        else
          match rest with
          | [] => false
          | c :: rest' =>
            if c = char ':' then
              if ellipsis then false
              else if rest'.isEmpty then count + 1 < 8
              else ipv6Groups fuel (count + 1) true rest'
            else ipv6Groups fuel (count + 1) ellipsis rest

/-- An IPv6 address, with its zone. -/
def isIPv6 (s : Bytes) : Bool :=
  let (address, zone) := cut (char '%') s
  zone ≠ some [] &&
    if address.take 2 = Bytes.ascii "::" then
      (address.drop 2).isEmpty || ipv6Groups address.length 0 true (address.drop 2)
    else ipv6Groups address.length 0 false address

structure Userinfo where
  username : Bytes
  password : Option Bytes
  deriving DecidableEq

structure Url where
  scheme : Bytes := []
  opaquePart : Bytes := []
  user : Option Userinfo := none
  host : Bytes := []
  path : Bytes := []
  rawPath : Bytes := []
  omitHost : Bool := false
  forceQuery : Bool := false
  rawQuery : Bytes := []
  fragment : Bytes := []
  rawFragment : Bytes := []
  deriving DecidableEq

def isSchemeByte (b : UInt8) : Bool := isLetter b || isDigit b || b ∈ Bytes.ascii "+-."

/-- `none`: a colon with no scheme before it. -/
def getScheme (s : Bytes) : Option (Bytes × Bytes) :=
  match s.span isSchemeByte with
  | (_, []) => some ([], s)
  | (front, b :: back) =>
    match front with
    | [] => if b = char ':' then none else some ([], s)
    | first :: _ => if b = char ':' && isLetter first then some (front, back) else some ([], s)

def validOptionalPort (port : Bytes) : Bool :=
  match port with
  | [] => true
  | b :: rest => b == char ':' && rest.all isDigit

/-- `%25` starts a zone, whose escapes spell what may stand in a host. -/
def splitZone : Bytes → Bytes × Bytes
  | [] => ([], [])
  | b :: rest =>
    if (Bytes.ascii "%25").isPrefixOf (b :: rest) then ([], b :: rest)
    else
      let (address, zone) := splitZone rest
      (b :: address, zone)

/-- An address in brackets with an optional port behind them. -/
def parseBracketedHost (inside : Bytes) : Option Bytes := do
  let (name, port) ← cutLast (char ']') inside
  if !validOptionalPort port then none
  else
    let port ← unescape .host port
    let (address, zone) := splitZone name
    let address ← unescape .host address
    let zone ← unescape .zone zone
    if isIPv6 (address ++ zone) then some (char '[' :: (address ++ zone) ++ char ']' :: port)
    else none

def parseHost (host : Bytes) : Option Bytes :=
  match cutLast (char '[') host with
  | some ([], inside) => parseBracketedHost inside
  | some (_ :: _, _) => none
  | none =>
    match cutLast (char ':') host with
    | some (_, port) => if port.all isDigit then unescape .host host else none
    | none => unescape .host host

def validUserinfo (s : Bytes) : Bool :=
  s.all fun b => isLetter b || isDigit b || b ∈ Bytes.ascii "-._:~!$&'()*+,;=%@"

def parseUserinfo (s : Bytes) : Option Userinfo :=
  if !validUserinfo s then none
  else
    match cut (char ':') s with
    | (username, none) => do
      let username ← unescape .userPassword username
      return { username, password := none }
    | (username, some password) => do
      let username ← unescape .userPassword username
      let password ← unescape .userPassword password
      return { username, password := some password }

def parseAuthority (authority : Bytes) : Option (Option Userinfo × Bytes) :=
  match cutLast (char '@') authority with
  | none => do
    let host ← parseHost authority
    return (none, host)
  | some (userinfo, host) => do
    let host ← parseHost host
    let user ← parseUserinfo userinfo
    return (some user, host)

def Url.setPath (u : Url) (p : Bytes) : Option Url := do
  let path ← unescape .path p
  return { u with path, rawPath := if escape .path path = p then [] else p }

def Url.setFragment (u : Url) (f : Bytes) : Option Url := do
  let fragment ← unescape .fragment f
  return { u with fragment, rawFragment := if escape .fragment fragment = f then [] else f }

/-- A query mark at the very end, and no other, is kept as an empty query. -/
def splitQuery (rest : Bytes) : Bytes × Bytes × Bool :=
  if rest.getLast? = some (char '?') ∧ rest.count (char '?') = 1 then (rest.dropLast, [], true)
  else
    let (front, query) := cut (char '?') rest
    (front, query.getD [], false)

def startsWith (s : Bytes) (literal : String) : Bool := (Bytes.ascii literal).isPrefixOf s

/-- The authority and what follows it, for a text behind `//`. -/
def splitAuthority (s : Bytes) : Bytes × Bytes := s.span (· != char '/')

def parseBeforeFragment (raw : Bytes) : Option Url :=
  if raw.any Bytes.isControl then none
  else if raw = [char '*'] then some { path := raw }
  else do
    let (scheme, rest) ← getScheme raw
    let scheme := scheme.map toLower
    let (rest, rawQuery, forceQuery) := splitQuery rest
    let u : Url := { scheme, rawQuery, forceQuery }
    if !startsWith rest "/" && scheme != [] then some { u with opaquePart := rest }
    else if !startsWith rest "/" && (cut (char '/') rest).1.contains (char ':') then none
    else if (scheme != [] || !startsWith rest "///") && startsWith rest "//" then do
      let (authority, rest) := splitAuthority (rest.drop 2)
      let (user, host) ← parseAuthority authority
      Url.setPath { u with user, host } rest
    else Url.setPath { u with omitHost := scheme != [] && startsWith rest "/" } rest

def parse (raw : Bytes) : Option Url := do
  let (front, fragment) := cut (char '#') raw
  let u ← parseBeforeFragment front
  match fragment with
  | none | some [] => return u
  | some f => u.setFragment f

def Url.escapedPath (u : Url) : Bytes :=
  if u.rawPath ≠ [] ∧ validEncoded .path u.rawPath ∧ unescape .path u.rawPath = some u.path then
    u.rawPath
  else if u.path = [char '*'] then [char '*']
  else escape .path u.path

def Url.escapedFragment (u : Url) : Bytes :=
  if u.rawFragment ≠ [] ∧ validEncoded .fragment u.rawFragment
      ∧ unescape .fragment u.rawFragment = some u.fragment then
    u.rawFragment
  else escape .fragment u.fragment

def Userinfo.text (user : Userinfo) : Bytes :=
  escape .userPassword user.username
    ++ match user.password with
      | none => []
      | some password => char ':' :: escape .userPassword password

def Url.authorityText (u : Url) : Bytes :=
  if u.scheme = [] ∧ u.host = [] ∧ u.user = none then []
  else if u.omitHost ∧ u.host = [] ∧ u.user = none then []
  else
    (if u.host ≠ [] ∨ u.path ≠ [] ∨ u.user ≠ none then Bytes.ascii "//" else [])
      ++ (match u.user with | none => [] | some user => user.text ++ [char '@'])
      ++ escape .host u.host

def Url.hierarchicalText (u : Url) : Bytes :=
  let front := (if u.scheme = [] then [] else u.scheme ++ [char ':']) ++ u.authorityText
  let path := u.escapedPath
  if u.omitHost ∧ u.host = [] ∧ u.user = none ∧ startsWith path "//" then
    front ++ Bytes.ascii "%2F" ++ path.drop 1
  else
    front
      ++ (if path ≠ [] ∧ !startsWith path "/" ∧ u.host ≠ [] then [char '/'] else [])
      ++ (if front = [] ∧ (cut (char '/') path).1.contains (char ':') then Bytes.ascii "./" else [])
      ++ path

def Url.text (u : Url) : Bytes :=
  (if u.opaquePart ≠ [] then
      (if u.scheme = [] then [] else u.scheme ++ [char ':']) ++ u.opaquePart
    else u.hierarchicalText)
    ++ (if u.forceQuery ∨ u.rawQuery ≠ [] then char '?' :: u.rawQuery else [])
    ++ (if u.fragment ≠ [] then char '#' :: u.escapedFragment else [])

def takePort (hostPort : Bytes) : Bytes × Bytes :=
  match cutLast (char ':') hostPort with
  | some (host, port) => if port.all isDigit then (host, port) else (hostPort, [])
  | none => (hostPort, [])

/-- An optional port is taken off, and brackets around what is left. -/
def splitHostPort (hostPort : Bytes) : Bytes × Bytes :=
  let (host, port) := takePort hostPort
  if host.head? = some (char '[') ∧ host.getLast? = some (char ']') then (host.tail.dropLast, port)
  else (host, port)

def Url.hostname (u : Url) : Bytes := (splitHostPort u.host).1

def Url.port (u : Url) : Bytes := (splitHostPort u.host).2

end NetUrl
