import Opslane.Lib.GoStrings
import Opslane.Lib.UrlHosts

/-!
# Page URLs

The pattern of a page: its path, with the opaque segments replaced. A segment is decoded once
before it is looked at, and what it is decoded to becomes part of the pattern, where it may read
as more than one segment, as the end of a path or as another escape.
-/

namespace Opslane.Priority

open GoStrings (byte splitByte)

def isHex (b : UInt8) : Bool := NetUrl.isHex b

def isNumeric (s : Bytes) : Bool := s ≠ [] && s.all GoStrings.isDigit

/-- `^[0-9a-fA-F]{8}-[0-9a-fA-F]{4}-…{4}-…{4}-…{12}$` -/
def isUuid (s : Bytes) : Bool :=
  let groups := splitByte (byte '-') s
  groups.map List.length = [8, 4, 4, 4, 12] && groups.all (·.all isHex)

def isBase64url (b : UInt8) : Bool :=
  GoStrings.isLetter b || GoStrings.isDigit b || b == byte '_' || b == byte '-'

/-- `^eyJ[A-Za-z0-9_-]+\.` -/
def isJwt (s : Bytes) : Bool :=
  match GoStrings.after (Bytes.ascii "eyJ") s with
  | none => false
  | some rest => rest.takeWhile isBase64url ≠ [] && (rest.dropWhile isBase64url).head? == some (byte '.')

def isLongHex (s : Bytes) : Bool := 16 ≤ s.length && s.all isHex

def isMixedByte (b : UInt8) : Bool :=
  GoStrings.isLetter b || GoStrings.isDigit b || b == byte '+' || b == byte '/' || b == byte '=' || b == byte '_'

/-- `mixedSeg`: a letter and a digit, in either order, and nothing outside the alphabet. -/
def isMixed (s : Bytes) : Bool := s.all isMixedByte && s.any GoStrings.isLetter && s.any GoStrings.isDigit

def isId (s : Bytes) : Bool := isNumeric s || isUuid s

def isToken (s : Bytes) : Bool :=
  isJwt s || isLongHex s
    || (16 ≤ s.length && byte '-' ∉ s && isMixed s)
    || (25 ≤ s.length && byte '-' ∉ s && byte '_' ∉ s)
    || (22 ≤ s.length && s ≠ [] && s.all isBase64url && (s.any GoStrings.isDigit || s.any GoStrings.isUpper))

/-- The segment, decoded where it can be. -/
def decoded (s : Bytes) : Bytes := (NetUrl.unescape .path s).getD s

/-- A segment that is replaced. -/
def isOpaque (s : Bytes) : Bool := isId (decoded s) || isToken (decoded s)

def templateSegment (s : Bytes) : Bytes :=
  if isId (decoded s) then Bytes.ascii ":id"
  else if isToken (decoded s) then Bytes.ascii ":token"
  else decoded s

def maxPatternBytes : Nat := 512

def boundPattern (pattern : Bytes) : Bytes :=
  if maxPatternBytes < pattern.length then Bytes.ascii "/too-long" else pattern

/-- `strings.Trim` of slashes. -/
def trimSlashes (s : Bytes) : Bytes :=
  ((s.dropWhile (· == byte '/')).reverse.dropWhile (· == byte '/')).reverse

/-- The path and the fragment of a URL or of a bare path; none where it is not parseable. -/
def pathAndFragment (raw : Bytes) : Option (Bytes × Bytes) :=
  if raw.head? = some (byte '/') then
    match NetUrl.cut (byte '#') raw with
    | (path, some fragment) => some (path, fragment)
    | (path, none) => some (path, [])
  else
    match NetUrl.parse raw with
    | none => none
    | some u => if u.host = [] then none else some (u.escapedPath, u.fragment)

/-- The path that names the page: the fragment of a hashbang page, up to a query. -/
def routePath (path fragment : Bytes) : Bytes :=
  (match fragment with
    | [] => path
    | b :: rest => if b = byte '!' then rest else path).takeWhile fun b => b ≠ byte '?' ∧ b ≠ byte '#'

/-- The segments that are part of the route. -/
def isRouteSegment (s : Bytes) : Bool := s ≠ [] && !(Bytes.ascii "_ctx_").isPrefixOf s

def routeSegments (path fragment : Bytes) : List Bytes :=
  (splitByte (byte '/') (trimSlashes (routePath path fragment))).filter isRouteSegment

def patternOf (segments : List Bytes) : Bytes :=
  byte '/' :: [byte '/'].intercalate (segments.map templateSegment)

def normalizePageURL (raw : Bytes) : Bytes :=
  if raw = [] then []
  else
    match pathAndFragment raw with
    | none => Bytes.ascii "/not-parseable"
    | some (path, fragment) => boundPattern (patternOf (routeSegments path fragment))

example : normalizePageURL (Bytes.ascii "https://app.example.com/#!/assets/42") = Bytes.ascii "/assets/:id" := by
  decide +kernel

end Opslane.Priority
