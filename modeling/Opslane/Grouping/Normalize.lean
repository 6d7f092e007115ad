import Opslane.Lib.GoStrings

/-!
# Templates of messages and lines

What varies from one deploy to the next, or from one event to the next, is taken out of a text before
it is grouped by. A pattern takes its match off the front of a text; `strings.ToLower` is a parameter,
since no result depends on it.
-/

namespace Opslane.Grouping

open GoStrings Scan

/-- `[A-Za-z0-9_]` -/
def isWord (b : UInt8) : Bool := isLetter b || isDigit b || b == byte '_'

def isHex (b : UInt8) : Bool :=
  isDigit b || (byte 'a' ≤ b && b ≤ byte 'f') || (byte 'A' ≤ b && b ≤ byte 'F')

def isLowerHex (b : UInt8) : Bool := isDigit b || (byte 'a' ≤ b && b ≤ byte 'f')

/-- A class at least once, as often as it stands there. -/
def oneOrMore (p : UInt8 → Bool) (text : Bytes) : Option (Bytes × Bytes) :=
  match text.span p with
  | ([], _) => none
  | (run, rest) => some (run, rest)

def assetExtensions : List Bytes := ["js", "mjs", "cjs", "css", "map"].map Bytes.ascii

/-- `[-.]([A-Za-z0-9_]+)\.(js|mjs|cjs|css|map)` at the front: the suffix, the extension and the rest. -/
def assetSuffix (text : Bytes) : Option (Bytes × Bytes × Bytes) :=
  match text with
  | [] => none
  | separator :: text =>
    if separator = byte '-' ∨ separator = byte '.' then do
      let (suffix, text) ← oneOrMore isWord text
      let text ← after [byte '.'] text
      let extension ← assetExtensions.find? (·.isPrefixOf text)
      return (suffix, extension, text.drop extension.length)
    else none

/-- `(\?[^\s:'")]*)?` -/
def afterAssetQuery (text : Bytes) : Bytes :=
  match after [byte '?'] text with
  | some rest => rest.dropWhile fun b => !(isBlank b || b ∈ Bytes.ascii ":'\")")
  | none => text

/-- `(:\d+:\d+)?` -/
def afterPosition (text : Bytes) : Bytes :=
  let position := do
    let (_, text) ← (after [byte ':'] text).bind (oneOrMore isDigit)
    let (_, text) ← (after [byte ':'] text).bind (oneOrMore isDigit)
    return text
  position.getD text

structure AssetToken where
  name : Bytes
  suffix : Bytes
  extension : Bytes
  rest : Bytes

/-- `reAssetToken` at the front; the name is as long as it can be. -/
def assetToken (text : Bytes) : Option AssetToken :=
  let run := text.takeWhile fun b => isWord b || b == byte '.'
  ((List.range run.length).reverse.map (· + 1)).findSome? fun length => do
    let (suffix, extension, rest) ← assetSuffix (text.drop length)
    return ⟨text.take length, suffix, extension, afterPosition (afterAssetQuery rest)⟩

/-- Rejects short or letter-only suffixes used in ordinary names. -/
def looksLikeHash (s : Bytes) : Bool := 8 ≤ s.length && s.any isDigit

/-- An asset that a hash is cut out of, and any other as it stands. -/
def assetTemplate : Pattern UInt8 := fun text => do
  let token ← assetToken text
  let template := token.name ++ Bytes.ascii "-<HASH>." ++ token.extension
  let standing := text.take (text.length - token.rest.length)
  return (if looksLikeHash token.suffix then template else standing, token.rest)

/-- The suffixes of all assets of a text; their number is fuel enough. -/
def assetSuffixes : Nat → Bytes → List Bytes
  | 0, _ => []
  | _ + 1, [] => []
  | fuel + 1, b :: rest =>
    match assetToken (b :: rest) with
    | some token => token.suffix :: assetSuffixes fuel token.rest
    | none => assetSuffixes fuel rest

/-- `https?://[^/\s]+` -/
def origin : Pattern UInt8 := fun text => do
  let text ← after (Bytes.ascii "http") text
  let text := (after [byte 's'] text).getD text
  let text ← after (Bytes.ascii "://") text
  let (_, rest) ← oneOrMore (fun b => !(isBlank b || b == byte '/')) text
  return ([], rest)

def normalizeVolatile (s : Bytes) : Bytes := replaceAll assetTemplate (replaceAll origin s)

example : normalizeVolatile (Bytes.ascii "at f (https://a.com/index-4f3a9c01.js:1:2)") =
    Bytes.ascii "at f (/index-<HASH>.js)" := by decide +kernel

def hexNumber : Pattern UInt8 := fun text => do
  let text ← after (Bytes.ascii "0x") text
  let (_, rest) ← oneOrMore isHex text
  return (Bytes.ascii "0xN", rest)

/-- So many digits of a UUID. -/
def hexDigits (n : Nat) (text : Bytes) : Option Bytes :=
  if (text.take n).length = n ∧ (text.take n).all isLowerHex then some (text.drop n) else none

def uuid : Pattern UInt8 := fun text => do
  let text ← (hexDigits 8 text).bind (after [byte '-'])
  let text ← (hexDigits 4 text).bind (after [byte '-'])
  let text ← (hexDigits 4 text).bind (after [byte '-'])
  let text ← (hexDigits 4 text).bind (after [byte '-'])
  let rest ← hexDigits 12 text
  return (Bytes.ascii "<UUID>", rest)

def pathNumber : Pattern UInt8 := fun text => do
  let text ← after [byte '/'] text
  let (_, rest) ← oneOrMore isDigit text
  return (Bytes.ascii "/N", rest)

def quoted : Pattern UInt8 := fun text => do
  let text ← after [byte '"'] text
  let rest ← after [byte '"'] (text.dropWhile (· ≠ byte '"'))
  return (Bytes.ascii "\"...\"", rest)

def blanks : Pattern UInt8 := fun text => do
  let (_, rest) ← oneOrMore isBlank text
  return ([byte ' '], rest)

/-- `\b\d+\b`, behind a byte of a word or not; a number that is passed over is written. -/
def replaceNumbers : Bool → Nat → Bytes → Bytes
  | _, 0, text => text
  | _, _ + 1, [] => []
  | inWord, fuel + 1, b :: rest =>
    let (digits, after_) := (b :: rest).span isDigit
    if !inWord && isDigit b && !(after_.head?.any isWord) then
      byte 'N' :: replaceNumbers (digits.getLast?.any isWord) fuel after_
    else b :: replaceNumbers (isWord b) fuel rest

/-- Strips deploy-varying URLs and asset hashes along with the existing variable values. -/
def normalizeMessage (toLower : Bytes → Bytes) (msg : Bytes) : Bytes :=
  let result := normalizeVolatile msg
  let result := replaceAll hexNumber result
  let result := replaceAll uuid result
  let result := replaceAll pathNumber result
  let result := replaceNumbers false result.length result
  let result := replaceAll quoted result
  let result := replaceAll blanks result
  toLower (trimSpace result)

example : normalizeMessage (·.map lower) (Bytes.ascii "Order 42 of /user/7 failed: \"x\"") =
    Bytes.ascii "order n of /user/n failed: \"...\"" := by decide +kernel

end Opslane.Grouping
