import Opslane.Lib.Bytes
import Opslane.Lib.Distinct

/-!
# Debug images of a stack

The images the SDK sends with an error: for each line of the stack, the registered file it
names innermost, with the debug ids registered for it. A file with several ids is ambiguous
and left out, and the list is cut to a number of images and to a number of bytes.
-/

namespace Opslane.Sdk.DebugImages

open CodeUnits

def maxImages : Nat := 64
def maxDebugMetaBytes : Nat := 16 * 1024
def syntheticStackMarker : CodeUnits := codeUnits "--- synthetic caller stack ---"

structure DebugImage where
  codeFile : CodeUnits
  debugId : CodeUnits
  deriving DecidableEq

/-- The registry: the ids under each key, `none` where the value is no array. -/
abbrev Registry := List (CodeUnits × Option (List CodeUnits))

def isLowerHex (n : Nat) : Bool := (48 ≤ n && n ≤ 57) || (97 ≤ n && n ≤ 102)

/-- `^[0-9a-f]{8}-[0-9a-f]{4}-[0-9a-f]{4}-[0-9a-f]{4}-[0-9a-f]{12}$`, on character codes -/
def isDebugId (codes : List Nat) : Bool :=
  codes.length = 36 &&
    (List.range 36).all fun i =>
      let code := codes.getD i 0
      if i ∈ [8, 13, 18, 23] then code = 45 else isLowerHex code

def isControl (u : UInt16) : Bool := u < 0x20 || u == 0x7f

def validCodeFile (codeFile : CodeUnits) : Bool :=
  1 ≤ codeFile.encode.length && codeFile.encode.length ≤ 4096 && !codeFile.any isControl

def validEntries (registry : Registry) : List DebugImage :=
  registry.flatMap fun (codeFile, ids) =>
    if !validCodeFile codeFile then []
    else
      match ids with
      | none => []
      | some ids =>
        (ids.filter fun id => isDebugId (id.map UInt16.toNat)).map fun debugId => { codeFile, debugId }

def isDigit (u : UInt16) : Bool := codeUnit '0' ≤ u && u ≤ codeUnit '9'

/-- `:\d+`, with the text behind the digits. -/
def colonNumber (text : CodeUnits) : Option CodeUnits :=
  match text with
  | [] => none
  | u :: rest =>
    if u = codeUnit ':' ∧ rest.takeWhile isDigit ≠ [] then some (rest.dropWhile isDigit) else none

/-- `^:\d+:\d+(?:\D|$)`: the digits are taken to their end. -/
def isPosition (suffix : CodeUnits) : Bool := ((colonNumber suffix).bind colonNumber).isSome

/-- The first place of a file in a text. -/
def indexOf (codeFile text : CodeUnits) : Option Nat :=
  text.tails.findIdx? fun suffix => codeFile.isPrefixOf suffix

/-- The last place of a file that a position follows, in steps over its matches. -/
def lastPosition (codeFile : CodeUnits) : Nat → Nat → CodeUnits → Option Nat
  | 0, _, _ => none
  | fuel + 1, offset, text =>
    match indexOf codeFile text with
    | none => none
    | some i =>
      let rest := text.drop (i + codeFile.length)
      match lastPosition codeFile fuel (offset + i + codeFile.length) rest with
      | some found => some found
      | none => if isPosition rest then some (offset + i) else none

/-- The file that stands last in the line; of several at one place, the last registered. -/
def innermostMatchedFile (line : CodeUnits) (codeFiles : List CodeUnits) : Option CodeUnits :=
  (codeFiles.foldl (fun selected codeFile =>
    match lastPosition codeFile line.length 0 line with
    | none => selected
    | some offset => if selected.all (·.2 ≤ offset) then some (codeFile, offset) else selected)
    none).map (·.1)

/-- The lines before the marker of a synthetic stack. -/
def stackLines (stack : CodeUnits) : List CodeUnits :=
  (stack.splitOn newline).takeWhile fun line => (indexOf syntheticStackMarker line).isNone

def candidates (entries : List DebugImage) (stack : CodeUnits) : List DebugImage :=
  (stackLines stack).flatMap fun line =>
    match innermostMatchedFile line (entries.map (·.codeFile)) with
    | none => []
    | some codeFile => entries.filter fun entry => entry.codeFile == codeFile

/-- The first of each pair. -/
def unique (images : List DebugImage) : List DebugImage := images.foldl List.addNew []

/-- No other id was found for the file of the image. -/
def isUnambiguous (images : List DebugImage) (image : DebugImage) : Bool :=
  images.all fun other => other.codeFile != image.codeFile || other.debugId == image.debugId

def lowerHexDigit (n : Nat) : UInt16 := codeUnit (Nat.digitChar n)

def unicodeEscape (u : UInt16) : CodeUnits :=
  codeUnits "\\u" ++ [lowerHexDigit (u.toNat / 0x1000), lowerHexDigit (u.toNat / 0x100 % 0x10),
    lowerHexDigit (u.toNat / 0x10 % 0x10), lowerHexDigit (u.toNat % 0x10)]

def escapeUnit (u : UInt16) : CodeUnits :=
  if u = codeUnit '"' then codeUnits "\\\""
  else if u = codeUnit '\\' then codeUnits "\\\\"
  else if u = codeUnit '\n' then codeUnits "\\n"
  else if u = codeUnit '\r' then codeUnits "\\r"
  else if u = codeUnit '\t' then codeUnits "\\t"
  else if u = 8 then codeUnits "\\b"
  else if u = 12 then codeUnits "\\f"
  else if u < 0x20 then unicodeEscape u
  else [u]

/-- `JSON.stringify` of a string: half a pair is written as an escape. -/
def quoteUnits : CodeUnits → CodeUnits
  | [] => []
  | [u] => if isHighSurrogate u || isLowSurrogate u then unicodeEscape u else escapeUnit u
  | u :: v :: rest =>
    if isHighSurrogate u && isLowSurrogate v then u :: v :: quoteUnits rest
    else
      (if isHighSurrogate u || isLowSurrogate u then unicodeEscape u else escapeUnit u)
        ++ quoteUnits (v :: rest)

def quote (text : CodeUnits) : CodeUnits := codeUnit '"' :: quoteUnits text ++ [codeUnit '"']

def DebugImage.json (image : DebugImage) : CodeUnits :=
  codeUnits "\x7b\"type\":\"sourcemap\",\"code_file\":" ++ quote image.codeFile
    ++ codeUnits ",\"debug_id\":" ++ quote image.debugId ++ codeUnits "\x7d"

/-- `JSON.stringify` of the message. -/
def metaJson (images : List DebugImage) : CodeUnits :=
  codeUnits "\x7b\"images\":[" ++ [codeUnit ','].intercalate (images.map DebugImage.json)
    ++ codeUnits "]\x7d"

/-- `images.pop()` while the message is too long; there are as many turns as images. -/
def popWhileTooLong : Nat → List DebugImage → List DebugImage
  | 0, images => images
  | fuel + 1, images =>
    if images ≠ [] ∧ maxDebugMetaBytes < (metaJson images).encode.length then
      popWhileTooLong fuel images.dropLast
    else images

/-- `none`: no message is sent. -/
def assembleDebugMeta (registry : Option Registry) (stack : CodeUnits) : Option (List DebugImage) :=
  match registry with
  | none | some [] => none
  | some registry =>
    let found := unique (candidates (validEntries registry) stack)
    let images := (found.filter (isUnambiguous found)).take maxImages
    some (popWhileTooLong images.length images)

end Opslane.Sdk.DebugImages
