import Opslane.Lib.GoStrings
import Opslane.Masking.Patterns

/-!
# Known noise

`packages/ingestion/grouping/suppress.go`: which events are dropped before they are grouped. A line
of a stack is read by the first location that stands in it.
-/

namespace Opslane.Grouping

open GoStrings

/-- `[a-zA-Z0-9+.-]` -/
def isSchemeByte (b : UInt8) : Bool := isLetter b || isDigit b || b ∈ Bytes.ascii "+.-"

/-- `[^\s()]` -/
def isPathByte (b : UInt8) : Bool := !(isBlank b || b == byte '(' || b == byte ')')

/-- `:\d+:\d+` at the front. -/
def startsPosition (text : Bytes) : Bool :=
  match after [byte ':'] text with
  | none => false
  | some rest =>
    rest.head?.any isDigit &&
      match after [byte ':'] (rest.dropWhile isDigit) with
      | none => false
      | some rest => rest.head?.any isDigit

/-- `://[^\s()]+:\d+:\d+` at the front. -/
def endsLocation (text : Bytes) : Bool :=
  match after (Bytes.ascii "://") text with
  | none => false
  | some rest => ((rest.takeWhile isPathByte).drop 1).tails.any startsPosition

/-- `reFrameURL` at the front of a text, as the scheme it is read with. -/
def locationAt : Bytes → Option Bytes
  | [] => none
  | b :: rest =>
    if isLetter b && endsLocation ((b :: rest).dropWhile isSchemeByte) then
      some ((b :: rest).takeWhile isSchemeByte)
    else none

/-- `reFrameURL.FindStringSubmatch`, the scheme. -/
def frameScheme (line : Bytes) : Option Bytes := line.tails.findSome? locationAt

def isNameByte (b : UInt8) : Bool := isLetter b || isDigit b || b == byte '_' || b == byte '$'

/-- `reErrorHeader` -/
def isErrorHeader : Bytes → Bool
  | [] => false
  | b :: rest => isLetter b && (Bytes.ascii ": ").isPrefixOf (rest.dropWhile isNameByte)

def extensionSchemes : List Bytes :=
  ["chrome-extension", "moz-extension", "safari-extension", "safari-web-extension"].map Bytes.ascii

def isExtension (scheme : Bytes) : Bool := scheme.map lower ∈ extensionSchemes

/-- The lines that are not blank, trimmed. -/
def stackLines (stack : Bytes) : List Bytes := ((lines stack).map trimSpace).filter (· ≠ [])

/-- What a line adds to the schemes and to the lines that are not read. -/
def classifyLine (first : Bool) (line : Bytes) (found : List Bytes × Nat) : List Bytes × Nat :=
  match frameScheme line with
  | some scheme => (found.1 ++ [scheme.map lower], found.2)
  | none => if first && isErrorHeader line then found else (found.1, found.2 + 1)

def classifyFrom : Bool → List Bytes → List Bytes × Nat → List Bytes × Nat
  | _, [], found => found
  | first, line :: rest, found => classifyFrom false rest (classifyLine first line found)

def classifyStackLines (stack : Bytes) : List Bytes × Nat := classifyFrom true (stackLines stack) ([], 0)

inductive SuppressRule where
  | resizeObserver | scriptError | extensionOnly
  deriving DecidableEq

/-- The message is that of the resize observer. -/
def isResizeObserver (errorMessage : Bytes) : Bool :=
  (Bytes.ascii "ResizeObserver loop").isPrefixOf (trimSpace errorMessage)

/-- The message of a script of another origin, without a stack. -/
def isScriptError (errorMessage stack : Bytes) : Bool :=
  Masking.foldedLiteral (Bytes.ascii "script error.") (trimSpace errorMessage) == some [] &&
    trimSpace stack == []

/-- `Suppress`: the rule that drops the event. -/
def suppress (platform errorMessage stack : Bytes) : Option SuppressRule :=
  if platform ≠ Bytes.ascii "javascript" then none
  else if isResizeObserver errorMessage then some .resizeObserver
  else if isScriptError errorMessage stack then some .scriptError
  else
    let (schemes, unparsed) := classifyStackLines stack
    if schemes.length = 0 ∨ unparsed ≠ 0 then none
    else if schemes.all (· ∈ extensionSchemes) then some .extensionOnly
    else none

end Opslane.Grouping
