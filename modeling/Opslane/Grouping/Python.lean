import Opslane.Grouping.Normalize

/-!
# Python frames

`packages/ingestion/grouping/python.go`: a frame of a traceback is its file, without the deployment
root, and its function. Line numbers are left out.
-/

namespace Opslane.Grouping

open GoStrings Scan

def tracebackHeader : Bytes := Bytes.ascii "Traceback (most recent call last):"

def isPythonTraceback (stack : Bytes) : Bool := tracebackHeader.isPrefixOf (trimSpace stack)

def isExceptionGroupTraceback (stack : Bytes) : Bool :=
  (breakOn (Bytes.ascii "Exception Group " ++ tracebackHeader) stack).isSome

def pyChainMarkers : List Bytes :=
  ["\nDuring handling of the above exception, another exception occurred:\n",
    "\nThe above exception was the direct cause of the following exception:\n"].map Bytes.ascii

/-- `\s*File "([^"]+)", line \d+, in (.+)$` at the front: the file, the function and the rest. -/
def pyFrame (text : Bytes) : Option (Bytes × Bytes × Bytes) := do
  let text ← after (Bytes.ascii "File \"") (text.dropWhile isBlank)
  let (file, text) ← oneOrMore (· ≠ byte '"') text
  let text ← after (Bytes.ascii "\", line ") text
  let (_, text) ← oneOrMore isDigit text
  let text ← after (Bytes.ascii ", in ") text
  let (function, rest) ← oneOrMore (· ≠ byte '\n') text
  return (file, function, rest)

/-- `rePyFrame.FindAllStringSubmatch`; a frame begins a line. -/
def pyFrames : Bool → Nat → Bytes → List (Bytes × Bytes)
  | _, 0, _ => []
  | _, _ + 1, [] => []
  | lineStart, fuel + 1, b :: rest =>
    match if lineStart then pyFrame (b :: rest) else none with
    | some (file, function, rest) => (file, function) :: pyFrames false fuel rest
    | none => pyFrames (b == byte '\n') fuel rest

/-- A text without a digit run. -/
def afterDigits (text : Bytes) : Option Bytes := (oneOrMore isDigit text).map Prod.snd

/-- `(?:site-packages|dist-packages)/|/\.?venv/|\.tox/|lib/python\d+(?:\.\d+)?/` at the front. -/
def startsLibPath (text : Bytes) : Bool :=
  (after (Bytes.ascii "site-packages/") text).isSome || (after (Bytes.ascii "dist-packages/") text).isSome ||
    (after (Bytes.ascii "/venv/") text).isSome || (after (Bytes.ascii "/.venv/") text).isSome ||
    (after (Bytes.ascii ".tox/") text).isSome ||
    (((after (Bytes.ascii "lib/python") text).bind afterDigits).any fun text =>
      text.head? == some (byte '/') ||
        (((after [byte '.'] text).bind afterDigits).any fun text => text.head? == some (byte '/')))

def isLibPath (file : Bytes) : Bool := file.tails.any startsLibPath

/-- `^<.*>$` -/
def isPseudoPath (file : Bytes) : Bool :=
  file.head? == some (byte '<') && file.getLast? == some (byte '>') && byte '\n' ∉ file && 1 < file.length

/-- `(?:app|srv|opt)/` -/
def afterAppRoot (text : Bytes) : Option Bytes :=
  (["app/", "srv/", "opt/"].map Bytes.ascii).findSome? fun root => after root text

/-- `home/[^/]+/` -/
def afterHome (text : Bytes) : Option Bytes := do
  let text ← after (Bytes.ascii "home/") text
  let (_, text) ← oneOrMore (· ≠ byte '/') text
  after [byte '/'] text

/-- `rePyDeployPrefix`, taken off once. -/
def withoutDeployRoot (file : Bytes) : Bytes :=
  let text := (after [byte '/'] file).getD file
  let nested := match after (Bytes.ascii "usr/src/") text with
    | some text => some text
    | none => afterHome text
  match nested.bind afterAppRoot with
  | some relative => relative
  | none =>
    match afterAppRoot text with
    | some relative => relative
    | none => (afterHome text).getD file

/-- The first occurrence of each. -/
def distinctFrames : List Bytes → List Bytes → List Bytes
  | _, [] => []
  | seen, identity :: rest =>
    if identity ∈ seen then distinctFrames seen rest
    else identity :: distinctFrames (identity :: seen) rest

def collectPythonFrames (segment : Bytes) : List Bytes :=
  let own := (pyFrames true segment.length segment).filter fun frame =>
    !(isLibPath frame.1 || isPseudoPath frame.1)
  distinctFrames [] (own.map fun frame => withoutDeployRoot frame.1 ++ [byte ':'] ++ trimSpace frame.2)

/-- What follows the last occurrence of a marker. -/
def afterLast (marker text : Bytes) : Bytes :=
  (text.tails.reverse.findSome? (after marker)).getD text

/-- At most five unique application frames, newest first. -/
def pythonFrames (stack : Bytes) : List Bytes :=
  let segment := pyChainMarkers.foldl (fun segment marker => afterLast marker segment) stack
  let frames := collectPythonFrames segment
  let frames := if frames = [] ∧ segment ≠ stack then collectPythonFrames stack else frames
  frames.reverse.take 5

end Opslane.Grouping
