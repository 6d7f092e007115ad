import Mathlib.Data.List.Sort
import Opslane.Grouping.Python
import Opslane.Identity.Canonical
import Opslane.Lib.EntryMap

/-!
# Fingerprints

`packages/ingestion/grouping/fingerprint.go`: what an event is grouped by, and the rewriting of the
leading lines of its stack by the debug ids of the bundles that they name. SHA-256 is a parameter.
-/

namespace Opslane.Grouping

open GoStrings Scan

def joinLines (ls : List Bytes) : Bytes := [byte '\n'].intercalate ls

def hashedFrameCount : Nat := 5

def topFrames (stack : Bytes) (n : Nat) : List Bytes := ((lines stack).take n).map normalizeVolatile

/-- The frames that are hashed. -/
def hashedFrames (platform stackTrace : Bytes) : List Bytes :=
  if platform = Bytes.ascii "python" then
    let frames :=
      if isPythonTraceback stackTrace && !isExceptionGroupTraceback stackTrace then
        pythonFrames stackTrace
      else []
    if frames = [] ∧ stackTrace ≠ [] then [stackTrace] else frames
  else topFrames stackTrace hashedFrameCount

variable (sha256 : Bytes → Vector UInt8 32) (toLower : Bytes → Bytes)

/-- The first half of the digest, in hexadecimal. -/
def Fingerprint (platform errorType errorMessage stackTrace : Bytes) : String :=
  let platform := if platform = [] then Bytes.ascii "javascript" else platform
  let template := normalizeMessage toLower errorMessage
  let frames := hashedFrames platform stackTrace
  let input := [byte '|'].intercalate
    [platform, errorType, template, [byte '|'].intercalate frames]
  String.ofList (((sha256 input).toList.take 16).flatMap Identity.hexByte)

structure SourceImage where
  codeFile : Bytes
  debugID : Bytes
  deriving DecidableEq

/-- Drops a URL query string. -/
def cutQuery (s : Bytes) : Bytes := s.takeWhile (· ≠ byte '?')

def minCodeFileLen : Nat := 4

/-- The name is plausibly a file reference. -/
def usableCodeFile (codeFile : Bytes) : Bool :=
  minCodeFileLen ≤ codeFile.length && !(codeFile.any (· ∈ Bytes.ascii "\n\r \t")) &&
    codeFile.any (· ∈ Bytes.ascii "/.")

def usableDebugID (debugID : Bytes) : Bool :=
  debugID ≠ [] && !(debugID.any (· ∈ Bytes.ascii "\n\r>"))

structure ImageFiles where
  byFile : EntryMap Bytes Bytes
  ambiguous : List Bytes

/-- A file under two debug ids is ambiguous. -/
def ImageFiles.add (s : ImageFiles) (image : SourceImage) : ImageFiles :=
  let codeFile := cutQuery image.codeFile
  if !usableCodeFile codeFile || !usableDebugID image.debugID then s
  else if (s.byFile.get? codeFile).any (· ≠ image.debugID) then
    { s with ambiguous := codeFile :: s.ambiguous }
  else { s with byFile := s.byFile.set codeFile image.debugID }

def imageFiles (images : List SourceImage) : ImageFiles := images.foldl ImageFiles.add ⟨.empty, []⟩

/-- `delete(byFile, codeFile)` for each ambiguous one. -/
def usableFiles (images : List SourceImage) : EntryMap Bytes Bytes :=
  let s := imageFiles images
  s.ambiguous.foldl EntryMap.delete s.byFile

/-- Longest first, and of one length in the order of their bytes. -/
def SourceImage.before (image other : SourceImage) : Bool :=
  if image.codeFile.length ≠ other.codeFile.length then
    other.codeFile.length < image.codeFile.length
  else image.codeFile < other.codeFile

/-- The images that are looked for, in order. -/
def usableImages (images : List SourceImage) : List SourceImage :=
  ((usableFiles images).entries.map fun e => ⟨e.1, e.2⟩).insertionSort fun image other =>
    ¬other.before image

/-- The byte delimits a file reference in a stack frame, as do the ends of a line. -/
def isTokenBoundary (b : UInt8) : Bool := b ∈ Bytes.ascii "()@?: \t\n\r'\","

/-- The text from a position on, behind a byte; the bytes of a reference that was replaced are
skipped. -/
def replaceFrom (codeFile token : Bytes) : Nat → Option UInt8 → Bytes → Bytes
  | _, _, [] => []
  | skip + 1, _, b :: rest => replaceFrom codeFile token skip (some b) rest
  | 0, previous, b :: rest =>
    if codeFile.isPrefixOf (b :: rest) ∧ previous.all isTokenBoundary ∧
        ((b :: rest).drop codeFile.length).head?.all isTokenBoundary then
      token ++ replaceFrom codeFile token (codeFile.length - 1) (some b) rest
    else b :: replaceFrom codeFile token 0 (some b) rest

/-- A file is replaced where it stands alone as a frame's file reference. -/
def replaceFrameToken (text codeFile token : Bytes) : Bytes := replaceFrom codeFile token 0 none text

def SourceImage.token (image : SourceImage) : Bytes :=
  Bytes.ascii "<debug:" ++ image.debugID ++ [byte '>']

example : replaceFrameToken (Bytes.ascii "at f (b/a.js:1:2)") (Bytes.ascii "b/a.js") (Bytes.ascii "<debug:1>") =
    Bytes.ascii "at f (<debug:1>:1:2)" := by decide +kernel

/-- `reDebugQuery`: a query behind a token. -/
def debugQuery : Pattern UInt8 := fun text => do
  let rest ← after (Bytes.ascii "<debug:") text
  let (inner, rest) := rest.span (· ≠ byte '>')
  let rest ← after [byte '>'] rest
  let rest ← after [byte '?'] rest
  return (Bytes.ascii "<debug:" ++ inner ++ [byte '>'],
    rest.dropWhile fun b => !(isBlank b || b == byte ':' || b == byte ')'))

/-- The legacy asset-token rule already rewrites a content hash out of the line. -/
def collapsesHashedAsset (line : Bytes) : Bool := (assetSuffixes line.length line).any looksLikeHash

/-- One image after the other. -/
def substitute (images : List SourceImage) (line : Bytes) : Bytes :=
  images.foldl (fun text image => replaceFrameToken text image.codeFile image.token) line

def rewriteLine (images : List SourceImage) (line : Bytes) : Bytes :=
  if collapsesHashedAsset line then line
  else if substitute images line ≠ line then replaceAll debugQuery (substitute images line)
  else line

def rewrites (images : List SourceImage) (line : Bytes) : Bool :=
  !collapsesHashedAsset line && substitute images line ≠ line

/-- The stack with the leading lines rewritten, and whether any was. -/
def applyDebugIDs (stackTrace : Bytes) (images : List SourceImage) : Bytes × Bool :=
  if stackTrace = [] ∨ images = [] then (stackTrace, false)
  else
    let usable := usableImages images
    let window := (lines stackTrace).take hashedFrameCount
    let tail := (lines stackTrace).drop hashedFrameCount
    if usable = [] ∨ !window.any (rewrites usable) then (stackTrace, false)
    else (joinLines (window.map (rewriteLine usable) ++ tail), true)

def FingerprintWithImages (platform errorType errorMessage stackTrace : Bytes) (images : List SourceImage) :
    String × Bool :=
  let (substituted, applied) := applyDebugIDs stackTrace images
  (Fingerprint sha256 toLower platform errorType errorMessage substituted, applied)

end Opslane.Grouping
