import Opslane.Harness.JUnit

/-!
# The targets of a diff

The paths a unified diff names as its targets, read line by line: the body of a hunk is counted off
by its header, and outside of one the file headers and the rename and copy headers are read. A diff
with a header that cannot be placed has no targets, and is refused.
-/

namespace Opslane.Harness

structure DiffReading where
  out : List CodeUnits := []
  oldRemaining : Int := 0
  newRemaining : Int := 0

/-- `out.add`. -/
def DiffReading.add (s : DiffReading) (path : CodeUnits) : DiffReading :=
  { s with out := if path ∈ s.out then s.out else s.out ++ [path] }

/-- `\s+`, with the text behind it. -/
def spaces (text : CodeUnits) : Option CodeUnits :=
  if text.head?.any isSpaceUnit then some (text.dropWhile isSpaceUnit) else none

/-- `\S*` at the front of the text. -/
def firstWord (text : CodeUnits) : CodeUnits := text.takeWhile fun u => !isSpaceUnit u

def number (digits : CodeUnits) : Nat := digits.foldl (fun n u => 10 * n + (u.toNat - 48)) 0

/-- `\d+(?:,(\d+))?`, with the text behind it. -/
def hunkRange (text : CodeUnits) : Option (Option Nat × CodeUnits) :=
  if text.head?.any isDigit then
    let rest := text.dropWhile isDigit
    if rest.head? = some (codeUnit ',') ∧ rest.tail.head?.any isDigit then
      some (some (number (rest.tail.takeWhile isDigit)), rest.tail.dropWhile isDigit)
    else some (none, rest)
  else none

/-- `^@@ -\d+(?:,(\d+))? \+\d+(?:,(\d+))? @@`. -/
def hunkStart (line : CodeUnits) : Option (Option Nat × Option Nat) := do
  let (old, rest) ← (← line.dropPrefix? (codeUnits "@@ -")) |> hunkRange
  let (new, rest) ← (← rest.dropPrefix? (codeUnits " +")) |> hunkRange
  let _ ← rest.dropPrefix? (codeUnits " @@")
  return (old, new)

/-- `^(?:\+\+\+|---)\s+(\S+)`. -/
def fileHeader (line : CodeUnits) : Option CodeUnits := do
  let rest ← line.dropPrefix? (codeUnits "+++") <|> line.dropPrefix? (codeUnits "---")
  let path := firstWord (← spaces rest)
  if path = [] then none else some path

/-- `\S+$`. -/
def wholeWord (text : CodeUnits) : Option CodeUnits :=
  if text = [] ∨ text.any isSpaceUnit then none else some text

/-- `^(?:rename|copy)\s+(?:from|to)\s+(\S+)$`. -/
def extendedHeader (line : CodeUnits) : Option CodeUnits := do
  let rest ← line.dropPrefix? (codeUnits "rename") <|> line.dropPrefix? (codeUnits "copy")
  let rest ← spaces rest
  let rest ← rest.dropPrefix? (codeUnits "from") <|> rest.dropPrefix? (codeUnits "to")
  wholeWord (← spaces rest)

/-- `^(?:deleted file mode|new file mode|old mode|new mode)\b`. -/
def modeHeader (line : CodeUnits) : Bool :=
  (line.dropPrefix? (codeUnits "deleted file mode") <|> line.dropPrefix? (codeUnits "new file mode") <|>
    line.dropPrefix? (codeUnits "old mode") <|> line.dropPrefix? (codeUnits "new mode")).any atBoundary

/-- `^(?:deleted file|new file)`. -/
def fileComesOrGoes (line : CodeUnits) : Bool :=
  (line.dropPrefix? (codeUnits "deleted file") <|> line.dropPrefix? (codeUnits "new file")).isSome

/-- `^[ab]\/.`, with what is behind the slash. -/
def stripped : CodeUnits → Option CodeUnits
  | side :: slash :: u :: rest =>
    if (side = codeUnit 'a' ∨ side = codeUnit 'b') ∧ slash = codeUnit '/' then some (u :: rest) else none
  | _ => none

/-- A line of a hunk. `none` is a body that contradicts its header. -/
def readBody (s : DiffReading) (line : CodeUnits) : Option DiffReading :=
  if line.head? = some (codeUnit '\\') then some s
  else
    let s :=
      if line.head? = some (codeUnit '-') then { s with oldRemaining := s.oldRemaining - 1 }
      else if line.head? = some (codeUnit '+') then { s with newRemaining := s.newRemaining - 1 }
      else { s with oldRemaining := s.oldRemaining - 1, newRemaining := s.newRemaining - 1 }
    if s.oldRemaining < 0 ∨ s.newRemaining < 0 then none else some s

/-- A line outside of the hunks. `none` refuses the diff. -/
def readHeader (s : DiffReading) (line : CodeUnits) : Option DiffReading :=
  match hunkStart line with
  | some (old, new) =>
    some { s with oldRemaining := old.getD 1, newRemaining := new.getD 1 }
  | none =>
    match fileHeader line with
    | some path =>
      if path = codeUnits "/dev/null" then some s else (stripped path).map s.add
    | none =>
      match extendedHeader line with
      | some path => some (s.add path)
      | none => if modeHeader line ∧ ¬fileComesOrGoes line then none else some s

def DiffReading.inHunk (s : DiffReading) : Bool := 0 < s.oldRemaining || 0 < s.newRemaining

def readLine (s : DiffReading) (line : CodeUnits) : Option DiffReading :=
  if s.inHunk then readBody s line else readHeader s line

def diffTargets (diff : CodeUnits) : List CodeUnits :=
  match diff.lines.foldlM readLine {} with
  | some s => if s.inHunk then [] else s.out
  | none => []

/-- The patch tool: whether it applies the diff. The gate authorizes a path to be written. -/
def patch (gate : CodeUnits → Bool) (diff : CodeUnits) : Bool :=
  diffTargets diff ≠ [] && (diffTargets diff).all gate

end Opslane.Harness
