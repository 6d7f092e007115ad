import Opslane.Lib.CodeUnits
import Opslane.Lib.EntryMap
import Opslane.Lib.Scan

/-!
# JUnit reports

The subset of a JUnit report that pytest writes, read with patterns: a report with a tag outside
the subset, with a test case that is not closed or not named, or without a suite around it is
refused as a whole.
-/

namespace Opslane.Harness

inductive TestStatus where
  | passed | failed
  deriving DecidableEq

inductive CheckOutcome where
  | passed | failed | skippedNoRunner | infraError
  deriving DecidableEq

abbrev TestMap := EntryMap CodeUnits TestStatus

def isLetter (u : UInt16) : Bool :=
  codeUnit 'a' ≤ u && u ≤ codeUnit 'z' || codeUnit 'A' ≤ u && u ≤ codeUnit 'Z'

def isDigit (u : UInt16) : Bool := codeUnit '0' ≤ u && u ≤ codeUnit '9'

/-- `\w`. -/
def isWord (u : UInt16) : Bool := isLetter u || isDigit u || u == codeUnit '_'

/-- `\s`, which is also what `trim` takes off. -/
def isSpaceUnit (u : UInt16) : Bool :=
  9 ≤ u && u ≤ 13 || u == 0x20 || u == 0xa0 || u == 0x1680 || 0x2000 ≤ u && u ≤ 0x200a ||
    u == 0x2028 || u == 0x2029 || u == 0x202f || u == 0x205f || u == 0x3000 || u == 0xfeff

def trimUnits (text : CodeUnits) : CodeUnits :=
  ((text.dropWhile isSpaceUnit).reverse.dropWhile isSpaceUnit).reverse

/-- `\b` behind a word character. -/
def atBoundary (rest : CodeUnits) : Bool := !rest.head?.any isWord

/-- `<name\b` at the front of the text. -/
def opensTag (name : CodeUnits) (text : CodeUnits) : Bool :=
  (codeUnit '<' :: name).isPrefixOf text && atBoundary (text.drop (name.length + 1))

def hasTag (name : CodeUnits) (text : CodeUnits) : Bool := text.tails.any (opensTag name)

/-- `[A-Za-z][A-Za-z0-9-]*\b`, which backs off to the last boundary. -/
def tagName (text : CodeUnits) : Option CodeUnits :=
  let name := text.takeWhile fun u => isLetter u || isDigit u || u == codeUnit '-'
  if name.head?.any isLetter then
    ((List.range name.length).map fun i => name.take (name.length - i)).find? fun name =>
      name.getLast?.any isWord != (text.drop name.length).head?.any isWord
  else none

/-- The tag names behind the openings in the text. -/
def tagNames (text : CodeUnits) : List CodeUnits :=
  text.tails.filterMap fun
    | u :: rest =>
      if u = codeUnit '<' then
        tagName (if rest.head? = some (codeUnit '/') then rest.tail else rest)
      else none
    | [] => none

def upperLetter (u : UInt16) : UInt16 :=
  if codeUnit 'a' ≤ u && u ≤ codeUnit 'z' then u - 32 else u

def hexDigitValue (u : UInt16) : Option Nat :=
  if isDigit u then some (u.toNat - 48)
  else if codeUnit 'A' ≤ upperLetter u && upperLetter u ≤ codeUnit 'F' then
    some ((upperLetter u).toNat - 55)
  else none

/-- `String.fromCodePoint`, which throws beyond the last code point. -/
def fromCodePoint (code : Nat) : Option CodeUnits :=
  if code < 0x10000 then some [code.toUInt16]
  else if code < 0x110000 then
    some [(0xd800 + (code - 0x10000) / 0x400).toUInt16, (0xdc00 + (code - 0x10000) % 0x400).toUInt16]
  else none

/-- The digits in front of a semicolon, as a number. -/
def numericEntity (base : Nat) (isDigit : UInt16 → Bool) (text : CodeUnits) : Option (Nat × Nat) :=
  let digits := text.takeWhile isDigit
  if digits ≠ [] ∧ (text.drop digits.length).head? = some (codeUnit ';') then
    some (digits.foldl (fun n u => n * base + (hexDigitValue u).getD 0) 0, digits.length + 1)
  else none

/-- From here on a decimal or hexadecimal numeral reads as infinity. -/
def infinityBound : Nat := 2 ^ 1024 - 2 ^ 970

def namedEntities : List (CodeUnits × Char) :=
  [(codeUnits "AMP;", '&'), (codeUnits "QUOT;", '"'), (codeUnits "APOS;", '\''),
    (codeUnits "LT;", '<'), (codeUnits "GT;", '>')]

/-- An entity at the front of the text behind its ampersand: what it stands for and its length.
The outer `none` is a code point that does not exist. -/
def entity (text : CodeUnits) : Option (Option (CodeUnits × Nat)) :=
  match text with
  | u :: rest =>
    if u = codeUnit '#' then
      let numeric :=
        match rest with
        | x :: digits =>
          if upperLetter x = codeUnit 'X' then
            (numericEntity 16 (fun u => (hexDigitValue u).isSome) digits).map fun (n, l) => (n, l + 2)
          else (numericEntity 10 isDigit rest).map fun (n, l) => (n, l + 1)
        | [] => none
      match numeric with
      | none => some none
      | some (code, length) =>
        if infinityBound ≤ code then
          some (some (codeUnit '&' :: text.take length, length))
        else (fromCodePoint code).map fun units => some (units, length)
    else
      some <| (namedEntities.find? fun (name, _) =>
        (text.take name.length).map upperLetter = name).map fun (name, c) => ([codeUnit c], name.length)
  | [] => some none

/-- `none` is the error that a code point out of range throws. -/
def decodeFrom : Nat → CodeUnits → Option CodeUnits
  | 0, text => some text
  | _ + 1, [] => some []
  | fuel + 1, u :: rest =>
    if u = codeUnit '&' then
      match entity rest with
      | none => none
      | some (some (units, length)) => (decodeFrom fuel (rest.drop length)).map (units ++ ·)
      | some none => (decodeFrom fuel rest).map (u :: ·)
    else (decodeFrom fuel rest).map (u :: ·)

def decodeXml (value : CodeUnits) : Option CodeUnits := decodeFrom value.length value

/-- The text up to the next quote, when there is one. -/
def quoted (text : CodeUnits) : Option CodeUnits :=
  match text with
  | q :: rest =>
    if q = codeUnit '"' ∨ q = codeUnit '\'' then (Scan.breakOn [q] rest).map Prod.fst else none
  | [] => none

/-- The raw value of the first attribute of this name. -/
def rawAttr (name : CodeUnits) : Bool → CodeUnits → Option CodeUnits
  | _, [] => none
  | inWord, u :: rest =>
    let value :=
      if !inWord && (name ++ [codeUnit '=']).isPrefixOf (u :: rest) then
        quoted ((u :: rest).drop (name.length + 1))
      else none
    value <|> rawAttr name (isWord u) rest

/-- The outer `none` is an error, the inner one a missing attribute. -/
def attr (source name : CodeUnits) : Option (Option CodeUnits) :=
  match rawAttr name false source with
  | none => some none
  | some value => (decodeXml value).map some

/-- The test cases of a report: their attributes, and the body of those that have one. -/
def matchCases : Nat → CodeUnits → List (CodeUnits × CodeUnits)
  | 0, _ => []
  | fuel + 1, xml =>
    match Scan.breakOn (codeUnits "<testcase") xml with
    | none => []
    | some (_, rest) =>
      if !atBoundary rest then matchCases fuel rest
      else
        match Scan.breakOn [codeUnit '>'] rest with
        | none => []
        | some (attributes, behind) =>
          if attributes.getLast? = some (codeUnit '/') then
            (attributes.dropLast, []) :: matchCases fuel behind
          else
            match Scan.breakOn (codeUnits "</testcase>") behind with
            | none => matchCases fuel rest
            | some (body, behind) => (attributes, body) :: matchCases fuel behind

def allowedTags : List CodeUnits :=
  [codeUnits "testsuites", codeUnits "testsuite", codeUnits "testcase", codeUnits "failure",
    codeUnits "error", codeUnits "skipped", codeUnits "properties", codeUnits "property",
    codeUnits "system-out", codeUnits "system-err", codeUnits "rerunFailure",
    codeUnits "flakyFailure", codeUnits "flakyError", codeUnits "rerun"]

/-- What a test case reports. -/
inductive Verdict where
  | errored | skipped | failed | passed
  deriving DecidableEq

structure TestCase where
  id : CodeUnits
  verdict : Verdict
  deriving DecidableEq

def bodyVerdict (body : CodeUnits) : Verdict :=
  if hasTag (codeUnits "error") body then .errored
  else if hasTag (codeUnits "skipped") body then .skipped
  else if hasTag (codeUnits "failure") body then .failed
  else .passed

def testCase (attributes body : CodeUnits) : Option TestCase := do
  let classname ← (← attr attributes (codeUnits "classname"))
  let name ← (← attr attributes (codeUnits "name"))
  some ⟨classname ++ codeUnits "::" ++ name, bodyVerdict body⟩

/-- The test cases of a report that is not refused. -/
def readCases (raw : CodeUnits) : Option (List TestCase) :=
  let xml := trimUnits raw
  if !(hasTag (codeUnits "testsuite") xml || hasTag (codeUnits "testsuites") xml) ||
      !((codeUnits "</testsuite>").isSuffixOf xml || (codeUnits "</testsuites>").isSuffixOf xml) then
    none
  else if (tagNames xml).any (· ∉ allowedTags) then none
  else
    let cases := matchCases xml.length xml
    if cases.length ≠ xml.tails.countP (opensTag (codeUnits "testcase")) then none
    else cases.mapM fun (attributes, body) => testCase attributes body

structure ParsedJUnit where
  outcome : CheckOutcome
  tests : TestMap
  total : Nat

/-- What the loop over the test cases has gathered. -/
structure Gathered where
  sawError : Bool := false
  count : Nat := 0
  tests : TestMap := Table.empty

/-- A failure stays when the same id is reported again. -/
def gather (g : Gathered) (c : TestCase) : Gathered :=
  let executed (status : TestStatus) : Gathered :=
    { g with
      tests := if g.tests.get? c.id = some .failed then g.tests else g.tests.set c.id status
      count := g.count + 1 }
  match c.verdict with
  | .errored => { g with sawError := true }
  | .skipped => g
  | .failed => executed .failed
  | .passed => executed .passed

def parseJUnitXml (raw : CodeUnits) : ParsedJUnit :=
  match readCases raw with
  | none => ⟨.infraError, Table.empty, 0⟩
  | some cases =>
    let g := cases.foldl gather {}
    if g.count = 0 ∨ g.tests.rows = [] ∨ g.sawError then ⟨.infraError, g.tests, g.count⟩
    else
      ⟨if g.tests.values.any (· = .failed) then .failed else .passed, g.tests, g.count⟩

end Opslane.Harness
