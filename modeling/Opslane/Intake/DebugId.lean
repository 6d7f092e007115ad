import Opslane.Lib.CanonicalJson
import Opslane.Lib.JsonLexemes
import Opslane.Sdk.Stamp

/-!
# Debug ids at the intake

`debugid.Compute` scans a source map by rules of its own, reads its fields, and takes the
digest of the canonical text without the debug id. The canonicalizer is a package of its own,
here a function of the document that is handed to it.
-/

namespace Opslane.Intake.DebugId

open CanonicalJson JsonReader Unicode
open Sdk.Stamp (RejectReason Fingerprint)

section Scanner

variable {ε : Type}

/-- The characters of a string from behind its opening quote on. A half of a pair without the
other is refused as `lone` says, by the text behind its escape. -/
def stringFrom (invalid : ε) (lone : Codes → ε) : Nat → Codes → Except ε (List Nat × Codes)
  | 0, _ => .error invalid
  | fuel + 1, text =>
    let andThen (c : Nat) (rest : Codes) : Except ε (List Nat × Codes) := do
      let (s, rest) ← stringFrom invalid lone fuel rest
      return (c :: s, rest)
    match piece text with
    | none => .error invalid
    | some (.close, rest) => .ok ([], rest)
    | some (.plain c, rest) =>
      -- `DecodeRune` takes a whole character, or one byte of no character.
      match decodeRune text with
      | some (rune, rest) => andThen rune rest
      | none => andThen c rest
    | some (.escape c, rest) => andThen c rest
    | some (.unit u, rest) =>
      if isHigh u then
        if rest.length < 6 ∨ (codes "\\u").isPrefixOf rest = false then .error (lone rest)
        else
          match hexUnit (rest.drop 2) with
          | none => .error invalid
          | some (low, behind) =>
            if isLow low then andThen (pairScalar u low) behind else .error (lone rest)
      else if isLow u then .error (lone rest)
      else andThen u rest

def string (invalid : ε) (lone : Codes → ε) (text : Codes) : Except ε (List Nat × Codes) :=
  stringFrom invalid lone text.length (text.drop 1)

/-- The digits a point calls for. -/
def fraction (refused : ε) : Codes → Except ε (Codes × Codes)
  | c :: rest =>
    if c = code '.' then
      if rest.takeWhile isDigit = [] then .error refused
      else .ok (rest.takeWhile isDigit, rest.dropWhile isDigit)
    else .ok ([], c :: rest)
  | [] => .ok ([], [])

/-- The digits an `e` calls for. -/
def exponent (refused : ε) : Codes → Except ε (Int × Codes)
  | c :: rest =>
    if c = code 'e' ∨ c = code 'E' then
      let (negative, digits) := exponentSign rest
      if digits.takeWhile isDigit = [] then .error refused
      else .ok (exponentValue negative (digits.takeWhile isDigit), digits.dropWhile isDigit)
    else .ok (0, c :: rest)
  | [] => .ok (0, [])

/-- A number. One that breaks off is refused as `broken` says, by the number in front. -/
def number (invalid : ε) (broken : Decimal → ε) (infinite : ε) (text : Codes) :
    Except ε (Double × Codes) := do
  let (negative, text) := sign text
  match integerPart text with
  | none => .error invalid
  | some (whole, text) =>
    -- A leading zero may not be followed by another digit.
    if whole = [code '0'] ∧ (text.head?.map isDigit).getD false then
      .error (broken (decimal negative whole [] 0))
    else
      let (fraction, text) ← fraction (broken (decimal negative whole [] 0)) text
      let (exponent, text) ← exponent (broken (decimal negative whole fraction 0)) text
      match Double.ofDecimal (decimal negative whole fraction exponent) with
      | none => .error infinite
      | some value => return (value, text)

end Scanner

def scanner : Grammar RejectReason (List Nat) Double where
  string := string .invalidJson fun _ => .invalidUnicode
  number := number .invalidJson (fun _ => .invalidJson) .nonFiniteNumber
  invalid := .invalidJson
  tooDeep := .depthExceeded
  duplicate := some .duplicateKey

def maxDepth : Nat := 64

/-- `scan`, with the document that `json.Unmarshal` then reads. -/
def scan (input : Codes) : Except RejectReason Value := do
  let (value, rest) ← scanner.value maxDepth (skipSpace input)
  if skipSpace rest = [] then return value else .error .trailingData

def field (root : List (List Nat × Value)) (name : String) : Option Value :=
  root.lookup (codes name)

/-- A null is read into a string as the empty one. -/
def unmarshalString : Value → Option (List Nat)
  | .string s => some s
  | .null => some []
  | _ => none

def stringArray : Option Value → Option (List (List Nat))
  | some (.array values) => values.mapM unmarshalString
  | _ => none

/-- A null is read into a number as zero. -/
def unmarshalNumber : Value → Option Double
  | .number n => some n
  | .null => some Double.zero
  | _ => none

def readsVersionThree (version : Value) : Bool := unmarshalNumber version == some Double.three

/-- `validateSourceMap` -/
def validateSourceMap (root : List (List Nat × Value)) : Except RejectReason Unit := do
  let version ← (field root "version").orError .badVersion
  if readsVersionThree version = false then .error .badVersion
  else if (field root "sections").isSome then .error .indexedMap
  else
    let sources ← (stringArray (field root "sources")).orError .badFieldType
    let _ ← (stringArray (field root "names")).orError .badFieldType
    let _ ← ((field root "mappings").bind unmarshalString).orError .badFieldType
    match field root "sourcesContent" with
    | none => return ()
    | some raw =>
      let sourcesContent ← (stringArray (some raw)).orError .badFieldType
      if sources.length ≠ sourcesContent.length then .error .sourcesContentMismatch else return ()

structure Result where
  fingerprint : Fingerprint
  hasSourcesContent : Bool

def byteOrderMark : List UInt8 := [0xef, 0xbb, 0xbf]

/-- `json.Unmarshal` into a map. -/
def unmarshalRoot : Value → Except RejectReason (List (List Nat × Value))
  | .object root => .ok root
  | _ => .error .badFieldType

/-- `delete(root, "debugId")` -/
def withoutDebugId (root : List (List Nat × Value)) : List (List Nat × Value) :=
  root.filter fun member => member.1 != codes "debugId"

/-- `Compute`. The document is marshalled and handed to the canonicalizer `jcs`. -/
def compute (jcs : Value → Option (List UInt8)) (sha256 : List UInt8 → List UInt8)
    (input : List UInt8) : Except RejectReason Result :=
  if input.take 3 = byteOrderMark then .error .bom
  else if (decodeUtf8 (input.map UInt8.toNat)).isNone then .error .invalidUtf8
  else do
    let value ← scan (input.map UInt8.toNat)
    let root ← unmarshalRoot value
    validateSourceMap root
    let canonical ← (jcs (.object (withoutDebugId root))).orError .invalidJson
    return ⟨⟨sha256 canonical⟩, (field root "sourcesContent").isSome⟩

end Opslane.Intake.DebugId
