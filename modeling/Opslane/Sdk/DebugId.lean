import Opslane.Lib.CanonicalJson
import Opslane.Lib.JsonLexemes
import Opslane.Sdk.Stamp

/-!
# Debug ids

`computeDebugId` reads a source map by a strict JSON parser of its own, checks the fields a
map must have, and takes the digest of the canonical text without the debug id.
-/

namespace Opslane.Sdk.DebugId

open CanonicalJson JsonReader Unicode Stamp

/-- `assertValidUnicode`, and the string it lets pass. -/
def assertValidUnicode (value : List Nat) : Except RejectReason (List Nat) :=
  (decodeUnits value).orError .invalidUnicode

def parseString (text : Codes) : Except RejectReason (List Nat × Codes) := do
  let (value, rest) ← (units (text.drop 1)).orError .invalidJson
  let value ← assertValidUnicode value
  return (value, rest)

/-- `(?:\.\d+)?` -/
def optionalFraction : Codes → Codes × Codes
  | c :: rest =>
    if c = code '.' ∧ rest.takeWhile isDigit ≠ [] then
      (rest.takeWhile isDigit, rest.dropWhile isDigit)
    else ([], c :: rest)
  | [] => ([], [])

/-- `(?:[eE][+-]?\d+)?` -/
def optionalExponent : Codes → Int × Codes
  | c :: rest =>
    let (negative, digits) := exponentSign rest
    if (c = code 'e' ∨ c = code 'E') ∧ digits.takeWhile isDigit ≠ [] then
      (exponentValue negative (digits.takeWhile isDigit), digits.dropWhile isDigit)
    else (0, c :: rest)
  | [] => (0, [])

/-- `/^-?(?:0|[1-9]\d*)(?:\.\d+)?(?:[eE][+-]?\d+)?/` -/
def matchNumber (text : Codes) : Option (Decimal × Codes) := do
  let (negative, text) := sign text
  let (whole, text) ← integerPart text
  let (fraction, text) := optionalFraction text
  let (exponent, text) := optionalExponent text
  return (decimal negative whole fraction exponent, text)

def parseNumber (text : Codes) : Except RejectReason (Double × Codes) :=
  match matchNumber text with
  | none => .error .invalidJson
  | some (literal, rest) =>
    match Double.ofDecimal literal with
    | none => .error .nonFiniteNumber
    | some value => .ok (value, rest)

def strictJson : Grammar RejectReason (List Nat) Double where
  string := parseString
  number := parseNumber
  invalid := .invalidJson
  tooDeep := .depthExceeded
  duplicate := some .duplicateKey

def maxDepth : Nat := 64

/-- `StrictJsonParser.parse` -/
def parse (source : Codes) : Except RejectReason Value := do
  let (value, rest) ← strictJson.value maxDepth (skipSpace source)
  if skipSpace rest = [] then return value else .error .trailingData

def getMember (entries : List (List Nat × Value)) (name : String) : Option Value :=
  entries.lookup (codes name)

/-- `isArray`, with every entry a string. -/
def isStringArray : Option Value → Bool
  | some (.array values) => values.all JsonTree.isString
  | _ => false

def arrayLength : Option Value → Nat
  | some (.array values) => values.length
  | _ => 0

def isVersionThree : Option Value → Bool
  | some (.number n) => n == Double.three
  | _ => false

def hasShape (entries : List (List Nat × Value)) : Bool :=
  isStringArray (getMember entries "sources") && isStringArray (getMember entries "names") &&
    ((getMember entries "mappings").map JsonTree.isString).getD false

/-- `validateSourceMap` -/
def validateSourceMap (entries : List (List Nat × Value)) : Except RejectReason Unit :=
  if isVersionThree (getMember entries "version") = false then .error .badVersion
  else if (getMember entries "sections").isSome then .error .indexedMap
  else if hasShape entries = false then .error .badFieldType
  else if (getMember entries "sourcesContent").isSome then
    if isStringArray (getMember entries "sourcesContent") = false then .error .badFieldType
    else if arrayLength (getMember entries "sources") ≠
        arrayLength (getMember entries "sourcesContent") then
      .error .sourcesContentMismatch
    else .ok ()
  else .ok ()

def debugIdName : List Nat := codes "debugId"

mutual

def canonicalize (root : Bool) : Value → List Nat
  | .null => codes "null"
  | .bool b => bool b
  | .number n => n.text
  | .string s => quote s
  | .array values => code '[' :: join (valueTexts values) ++ [code ']']
  | .object entries =>
    let texts := entryTexts entries
    let kept := if root then texts.filter fun entry => entry.1 != debugIdName else texts
    code '\x7b' :: join ((byName kept).map Prod.snd) ++ [code '\x7d']

def valueTexts : List Value → List (List Nat)
  | [] => []
  | v :: rest => canonicalize false v :: valueTexts rest

def entryTexts : List (List Nat × Value) → List (List Nat × List Nat)
  | [] => []
  | (name, v) :: rest => (name, quote name ++ code ':' :: canonicalize false v) :: entryTexts rest

end

mutual

theorem canonicalize_eq_text (v : Value) : canonicalize false v = text v := by
  cases v with
  | array values => simp only [canonicalize, text, valueTexts_eq values]
  | object entries => simp only [canonicalize, text, entryTexts_eq entries, if_false, Bool.false_eq_true]
  | _ => simp only [canonicalize, text]

theorem valueTexts_eq (values : List Value) : valueTexts values = itemTexts values := by
  cases values with
  | nil => simp only [valueTexts, itemTexts]
  | cons v rest => simp only [valueTexts, itemTexts, canonicalize_eq_text v, valueTexts_eq rest]

theorem entryTexts_eq (entries : List (List Nat × Value)) : entryTexts entries = memberTexts entries := by
  cases entries with
  | nil => simp only [entryTexts, memberTexts]
  | cons entry rest =>
    obtain ⟨name, v⟩ := entry
    simp only [entryTexts, memberTexts, canonicalize_eq_text v, entryTexts_eq rest]

end

theorem canonicalize_root (entries : List (List Nat × Value)) :
    canonicalize true (.object entries) =
      text (.object (entries.filter fun entry => entry.1 != debugIdName)) := by
  simp only [canonicalize, text, entryTexts_eq, if_true]
  rw [memberTexts_filter fun name => name != debugIdName]

def byteOrderMark : List UInt8 := [0xef, 0xbb, 0xbf]

/-- `TextDecoder('utf-8', { fatal: true, ignoreBOM: true })` -/
def decodeText (bytes : List UInt8) : Except RejectReason Codes :=
  match decodeUtf8 (bytes.map UInt8.toNat) with
  | none => .error .invalidUtf8
  | some scalars => .ok (scalars.flatMap utf16)

def rootEntries : Value → Except RejectReason (List (List Nat × Value))
  | .object entries => .ok entries
  | _ => .error .badFieldType

/-- `computeDebugId` -/
def computeDebugId (sha256 : List UInt8 → List UInt8) (bytes : List UInt8) :
    Except RejectReason Fingerprint :=
  if bytes.take 3 = byteOrderMark then .error .bom
  else do
    let source ← decodeText bytes
    let value ← parse source
    let entries ← rootEntries value
    validateSourceMap entries
    return ⟨sha256 (encode (canonicalize true value))⟩

end Opslane.Sdk.DebugId
