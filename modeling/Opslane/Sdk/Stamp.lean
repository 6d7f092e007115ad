import Opslane.Lib.CodeUnits

/-!
# Stamping a chunk with its debug id

The build adds to every chunk a prelude that registers its debug id and a trailing comment
that names it, and tells the source map how many generated lines it added. The prelude goes
behind a hashbang and a directive prologue.
-/

namespace Opslane.Sdk.Stamp

open CodeUnits

def isBlank (u : UInt16) : Bool := u == codeUnit ' ' || u == codeUnit '\t'

/-- What `.` of a pattern does not take. -/
def isLineTerminator (u : UInt16) : Bool :=
  u == newline || u == codeUnit '\r' || u == 0x2028 || u == 0x2029

/-- `(?:\\.|[^"\\])*"`, with the text behind the closing quote. -/
def closeString (quote : UInt16) : CodeUnits → Option CodeUnits
  | [] => none
  | u :: rest =>
    if u = quote then some rest
    else if u = codeUnit '\\' then
      match rest with
      | [] => none
      | escaped :: rest => if isLineTerminator escaped then none else closeString quote rest
    else closeString quote rest

/-- `\r?\n` -/
def lineBreak : CodeUnits → Option CodeUnits
  | [] => none
  | u :: rest =>
    if u = newline then some rest
    else if u = codeUnit '\r' then
      match rest with
      | [] => none
      | v :: rest => if v = newline then some rest else none
    else none

/-- The next line goes on with the expression: ``[ \t]*[([+\-*\/,.`?:=]``. -/
def continuesExpression (rest : CodeUnits) : Bool :=
  match rest.dropWhile isBlank with
  | [] => false
  | u :: _ => u ∈ codeUnits "([+-*/,.`?:="

/-- A semicolon with the line break behind it, or a line break that ends the statement. -/
def endDirective : CodeUnits → Option CodeUnits
  | [] => none
  | u :: rest =>
    if u = codeUnit ';' then
      let rest := rest.dropWhile isBlank
      some ((lineBreak rest).getD rest)
    else
      match lineBreak (u :: rest) with
      | none => none
      | some rest => if continuesExpression rest then none else some rest

/-- One directive of the prologue, with the text behind it. -/
def directive (text : CodeUnits) : Option CodeUnits :=
  match text.dropWhile isBlank with
  | [] => none
  | quote :: rest =>
    if quote = codeUnit '"' ∨ quote = codeUnit '\'' then
      match closeString quote rest with
      | none => none
      | some rest => endDirective (rest.dropWhile isBlank)
    else none

/-- What the directives leave of a text; each one takes a unit of fuel. -/
def afterDirectives : Nat → CodeUnits → CodeUnits
  | 0, text => text
  | fuel + 1, text =>
    match directive text with
    | none => text
    | some rest => afterDirectives fuel rest

/-- `match[0].length` -/
def directivesLength (text : CodeUnits) : Nat :=
  text.length - (afterDirectives text.length text).length

def hasShebang (code : CodeUnits) : Bool := (codeUnits "#!").isPrefixOf code

/-- `code.indexOf('\n') + 1`, or the whole length. -/
def shebangEnd (code : CodeUnits) : Nat :=
  if hasShebang code then
    if newline ∈ code then code.idxOf newline + 1 else code.length
  else 0

def prologueEnd (code : CodeUnits) : Nat :=
  shebangEnd code + directivesLength (code.drop (shebangEnd code))

structure Insertion where
  head : CodeUnits
  offset : Nat
  generatedLine : Nat
  addedLines : Nat
  deriving DecidableEq

def preludeInsertion (code : CodeUnits) : Insertion :=
  if prologueEnd code = 0 ∨ code[prologueEnd code - 1]? = some newline then
    { head := code.take (prologueEnd code)
      offset := prologueEnd code
      generatedLine := (lines (code.take (prologueEnd code))).length - 1
      addedLines := 1 }
  else
    { head := code.take (prologueEnd code) ++ [newline]
      offset := shebangEnd code
      generatedLine := (lines (code.take (shebangEnd code))).length - 1
      addedLines := 2 }

def semicolon : UInt16 := codeUnit ';'

/-- The lines of a `mappings` field. -/
def mappingLines (mappings : CodeUnits) : List CodeUnits := mappings.splitOn semicolon

def insertMappingLines (mappings : CodeUnits) (generatedLine count : Nat) : CodeUnits :=
  let lines := mappingLines mappings
  let position := min generatedLine lines.length
  [semicolon].intercalate
    (lines.take position ++ List.replicate count [] ++ lines.drop position)

inductive RejectReason where
  | bom | invalidUtf8 | duplicateKey | depthExceeded | trailingData | invalidUnicode
  | nonFiniteNumber | badVersion | indexedMap | badFieldType | sourcesContentMismatch
  | invalidJson
  deriving DecidableEq

def hexDigit (n : Nat) : UInt16 := codeUnit (Nat.digitChar n)

def toHex (bytes : List UInt8) : CodeUnits :=
  bytes.flatMap fun byte => [hexDigit (byte.toNat / 16), hexDigit (byte.toNat % 16)]

/-- The SHA-256 digest of the canonical text. -/
structure Fingerprint where
  digest : List UInt8
  deriving DecidableEq

def Fingerprint.contentSha256 (f : Fingerprint) : CodeUnits := toHex f.digest

def Fingerprint.debugId (f : Fingerprint) : CodeUnits :=
  let hex := f.contentSha256
  [codeUnit '-'].intercalate
    [hex.take 8, (hex.drop 8).take 4, (hex.drop 12).take 4, (hex.drop 16).take 4,
      (hex.drop 20).take 12]

inductive Prelude where
  | esm | script
  deriving DecidableEq

def registryGlobal : CodeUnits := codeUnits "__OPSLANE_DEBUG_IDS__"

/-- The key a module or a script registers under. -/
def Prelude.key (p : Prelude) : CodeUnits :=
  match p with
  | .esm => codeUnits "var k=import.meta.url;"
  | .script =>
    codeUnits "var d=typeof document!==\"undefined\"&&document.currentScript;var k=d&&d.src;"

/-- `prelude.split(DEBUG_ID_PLACEHOLDER).join(debugId)`, less the newline at its end. -/
def Prelude.statement (p : Prelude) (debugId : CodeUnits) : CodeUnits :=
  codeUnits ";(function()\x7btry\x7bvar g=typeof globalThis!==\"undefined\"?globalThis:self;var r=g."
    ++ registryGlobal ++ codeUnits ";if(!r||typeof r!==\"object\")\x7br=g." ++ registryGlobal
    ++ codeUnits "=Object.create(null)\x7d" ++ p.key
    ++ codeUnits "if(k)\x7bvar a=r[k];if(!a)\x7ba=r[k]=[]\x7dif(a.indexOf(\"" ++ debugId
    ++ codeUnits "\")<0)\x7ba.push(\"" ++ debugId
    ++ codeUnits "\")\x7d\x7d\x7dcatch(e)\x7b\x7d\x7d)();"

def preludeForFormat (format : Option String) : Option Prelude :=
  match format with
  | some "es" => some .esm
  | some "iife" | some "umd" | some "cjs" | some "system" => some .script
  | _ => none

/-- The trailing comment, less the newline before it. -/
def trailer (debugId : CodeUnits) : CodeUnits := codeUnits "//# debugId=" ++ debugId

/-- A flat source map: the field the stamp rewrites, and the others. -/
structure SourceMap (Fields : Type) where
  mappings : CodeUnits
  fields : Fields
  debugId : Option CodeUnits := none
  deriving DecidableEq

inductive StampError where
  | unsupportedFormat
  | mapTooLarge (bytes : Nat)
  | rejected (reason : RejectReason)
  | unreadable (message : String)
  | invalidRoot
  | invalidMappings
  deriving DecidableEq

/-- What the stamp uses of the map beside its mappings. -/
structure MapTools (Fields : Type) where
  computeDebugId : List UInt8 → Except RejectReason Fingerprint
  /-- `flattenIndexedMap(JSON.parse(..))`; `none` when the root is no object with `mappings`. -/
  parse : List UInt8 → Except String (Option (SourceMap Fields))
  /-- `JSON.stringify` -/
  stringify : SourceMap Fields → List UInt8
  normalizeSources : Fields → Fields

structure StampInput where
  code : CodeUnits
  mapSource : List UInt8
  format : Option String
  /-- The prelude selected before, when a stamp is reversed. -/
  preludeOverride : Option Prelude
  maxMapBytes : Nat

structure StampResult (Fields : Type) where
  code : CodeUnits
  map : SourceMap Fields
  fingerprint : Fingerprint

/-- `/^[A-Za-z0-9+/,;]*$/` -/
def isMappingsText (mappings : CodeUnits) : Bool :=
  mappings.all fun u =>
    (codeUnit 'A' ≤ u && u ≤ codeUnit 'Z') || (codeUnit 'a' ≤ u && u ≤ codeUnit 'z')
      || (codeUnit '0' ≤ u && u ≤ codeUnit '9') || u ∈ codeUnits "+/,;"

section
variable {Fields : Type} (tools : MapTools Fields)

/-- The first fingerprint only checks the bytes: an indexed map is flattened, not refused. -/
def checkRaw (raw : List UInt8) : Except StampError Unit :=
  match tools.computeDebugId raw with
  | .ok _ | .error .indexedMap => .ok ()
  | .error reason => .error (.rejected reason)

def parseMap (raw : List UInt8) : Except StampError (SourceMap Fields) :=
  match tools.parse raw with
  | .error message => .error (.unreadable message)
  | .ok none => .error .invalidRoot
  | .ok (some parsed) => if isMappingsText parsed.mappings then .ok parsed else .error .invalidMappings

def fingerprintMap (map : SourceMap Fields) : Except StampError Fingerprint :=
  match tools.computeDebugId (tools.stringify map) with
  | .ok fingerprint => .ok fingerprint
  | .error reason => .error (.rejected reason)

def correctMap (parsed : SourceMap Fields) (insertion : Insertion) : SourceMap Fields :=
  { parsed with
    fields := tools.normalizeSources parsed.fields
    mappings := insertMappingLines parsed.mappings insertion.generatedLine insertion.addedLines }

def stampCode (code : CodeUnits) (p : Prelude) (debugId : CodeUnits) : CodeUnits :=
  let insertion := preludeInsertion code
  insertion.head ++ (p.statement debugId ++ [newline]) ++ code.drop insertion.offset
    ++ ([newline] ++ trailer debugId)

def stampCodeAndMap (input : StampInput) : Except StampError (StampResult Fields) :=
  match input.preludeOverride.or (preludeForFormat input.format) with
  | none => .error .unsupportedFormat
  | some p =>
    if input.maxMapBytes < input.mapSource.length then .error (.mapTooLarge input.mapSource.length)
    else do
      checkRaw tools input.mapSource
      let parsed ← parseMap tools input.mapSource
      let _ ← fingerprintMap tools parsed
      let corrected := correctMap tools parsed (preludeInsertion input.code)
      let fingerprint ← fingerprintMap tools corrected
      return {
        code := stampCode input.code p fingerprint.debugId
        map := { corrected with debugId := some fingerprint.debugId }
        fingerprint }

end

end Opslane.Sdk.Stamp
