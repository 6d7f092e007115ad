import Opslane.Lib.GoJson
import Opslane.Masking.Patterns

/-!
# Redacted documents

`RedactBody`, `RedactContext` and `RedactRecording` in `packages/ingestion/masking`. A document
is walked as it is decoded: the value under a sensitive key goes as a whole, and every other
string is replaced by patterns. A text that cannot be decoded is returned as it is.
-/

namespace Opslane.Masking

open Scan
open GoJson (Value)

def sensitiveHeaders : List String :=
  ["authorization", "proxy-authorization", "authentication", "cookie", "set-cookie", "x-api-key",
    "x-csrf-token", "x-auth-token", "x-access-token", "x-amz-security-token", "private-token",
    "x-gitlab-token", "x-vault-token", "x-goog-api-key", "x-refresh-token", "x-session-token",
    "x-session-id"]

def sensitiveContextKeys : List String :=
  ["password", "passwd", "secret", "token", "access_token", "refresh_token", "api_key", "apikey"]

/-- `strings.ToLower`, for names to be compared with ASCII ones: of the characters outside
ASCII, only U+0130 and U+212A have a lower case within. -/
def toLower : Bytes → Bytes
  | [] => []
  | 0xc4 :: 0xb0 :: rest => byte 'i' :: toLower rest
  | 0xe2 :: 0x84 :: 0xaa :: rest => byte 'k' :: toLower rest
  | b :: rest => (if isUpperLetter b then b + 0x20 else b) :: toLower rest

def isSensitiveHeader (name : Bytes) : Bool :=
  toLower name ∈ sensitiveHeaders.map Bytes.ascii

/-- The keys whose values `redactValue` replaces. -/
def isSensitiveKey (k : Bytes) : Bool :=
  isSensitiveHeader (toLower k) || toLower k ∈ sensitiveContextKeys.map Bytes.ascii

/-- `\s*` and a byte -/
def spacedByte (b : UInt8) (text : Bytes) : Option Bytes :=
  match text.dropWhile isSpace with
  | c :: rest => if c = b then some rest else none
  | [] => none

/-- `passwordFieldRe`, replaced by `$1:"[REDACTED]"` -/
def passwordField : Pattern UInt8 := fun text =>
  match text with
  | [] => none
  | b :: tail =>
    if b = byte '"' then do
      let rest ← oneOf ["password\"", "passwd\"", "secret\"", "token\""] tail
      let name := b :: tail.take (tail.length - rest.length)
      let rest ← spacedByte (byte ':') rest
      let rest ← spacedByte (byte '"') rest
      match rest.dropWhile (· ≠ byte '"') with
      | _ :: rest => return (name ++ Bytes.ascii ":\"" ++ redacted ++ [byte '"'], rest)
      | [] => none
    else none

def apiKeyPrefixes : List String :=
  ["sk_live_", "sk_test_", "akia", "ghp_", "gho_", "def_", "opslane_pk_", "opslane_sk_", "opslane_ak_"]

def isKeyByte (b : UInt8) : Bool := isDigit b || b ∈ Bytes.ascii "_-"

/-- `apiKeyPrefixRe`, replaced by `[REDACTED]` -/
def apiKey : Pattern UInt8 := fun text => do
  let rest ← oneOf apiKeyPrefixes text
  match foldedRun isKeyByte rest with
  | ([], _) => none
  | (_ :: _, rest) => return (redacted, rest)

/-- `[A-Za-z0-9_-]+` -/
def tokenRun (text : Bytes) : Option Bytes :=
  match text.span fun b => isLetter b || isKeyByte b with
  | ([], _) => none
  | (_ :: _, rest) => some rest

def literal (word text : Bytes) : Option Bytes :=
  if word.isPrefixOf text then some (text.drop word.length) else none

/-- `jwtRe`, replaced by `[REDACTED]` -/
def jwt : Pattern UInt8 := fun text => do
  let rest ← literal (Bytes.ascii "eyJ") text
  let rest ← tokenRun rest
  let rest ← literal (Bytes.ascii ".") rest
  let rest ← tokenRun rest
  let rest ← literal (Bytes.ascii ".") rest
  let rest ← tokenRun rest
  return (redacted, rest)

def redactBody (body : Bytes) : Bytes :=
  replaceAll jwt (replaceAll apiKey (replaceAll passwordField body))

def redactString (s : Bytes) : Bytes := redactURL (redactBody s)

mutual

def redactValue : Value → Value
  | .string s => .string (redactString s)
  | .array items => .array (redactItems items)
  | .object members => .object (redactMembers members)
  | v => v

def redactItems : List Value → List Value
  | [] => []
  | v :: rest => redactValue v :: redactItems rest

def redactMembers : List (Bytes × Value) → List (Bytes × Value)
  | [] => []
  | (k, child) :: rest =>
    (k, if isSensitiveKey k then .string redacted else redactValue child) :: redactMembers rest

end

def redactContext (context : Bytes) : Bytes :=
  if context = [] then context
  else
    match GoJson.unmarshal context with
    | none => context
    | some v => GoJson.marshal (redactValue v)

def redactRecording (raw : Bytes) : Bytes :=
  if raw = [] then raw
  else if GoJson.valid raw then redactContext raw
  else redactURL (redactBody raw)

mutual

/-- Nothing that the redaction removes is left: there is no value under a sensitive key, and
every other string is one that the patterns were replaced in. -/
def Clean : Value → Prop
  | .string s => ∃ raw, s = redactString raw
  | .array items => CleanItems items
  | .object members => CleanMembers members
  | _ => True

def CleanItems : List Value → Prop
  | [] => True
  | v :: rest => Clean v ∧ CleanItems rest

def CleanMembers : List (Bytes × Value) → Prop
  | [] => True
  | (k, child) :: rest =>
    (if isSensitiveKey k then child = .string redacted else Clean child) ∧ CleanMembers rest

end

mutual

theorem clean_redactValue : ∀ v : Value, Clean (redactValue v)
  | .null | .bool _ | .number _ => trivial
  | .string s => ⟨s, rfl⟩
  | .array items => by
    rw [redactValue, Clean]
    exact clean_redactItems items
  | .object members => by
    rw [redactValue, Clean]
    exact clean_redactMembers members

theorem clean_redactItems : ∀ items : List Value, CleanItems (redactItems items)
  | [] => trivial
  | v :: rest => ⟨clean_redactValue v, clean_redactItems rest⟩

theorem clean_redactMembers : ∀ members : List (Bytes × Value), CleanMembers (redactMembers members)
  | [] => trivial
  | (k, child) :: rest => by
    refine ⟨?_, clean_redactMembers rest⟩
    by_cases sensitive : isSensitiveKey k
    · rw [if_pos sensitive, if_pos sensitive]
    · rw [if_neg sensitive, if_neg sensitive]
      exact clean_redactValue child

end

/-- The text of a document with nothing left to remove. -/
def CleanText (text : Bytes) : Prop := ∃ v, text = GoJson.marshal v ∧ Clean v

theorem CleanMembers.clean {members : List (Bytes × Value)} (clean : CleanMembers members) {k : Bytes}
    {child : Value} (member : (k, child) ∈ members) :
    if isSensitiveKey k then child = .string redacted else Clean child := by
  induction members with
  | nil => cases member
  | cons m rest ih =>
    rcases List.mem_cons.mp member with rfl | later
    · exact clean.1
    · exact ih clean.2 later

theorem CleanText.sensitive {k rest : Codes} {b : Nat} (plain : ∀ c ∈ k, GoJson.Plain c)
    (sensitive : isSensitiveKey (k.map Nat.toUInt8))
    (clean : CleanText ((JsonReader.codes "\x7b\"" ++ k ++ JsonReader.codes "\":" ++
      JsonReader.code '"' :: b :: rest).map Nat.toUInt8)) : b.toUInt8 = byte '[' := by
  obtain ⟨v, same, cleanValue⟩ := clean
  obtain ⟨members, name, child, more, rfl, member, named, shown⟩ := GoJson.marshal_object plain same.symm
  have redacts := CleanMembers.clean cleanValue member
  rw [← named, List.map_map] at sensitive
  rw [if_pos (by simpa [Function.comp_def] using sensitive)] at redacts
  rw [redacts] at shown
  have quoted : ∃ t, GoJson.text (.string redacted) = JsonReader.code '"' :: JsonReader.code '[' :: t :=
    ⟨_, rfl⟩
  obtain ⟨t, quoted⟩ := quoted
  rw [quoted] at shown
  exact (List.cons.inj (List.cons.inj shown).2).1.symm

/-- A valid text that can be decoded, if it is valid. -/
def Decodable (plain : Bytes) : Prop := GoJson.valid plain → (GoJson.unmarshal plain).isSome
  deriving Decidable

theorem redactRecording_valid {plain : Bytes} {document : GoJson.Document}
    (scanned : GoJson.scan plain = some document) :
    if ∀ n ∈ document.numbers, GoJson.Finite n then CleanText (redactRecording plain)
    else redactRecording plain = plain := by
  have nonempty : plain ≠ [] := by
    rintro rfl
    have empty : (GoJson.scan []).isSome = false := by decide +kernel
    rw [scanned] at empty
    cases empty
  have reads : redactRecording plain = redactContext plain := by
    rw [redactRecording, if_neg nonempty, if_pos (by rw [GoJson.valid, scanned]; rfl)]
  have decoded : GoJson.unmarshal plain = GoJson.decode document := by
    rw [GoJson.unmarshal, scanned, Option.bind_some]
  rw [reads, redactContext, if_neg nonempty, decoded]
  split
  · rename_i finite
    obtain ⟨v, some_⟩ := Option.isSome_iff_exists.mp ((GoJson.decode_isSome document).mpr finite)
    rw [some_]
    exact ⟨redactValue v, rfl, clean_redactValue v⟩
  · rename_i infinite
    have none_ : GoJson.decode document = none := by
      rw [← Option.not_isSome_iff_eq_none, GoJson.decode_isSome]
      exact infinite
    rw [none_]

mutual

/-- The document without what is under its sensitive keys. -/
def bare : Value → Value
  | .array items => .array (bareItems items)
  | .object members => .object (bareMembers members)
  | v => v

def bareItems : List Value → List Value
  | [] => []
  | v :: rest => bare v :: bareItems rest

def bareMembers : List (Bytes × Value) → List (Bytes × Value)
  | [] => []
  | (k, child) :: rest =>
    (k, if isSensitiveKey k then .null else bare child) :: bareMembers rest

end

mutual

theorem redactValue_bare (v : Value) : redactValue (bare v) = redactValue v := by
  cases v with
  | array items => rw [bare, redactValue, redactValue, redactItems_bare items]
  | object members => rw [bare, redactValue, redactValue, redactMembers_bare members]
  | _ => rw [bare] <;> simp

theorem redactItems_bare (items : List Value) : redactItems (bareItems items) = redactItems items := by
  cases items with
  | nil => rfl
  | cons v rest =>
    rw [bareItems, redactItems, redactItems, redactValue_bare v, redactItems_bare rest]

theorem redactMembers_bare (members : List (Bytes × Value)) :
    redactMembers (bareMembers members) = redactMembers members := by
  cases members with
  | nil => rfl
  | cons m rest =>
    obtain ⟨k, child⟩ := m
    rw [bareMembers, redactMembers, redactMembers, redactMembers_bare rest]
    by_cases sensitive : isSensitiveKey k
    · rw [if_pos sensitive, if_pos sensitive]
    · rw [if_neg sensitive, if_neg sensitive, if_neg sensitive, redactValue_bare child]

end

/-- Recordings that differ only under sensitive keys are the same once redacted. -/
def Indistinct (raw raw' : Bytes) : Prop :=
  ∀ v v', GoJson.unmarshal raw = some v → GoJson.unmarshal raw' = some v' →
    bare v = bare v' →
      redactContext raw = redactContext raw' ∧ redactRecording raw = redactRecording raw'

theorem unmarshal_valid {raw : Bytes} {v : Value} (read : GoJson.unmarshal raw = some v) :
    GoJson.valid raw = true ∧ redactContext raw = GoJson.marshal (redactValue v) := by
  have nonempty : raw ≠ [] := by
    rintro rfl
    have empty : (GoJson.unmarshal []).isSome = false := by decide +kernel
    rw [read] at empty
    cases empty
  refine ⟨?_, by rw [redactContext, if_neg nonempty, read]⟩
  rw [GoJson.unmarshal] at read
  obtain ⟨document, scanned, -⟩ := Option.bind_eq_some_iff.mp read
  rw [GoJson.valid, scanned]
  rfl

end Opslane.Masking
