import Opslane.Auth.IngestUrl
import Opslane.Lib.BitText
import Opslane.Lib.GoJson
import Opslane.Lib.GoTime

/-!
# The payload of a source-map key

Where the uploads of a key go, sealed into the key: a JSON object of a version, a moment and a
canonical URL, in base64. Decoding takes nothing but these three fields, each once.
-/

namespace Opslane.Auth

open JsonReader (code codes expect enclosed skipSpace)
open GoJson (RawDocument)

structure SKPayload where
  v : Int
  iat : Bytes
  url : Bytes
  deriving DecidableEq

def fieldV : Bytes := Bytes.ascii "v"

def fieldIat : Bytes := Bytes.ascii "iat"

def fieldUrl : Bytes := Bytes.ascii "url"

def SKPayload.text (p : SKPayload) : Codes :=
  codes "\x7b\"v\":" ++ codes (toString p.v) ++ codes ",\"iat\":" ++ GoJson.quote p.iat
    ++ codes ",\"url\":" ++ GoJson.quote p.url ++ codes "\x7d"

def encodeSKPayload (canonicalURL : Bytes) (iat : GoTime.UtcTime) : Except KeyError Bytes :=
  if canonicalIngestURL canonicalURL = .ok canonicalURL then
    let payload : SKPayload := { v := 1, iat := iat.format, url := canonicalURL }
    .ok (BitText.base64url.encode (payload.text.map Nat.toUInt8))
  else .error .urlNotCanonical

/-- Line ends are passed over. -/
def decodeBase64 (segment : Bytes) : Option Bytes :=
  BitText.base64url.decode (segment.filter fun b => b ≠ GoStrings.byte '\r' ∧ b ≠ GoStrings.byte '\n')

/-- `dec.Decode` into a `json.RawMessage`. -/
def rawValue (text : Codes) : Except KeyError (RawDocument × Codes) :=
  match (GoJson.grammarOf GoJson.numberLiteral).value (GoJson.maxNestingDepth + 1) text with
  | .error _ => .error .badJson
  | .ok (value, rest) => if value.height ≤ GoJson.maxNestingDepth then .ok (value, rest) else .error .badJson

/-- A key that has not been read before, and its value. -/
def strictMember (before : List (Bytes × RawDocument)) (text : Codes) :
    Except KeyError ((Bytes × RawDocument) × Codes) :=
  if text.head? = some (code '"') then
    match GoJson.stringFrom text.length (text.drop 1) with
    | none => .error .badJson
    | some (key, rest) =>
      if key ∈ before.map Prod.fst then .error (.duplicateField key)
      else do
        let rest ← expect .badJson (code ':') (skipSpace rest)
        let (value, rest) ← rawValue (skipSpace rest)
        return ((key, value), rest)
  else .error .badJson

def walkStrictObject (body : Bytes) : Except KeyError (List (Bytes × RawDocument)) := do
  let rest ← expect .badJson (code '\x7b') (skipSpace (body.map UInt8.toNat))
  let (fields, rest) ← enclosed .badJson (code '\x7d') strictMember rest
  if skipSpace rest ≠ [] then .error .badJson
  else
    match [fieldV, fieldIat, fieldUrl].find? fun want => want ∉ fields.map Prod.fst with
    | some want => .error (.missingField want)
    | none => if fields.length = 3 then .ok fields else .error .unknownField

/-- `strconv.ParseInt` of the literal of a JSON number, as an `int`. -/
def parseInt (literal : Bytes) : Option Int :=
  let (negative, digits) :=
    match literal with
    | b :: rest => if b = GoStrings.byte '-' then (true, rest) else (false, literal)
    | [] => (false, [])
  if digits = [] ∨ !digits.all GoStrings.isDigit then none
  else
    let n : Int := if negative then -(decimalValue digits : Nat) else (decimalValue digits : Nat)
    if -2 ^ 63 ≤ n ∧ n < 2 ^ 63 then some n else none

/-- `json.Unmarshal` into an `int`; `null` leaves it zero. -/
def unmarshalInt : RawDocument → Option Int
  | .null => some 0
  | .number (literal, _) => parseInt literal
  | _ => none

/-- `json.Unmarshal` into a `string`. -/
def unmarshalString : RawDocument → Option Bytes
  | .null => some []
  | .string s => some s
  | _ => none

def field {τ : Type} (fields : List (Bytes × RawDocument)) (name : Bytes) (unmarshal : RawDocument → Option τ) :
    Except KeyError τ :=
  match (fields.lookup name).bind unmarshal with
  | some value => .ok value
  | none => .error (.badFieldType name)

def parseSKPayload (segment : Bytes) : Except KeyError SKPayload :=
  if segment = [] then .error .emptyPayload
  else
    match decodeBase64 segment with
    | none => .error .badBase64
    | some body => do
      let fields ← walkStrictObject body
      let v ← field fields fieldV unmarshalInt
      let iat ← field fields fieldIat unmarshalString
      let url ← field fields fieldUrl unmarshalString
      if v ≠ 1 then .error (.badVersion v)
      else if GoTime.parseRFC3339 iat = none ∨ iat.getLast? ≠ some (GoStrings.byte 'Z') then .error .badIat
      else
        let canonical ← canonicalIngestURL url
        if canonical ≠ url then .error .urlNotCanonical else .ok { v, iat, url }

theorem unescaped_format (t : GoTime.UtcTime) : ∀ b ∈ t.format, GoJson.Unescaped b.toNat := by
  have digit : ∀ b, GoTime.isDigit b = true → GoJson.Unescaped b.toNat := Bytes.forall_byte (by decide +kernel)
  have number (count n : Nat) : ∀ b ∈ GoTime.padded count n, GoJson.Unescaped b.toNat := fun b member =>
    digit b (GoTime.isDigit_padded count n b member)
  have marks : (∀ b ∈ Bytes.ascii "-", GoJson.Unescaped b.toNat) ∧ (∀ b ∈ Bytes.ascii "T", GoJson.Unescaped b.toNat) ∧
      (∀ b ∈ Bytes.ascii ":", GoJson.Unescaped b.toNat) ∧ ∀ b ∈ Bytes.ascii "Z", GoJson.Unescaped b.toNat :=
    ⟨Bytes.forall_mem (by decide +kernel), Bytes.forall_mem (by decide +kernel), Bytes.forall_mem (by decide +kernel),
      Bytes.forall_mem (by decide +kernel)⟩
  unfold GoTime.UtcTime.format
  simp only [List.forall_mem_append]
  exact ⟨number _ _, marks.1, number _ _, marks.1, number _ _, marks.2.1, number _ _, marks.2.2.1, number _ _,
    marks.2.2.1, number _ _, marks.2.2.2⟩

theorem printable_format (t : GoTime.UtcTime) : ∀ b ∈ t.format, GoJson.Printable b.toNat :=
  fun b member => (unescaped_format t b member).1

theorem head_quote (s : Bytes) (rest : Codes) : (GoJson.quote s ++ rest).head? = some (code '"') := rfl

theorem rawValue_string {value : Bytes} (plain : ∀ b ∈ value, GoJson.Printable b.toNat) (rest : Codes) :
    rawValue (GoJson.quote value ++ rest) = .ok (.string value, rest) := by
  have string : (GoJson.grammarOf GoJson.numberLiteral).string (GoJson.quote value ++ rest) = .ok (value, rest) := by
    show GoJson.refused _ = _
    rw [GoJson.stringFrom_quote plain]
    rfl
  have read : (GoJson.grammarOf GoJson.numberLiteral).value (GoJson.maxNestingDepth + 1)
      (GoJson.quote value ++ rest) = .ok (.string value, rest) := by
    rw [GoJson.quote, List.cons_append, List.cons_append] at string ⊢
    rw [JsonReader.Grammar.value, if_neg (by decide), if_neg (by decide), if_pos rfl, string]
    rfl
  rw [rawValue, read]
  rfl

theorem strictMember_quote {before : List (Bytes × RawDocument)} {name : Bytes} {first : Nat} {text rest : Codes}
    {value : RawDocument} (fresh : name ∉ before.map Prod.fst) (plain : ∀ b ∈ name, GoJson.Printable b.toNat)
    (visible : JsonReader.isSpace first = false) (read : rawValue (first :: text) = .ok (value, rest)) :
    strictMember before (GoJson.quote name ++ (code ':' :: first :: text)) = .ok ((name, value), rest) := by
  have colon : JsonReader.isSpace (code ':') = false := by decide
  rw [strictMember, head_quote, GoJson.stringFrom_quote plain]
  simp only [if_true, if_neg fresh, JsonReader.skipSpace_cons colon, expect, bind, Except.bind,
    JsonReader.skipSpace_cons visible, read]
  rfl

theorem rawValue_one (rest : Codes) :
    rawValue (code '1' :: code ',' :: rest) = .ok (.number (Bytes.ascii "1", ⟨false, 1, 0⟩), code ',' :: rest) := by
  have literal : GoJson.numberLiteral (code '1' :: code ',' :: rest) =
      some ((Bytes.ascii "1", ⟨false, 1, 0⟩), code ',' :: rest) := by
    have number : GoJson.number (code '1' :: code ',' :: rest) = some (⟨false, 1, 0⟩, code ',' :: rest) := rfl
    have one : (code '1' :: code ',' :: rest).length - (code ',' :: rest).length = 1 := by
      rw [List.length_cons]
      omega
    rw [GoJson.numberLiteral, number]
    simp only [Option.map_some, one]
    rfl
  have read : (GoJson.grammarOf GoJson.numberLiteral).number (code '1' :: code ',' :: rest) =
      .ok ((Bytes.ascii "1", ⟨false, 1, 0⟩), code ',' :: rest) := by
    show GoJson.refused (GoJson.numberLiteral (code '1' :: code ',' :: rest)) = _
    rw [literal]
    rfl
  rw [rawValue, JsonReader.Grammar.value, if_neg (by decide), if_neg (by decide), if_neg (by decide), if_neg (by decide),
    if_neg (by decide), if_neg (by decide), if_pos (by decide), read]
  rfl

theorem walkStrictObject_text {iat url : Bytes} (plainIat : ∀ b ∈ iat, GoJson.Printable b.toNat)
    (plainUrl : ∀ b ∈ url, GoJson.Printable b.toNat) :
    walkStrictObject (({ v := 1, iat, url } : SKPayload).text.map Nat.toUInt8) =
      .ok [(fieldV, .number (Bytes.ascii "1", ⟨false, 1, 0⟩)), (fieldIat, .string iat), (fieldUrl, .string url)] := by
  have plainNames : (∀ b ∈ fieldV, GoJson.Printable b.toNat) ∧ (∀ b ∈ fieldIat, GoJson.Printable b.toNat) ∧
      ∀ b ∈ fieldUrl, GoJson.Printable b.toNat :=
    ⟨Bytes.forall_mem (by decide +kernel), Bytes.forall_mem (by decide +kernel), Bytes.forall_mem (by decide +kernel)⟩
  let urlMember : Codes := GoJson.quote fieldUrl ++ (code ':' :: (GoJson.quote url ++ [code '\x7d']))
  let iatMember : Codes := GoJson.quote fieldIat ++ (code ':' :: (GoJson.quote iat ++ (code ',' :: urlMember)))
  let inside : Codes := GoJson.quote fieldV ++ (code ':' :: code '1' :: code ',' :: iatMember)
  have text_ : ({ v := 1, iat, url } : SKPayload).text = code '\x7b' :: inside := by
    have front : codes "\x7b\"v\":" ++ codes (toString (1 : Int)) ++ codes ",\"iat\":" =
        code '\x7b' :: (GoJson.quote fieldV ++ (code ':' :: code '1' :: code ',' :: (GoJson.quote fieldIat ++ [code ':']))) := by
      decide
    have middle : codes ",\"url\":" = code ',' :: (GoJson.quote fieldUrl ++ [code ':']) := by decide
    rw [SKPayload.text, front, middle]
    simp [inside, iatMember, urlMember, codes]
  have small : ∀ c ∈ code '\x7b' :: inside, c < 0x80 := by
    have quoted := GoJson.quote_lt plainUrl
    have quoted' := GoJson.quote_lt plainIat
    have names : (∀ c ∈ GoJson.quote fieldV, c < 0x80) ∧ (∀ c ∈ GoJson.quote fieldIat, c < 0x80) ∧
        ∀ c ∈ GoJson.quote fieldUrl, c < 0x80 := by decide
    have urlSmall : ∀ c ∈ urlMember, c < 0x80 := List.forall_mem_append.mpr
      ⟨names.2.2, List.forall_mem_cons.mpr ⟨by decide, List.forall_mem_append.mpr ⟨quoted, by decide⟩⟩⟩
    have iatSmall : ∀ c ∈ iatMember, c < 0x80 := List.forall_mem_append.mpr
      ⟨names.2.1, List.forall_mem_cons.mpr ⟨by decide, List.forall_mem_append.mpr
        ⟨quoted', List.forall_mem_cons.mpr ⟨by decide, urlSmall⟩⟩⟩⟩
    refine List.forall_mem_cons.mpr ⟨by decide, List.forall_mem_append.mpr ⟨names.1, ?_⟩⟩
    exact List.forall_mem_cons.mpr ⟨by decide, List.forall_mem_cons.mpr ⟨by decide,
      List.forall_mem_cons.mpr ⟨by decide, iatSmall⟩⟩⟩
  have bytes : ((code '\x7b' :: inside).map Nat.toUInt8).map UInt8.toNat = code '\x7b' :: inside := by
    rw [List.map_map]
    refine (List.map_congr_left fun c member => ?_).trans (List.map_id _)
    exact Nat.mod_eq_of_lt (Nat.lt_trans (small c member) (by decide))
  have brace : JsonReader.isSpace (code '\x7b') = false := by decide
  have closing : JsonReader.isSpace (code '\x7d') = false := by decide
  have quote_ : JsonReader.isSpace (code '"') = false := by decide
  have first : strictMember [] inside = .ok ((fieldV, .number (Bytes.ascii "1", ⟨false, 1, 0⟩)), code ',' :: iatMember) :=
    strictMember_quote (by decide) plainNames.1 (by decide) (rawValue_one _)
  have second : strictMember [(fieldV, .number (Bytes.ascii "1", ⟨false, 1, 0⟩))] iatMember =
      .ok ((fieldIat, .string iat), code ',' :: urlMember) :=
    strictMember_quote (by decide) plainNames.2.1 quote_ (rawValue_string plainIat _)
  have third : strictMember [(fieldV, .number (Bytes.ascii "1", ⟨false, 1, 0⟩)), (fieldIat, .string iat)] urlMember =
      .ok ((fieldUrl, .string url), [code '\x7d']) :=
    strictMember_quote (show fieldUrl ∉ [fieldV, fieldIat] by decide) plainNames.2.2 quote_ (rawValue_string plainUrl _)
  have other : code ',' ≠ code '\x7d' := by decide
  have skipIat : skipSpace iatMember = iatMember := JsonReader.skipSpace_cons quote_ _
  have skipUrl : skipSpace urlMember = urlMember := JsonReader.skipSpace_cons quote_ _
  have read : enclosed .badJson (code '\x7d') strictMember inside =
      .ok ([(fieldV, .number (Bytes.ascii "1", ⟨false, 1, 0⟩)), (fieldIat, .string iat), (fieldUrl, .string url)], []) := by
    obtain ⟨more, long⟩ : ∃ more, inside = code '"' :: more := ⟨_, rfl⟩
    obtain ⟨fuel, enough⟩ : ∃ fuel, more.length + 2 = fuel + 3 := by
      have length := congrArg List.length long
      simp only [inside, List.length_append, List.length_cons] at length
      exact ⟨more.length - 1, by omega⟩
    have spelled : skipSpace inside = code '"' :: more := by
      rw [long]
      exact JsonReader.skipSpace_cons quote_ _
    rw [enclosed, spelled]
    dsimp only
    rw [if_neg (by decide), enough, ← long, JsonReader.elements_comma other first, skipIat,
      List.nil_append, JsonReader.elements_comma other second, skipUrl, List.cons_append, List.nil_append,
      JsonReader.elements_closing closing third]
    rfl
  rw [text_, walkStrictObject, bytes, JsonReader.skipSpace_cons brace]
  simp only [expect, if_true, bind, Except.bind, read]
  rfl

theorem decodeBase64_encode (body : Bytes) : decodeBase64 (BitText.base64url.encode body) = some body := by
  have letters : ∀ b ∈ BitText.base64url.letters, b ≠ GoStrings.byte '\r' ∧ b ≠ GoStrings.byte '\n' :=
    Bytes.forall_mem (by decide +kernel)
  have kept : (BitText.base64url.encode body).filter (fun b => b ≠ GoStrings.byte '\r' ∧ b ≠ GoStrings.byte '\n') =
      BitText.base64url.encode body :=
    List.filter_eq_self.mpr fun b member =>
      decide_eq_true (letters b (BitText.Alphabet.mem_letters_of_mem_encode member))
  rw [decodeBase64, kept, BitText.Alphabet.decode_encode]

theorem canonicalIngestURL_printable {raw canonical : Bytes} (accepted : canonicalIngestURL raw = .ok canonical) :
    ∀ b ∈ canonical, GoJson.Printable b.toNat := by
  obtain ⟨u, admitted, rfl⟩ := canonicalIngestURL_eq_ok.mp accepted
  have normal := admitted.normal
  have inHost : ∀ b, b < 0x80 → NetUrl.Decoded .zone b → GoJson.Printable b.toNat :=
    Bytes.forall_byte (by decide +kernel)
  have digit : ∀ b, NetUrl.isDigit b = true → GoJson.Printable b.toNat := Bytes.forall_byte (by decide +kernel)
  have schemes : (∀ b ∈ https, GoJson.Printable b.toNat) ∧ ∀ b ∈ http, GoJson.Printable b.toNat :=
    ⟨Bytes.forall_mem (by decide +kernel), Bytes.forall_mem (by decide +kernel)⟩
  have scheme : ∀ b ∈ GoStrings.toLower u.scheme, GoJson.Printable b.toNat := by
    rcases normal.allowed with same | ⟨same, -⟩
    · rw [same]
      exact schemes.1
    · rw [same]
      exact schemes.2
  have host : ∀ b ∈ GoStrings.toLower u.hostname, GoJson.Printable b.toNat := fun b member =>
    inHost b (normal.small b member).1 (normal.decoded b member)
  have port : ∀ b ∈ NetUrl.portText (writtenPort (GoStrings.toLower u.scheme) u.port), GoJson.Printable b.toNat := by
    intro b member
    rcases NetUrl.isDigit_of_mem_port normal.validOptionalPort member with rfl | isDigit
    · decide
    · exact digit b isDigit
  unfold canonicalOf hostport
  refine List.forall_mem_append.mpr ⟨List.forall_mem_append.mpr ⟨scheme, by decide +kernel⟩,
    List.forall_mem_append.mpr ⟨?_, port⟩⟩
  split_ifs
  · exact List.forall_mem_cons.mpr ⟨by decide, List.forall_mem_append.mpr ⟨host, by decide +kernel⟩⟩
  · exact host

theorem parseSKPayload_encode {canonical segment : Bytes} {iat : GoTime.UtcTime}
    (sealed_ : encodeSKPayload canonical iat = .ok segment) :
    parseSKPayload segment = .ok { v := 1, iat := iat.format, url := canonical } := by
  unfold encodeSKPayload at sealed_
  split_ifs at sealed_ with idempotent
  obtain rfl := Except.ok.inj sealed_
  have walked := walkStrictObject_text (printable_format iat) (canonicalIngestURL_printable idempotent)
  generalize body_ : ({ v := 1, iat := iat.format, url := canonical } : SKPayload).text.map Nat.toUInt8 = body
    at walked ⊢
  have nonempty : BitText.base64url.encode body ≠ [] := by
    intro empty
    have decoded := decodeBase64_encode body
    rw [empty] at decoded
    obtain rfl := Option.some.inj (decoded.symm.trans (show decodeBase64 [] = some [] by decide +kernel))
    cases body_
  obtain ⟨moment, timed⟩ := GoTime.parseRFC3339_format iat
  have zulu : iat.format.getLast? = some (GoStrings.byte 'Z') := by
    unfold GoTime.UtcTime.format
    simp only [List.getLast?_append]
    rfl
  have version : field [(fieldV, .number (Bytes.ascii "1", ⟨false, 1, 0⟩)), (fieldIat, .string iat.format),
      (fieldUrl, .string canonical)] fieldV unmarshalInt = .ok 1 := rfl
  have moment_ : field [(fieldV, .number (Bytes.ascii "1", ⟨false, 1, 0⟩)), (fieldIat, .string iat.format),
      (fieldUrl, .string canonical)] fieldIat unmarshalString = .ok iat.format := rfl
  have url_ : field [(fieldV, .number (Bytes.ascii "1", ⟨false, 1, 0⟩)), (fieldIat, .string iat.format),
      (fieldUrl, .string canonical)] fieldUrl unmarshalString = .ok canonical := rfl
  rw [parseSKPayload, if_neg nonempty, decodeBase64_encode]
  simp only [walked, bind, Except.bind, version, moment_, url_, timed, zulu, idempotent, ne_eq, not_true_eq_false,
    reduceCtorEq, or_self, if_false]

end Opslane.Auth
