import Opslane.Auth.SealedPayload

/-!
# Project keys

A key is a prefix for its scope, an id, a secret and, where source maps are uploaded, the sealed
destination. It is minted without a look at its length, which the parser bounds before anything
else.
-/

namespace Opslane.Auth

inductive Scope where
  | ingest | sourcemaps | api
  deriving DecidableEq

def prefixIngest : Bytes := Bytes.ascii "opslane_pk"

def prefixSourcemaps : Bytes := Bytes.ascii "opslane_sk"

def prefixAPI : Bytes := Bytes.ascii "opslane_ak"

def prefixForScope : Scope → Bytes
  | .ingest => prefixIngest
  | .sourcemaps => prefixSourcemaps
  | .api => prefixAPI

def scopeForPrefix (keyPrefix : Bytes) : Option Scope :=
  if keyPrefix = prefixIngest then some .ingest
  else if keyPrefix = prefixSourcemaps then some .sourcemaps
  else if keyPrefix = prefixAPI then some .api
  else none

def maxRawKeyLen : Nat := 4096

def keyIDLen : Nat := 26

def secretLen : Nat := 43

def secretEnd : Nat := prefixSourcemaps.length + 1 + keyIDLen + 1 + secretLen

def underscore : UInt8 := GoStrings.byte '_'

/-- What a key is made from: `keyIDBytes` and `secretBytes` of randomness. -/
structure KeyRandomness where
  idRaw : Bytes
  secretRaw : Bytes
  length_idRaw : idRaw.length = 16
  length_secretRaw : secretRaw.length = 32

structure MintedProjectKey where
  keyID : Bytes
  scope : Scope
  tokenPrefix : Bytes
  raw : Bytes
  deriving DecidableEq

inductive MintError where
  | endpointRequired
  | endpointNotAllowed
  | key (e : KeyError)
  deriving DecidableEq

def mintedKeyID (random : KeyRandomness) : Bytes := GoStrings.toLower (BitText.base32.encode random.idRaw)

def mintedSecret (random : KeyRandomness) : Bytes := BitText.base64url.encode random.secretRaw

def bareKey (scope : Scope) (random : KeyRandomness) : Bytes :=
  prefixForScope scope ++ (underscore :: (mintedKeyID random ++ (underscore :: mintedSecret random)))

/-- What follows the secret: nothing, or the destination of a source-map key. -/
def sealedEnd (scope : Scope) (endpoint : Bytes) (now : GoTime.UtcTime) : Except KeyError Bytes :=
  match scope with
  | .sourcemaps => do
    let canonical ← canonicalIngestURL endpoint
    let payload ← encodeSKPayload canonical now
    return underscore :: payload
  | .ingest | .api => return []

def newProjectKey (scope : Scope) (endpoint : Bytes) (random : KeyRandomness) (now : GoTime.UtcTime) :
    Except MintError MintedProjectKey :=
  if scope = .sourcemaps ∧ endpoint = [] then .error .endpointRequired
  else if scope ≠ .sourcemaps ∧ endpoint ≠ [] then .error .endpointNotAllowed
  else
    match sealedEnd scope endpoint now with
    | .error e => .error (.key e)
    | .ok end_ => .ok {
        keyID := mintedKeyID random
        scope
        tokenPrefix := prefixForScope scope
        raw := bareKey scope random ++ end_ }

structure ParsedProjectKey where
  keyID : Bytes
  secret : Bytes
  scope : Scope
  deriving DecidableEq

/-- `^[a-z2-7]{26}$` -/
def isKeyID (text : Bytes) : Bool :=
  text.length = keyIDLen && text.all fun b =>
    GoStrings.isLower b || (GoStrings.byte '2' ≤ b && b ≤ GoStrings.byte '7')

/-- `^[A-Za-z0-9_-]{43}$` -/
def isSecret (text : Bytes) : Bool :=
  text.length = secretLen && text.all fun b =>
    GoStrings.isLetter b || GoStrings.isDigit b || b == underscore || b == GoStrings.byte '-'

def beforeUnderscore (text : Bytes) : Option (Bytes × Bytes) :=
  match NetUrl.cut underscore text with
  | (front, some back) => some (front, back)
  | (_, none) => none

/-- Whether what follows the secret may stand in a key of the scope. -/
def validEnd (scope : Scope) : Bytes → Bool
  | [] => true
  | b :: payload =>
    b == underscore && scope == .sourcemaps &&
      match parseSKPayload payload with
      | .ok _ => true
      | .error _ => false

/-- Every refusal is the same. -/
def parseProjectKey (raw : Bytes) : Option ParsedProjectKey :=
  if maxRawKeyLen < raw.length then none
  else do
    let (first, rest) ← beforeUnderscore raw
    let (second, rest) ← beforeUnderscore rest
    let (keyID, remainder) ← beforeUnderscore rest
    let scope ← scopeForPrefix (first ++ underscore :: second)
    if !isKeyID keyID then none
    else
      let secret := remainder.take secretLen
      if remainder.length < secretLen ∨ !isSecret secret then none
      else if validEnd scope (remainder.drop secretLen) then some { keyID, secret, scope }
      else none

/-- The destination that the client reads from a key. -/
def sealedURL (raw : Bytes) : Except KeyError Bytes :=
  (parseSKPayload (raw.drop (secretEnd + 1))).map SKPayload.url

end Opslane.Auth
