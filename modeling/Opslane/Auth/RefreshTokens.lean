import Opslane.Lib.Table
import Opslane.Lib.Transition
import Opslane.Schema

/-!
# Refresh tokens

A session is a chain of refresh tokens of one family: a request hands in a token and is given the
next one. The token is stored as a hash, and handing it in only marks its row. Each statement below
commits by itself, so a request that has consumed a token and not yet stored the next one is in
flight, and other requests run in between.
-/

namespace Opslane.Auth

/-- A row of `refresh_tokens`. -/
structure RefreshToken where
  userID : UUID
  tokenHash : String
  familyID : UUID
  orgID : Option UUID
  expiresAt : Timestamp
  revokedAt : Option Timestamp := none
  deriving DecidableEq

/-- The unique constraint on `token_hash`. -/
abbrev TokenTable := Table RefreshToken.tokenHash

def second : Int := 1000000

def day : Int := 24 * 3600 * second

def refreshTokenTTL : Int := 30 * day

def RefreshToken.revoke (now : Timestamp) (r : RefreshToken) : RefreshToken :=
  { r with revokedAt := some now }

@[simp] theorem RefreshToken.revoke_tokenHash (now : Timestamp) (r : RefreshToken) :
    (r.revoke now).tokenHash = r.tokenHash := rfl

@[simp] theorem RefreshToken.revoke_revokedAt (now : Timestamp) (r : RefreshToken) :
    (r.revoke now).revokedAt = some now := rfl

section Statements

variable (tokens : TokenTable)

def StoreRefreshToken (userID : UUID) (tokenHash : String) (familyID : UUID) (orgID : Option UUID)
    (expiresAt : Timestamp) : Option TokenTable :=
  tokens.insert? { userID, tokenHash, familyID, orgID, expiresAt }

def RefreshToken.Consumable (tokenHash : String) (now : Timestamp) (r : RefreshToken) : Prop :=
  r.tokenHash = tokenHash ∧ now < r.expiresAt ∧ r.revokedAt = none
  deriving Decidable

/-- The first statement of `ConsumeRefreshToken`: the row it marks, and the table after. -/
def consumeRow (tokenHash : String) (now : Timestamp) : TokenTable × Option RefreshToken :=
  (tokens.updateWhere (fun r => r.Consumable tokenHash now) (RefreshToken.revoke now) fun _ => rfl,
    (tokens.select fun r => r.Consumable tokenHash now).head?)

/-- The second statement of `ConsumeRefreshToken`: the family of a token that was handed in
before, five seconds ago or more. -/
def reusedFamily (tokenHash : String) (now : Timestamp) : Option UUID :=
  ((tokens.select fun r =>
    r.tokenHash = tokenHash ∧ r.revokedAt.any (· < now - 5 * second)).head?).map (·.familyID)

/-- The third statement of `ConsumeRefreshToken`. -/
def revokeFamily (familyID : UUID) (now : Timestamp) : TokenTable :=
  tokens.updateWhere (fun r => r.familyID = familyID ∧ r.revokedAt = none) (RefreshToken.revoke now)
    fun _ => rfl

def RevokeAllUserRefreshTokens (userID : UUID) (now : Timestamp) : TokenTable :=
  tokens.updateWhere (fun r => r.userID = userID ∧ r.revokedAt = none) (RefreshToken.revoke now)
    fun _ => rfl

def CleanupExpiredTokens (now : Timestamp) : TokenTable :=
  tokens.deleteWhere fun r => r.revokedAt.any (· < now - day) ∨ r.expiresAt < now - day

end Statements

/-- Who hands a token in: `Refresh`, or `SwitchOrg` for a signed-in user and the organization
they move to. -/
inductive Rotation where
  | refresh
  | switchOrg (userID orgID : UUID)
  deriving DecidableEq

/-- Where a request stands between two of its statements. -/
inductive Progress where
  | consuming (rotation : Rotation) (tokenHash : String)
  /-- The update marked no row. -/
  | missed (tokenHash : String)
  | reused (familyID : UUID)
  /-- This token is consumed, its successor is not stored yet. -/
  | minting (rotation : Rotation) (token : RefreshToken)
  deriving DecidableEq

/-- The organization the next token of a `Refresh` carries: a switched-into organization is kept
while the user is still a member of it. `none` is a failed membership lookup. -/
def refreshOrg (cloudAuthEnabled : Bool) (home : UUID) (carried : Option UUID)
    (role : Option String) : Option UUID :=
  let orgID := carried.getD home
  if cloudAuthEnabled ∧ orgID ≠ home then
    role.map fun role => if role = "" then home else orgID
  else some orgID

/-- What has been answered to the clients. -/
inductive Event where
  | login (token : String)
  | consumed (token : RefreshToken)
  | exchanged (token : RefreshToken) (successor : String)
  /-- `ErrTokenReuse`. -/
  | reuse (familyID : UUID)
  | logout (userID : UUID)
  deriving DecidableEq

structure AuthStore where
  cloudAuthEnabled : Bool
  tokens : TokenTable
  clock : Timestamp
  requests : Nat → Option Progress
  /-- The latest event is the first. -/
  log : List Event
  /-- The hashes and the families that were ever in use. -/
  hashes : List String
  families : List UUID

namespace AuthStore

def put (s : AuthStore) (request : Nat) (progress : Option Progress) : AuthStore :=
  { s with requests := Function.update s.requests request progress }

end AuthStore

inductive Action where
  | tick (duration : Nat)
  /-- A sign-in, which opens a family. -/
  | login (userID : UUID) (tokenHash : String) (familyID : UUID) (orgID : Option UUID)
  | refresh (request : Nat) (tokenHash : String)
  | switchOrg (request : Nat) (userID orgID : UUID) (role : String) (tokenHash : String)
  | consume (request : Nat)
  | detectReuse (request : Nat)
  | revokeFamily (request : Nat) (succeeds : Bool)
  /-- `mintTokenPair`, with what the lookups of the user and the membership found. -/
  | mint (request : Nat) (home : UUID) (role : Option String) (tokenHash : String)
  /-- The request fails, or its process stops. -/
  | abandon (request : Nat)
  | logout (userID : UUID)
  | cleanup
  deriving DecidableEq

/-- The organization of the successor. -/
def Rotation.orgOf (s : AuthStore) (home : UUID) (token : RefreshToken) (role : Option String) :
    Rotation → Option UUID
  | .refresh => refreshOrg s.cloudAuthEnabled home token.orgID role
  | .switchOrg _ orgID => some orgID

/-- Whether the handler goes on to mint: `SwitchOrg` refuses a token of another user, which is
consumed by then. -/
def Rotation.accepts (token : RefreshToken) : Rotation → Bool
  | .refresh => true
  | .switchOrg userID _ => token.userID = userID

/-- A token is drawn from a cryptographic source and a family is a fresh uuid: a draw of one that
is in use already is not a step. -/
def authStep (s : AuthStore) : Action → AuthStore
  | .tick duration => { s with clock := s.clock + duration }
  | .login userID tokenHash familyID orgID =>
    if tokenHash ∈ s.hashes ∨ familyID ∈ s.families then s
    else
      match StoreRefreshToken s.tokens userID tokenHash familyID orgID
        (s.clock + refreshTokenTTL) with
      | none => s
      | some tokens =>
        { s with
          tokens, log := .login tokenHash :: s.log
          hashes := tokenHash :: s.hashes, families := familyID :: s.families }
  | .refresh request tokenHash =>
    if s.requests request = none then s.put request (some (.consuming .refresh tokenHash)) else s
  | .switchOrg request userID orgID role tokenHash =>
    if s.requests request = none ∧ s.cloudAuthEnabled ∧ role ≠ "" then
      s.put request (some (.consuming (.switchOrg userID orgID) tokenHash))
    else s
  | .consume request =>
    match s.requests request with
    | some (.consuming rotation tokenHash) =>
      match consumeRow s.tokens tokenHash s.clock with
      | (_, none) => s.put request (some (.missed tokenHash))
      | (tokens, some token) =>
        { s with tokens, log := .consumed token :: s.log }.put request
          (if rotation.accepts token then some (.minting rotation token) else none)
    | _ => s
  | .detectReuse request =>
    match s.requests request with
    | some (.missed tokenHash) =>
      s.put request ((reusedFamily s.tokens tokenHash s.clock).map .reused)
    | _ => s
  | .revokeFamily request succeeds =>
    match s.requests request with
    | some (.reused familyID) =>
      -- A failed update is logged and reported as a reuse all the same.
      { s with
        tokens := if succeeds then revokeFamily s.tokens familyID s.clock else s.tokens
        log := .reuse familyID :: s.log }.put request none
    | _ => s
  | .mint request home role tokenHash =>
    match s.requests request with
    | some (.minting rotation token) =>
      if tokenHash ∈ s.hashes then s
      else
        match rotation.orgOf s home token role with
        | none => s.put request none
        | some orgID =>
          match StoreRefreshToken s.tokens token.userID tokenHash token.familyID (some orgID)
            (s.clock + refreshTokenTTL) with
          | none => s.put request none
          | some tokens =>
            { s with
              tokens, log := .exchanged token tokenHash :: s.log
              hashes := tokenHash :: s.hashes }.put request none
    | _ => s
  | .abandon request => s.put request none
  | .logout userID =>
    { s with
      tokens := RevokeAllUserRefreshTokens s.tokens userID s.clock
      log := .logout userID :: s.log }
  | .cleanup => { s with tokens := CleanupExpiredTokens s.tokens s.clock }

def authMachine : Transition.Machine AuthStore Action := ⟨authStep⟩

/-- Before the first request: the tokens that are there, and nothing in flight. -/
def AuthStore.start (cloudAuthEnabled : Bool) (tokens : TokenTable) (now : Timestamp) : AuthStore where
  cloudAuthEnabled := cloudAuthEnabled
  tokens := tokens
  clock := now
  requests := fun _ => none
  log := []
  hashes := tokens.rows.map (·.tokenHash)
  families := tokens.rows.map (·.familyID)

end Opslane.Auth
