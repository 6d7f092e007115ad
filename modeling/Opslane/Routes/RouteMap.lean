import Opslane.Jobs.Queue
import Opslane.Lib.EntryMap

/-!
# The route map

`upsertRouteMapRows` of `packages/worker/src/db.ts` stores one classification of a project's routes
while it holds the lease of the job. Several patterns can have one canonical form; of the classified
rows of one form the first of widest reach is stored, and a pattern that was not classified is stored
as a placeholder where no row has its form.
-/

namespace Opslane.Routes

open Opslane.Jobs

inductive RouteTier where
  | customer | standard | admin
  deriving DecidableEq

structure RouteMapRow where
  pattern : String
  name : String
  purpose : String
  tier : RouteTier
  deriving DecidableEq

/-- The column `source`. -/
inductive RouteSource where
  | llm | llmUnresolved | human
  | other (source : String)
  deriving DecidableEq

/-- A row of `route_map`. -/
structure RouteRecord where
  projectID : UUID
  pattern : String
  name : String
  purpose : String
  tier : RouteTier
  source : RouteSource
  createdAt : Timestamp
  updatedAt : Timestamp
  deriving DecidableEq

def RouteRecord.key (r : RouteRecord) : UUID × String := (r.projectID, r.pattern)

abbrev RouteMap := Table RouteRecord.key

/-- A text without these letters at its front, in upper or lower case. -/
def afterLetters : List Char → List Char → Option (List Char)
  | [], text => some text
  | _ :: _, [] => none
  | letter :: letters, c :: text =>
    if c.toLower = letter then afterLetters letters text else none

/-- What follows `https?:\/\/` at the front. -/
def afterScheme (text : List Char) : Option (List Char) :=
  (afterLetters "http".toList text).bind fun rest =>
    match afterLetters "s".toList rest with
    | some rest => afterLetters "://".toList rest
    | none => afterLetters "://".toList rest

def canonicalPattern (pattern : String) : String :=
  let stripped := match afterScheme pattern.toList with
    | some rest => String.ofList (rest.dropWhile (· ≠ '/'))
    | none => pattern
  if stripped = "" then "/" else stripped

example : canonicalPattern "HTTPS://app.test/orders/:id" = "/orders/:id" := by decide +kernel

example : canonicalPattern "https://app.test" = "/" := by decide +kernel

def reach : RouteTier → Nat
  | .customer => 2
  | .standard => 1
  | .admin => 0

/-- A row and its source. -/
abbrev Entry := RouteMapRow × RouteSource

/-- Within the classified set, the widest reach wins a canonical collision. -/
def classify (byCanonical : EntryMap String Entry) (row : RouteMapRow) : EntryMap String Entry :=
  let pattern := canonicalPattern row.pattern
  let set := byCanonical.set pattern ({ row with pattern }, .llm)
  match byCanonical.get? pattern with
  | none => set
  | some previous => if reach previous.1.tier < reach row.tier then set else byCanonical

def placeholder (canonical : String) : Entry := (⟨canonical, canonical, "unclassified", .standard⟩, .llmUnresolved)

def addUnresolved (byCanonical : EntryMap String Entry) (pattern : String) : EntryMap String Entry :=
  let canonical := canonicalPattern pattern
  if (byCanonical.get? canonical).isSome then byCanonical
  else byCanonical.set canonical (placeholder canonical)

/-- Classified rows first, so an unresolved entry can never displace one. -/
def byCanonical (rows : List RouteMapRow) (unresolved : List String) : EntryMap String Entry :=
  unresolved.foldl addUnresolved (rows.foldl classify .empty)

def inserted (projectID : UUID) (now : Timestamp) (entry : Entry) : RouteRecord where
  projectID
  pattern := entry.1.pattern
  name := entry.1.name
  purpose := entry.1.purpose
  tier := entry.1.tier
  source := entry.2
  createdAt := now
  updatedAt := now

/-- `DO UPDATE`, where the row is not a human one. -/
def overwritten (now : Timestamp) (entry : Entry) (r : RouteRecord) : RouteRecord :=
  if r.source = .human then r
  else { r with
    name := entry.1.name
    purpose := entry.1.purpose
    tier := entry.1.tier
    source := entry.2
    updatedAt := now }

theorem overwritten_key (now : Timestamp) (entry : Entry) (r : RouteRecord) :
    (overwritten now entry r).key = r.key := by
  unfold overwritten
  split <;> rfl

def write (projectID : UUID) (now : Timestamp) (map : RouteMap) (entry : Entry) : RouteMap :=
  map.upsert (inserted projectID now entry) (overwritten now entry) (overwritten_key now entry)

structure UpsertArgs where
  projectID : UUID
  jobID : UUID
  workerID : String
  leaseGeneration : Nat
  deriving DecidableEq

/-- The statement that locks the job. -/
def leased (jobs : JobTable) (args : UpsertArgs) (now : Timestamp) : Bool :=
  (jobs.select fun j => j.Owned args.jobID args.workerID args.leaseGeneration now ∧
    j.projectID = args.projectID) ≠ []

/-- The route map afterwards, and what is answered; nothing where the transaction fails, as it does
when the database refuses a row. -/
def upsertRouteMapRows (refuses : Entry → Bool) (jobs : JobTable) (map : RouteMap) (args : UpsertArgs)
    (now : Timestamp) (rows : List RouteMapRow) (unresolved : List String) : RouteMap × Option Bool :=
  if leased jobs args now then
    let entries := (byCanonical rows unresolved).values
    if entries.any refuses then (map, none)
    else (entries.foldl (write args.projectID now) map, some true)
  else (map, some false)

end Opslane.Routes
