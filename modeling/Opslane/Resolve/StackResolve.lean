import Opslane.Jobs.Lease

/-!
# Stack resolution

An event's stack is resolved against the source maps of its project: `resolveEventStack` and
`runStackResolve` in `packages/worker/src`, and the statement `recordResolution` by which a
run publishes what it found. An event comes with its stack as `parseStackFrames` reads it and
the images of its `debug_meta`. What the object store, the position cache and the library
that reads a map answer is a parameter.
-/

namespace Opslane.Resolve

structure StackFrame where
  file : String
  line : Nat
  column : Nat
  deriving DecidableEq

/-- An element of `debug_meta.images`. -/
structure DebugImage where
  type : String
  codeFile : String
  debugID : String
  deriving DecidableEq

structure Event where
  id : UUID
  projectID : UUID
  frames : List StackFrame
  images : List DebugImage
  createdAt : Timestamp
  deriving DecidableEq

/-- A row of `sourcemap_files`. -/
structure SourceMapFile where
  projectID : UUID
  debugID : String
  contentSHA256 : String
  objectKey : String
  deriving DecidableEq

def SourceMapFile.key (f : SourceMapFile) : UUID × String := (f.projectID, f.debugID)

def isLowerHex (c : Char) : Bool := ('0' ≤ c ∧ c ≤ '9') ∨ ('a' ≤ c ∧ c ≤ 'f')

/-- `DEBUG_ID` -/
def isDebugID (value : String) : Bool :=
  let groups := value.toList.splitOn '-'
  groups.map List.length = [8, 4, 4, 4, 12] ∧ groups.all fun group => group.all isLowerHex

def parseImages (images : List DebugImage) : List DebugImage :=
  images.filter fun image => image.type = "sourcemap" ∧ isDebugID image.debugID

/-- Whether the event references any source map at all. -/
def hasDebugImages (e : Event) : Bool := parseImages e.images ≠ []

/-- The map `byCodeFile`: the last image of a file is the one it keeps. -/
def byCodeFile (images : List DebugImage) (file : String) : Option String :=
  ((parseImages images).reverse.find? fun image => image.codeFile = file).map DebugImage.debugID

def maxFrames : Nat := 10

/-- The frames whose file is in an image, with the debug id of that image. -/
def Event.matched (e : Event) : List (StackFrame × String) :=
  (e.frames.filterMap fun frame =>
    (byCodeFile e.images frame.file).map fun debugID => (frame, debugID)).take maxFrames

/-- The maps that the event needs. -/
def Event.debugIDs (e : Event) : List String := e.matched.map Prod.snd

theorem Event.mem_images_of_debugIDs {e : Event} {debugID : String} (needed : debugID ∈ e.debugIDs) :
    debugID ∈ e.images.map DebugImage.debugID := by
  obtain ⟨entry, member, rfl⟩ := List.mem_map.mp needed
  obtain ⟨frame, -, found⟩ := List.mem_filterMap.mp (List.mem_of_mem_take member)
  simp only [byCodeFile, Option.map_map, Option.map_eq_some_iff] at found
  obtain ⟨image, first, rfl⟩ := found
  have kept := List.mem_reverse.mp (List.mem_of_find?_eq_some first)
  exact List.mem_map_of_mem (List.mem_filter.mp kept).1

structure CachedPosition where
  originalFile : String
  originalFunction : String
  originalLine : Nat
  deriving DecidableEq

structure ResolvedFrame where
  originalFile : String
  originalFunction : String
  originalLine : Nat
  generatedLine : Nat
  generatedColumn : Nat
  deriving DecidableEq

def CachedPosition.resolved (position : CachedPosition) (frame : StackFrame) : ResolvedFrame where
  originalFile := position.originalFile
  originalFunction := position.originalFunction
  originalLine := position.originalLine
  generatedLine := frame.line
  generatedColumn := frame.column

/-- The functions on the text of a map. -/
structure MapReader where
  /-- The digest `computeDebugId` gives the text, if it can be fingerprinted. -/
  contentSHA256 : String → Option String
  resolveFrame : StackFrame → String → Option CachedPosition
  isParseableMap : String → Bool

/-- What the services answer while one frame is resolved. -/
structure FrameAnswers where
  /-- The position cache; it may be unreachable. -/
  lookupPosition : Except Unit (Option CachedPosition)
  /-- The object store answers. -/
  fetches : Bool
  /-- `storePosition` does not fail. -/
  stores : Bool
  deriving DecidableEq

inductive StackResolution where
  | resolved (identityFrames : List ResolvedFrame)
  | partlyResolved (identityFrames : List ResolvedFrame)
  | noDebugIDs | mapNotFound | invalidMap | resolutionFailed
  deriving DecidableEq

/-- The variables of the loop over the frames. -/
structure Resolving where
  mapCache : List (String × Option String) := []
  identityFrames : List ResolvedFrame := []
  fetchedAny : Bool := false
  sawValidMap : Bool := false

section Resolve

variable (reader : MapReader)

/-- The map of one object: each is fetched once, and one whose digest is not that of the row
counts as missing. -/
def Resolving.loadMap (r : Resolving) (row : SourceMapFile) (fetched : Option String) :
    Option String × Resolving :=
  match r.mapCache.lookup row.objectKey with
  | some mapContent => (mapContent, r)
  | none =>
    let mapContent := fetched.filter fun text => reader.contentSHA256 text = some row.contentSHA256
    (mapContent, { r with
      mapCache := (row.objectKey, mapContent) :: r.mapCache
      fetchedAny := r.fetchedAny || fetched.isSome })

/-- One turn of the loop. An error leaves the whole function. -/
def Resolving.frame (r : Resolving) (rows : List SourceMapFile) (fetchMap : String → Option String)
    (answers : FrameAnswers) (entry : StackFrame × String) : Except Unit Resolving :=
  match rows.find? fun row => row.debugID = entry.2 with
  | none => .ok r
  | some row =>
    match answers.lookupPosition with
    | .error e => .error e
    | .ok (some cached) =>
      .ok { r with identityFrames := r.identityFrames ++ [cached.resolved entry.1] }
    | .ok none =>
      let fetched := if answers.fetches then fetchMap row.objectKey else none
      match r.loadMap reader row fetched with
      | (none, r) => .ok r
      | (some mapContent, r) =>
        match reader.resolveFrame { entry.1 with column := entry.1.column - 1 } mapContent with
        | some position =>
          if answers.stores then
            .ok { r with
              sawValidMap := true
              identityFrames := r.identityFrames ++ [position.resolved entry.1] }
          else .error ()
        | none => .ok { r with sawValidMap := r.sawValidMap || reader.isParseableMap mapContent }

/-- The loop; `answers` are those of the frames that are left. -/
def Resolving.frames (rows : List SourceMapFile) (fetchMap : String → Option String) :
    Resolving → List FrameAnswers → List (StackFrame × String) → Except Unit Resolving
  | r, _, [] => .ok r
  | r, answers, entry :: rest =>
    match r.frame reader rows fetchMap (answers.headD ⟨.error (), false, false⟩) entry with
    | .error e => .error e
    | .ok r => Resolving.frames rows fetchMap r answers.tail rest

/-- `rows` is what `getMapRows` read, and nothing when it failed. -/
def resolveEventStack (e : Event) (rows : Option (List SourceMapFile))
    (fetchMap : String → Option String) (answers : List FrameAnswers) : StackResolution :=
  if parseImages e.images = [] ∨ e.matched = [] then .noDebugIDs
  else
    match rows with
    | none => .resolutionFailed
    | some [] => .mapNotFound
    | some (row :: rows) =>
      match Resolving.frames reader (row :: rows) fetchMap {} answers e.matched with
      | .error _ => .resolutionFailed
      | .ok r =>
        if r.identityFrames.length = e.matched.length then .resolved r.identityFrames
        else if r.identityFrames ≠ [] then .partlyResolved r.identityFrames
        else if r.fetchedAny ∧ ¬r.sawValidMap then .invalidMap
        else .resolutionFailed

end Resolve

inductive ResolutionStatus where
  | resolved | noMap | failed | pending
  deriving DecidableEq

def resolverVersion : Nat := 2

structure Envelope where
  version : Nat
  frames : List ResolvedFrame
  deriving DecidableEq

def buildEnvelope (frames : List ResolvedFrame) : Envelope where
  version := resolverVersion
  frames := frames.map fun frame =>
    { frame with
      originalFile := frame.originalFile.map fun c => if c = '\\' then '/' else c
      originalFunction := if frame.originalFunction = "" then "<anonymous>" else frame.originalFunction }

/-- A row of `error_event_resolutions`. -/
structure EventResolution where
  projectID : UUID
  eventID : UUID
  status : ResolutionStatus
  envelope : Option Envelope
  resolverVersion : Nat
  resolvedAt : Timestamp
  deriving DecidableEq

def EventResolution.key (r : EventResolution) : UUID × UUID := (r.projectID, r.eventID)

/-- A settled row that a write of this status and version may not change. -/
def EventResolution.Settled (r : EventResolution) (status : ResolutionStatus) (version : Nat) : Prop :=
  (r.status = .resolved ∧ version ≤ r.resolverVersion) ∨
    (r.status = .noMap ∧ (status = .pending ∨ status = .failed))
  deriving Decidable

/-- The update of the conflicting row: `resolved_at` is the clock of its status. -/
def EventResolution.overwrite (excluded r : EventResolution) : EventResolution :=
  if r.Settled excluded.status excluded.resolverVersion then r
  else
    { r with
      status := excluded.status
      envelope := excluded.envelope
      resolverVersion := excluded.resolverVersion
      resolvedAt := if r.status = excluded.status then r.resolvedAt else excluded.resolvedAt }

theorem EventResolution.overwrite_key (excluded r : EventResolution) :
    (excluded.overwrite r).key = r.key := by
  unfold EventResolution.overwrite
  split <;> rfl

abbrev ResolutionTable := Table EventResolution.key

def recordResolution (resolutions : ResolutionTable) (projectID eventID : UUID)
    (status : ResolutionStatus) (envelope : Option Envelope) (now : Timestamp) : ResolutionTable :=
  let row : EventResolution := ⟨projectID, eventID, status, envelope, resolverVersion, now⟩
  resolutions.upsert row row.overwrite row.overwrite_key

end Opslane.Resolve
