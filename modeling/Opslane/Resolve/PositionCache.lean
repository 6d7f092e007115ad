import Opslane.Resolve.StoreRows

/-!
# The position cache

`resolveEventStack` with the table `sourcemap_position_cache` of
`packages/worker/src/resolve/position-cache.ts`. A position that a map gave is stored under the
project, the debug id and the digest of the map, the version of the resolver and the place in
the bundle, and a later stack with the same key takes it without reading the map. The rows of
`sourcemap_files` and the objects stay as they are; every resolution leaves rows in the cache.
The map of a row is named by its object key, and only because `UploadSourceMap` puts the digest
into that key is the content that a resolution has loaded under it the content of the row.
-/

namespace Opslane.Resolve

/-- What `originalPositionFor` of `@jridgewell/trace-mapping` answers. -/
structure OriginalPosition where
  source : Option String
  line : Option Nat
  name : Option String
  deriving DecidableEq

/-- The library on the text of a map; it may throw. -/
structure TraceMapping where
  parses : String → Bool
  originalPositionFor : String → (line column : Nat) → Option OriginalPosition

/-- `resolveFrame`: of the frame it reads the line and the column only. -/
def TraceMapping.resolveFrame (mapping : TraceMapping) (frame : StackFrame)
    (sourceMapContent : String) : Option CachedPosition := do
  let pos ← mapping.originalPositionFor sourceMapContent frame.line frame.column
  let source ← pos.source.filter (· ≠ "")
  let line ← pos.line
  some ⟨source, pos.name.getD "", line⟩

def TraceMapping.reader (mapping : TraceMapping) (contentSHA256 : String → Option String) :
    MapReader where
  contentSHA256 := contentSHA256
  resolveFrame := mapping.resolveFrame
  isParseableMap := mapping.parses

/-- A row as `UploadSourceMap` writes it: the digest is hexadecimal and ends the object key. -/
structure SourceMapFile.Uploaded (f : SourceMapFile) : Prop where
  digest : f.contentSHA256.toList.all isLowerHex
  objectKey : f.objectKey =
    "sourcemaps/" ++ toString f.projectID ++ "/" ++ f.debugID ++ "/" ++ f.contentSHA256

theorem append_slash_inj {before before' digest digest' : List Char} (plain : '/' ∉ digest)
    (plain' : '/' ∉ digest') (same : before ++ '/' :: digest = before' ++ '/' :: digest') :
    digest = digest' := by
  rcases List.append_eq_append_iff.mp same with ⟨middle, -, rest⟩ | ⟨middle, -, rest⟩
  · cases middle with
    | nil => exact (List.cons.inj rest).2
    | cons c middle =>
      have inside : '/' ∈ digest := by
        rw [(List.cons.inj rest).2]
        simp
      exact absurd inside plain
  · cases middle with
    | nil => exact (List.cons.inj rest).2.symm
    | cons c middle =>
      have inside : '/' ∈ digest' := by
        rw [(List.cons.inj rest).2]
        simp
      exact absurd inside plain'

variable {f f' : SourceMapFile}

theorem SourceMapFile.Uploaded.digest_of_objectKey (uploaded : f.Uploaded) (uploaded' : f'.Uploaded)
    (same : f.objectKey = f'.objectKey) :
    f.contentSHA256 = f'.contentSHA256 := by
  have plain {f : SourceMapFile} (uploaded : f.Uploaded) : '/' ∉ f.contentSHA256.toList :=
    fun member => absurd (List.all_eq_true.mp uploaded.digest _ member) (by decide)
  have layout {f : SourceMapFile} (uploaded : f.Uploaded) : f.objectKey.toList =
      ("sourcemaps/" ++ toString f.projectID ++ "/" ++ f.debugID).toList ++
        '/' :: f.contentSHA256.toList := by
    rw [uploaded.objectKey]
    simp [String.toList_append]
  have texts := congrArg String.toList same
  rw [layout uploaded, layout uploaded'] at texts
  exact String.toList_inj.mp (append_slash_inj (plain uploaded) (plain uploaded') texts)

/-- The table `sourcemap_files`. -/
structure Catalog where
  files : Table SourceMapFile.key
  uploaded : ∀ f ∈ files.rows, f.Uploaded

/-- `getSourceMapRows` -/
def Catalog.sourceMapRows (catalog : Catalog) (e : Event) : List SourceMapFile :=
  catalog.files.select fun f => f.projectID = e.projectID ∧ f.debugID ∈ e.debugIDs

structure PositionKey where
  projectID : UUID
  debugID : String
  mapContentSHA : String
  line : Nat
  column : Nat
  deriving DecidableEq

/-- A row of `sourcemap_position_cache`. -/
structure PositionRow where
  key : PositionKey
  resolverVersion : Nat
  position : CachedPosition
  deriving DecidableEq

def PositionRow.place (r : PositionRow) : PositionKey × Nat := (r.key, r.resolverVersion)

abbrev PositionCache := Table PositionRow.place

/-- The largest value of an INTEGER column. -/
def maxInteger : Nat := 2 ^ 31 - 1

def PositionKey.Fits (key : PositionKey) : Prop := key.line ≤ maxInteger ∧ key.column ≤ maxInteger

instance (key : PositionKey) : Decidable key.Fits := inferInstanceAs (Decidable (_ ∧ _))

/-- A TEXT column holds every character but NUL. -/
def CachedPosition.Fits (position : CachedPosition) : Prop :=
  '\x00' ∉ position.originalFile.toList ∧ '\x00' ∉ position.originalFunction.toList ∧
    position.originalLine ≤ maxInteger

instance (position : CachedPosition) : Decidable position.Fits :=
  inferInstanceAs (Decidable (_ ∧ _ ∧ _))

/-- The statement fails when a parameter does not fit its column. -/
def lookupPosition (cache : PositionCache) (key : PositionKey) : Except Unit (Option CachedPosition) :=
  if key.Fits then .ok ((cache.find? (key, resolverVersion)).map PositionRow.position)
  else .error ()

def storePosition (cache : PositionCache) (key : PositionKey) (value : CachedPosition) :
    Option PositionCache :=
  if key.Fits ∧ value.Fits then some (cache.insertIgnore ⟨key, resolverVersion, value⟩) else none

def SourceMapFile.positionKey (row : SourceMapFile) (projectID : UUID) (entry : StackFrame × String) :
    PositionKey where
  projectID := projectID
  debugID := entry.2
  mapContentSHA := row.contentSHA256
  line := entry.1.line
  column := entry.1.column

section Resolve

variable (reader : MapReader) (fetchMap : String → Option String)

/-- One turn of the loop. What an earlier turn stored stays when a later one throws. -/
def Resolving.cachedFrame (r : Resolving) (cache : PositionCache) (rows : List SourceMapFile)
    (projectID : UUID) (entry : StackFrame × String) : Except Unit Resolving × PositionCache :=
  match rows.find? fun row => row.debugID = entry.2 with
  | none => (.ok r, cache)
  | some row =>
    let positionKey := row.positionKey projectID entry
    match lookupPosition cache positionKey with
    | .error e => (.error e, cache)
    | .ok (some cached) =>
      (.ok { r with identityFrames := r.identityFrames ++ [cached.resolved entry.1] }, cache)
    | .ok none =>
      match r.loadMap reader row (fetchMap row.objectKey) with
      | (none, r) => (.ok r, cache)
      | (some mapContent, r) =>
        match reader.resolveFrame { entry.1 with column := entry.1.column - 1 } mapContent with
        | some position =>
          match storePosition cache positionKey position with
          | some cache =>
            (.ok { r with
              sawValidMap := true
              identityFrames := r.identityFrames ++ [position.resolved entry.1] }, cache)
          | none => (.error (), cache)
        | none => (.ok { r with sawValidMap := r.sawValidMap || reader.isParseableMap mapContent }, cache)

def Resolving.cachedFrames (rows : List SourceMapFile) (projectID : UUID) :
    Resolving → PositionCache → List (StackFrame × String) → Except Unit Resolving × PositionCache
  | r, cache, [] => (.ok r, cache)
  | r, cache, entry :: rest =>
    match r.cachedFrame reader fetchMap cache rows projectID entry with
    | (.error e, cache) => (.error e, cache)
    | (.ok r, cache) => Resolving.cachedFrames rows projectID r cache rest

/-- `resolveEventStack`, with the cache it leaves. -/
def resolveCached (catalog : Catalog) (cache : PositionCache) (e : Event) :
    StackResolution × PositionCache :=
  if parseImages e.images = [] ∨ e.matched = [] then (.noDebugIDs, cache)
  else
    match catalog.sourceMapRows e with
    | [] => (.mapNotFound, cache)
    | row :: rows =>
      match Resolving.cachedFrames reader fetchMap (row :: rows) e.projectID {} cache e.matched with
      | (.error _, cache) => (.resolutionFailed, cache)
      | (.ok r, cache) =>
        if r.identityFrames.length = e.matched.length then (.resolved r.identityFrames, cache)
        else if r.identityFrames ≠ [] then (.partlyResolved r.identityFrames, cache)
        else if r.fetchedAny ∧ ¬r.sawValidMap then (.invalidMap, cache)
        else (.resolutionFailed, cache)

/-- One event after another, each with the cache the one before it left. -/
def resolveEvents (catalog : Catalog) : PositionCache → List Event → List StackResolution × PositionCache
  | cache, [] => ([], cache)
  | cache, e :: rest =>
    let (result, left) := resolveCached reader fetchMap catalog cache e
    let (results, last) := resolveEvents catalog left rest
    (result :: results, last)

end Resolve

/-! ### The cache among the services

`resolveEventStack` of the stack model takes what the services answer; with the cache it takes
the answers that the table gives. -/

section Answers

variable (reader : MapReader) (fetchMap : String → Option String)

end Answers

section Transparent

variable (mapping : TraceMapping) (contentSHA256 : String → Option String)
  (fetchMap : String → Option String)

/-- The content of a row's map: its object, if that has the digest of the row. -/
def SourceMapFile.content (f : SourceMapFile) : Option String :=
  (fetchMap f.objectKey).filter fun text => contentSHA256 text = some f.contentSHA256

/-- Every row of the cache is what the map it is stored under gives. -/
def Faithful (catalog : Catalog) (cache : PositionCache) : Prop :=
  ∀ r ∈ cache.rows, r.position.Fits ∧
    ∀ f ∈ catalog.files.rows, f.projectID = r.key.projectID → f.debugID = r.key.debugID →
      f.contentSHA256 = r.key.mapContentSHA →
        ∃ text, f.content contentSHA256 fetchMap = some text ∧
          mapping.resolveFrame ⟨"", r.key.line, r.key.column - 1⟩ text = some r.position

/-- Every map a run of the loop has loaded is the content of its row. -/
def Resolving.Loaded (catalog : Catalog) (r : Resolving) : Prop :=
  ∀ f ∈ catalog.files.rows, ∀ content, r.mapCache.lookup f.objectKey = some content →
    content = f.content contentSHA256 fetchMap

variable {mapping contentSHA256 fetchMap} {catalog : Catalog}

theorem faithful_empty : Faithful mapping contentSHA256 fetchMap catalog .empty := nofun

theorem Resolving.loaded_start : Resolving.Loaded contentSHA256 fetchMap catalog {} := nofun

theorem SourceMapFile.content_of_objectKey (present : f ∈ catalog.files.rows)
    (present' : f' ∈ catalog.files.rows) (same : f.objectKey = f'.objectKey) :
    f.content contentSHA256 fetchMap = f'.content contentSHA256 fetchMap := by
  have digest := (catalog.uploaded f present).digest_of_objectKey (catalog.uploaded f' present') same
  rw [SourceMapFile.content, SourceMapFile.content, same, digest]

variable (mapping) in
theorem Resolving.loadMap_fst {r : Resolving} (loaded : r.Loaded contentSHA256 fetchMap catalog)
    {f : SourceMapFile} (present : f ∈ catalog.files.rows) :
    (r.loadMap (mapping.reader contentSHA256) f (fetchMap f.objectKey)).1 =
      f.content contentSHA256 fetchMap := by
  unfold Resolving.loadMap
  cases found : r.mapCache.lookup f.objectKey with
  | none => rfl
  | some content => exact loaded f present content found

variable (mapping contentSHA256) in
theorem Resolving.loadMap_frames (r : Resolving) (f : SourceMapFile) (fetched : Option String) :
    (r.loadMap (mapping.reader contentSHA256) f fetched).2.identityFrames = r.identityFrames := by
  unfold Resolving.loadMap
  cases r.mapCache.lookup f.objectKey <;> rfl

variable (mapping) in
theorem Resolving.Loaded.loadMap {r : Resolving} (loaded : r.Loaded contentSHA256 fetchMap catalog)
    {f : SourceMapFile} (present : f ∈ catalog.files.rows) :
    (r.loadMap (mapping.reader contentSHA256) f (fetchMap f.objectKey)).2.Loaded
      contentSHA256 fetchMap catalog := by
  unfold Resolving.loadMap
  cases found : r.mapCache.lookup f.objectKey with
  | some content => exact loaded
  | none =>
    intro f' present' content held
    rw [List.lookup_cons] at held
    cases same : f'.objectKey == f.objectKey with
    | false =>
      rw [same] at held
      exact loaded f' present' content held
    | true =>
      rw [same] at held
      rw [← Option.some.inj held]
      exact SourceMapFile.content_of_objectKey present present' (beq_iff_eq.mp same).symm

variable {cache : PositionCache}

theorem Faithful.hit (faithful : Faithful mapping contentSHA256 fetchMap catalog cache)
    (present : f ∈ catalog.files.rows) {entry : StackFrame × String} (debugID : f.debugID = entry.2)
    {cached : CachedPosition}
    (found : lookupPosition cache (f.positionKey f.projectID entry) = .ok (some cached)) :
    cached.Fits ∧ ∃ text, f.content contentSHA256 fetchMap = some text ∧
      mapping.resolveFrame { entry.1 with column := entry.1.column - 1 } text = some cached := by
  unfold lookupPosition at found
  split at found
  · obtain ⟨r, stored, rfl⟩ := Option.map_eq_some_iff.mp (Except.ok.inj found)
    have key := congrArg Prod.fst (Table.key_of_find? stored)
    obtain ⟨fits, given⟩ := faithful r (Table.mem_of_find? stored)
    obtain ⟨text, content, resolved⟩ := given f present (by rw [show r.key = _ from key]; rfl)
      (by rw [show r.key = _ from key]; exact debugID) (by rw [show r.key = _ from key]; rfl)
    refine ⟨fits, text, content, ?_⟩
    rw [show r.key = _ from key] at resolved
    exact resolved
  · cases found

theorem Faithful.store {cache left : PositionCache}
    (faithful : Faithful mapping contentSHA256 fetchMap catalog cache)
    (present : f ∈ catalog.files.rows) {entry : StackFrame × String} (debugID : f.debugID = entry.2)
    {text : String} (content : f.content contentSHA256 fetchMap = some text)
    {position : CachedPosition}
    (resolved : mapping.resolveFrame { entry.1 with column := entry.1.column - 1 } text = some position)
    (stored : storePosition cache (f.positionKey f.projectID entry) position = some left) :
    Faithful mapping contentSHA256 fetchMap catalog left := by
  unfold storePosition at stored
  split at stored
  · rename_i fits
    intro r member
    rw [← Option.some.inj stored] at member
    rcases Table.mem_insertIgnore member with old | rfl
    · exact faithful r old
    · refine ⟨fits.2, fun f' present' project debug digest => ⟨text, ?_, resolved⟩⟩
      have same : f' = f := catalog.files.inj present' present
        (Prod.ext project (debug.trans debugID.symm))
      rw [same]
      exact content
  · cases stored

variable (mapping contentSHA256 fetchMap) in
/-- What a turn concludes about its frame when nothing is cached. -/
def outcome (rows : List SourceMapFile) (projectID : UUID) (entry : StackFrame × String) :
    Except Unit (Option ResolvedFrame) :=
  match rows.find? fun row => row.debugID = entry.2 with
  | none => .ok none
  | some row =>
    if (row.positionKey projectID entry).Fits then
      match (row.content contentSHA256 fetchMap).bind fun text =>
        mapping.resolveFrame { entry.1 with column := entry.1.column - 1 } text with
      | none => .ok none
      | some position => if position.Fits then .ok (some (position.resolved entry.1)) else .error ()
    else .error ()

variable (mapping contentSHA256 fetchMap) in
/-- The variables after a turn that resolves nothing. -/
def Resolving.unresolved (r : Resolving) (rows : List SourceMapFile) (entry : StackFrame × String) :
    Resolving :=
  match rows.find? fun row => row.debugID = entry.2 with
  | none => r
  | some row =>
    let (content, loaded) := r.loadMap (mapping.reader contentSHA256) row (fetchMap row.objectKey)
    { loaded with sawValidMap := loaded.sawValidMap || content.any mapping.parses }

theorem Resolving.unresolved_frames (r : Resolving) (rows : List SourceMapFile)
    (entry : StackFrame × String) :
    (r.unresolved mapping contentSHA256 fetchMap rows entry).identityFrames = r.identityFrames := by
  unfold Resolving.unresolved
  cases rows.find? fun row => row.debugID = entry.2 with
  | none => rfl
  | some row => exact r.loadMap_frames mapping contentSHA256 row (fetchMap row.objectKey)

variable (mapping contentSHA256 fetchMap catalog) in
/-- What a turn did, by its outcome. -/
inductive Turned (r : Resolving) (rows : List SourceMapFile) (entry : StackFrame × String) :
    Except Unit (Option ResolvedFrame) → Except Unit Resolving → Prop where
  | throws : Turned r rows entry (.error ()) (.error ())
  | leaves (loaded : (r.unresolved mapping contentSHA256 fetchMap rows entry).Loaded
      contentSHA256 fetchMap catalog) :
    Turned r rows entry (.ok none) (.ok (r.unresolved mapping contentSHA256 fetchMap rows entry))
  | resolves (frame : ResolvedFrame) (next : Resolving)
      (frames : next.identityFrames = r.identityFrames ++ [frame])
      (loaded : next.Loaded contentSHA256 fetchMap catalog) :
    Turned r rows entry (.ok (some frame)) (.ok next)

theorem cachedFrame_turned {r : Resolving} (loaded : r.Loaded contentSHA256 fetchMap catalog)
    (faithful : Faithful mapping contentSHA256 fetchMap catalog cache) {rows : List SourceMapFile}
    {projectID : UUID} (known : ∀ f ∈ rows, f ∈ catalog.files.rows ∧ f.projectID = projectID)
    (entry : StackFrame × String) :
    Turned mapping contentSHA256 fetchMap catalog r rows entry
        (outcome mapping contentSHA256 fetchMap rows projectID entry)
        (r.cachedFrame (mapping.reader contentSHA256) fetchMap cache rows projectID entry).1 ∧
      Faithful mapping contentSHA256 fetchMap catalog
        (r.cachedFrame (mapping.reader contentSHA256) fetchMap cache rows projectID entry).2 := by
  have leaves : (r.unresolved mapping contentSHA256 fetchMap rows entry).Loaded
      contentSHA256 fetchMap catalog → Turned mapping contentSHA256 fetchMap catalog r rows entry
        (.ok none) (.ok (r.unresolved mapping contentSHA256 fetchMap rows entry)) := .leaves
  unfold Resolving.cachedFrame outcome
  unfold Resolving.unresolved at leaves
  cases chosen : rows.find? fun row => row.debugID = entry.2 with
  | none =>
    rw [chosen] at leaves
    exact ⟨leaves loaded, faithful⟩
  | some row =>
    obtain ⟨present, rfl⟩ := known row (List.mem_of_find?_eq_some chosen)
    have debugID : row.debugID = entry.2 := by simpa using List.find?_some chosen
    have content := r.loadMap_fst mapping loaded present
    have frames := r.loadMap_frames mapping contentSHA256 row (fetchMap row.objectKey)
    have loaded' := loaded.loadMap mapping present
    rw [chosen] at leaves
    dsimp only at leaves ⊢
    cases found : lookupPosition cache (row.positionKey row.projectID entry) with
    | error e =>
      have misfit : ¬(row.positionKey row.projectID entry).Fits := by
        intro fits
        rw [lookupPosition, if_pos fits] at found
        cases found
      rw [if_neg misfit]
      exact ⟨.throws, faithful⟩
    | ok cached =>
      have fits : (row.positionKey row.projectID entry).Fits := by
        by_contra misfit
        rw [lookupPosition, if_neg misfit] at found
        cases found
      rw [if_pos fits]
      cases cached with
      | some cached =>
        obtain ⟨storable, text, given, resolved⟩ := faithful.hit present debugID found
        rw [given, Option.bind_some, resolved]
        dsimp only
        rw [if_pos storable]
        exact ⟨.resolves _ _ rfl loaded, faithful⟩
      | none =>
        generalize r.loadMap (mapping.reader contentSHA256) row (fetchMap row.objectKey) = map
          at content frames loaded' leaves ⊢
        obtain ⟨mapContent, next⟩ := map
        dsimp only at content frames loaded' leaves ⊢
        subst content
        cases given : row.content contentSHA256 fetchMap with
        | none =>
          simp only [given, Option.any_none, Bool.or_false] at leaves
          exact ⟨leaves loaded', faithful⟩
        | some text =>
          simp only [given, Option.any_some] at leaves
          rw [Option.bind_some]
          dsimp only [TraceMapping.reader]
          cases resolved : mapping.resolveFrame { entry.1 with column := entry.1.column - 1 } text with
          | none => exact ⟨leaves loaded', faithful⟩
          | some position =>
            dsimp only
            by_cases storable : position.Fits
            · have left : storePosition cache (row.positionKey row.projectID entry) position = some _ :=
                if_pos ⟨fits, storable⟩
              rw [left, if_pos storable]
              exact ⟨.resolves _ _ (by rw [frames]) loaded', faithful.store present debugID given resolved left⟩
            · have left : storePosition cache (row.positionKey row.projectID entry) position = none :=
                if_neg fun both => storable both.2
              rw [left, if_neg storable]
              exact ⟨.throws, faithful⟩

/-- Two runs of the loop at the same frame. What they fetched may differ only after both have
resolved a frame, and then the status no longer depends on it. -/
def Resolving.Agrees (r r' : Resolving) : Prop :=
  r.identityFrames = r'.identityFrames ∧ (r.identityFrames = [] → r = r')

/-- Both runs throw, or both go on alike. -/
inductive AgreeOrThrow : Except Unit Resolving → Except Unit Resolving → Prop where
  | throw : AgreeOrThrow (.error ()) (.error ())
  | agree (r r' : Resolving) (agrees : r.Agrees r') : AgreeOrThrow (.ok r) (.ok r')

theorem cachedFrames_agree {rows : List SourceMapFile} {projectID : UUID}
    (known : ∀ f ∈ rows, f ∈ catalog.files.rows ∧ f.projectID = projectID)
    (entries : List (StackFrame × String)) {r r' : Resolving}
    (loaded : r.Loaded contentSHA256 fetchMap catalog)
    (loaded' : r'.Loaded contentSHA256 fetchMap catalog) (agrees : r.Agrees r')
    {cache cache' : PositionCache} (faithful : Faithful mapping contentSHA256 fetchMap catalog cache)
    (faithful' : Faithful mapping contentSHA256 fetchMap catalog cache') :
    AgreeOrThrow
        (r.cachedFrames (mapping.reader contentSHA256) fetchMap rows projectID cache entries).1
        (r'.cachedFrames (mapping.reader contentSHA256) fetchMap rows projectID cache' entries).1 ∧
      Faithful mapping contentSHA256 fetchMap catalog
        (r.cachedFrames (mapping.reader contentSHA256) fetchMap rows projectID cache entries).2 := by
  induction entries generalizing r r' cache cache' with
  | nil => exact ⟨.agree r r' agrees, faithful⟩
  | cons entry rest ih =>
    have turn := cachedFrame_turned loaded faithful known entry
    have turn' := cachedFrame_turned loaded' faithful' known entry
    rw [Resolving.cachedFrames, Resolving.cachedFrames]
    generalize r.cachedFrame (mapping.reader contentSHA256) fetchMap cache rows projectID entry = after
      at turn ⊢
    generalize r'.cachedFrame (mapping.reader contentSHA256) fetchMap cache' rows projectID entry = after'
      at turn' ⊢
    obtain ⟨next, left⟩ := after
    obtain ⟨next', left'⟩ := after'
    obtain ⟨turned, faithful⟩ := turn
    obtain ⟨turned', faithful'⟩ := turn'
    dsimp only at turned turned' faithful faithful'
    generalize outcome mapping contentSHA256 fetchMap rows projectID entry = concluded at turned turned'
    cases turned with
    | throws =>
      cases turned'
      exact ⟨.throw, faithful⟩
    | leaves loaded =>
      cases turned' with
      | leaves loaded' =>
        refine ih loaded loaded' ⟨?_, fun none => ?_⟩ faithful faithful'
        · rw [Resolving.unresolved_frames, Resolving.unresolved_frames, agrees.1]
        · rw [Resolving.unresolved_frames] at none
          rw [agrees.2 none]
    | resolves frame next frames loaded =>
      cases turned' with
      | resolves frame next' frames' loaded' =>
        refine ih loaded loaded' ⟨by rw [frames, frames', agrees.1], fun none => ?_⟩ faithful faithful'
        rw [frames] at none
        exact absurd none (by simp)

theorem sourceMapRows_known (catalog : Catalog) (e : Event) :
    ∀ f ∈ catalog.sourceMapRows e, f ∈ catalog.files.rows ∧ f.projectID = e.projectID := by
  intro f selected
  obtain ⟨present, chosen⟩ := List.mem_filter.mp selected
  exact ⟨present, (of_decide_eq_true chosen).1⟩

theorem resolveCached_faithful {cache cache' : PositionCache}
    (faithful : Faithful mapping contentSHA256 fetchMap catalog cache)
    (faithful' : Faithful mapping contentSHA256 fetchMap catalog cache') (e : Event) :
    (resolveCached (mapping.reader contentSHA256) fetchMap catalog cache e).1 =
        (resolveCached (mapping.reader contentSHA256) fetchMap catalog cache' e).1 ∧
      Faithful mapping contentSHA256 fetchMap catalog
        (resolveCached (mapping.reader contentSHA256) fetchMap catalog cache e).2 := by
  have known := sourceMapRows_known catalog e
  unfold resolveCached
  generalize catalog.sourceMapRows e = rows at known
  by_cases unmatched : parseImages e.images = [] ∨ e.matched = []
  · rw [if_pos unmatched, if_pos unmatched]
    exact ⟨rfl, faithful⟩
  rw [if_neg unmatched, if_neg unmatched]
  cases rows with
  | nil => exact ⟨rfl, faithful⟩
  | cons row rows =>
    have ends := cachedFrames_agree known e.matched Resolving.loaded_start Resolving.loaded_start
      ⟨rfl, fun _ => rfl⟩ faithful faithful'
    dsimp only
    generalize Resolving.cachedFrames (mapping.reader contentSHA256) fetchMap (row :: rows) e.projectID
      {} cache e.matched = after at ends ⊢
    generalize Resolving.cachedFrames (mapping.reader contentSHA256) fetchMap (row :: rows) e.projectID
      {} cache' e.matched = after' at ends ⊢
    obtain ⟨next, left⟩ := after
    obtain ⟨next', left'⟩ := after'
    obtain ⟨agreed, faithful⟩ := ends
    dsimp only at agreed faithful ⊢
    cases agreed with
    | throw => exact ⟨rfl, faithful⟩
    | agree r r' agrees =>
      dsimp only
      by_cases none : r.identityFrames = []
      · obtain rfl := agrees.2 none
        exact ⟨by split_ifs <;> rfl, by split_ifs <;> exact faithful⟩
      · rw [← agrees.1, if_pos none, if_pos none]
        exact ⟨by split_ifs <;> rfl, by split_ifs <;> exact faithful⟩

theorem resolveEvents_fresh (events : List Event)
    (faithful : Faithful mapping contentSHA256 fetchMap catalog cache) :
    (resolveEvents (mapping.reader contentSHA256) fetchMap catalog cache events).1 =
        events.map (fun e =>
          (resolveCached (mapping.reader contentSHA256) fetchMap catalog .empty e).1) ∧
      Faithful mapping contentSHA256 fetchMap catalog
        (resolveEvents (mapping.reader contentSHA256) fetchMap catalog cache events).2 := by
  induction events generalizing cache with
  | nil => exact ⟨rfl, faithful⟩
  | cons e rest ih =>
    obtain ⟨same, left⟩ := resolveCached_faithful faithful faithful_empty e
    obtain ⟨sames, last⟩ := ih left
    exact ⟨congrArg₂ List.cons same sames, last⟩

end Transparent

end Opslane.Resolve
